import DiagramSync.Diagram.Scan
import DiagramSync.Proofs.Model.Ids
import DiagramSync.Proofs.Model.Named
import Mathlib.Tactic.Common

/-!
# What is scanned of any text

Whatever a text says, the entities that are scanned of it have names and are told apart by them, and
so are the fields of each of them; foreign keys point nowhere yet; and the ids are all drawn from
the supply, each of them once.  Every statement keeps this.

* `Scan.IsSound` — the invariant of a scan
* `IsSound.declare`, `IsSound.addField` — the two ways in which a scan grows
* `IsSound.step` — what a statement keeps
* **`isSound_scan`** — what holds of every text
-/

namespace DiagramSync

open Text

/-! ## The invariant -/

namespace Scan

/-- A name that is new is declared under the next id. -/
lemma declare_new {s : Scan} {name : String} (h : s.entity? name = none) :
    s.declare name = { s with
      entities := s.entities ++ [{ id := s.supply.draw.1, name }], supply := s.supply.draw.2 } := by
  rw [declare, h]
  rfl

/-- A name that was declared before changes nothing. -/
lemma declare_known {s : Scan} {name : String} {e : Entity} (h : s.entity? name = some e) :
    s.declare name = s := by
  rw [declare, h]
  rfl

/-- What holds of a scan that began with the given supply. -/
structure IsSound (unlinked : Cardinality) (start : Supply) (s : Scan) : Prop where
  /-- Entities and fields are told apart by their names. -/
  named : IsNamed s.entities
  /-- Foreign keys point nowhere, and other fields have no reference. -/
  references : ∀ e ∈ s.entities, ∀ f ∈ e.fields,
    f.reference = if f.isForeign then some { cardinality := unlinked } else none
  /-- The supply is what some draws have left of it. -/
  later : start.Extends s.supply
  /-- No two entities or fields have the same id. -/
  ids : (modelIds s.entities).Nodup
  /-- Every id was drawn. -/
  given : ∀ id ∈ modelIds s.entities, start.Gave s.supply id

namespace IsSound

variable {unlinked : Cardinality} {start : Supply} {s s' : Scan}

/-- Only the entities and the supply matter. -/
lemma congr (h : s.IsSound unlinked start) (hentities : s'.entities = s.entities)
    (hsupply : s'.supply = s.supply) : s'.IsSound unlinked start := by
  obtain ⟨named, references, later, ids, given⟩ := h
  constructor
  · rwa [hentities]
  · rwa [hentities]
  · rwa [hsupply]
  · rwa [hentities]
  · rwa [hentities, hsupply]

/-- Before the first statement nothing has been scanned. -/
lemma initial (unlinked : Cardinality) (supply : Supply) :
    ({ supply } : Scan).IsSound unlinked supply where
  named := ⟨by simp, List.nodup_nil, by simp, by simp⟩
  references := by simp
  later := Supply.Extends.refl supply
  ids := List.nodup_nil
  given := by simp [modelIds]

/-! ## How a scan grows -/

/-- An entity that is declared by a name. -/
lemma declare (h : s.IsSound unlinked start) (hfresh : start.IsFresh) {name : String}
    (hname : name ≠ "") : (s.declare name).IsSound unlinked start := by
  cases hfound : s.entity? name with
  | some e =>
    rw [declare_known hfound]
    exact h
  | none => ?_
  have hnew : name ∉ s.entities.map Entity.name := find?_key_eq_none.mp hfound
  have hmem : ∀ e ∈ s.entities ++ [({ id := s.supply.draw.1, name } : Entity)],
      e ∈ s.entities ∨ e = { id := s.supply.draw.1, name } := by
    intro e he
    rcases List.mem_append.mp he with he | he
    · exact Or.inl he
    · exact Or.inr (List.mem_singleton.mp he)
  have hids : modelIds (s.entities ++ [({ id := s.supply.draw.1, name } : Entity)])
      = modelIds s.entities ++ [s.supply.draw.1] := by
    rw [modelIds_append]
    rfl
  rw [declare_new hfound]
  refine ⟨⟨?_, ?_, ?_, ?_⟩, ?_, h.later.trans s.supply.extends_draw, ?_, ?_⟩
  · intro e he
    rcases hmem e he with he | rfl
    · exact h.named.named e he
    · exact hname
  · rw [List.map_append]
    refine List.nodup_append.mpr ⟨h.named.names, List.nodup_singleton _, ?_⟩
    rintro a ha b hb rfl
    rw [List.mem_singleton.mp hb] at ha
    exact hnew ha
  · intro e he f hf
    rcases hmem e he with he | rfl
    · exact h.named.fieldNamed e he f hf
    · exact absurd hf List.not_mem_nil
  · intro e he
    rcases hmem e he with he | rfl
    · exact h.named.fieldNames e he
    · exact List.nodup_nil
  · intro e he f hf
    rcases hmem e he with he | rfl
    · exact h.references e he f hf
    · exact absurd hf List.not_mem_nil
  · rw [hids]
    refine List.nodup_append.mpr ⟨h.ids, List.nodup_singleton _, ?_⟩
    rintro a ha b hb rfl
    rw [List.mem_singleton.mp hb] at ha
    exact Supply.not_gave_draw hfresh h.later (h.given _ ha)
  · rw [hids]
    intro id hid
    rcases List.mem_append.mp hid with hid | hid
    · exact (h.given id hid).mono s.supply.extends_draw
    · rw [List.mem_singleton.mp hid]
      exact Supply.gave_draw h.later

/-- The entities with a field more on the one of that name. -/
def extend (name : String) (f : Field) (e : Entity) : Entity :=
  if e.name == name then { e with fields := e.fields ++ [f] } else e

lemma name_extend (name : String) (f : Field) (e : Entity) : (extend name f e).name = e.name := by
  rw [extend]
  split_ifs <;> rfl

/-- A field of an extended entity was there before, or is the new one. -/
lemma mem_extend {name : String} {f g : Field} {e : Entity} (h : g ∈ (extend name f e).fields) :
    g ∈ e.fields ∨ e.name = name ∧ g = f := by
  rw [extend] at h
  split_ifs at h with hname
  · rcases List.mem_append.mp h with h | h
    · exact Or.inl h
    · exact Or.inr ⟨beq_iff_eq.mp hname, List.mem_singleton.mp h⟩
  · exact Or.inl h

/-- At most one id comes in, and it does so at one place only. -/
lemma modelIds_extend {es : List Entity} (h : (es.map Entity.name).Nodup) (name : String)
    (f : Field) : modelIds (es.map (extend name f)) = modelIds es ∨
      (modelIds (es.map (extend name f))).Perm (f.id :: modelIds es) := by
  induction es with
  | nil => exact Or.inl rfl
  | cons e es ih =>
    rw [List.map_cons, List.nodup_cons] at h
    rw [List.map_cons, modelIds_cons, modelIds_cons]
    by_cases hname : e.name = name
    · right
      have hrest : es.map (extend name f) = es := by
        refine (List.map_congr_left fun x hx => ?_).trans (List.map_id es)
        rw [extend, if_neg, id]
        intro heq
        exact h.1 (List.mem_map.mpr ⟨x, hx, (beq_iff_eq.mp heq).trans hname.symm⟩)
      have hfields : (extend name f e).allIds = e.allIds ++ [f.id] := by
        rw [extend, if_pos (beq_iff_eq.mpr hname)]
        simp [Entity.allIds]
      rw [hrest, hfields, List.append_assoc, List.singleton_append]
      exact List.perm_middle
    · have hsame : extend name f e = e := by
        rw [extend, if_neg fun heq => hname (beq_iff_eq.mp heq)]
      rw [hsame]
      rcases ih h.2 with heq | hperm
      · exact Or.inl (by rw [heq])
      · exact Or.inr ((List.Perm.append_left e.allIds hperm).trans List.perm_middle)

/-- A field that is added to the entity of that name, if its own name is new there. -/
lemma addField (h : s.IsSound unlinked start) (hfresh : start.IsFresh) {name : String}
    {f : Id → Field} (hid : ∀ id, (f id).id = id) (hname : ∀ id, (f id).name ≠ "")
    (hreference : ∀ id, (f id).reference
      = if (f id).isForeign then some { cardinality := unlinked } else none)
    (hnew : ∀ id, (s.entity? name).bind (·.findFieldNamed? (f id).name) = none) :
    (s.addField name f).IsSound unlinked start := by
  have hentities : (s.addField name f).entities
      = s.entities.map (extend name (f s.supply.draw.1)) := rfl
  have hsupply : (s.addField name f).supply = s.supply.draw.2 := rfl
  have hgiven : ∀ id ∈ modelIds (s.addField name f).entities,
      id = s.supply.draw.1 ∨ id ∈ modelIds s.entities := by
    intro id hmem
    rw [hentities] at hmem
    rcases modelIds_extend h.named.names name (f s.supply.draw.1) with heq | hperm
    · exact Or.inr (heq ▸ hmem)
    · rcases List.mem_cons.mp (hperm.mem_iff.mp hmem) with heq | hmem
      · exact Or.inl (heq.trans (hid _))
      · exact Or.inr hmem
  refine ⟨⟨?_, ?_, ?_, ?_⟩, ?_, hsupply ▸ h.later.trans s.supply.extends_draw, ?_, ?_⟩
  · intro e' he'
    obtain ⟨e, he, rfl⟩ := List.mem_map.mp (hentities ▸ he')
    exact (name_extend name _ e).symm ▸ h.named.named e he
  · rw [hentities, List.map_map]
    have hkeep : Entity.name ∘ extend name (f s.supply.draw.1) = Entity.name :=
      funext fun e => name_extend name _ e
    rw [hkeep]
    exact h.named.names
  · intro e' he' g hg
    obtain ⟨e, he, rfl⟩ := List.mem_map.mp (hentities ▸ he')
    rcases mem_extend hg with hg | ⟨-, rfl⟩
    · exact h.named.fieldNamed e he g hg
    · exact hname _
  · intro e' he'
    obtain ⟨e, he, rfl⟩ := List.mem_map.mp (hentities ▸ he')
    by_cases hsame : e.name = name
    · have hfound : s.entity? name = some e :=
        (find?_key_eq_some h.named.names).mpr ⟨he, hsame⟩
      have hnone := hnew s.supply.draw.1
      rw [hfound, Option.bind_some, findFieldNamed?_eq_none] at hnone
      rw [extend, if_pos (beq_iff_eq.mpr hsame), List.map_append]
      refine List.nodup_append.mpr ⟨h.named.fieldNames e he, List.nodup_singleton _, ?_⟩
      rintro a ha b hb rfl
      rw [List.mem_singleton.mp hb] at ha
      exact hnone ha
    · rw [extend, if_neg fun heq => hsame (beq_iff_eq.mp heq)]
      exact h.named.fieldNames e he
  · intro e' he' g hg
    obtain ⟨e, he, rfl⟩ := List.mem_map.mp (hentities ▸ he')
    rcases mem_extend hg with hg | ⟨-, rfl⟩
    · exact h.references e he g hg
    · exact hreference _
  · rw [hentities]
    rcases modelIds_extend h.named.names name (f s.supply.draw.1) with heq | hperm
    · exact heq ▸ h.ids
    · rw [hperm.nodup_iff, List.nodup_cons, hid]
      exact ⟨fun hmem => Supply.not_gave_draw hfresh h.later (h.given _ hmem), h.ids⟩
  · intro id hmem
    rcases hgiven id hmem with rfl | hmem
    · exact Supply.gave_draw h.later
    · exact (h.given id hmem).mono s.supply.extends_draw

/-! ## Statements -/

/-- What a statement outside a block keeps. -/
lemma stepOutside (h : s.IsSound unlinked start) (hfresh : start.IsFresh) (n : Nat)
    (line : List Char) : (s.stepOutside n line).IsSound unlinked start := by
  rw [Scan.stepOutside]
  cases outsideForm line with
  | opening written closed =>
    dsimp only
    split_ifs with hname
    · exact h
    · exact h.declare hfresh hname
    · exact (h.declare hfresh hname).congr rfl rfl
  | relationship stated => exact h.congr rfl rfl
  | bare written =>
    dsimp only
    split_ifs with hname
    · exact h
    · exact h.declare hfresh hname
  | other => exact h

/-- What a field line keeps. -/
lemma stepField (h : s.IsSound unlinked start) (hfresh : start.IsFresh) (n : Nat)
    (block : OpenBlock) (parts : LineForm.FieldParts) :
    (s.stepField unlinked n block parts).IsSound unlinked start := by
  have hkept : ∀ id, (keptField unlinked id parts).name
      = String.ofList (fieldNameChars parts.name) := fun _ => rfl
  rw [Scan.stepField]
  split_ifs with hname hfound
  · exact h
  · exact h.congr rfl rfl
  · refine h.addField hfresh (fun _ => rfl) (fun id => ?_) (fun _ => rfl) (fun id => ?_)
    · rw [hkept]
      exact hname
    · rw [hkept]
      exact Option.not_isSome_iff_eq_none.mp hfound

/-- What a statement inside a block keeps. -/
lemma stepInside (h : s.IsSound unlinked start) (hfresh : start.IsFresh) (n : Nat)
    (block : OpenBlock) (line : List Char) :
    (s.stepInside unlinked n block line).IsSound unlinked start := by
  rw [Scan.stepInside]
  cases insideForm line with
  | closing => exact h.congr rfl rfl
  | opening =>
    have hclosed : IsSound unlinked start
        { s.warn (.neverClosed block.line block.entity) with current := none } := h.congr rfl rfl
    exact hclosed.stepOutside hfresh n line
  | field parts => exact h.stepField hfresh n block parts
  | other => exact h

/-- What a statement keeps. -/
lemma step (h : s.IsSound unlinked start) (hfresh : start.IsFresh)
    (statement : Nat × List Char) : (s.step unlinked statement).IsSound unlinked start := by
  rw [Scan.step]
  split_ifs
  · exact h.congr rfl rfl
  · cases s.current with
    | some block => exact h.stepInside hfresh statement.1 block statement.2
    | none => exact h.stepOutside hfresh statement.1 statement.2

lemma foldl_step (h : s.IsSound unlinked start) (hfresh : start.IsFresh)
    (sts : List (Nat × List Char)) : (sts.foldl (Scan.step unlinked) s).IsSound unlinked start := by
  induction sts generalizing s with
  | nil => exact h
  | cons st sts ih => exact ih (h.step hfresh st)

lemma finish (h : s.IsSound unlinked start) : s.finish.IsSound unlinked start := by
  rw [Scan.finish]
  split
  · exact h.congr rfl rfl
  · exact h

end IsSound

/-- **Whatever the text, what is scanned of it is told apart by names and by new ids.** -/
theorem isSound_scan (unlinked : Cardinality) {supply : Supply} (hfresh : supply.IsFresh)
    (text : List Char) : (scan unlinked supply text).IsSound unlinked supply :=
  ((IsSound.initial unlinked supply).foldl_step hfresh (statements text)).finish

end Scan

end DiagramSync
