import DiagramSync.Proofs.Diagram.Replaced
import DiagramSync.Proofs.Diagram.Rewritten

/-!
# The cardinality of what is not linked never shows

A foreign key has a cardinality before any relationship line speaks of it, and which one that is can
be set.  Resolvers do not look at it, linking puts the one of the line in its place, and what is not
linked gives rise to no relationship line.  So two readings of a text that differ in it agree on
everything but the cardinality of the foreign keys that stay unlinked, and the same diagram is
written of both.

* `Reference.withUnlinked` — a reference with another cardinality, unless it is linked
* `carriesOver_withUnlinked` — reading does not see which cardinality it is
* `parse_withUnlinked` — what is read with the one is what is read with the other
* `generate_withUnlinked` — what is written of a model does not depend on it
* **`unlinked_never_shows`** — two readings with different cardinalities and ids
-/

namespace DiagramSync

open Text

/-! ## Another cardinality -/

/-- The reference with that cardinality, unless it is linked. -/
def Reference.withUnlinked (c : Cardinality) (r : Reference) : Reference :=
  if r.isLinked then r else { r with cardinality := c }

/-- The entity with that cardinality on every reference that is not linked. -/
def Entity.withUnlinked (c : Cardinality) (e : Entity) : Entity :=
  e.mapReferences (·.withUnlinked c)

section Reading

variable {c c' : Cardinality}

lemma Reference.isLinked_withUnlinked (r : Reference) :
    (r.withUnlinked c).isLinked = r.isLinked := by
  rw [withUnlinked]
  split_ifs
  · rfl
  · rfl

lemma Reference.withUnlinked_of_isLinked {r : Reference} (h : r.isLinked = true) :
    r.withUnlinked c = r :=
  if_pos h

lemma keepsLooks_withUnlinked : KeepsLooks (·.mapReference (·.withUnlinked c)) where
  name _ := rfl
  isForeign _ := rfl
  isLinked f := by
    rw [Field.isLinked, Field.isLinked, Field.mapReference]
    cases f.reference with
    | none => rfl
    | some r => exact r.isLinked_withUnlinked

/-- Another cardinality of what is not linked is a replacement that reading does not see. -/
lemma carriesOver_withUnlinked (c c' : Cardinality) :
    CarriesOver id (·.mapReference (·.withUnlinked c')) c c' where
  toKeepsLooks := keepsLooks_withUnlinked
  kept id parts := by
    rw [keptField, keptField, Field.mapReference]
    dsimp only
    split_ifs
    · rfl
    · rfl
  link t r f ht := by
    have hlinked : (linkedReference t r f).isLinked = true := bne_iff_ne.mpr ht
    have hkey : (t.image id (·.mapReference (·.withUnlinked c'))).primaryKey?.map (·.id)
        = t.primaryKey?.map (·.id) := by
      rw [Entity.primaryKey?, Entity.primaryKey?, Entity.image, List.find?_map, Option.map_map]
      rfl
    have hreference : linkedReference (t.image id (·.mapReference (·.withUnlinked c'))) r
        (f.mapReference (·.withUnlinked c')) = linkedReference t r f := by
      rw [linkedReference, linkedReference, hkey]
      rfl
    rw [Field.link, Field.link, hreference, Field.mapReference, Option.map_some,
      Reference.withUnlinked_of_isLinked hlinked]
    rfl

/-- An outcome with that cardinality on every reference that is not linked. -/
def ParseOutcome.withUnlinked (c : Cardinality) : ParseOutcome → ParseOutcome
  | .accepted es rs ws => .accepted (es.map (·.withUnlinked c)) rs ws
  | .rejected error ws => .rejected error ws

/-- What is read with another cardinality is what was read, with the other cardinality on what is
not linked. -/
theorem parse_withUnlinked {resolver : Resolver} (hresolver : resolver.IsBuiltIn) {supply : Supply}
    (hfresh : supply.IsFresh) (c c' : Cardinality) (text : String) :
    (parse resolver c' supply text).1 = (parse resolver c supply text).1.withUnlinked c' := by
  have hoverlooks : resolver.Overlooks id (·.mapReference (·.withUnlinked c')) := by
    rcases hresolver with rfl | rfl
    · exact overlooks_byName keepsLooks_withUnlinked
    · exact overlooks_byLabel keepsLooks_withUnlinked
  rw [parse_image (carriesOver_withUnlinked c c') hoverlooks hfresh (fun _ => rfl) text]
  cases (parse resolver c supply text).1 with
  | accepted es rs ws => rfl
  | rejected error ws => rfl

end Reading

/-! ## What is written -/

lemma toTable_withUnlinked (c : Cardinality) (e : Entity) :
    (e.withUnlinked c).toTable = e.toTable.image id (·.withUnlinked c) := by
  simp only [Entity.toTable, Table.image, Entity.withUnlinked, Entity.mapReferences, List.map_map]
  rfl

lemma Reference.target_withUnlinked (c : Cardinality) (r : Reference) :
    (r.withUnlinked c).target = r.target ∧ (r.withUnlinked c).label = r.label := by
  rw [withUnlinked]
  split_ifs <;> exact ⟨rfl, rfl⟩

/-- References to entities that have an id are linked, and keep their cardinality. -/
lemma keepsTargets_withUnlinked (c : Cardinality) {ids : List Id} (h : ∀ id ∈ ids, id ≠ .unresolved) :
    KeepsTargets id (·.withUnlinked c) ids where
  label r := (r.target_withUnlinked c).2
  found _ _ r := by rw [(r.target_withUnlinked c).1, id_eq]
  cardinality r hr := by
    have hlinked : r.isLinked = true := bne_iff_ne.mpr (h _ hr)
    rw [Reference.withUnlinked_of_isLinked hlinked]

/-- What is written of a model does not depend on the cardinality of what is not linked. -/
theorem generate_withUnlinked (c : Cardinality) {es : List Entity}
    (h : ∀ e ∈ es, e.id ≠ .unresolved) : generate (es.map (·.withUnlinked c)) = generate es := by
  refine generate_image (keepsTargets_withUnlinked c fun id hid => ?_) (toTable_withUnlinked c)
  obtain ⟨e, he, rfl⟩ := List.mem_map.mp hid
  exact h e he

/-! ## Two readings -/

section Readings

variable {resolver : Resolver} {supply supply' : Supply}

/-- Whatever ids are given out, the same text is written of what is read. -/
lemma generate_of_supplies (hresolver : resolver.IsBuiltIn) (hfresh : supply.IsFresh)
    (hfresh' : supply'.IsFresh) (c : Cardinality) (text : String) :
    generate (parse resolver c supply' text).1.entities
      = generate (parse resolver c supply text).1.entities := by
  rcases @sketch_parse resolver c _ _ (fun _ hg => hresolver.ignoresIds hg) hresolver.picksForeign
    hfresh hfresh' text with ⟨error, ws, h, h'⟩ | ⟨es, es', rs, ws, h, h', hsketch⟩
  · rw [h, h']
  · rw [h, h']
    exact generate_eq_of_sketch (legible_of_builtIn hresolver hfresh h)
      (legible_of_builtIn hresolver hfresh' h') hsketch

/-- The ids that are read are distinct, and none is the id of none. -/
lemma ids_of_builtIn (hresolver : resolver.IsBuiltIn) (hfresh : supply.IsFresh) (c : Cardinality)
    (text : String) : (modelIds (parse resolver c supply text).1.entities).Nodup ∧
      ∀ id ∈ modelIds (parse resolver c supply text).1.entities, id ≠ .unresolved := by
  cases h : parse resolver c supply text with
  | mk outcome later =>
    cases outcome with
    | rejected error ws => exact ⟨List.nodup_nil, fun id hid => absurd hid List.not_mem_nil⟩
    | accepted es rs ws =>
      obtain ⟨-, hids, hgiven⟩ := isRead_parse hresolver.picksForeign hfresh h
      exact ⟨hids, fun id hid => (hgiven id hid).ne_unresolved hfresh⟩

/-- **The cardinality of what is not linked never shows.**  Let a text be read twice by a resolver
that is built in, with any two cardinalities for foreign keys that are not linked and with any ids.
Then it is accepted both times, or rejected for the same reason; the same relationships are read and
the same warnings given; the models are the same but for ids and for the cardinality of the
references that are not linked; and the same text is written of them. -/
theorem unlinked_never_shows (hresolver : resolver.IsBuiltIn) (hfresh : supply.IsFresh)
    (hfresh' : supply'.IsFresh) (c c' : Cardinality) (text : String) :
    let first := (parse resolver c supply text).1
    let second := (parse resolver c' supply' text).1
    second.isAccepted = first.isAccepted ∧ second.error? = first.error? ∧
      second.relationships = first.relationships ∧ second.warnings = first.warnings ∧
      (∃ g : Id → Id, Set.InjOn g {id | id ∈ modelIds first.entities} ∧
        (∀ id, g id = .unresolved ↔ id = .unresolved) ∧
        second.entities = (first.entities.map (·.withUnlinked c')).map (·.renameIds g g)) ∧
      generate second.entities = generate first.entities := by
  intro first second
  obtain ⟨g, hleads, hg⟩ := Supply.exists_leads hfresh hfresh'
  have hwith : (parse resolver c' supply text).1 = first.withUnlinked c' :=
    parse_withUnlinked hresolver hfresh c c' text
  have hsecond : second = (first.withUnlinked c').renameIds g := by
    rw [← hwith]
    exact parse_renameIds (hresolver.ignoresIds hg) hg hfresh hleads text
  have hsame : ∀ o : ParseOutcome,
      let o' := (o.withUnlinked c').renameIds g
      o'.isAccepted = o.isAccepted ∧ o'.error? = o.error? ∧ o'.relationships = o.relationships ∧
        o'.warnings = o.warnings ∧
        o'.entities = (o.entities.map (·.withUnlinked c')).map (·.renameIds g g) ∧
        (o.withUnlinked c').entities = o.entities.map (·.withUnlinked c') := by
    intro o
    cases o <;> exact ⟨rfl, rfl, rfl, rfl, rfl, rfl⟩
  obtain ⟨haccepted, herror, hrelationships, hwarnings, hentities, hunlinked⟩ := hsame first
  rw [← hsecond] at haccepted herror hrelationships hwarnings hentities
  have hinjective : Set.InjOn g {id | id ∈ modelIds first.entities} := by
    have hmap : modelIds second.entities = (modelIds first.entities).map g := by
      have hfirst : modelIds (first.entities.map (·.withUnlinked c')) = modelIds first.entities :=
        (modelIds_image (fun _ => rfl) _).trans (List.map_id _)
      rw [hentities, ← hfirst]
      exact modelIds_image (fun _ => rfl) _
    have hids := (ids_of_builtIn hresolver hfresh' c' text).1
    exact fun a ha b hb => List.inj_on_of_nodup_map (hmap ▸ hids) ha hb
  have hgenerate : generate second.entities = generate first.entities := by
    have hresolved := (ids_of_builtIn hresolver hfresh c text).2
    rw [generate_of_supplies hresolver hfresh hfresh' c' text, hwith, hunlinked]
    exact generate_withUnlinked c' fun e he => hresolved _ (entityId_mem_modelIds he)
  exact ⟨haccepted, herror, hrelationships, hwarnings, ⟨g, hinjective, hg, hentities⟩, hgenerate⟩

/-- Orders with a buyer and a seller, of whom a line speaks only of the buyer. -/
def halfLinked : String :=
  "erDiagram\nOrders \x7b\n  int buyer_id FK\n  int seller FK\n\x7d\n" ++
    "Users \x7b\n  int id PK\n\x7d\nOrders \x7do--o\x7b Users : buyer_id"

/-- The seller has the one cardinality in the first reading and the other one in the second, and in
the text that is written of both no relationship line speaks of that. -/
theorem unlinked_never_shows_halfLinked :
    let first := (parse .byName .manyToOne .strokes halfLinked).1
    let second := (parse .byName .oneToOne { Supply.strokes with drawn := 3 } halfLinked).1
    ((first.entities.flatMap (·.fields)).filterMap (·.reference)).map (·.cardinality)
        = [.manyToMany, .manyToOne] ∧
      ((second.entities.flatMap (·.fields)).filterMap (·.reference)).map (·.cardinality)
        = [.manyToMany, .oneToOne] ∧
      generate second.entities = generate first.entities := by
  have hlater : ({ Supply.strokes with drawn := 3 } : Supply).IsFresh :=
    Supply.isFresh_strokes.of_extends ⟨rfl, Nat.zero_le 3⟩
  refine ⟨by decide +kernel, by decide +kernel, ?_⟩
  exact (unlinked_never_shows (Or.inl rfl) Supply.isFresh_strokes hlater .manyToOne .oneToOne
    halfLinked).2.2.2.2.2

end Readings

end DiagramSync
