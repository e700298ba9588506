import DiagramSync.Proofs.Diagram.Accepted

/-!
# Reading a text twice, side by side

Scanning a text and resolving its lines looks at the names of entities and fields, at which fields
are foreign keys, and at which of those are linked.  So let a text be read a second time with other
ids, and let whatever is made of a field line be replaced by something that looks the same.  Then
the same is read the second time, with everything replaced.

* `Supply.Leads` — one supply gives the images of what another one gives
* `Entity.image`, `ParseOutcome.image` — what is read, with everything in it replaced
* `Scan.HasImage` — a scan with everything in it replaced; every statement keeps this
* `CarriesOver` — what is asked of a replacement of fields
* `resolveLines_image` — the lines are resolved in the same way
* **`parse_image`** — what is read is the same but for the replacement
-/

namespace DiagramSync

open Text

variable {g : Id → Id} {φ : Field → Field}

/-- The second supply gives the images of the ids that the first one gives. -/
def Supply.Leads (g : Id → Id) (s s' : Supply) : Prop :=
  ∀ n, g (s.mint (s.drawn + n)) = s'.mint (s'.drawn + n)

lemma Supply.Leads.draw {s s' : Supply} (h : s.Leads g s') :
    g s.draw.1 = s'.draw.1 ∧ s.draw.2.Leads g s'.draw.2 := by
  refine ⟨h 0, fun n => ?_⟩
  have hnext := h (n + 1)
  rw [← Nat.add_assoc, ← Nat.add_assoc, Nat.add_right_comm, Nat.add_right_comm s'.drawn] at hnext
  exact hnext

/-- The entity under another id, with its fields replaced. -/
def Entity.image (g : Id → Id) (φ : Field → Field) (e : Entity) : Entity :=
  { e with id := g e.id, fields := e.fields.map φ }

/-- An outcome with everything in it replaced. -/
def ParseOutcome.image (g : Id → Id) (φ : Field → Field) : ParseOutcome → ParseOutcome
  | .accepted es rs ws => .accepted (es.map (·.image g φ)) rs ws
  | .rejected error ws => .rejected error ws

lemma entityNamed?_image (es : List Entity) (name : String) :
    entityNamed? (es.map (·.image g φ)) name = (entityNamed? es name).map (·.image g φ) := by
  rw [entityNamed?, entityNamed?, List.find?_map]
  rfl

/-- The ids of a model are replaced along with it. -/
lemma modelIds_image (hid : ∀ f, (φ f).id = g f.id) (es : List Entity) :
    modelIds (es.map (·.image g φ)) = (modelIds es).map g := by
  have hids : ∀ e : Entity, (e.image g φ).allIds = e.allIds.map g := by
    intro e
    rw [Entity.allIds, Entity.allIds, Entity.image, List.map_cons, List.map_map, List.map_map]
    exact congrArg (g e.id :: ·) (List.map_congr_left fun f _ => hid f)
  rw [modelIds, modelIds, List.flatMap_map, List.map_flatMap]
  exact List.flatMap_congr fun e _ => hids e

/-! ## Scans -/

namespace Scan

/-- The second scan is the first one with everything replaced. -/
structure HasImage (g : Id → Id) (φ : Field → Field) (s s' : Scan) : Prop where
  /-- The header has been seen in both, or in neither. -/
  headerSeen : s'.headerSeen = s.headerSeen
  /-- The entities are replaced. -/
  entities : s'.entities = s.entities.map (·.image g φ)
  /-- The relationships are the same. -/
  relationships : s'.relationships = s.relationships
  /-- The warnings are the same. -/
  warnings : s'.warnings = s.warnings
  /-- The same block is open. -/
  current : s'.current = s.current
  /-- The ids to come correspond. -/
  supply : s.supply.Leads g s'.supply

namespace HasImage

variable {s s' : Scan}

lemma entity? (h : HasImage g φ s s') (name : String) :
    s'.entity? name = (s.entity? name).map (·.image g φ) := by
  rw [Scan.entity?, Scan.entity?, h.entities, List.find?_map]
  rfl

lemma declare (h : HasImage g φ s s') (name : String) :
    HasImage g φ (s.declare name) (s'.declare name) := by
  have hentity := h.entity? name
  cases hfound : s.entity? name with
  | some e =>
    rw [hfound, Option.map_some] at hentity
    rw [declare_known hfound, declare_known hentity]
    exact h
  | none =>
    rw [hfound, Option.map_none] at hentity
    obtain ⟨hid, hsupply⟩ := h.supply.draw
    rw [declare_new hfound, declare_new hentity]
    refine ⟨h.headerSeen, ?_, h.relationships, h.warnings, h.current, hsupply⟩
    rw [h.entities, List.map_append, ← hid]
    rfl

lemma addField (h : HasImage g φ s s') (name : String) {f f' : Id → Field}
    (hf : ∀ id, φ (f id) = f' (g id)) :
    HasImage g φ (s.addField name f) (s'.addField name f') := by
  obtain ⟨hid, hsupply⟩ := h.supply.draw
  refine ⟨h.headerSeen, ?_, h.relationships, h.warnings, h.current, hsupply⟩
  have hadd : ∀ (t : Scan) (f : Id → Field), (t.addField name f).entities
      = t.entities.map fun e =>
        if e.name == name then { e with fields := e.fields ++ [f t.supply.draw.1] } else e :=
    fun _ _ => rfl
  rw [hadd, hadd, h.entities, ← hid, List.map_map, List.map_map]
  refine List.map_congr_left fun e _ => ?_
  have hname : (e.image g φ).name = e.name := rfl
  simp only [Function.comp_apply, hname]
  split_ifs
  · simp only [Entity.image, List.map_append, List.map_cons, List.map_nil, hf]
  · rfl

lemma stepOutside (h : HasImage g φ s s') (n : Nat) (line : List Char) :
    HasImage g φ (s.stepOutside n line) (s'.stepOutside n line) := by
  rw [Scan.stepOutside, Scan.stepOutside]
  cases outsideForm line with
  | opening written closed =>
    dsimp only
    split_ifs
    · exact h
    · exact h.declare _
    · have hdeclare := h.declare (keptName written)
      exact ⟨hdeclare.headerSeen, hdeclare.entities, hdeclare.relationships, hdeclare.warnings, rfl,
        hdeclare.supply⟩
  | relationship stated =>
    refine ⟨h.headerSeen, h.entities, ?_, h.warnings, h.current, h.supply⟩
    exact congrArg (· ++ [(n, stated.keep n)]) h.relationships
  | bare written =>
    dsimp only
    split_ifs
    · exact h
    · exact h.declare _
  | other => exact h

lemma warn (h : HasImage g φ s s') (w : Warning) : HasImage g φ (s.warn w) (s'.warn w) :=
  ⟨h.headerSeen, h.entities, h.relationships, congrArg (· ++ [w]) h.warnings, h.current, h.supply⟩

lemma finish (h : HasImage g φ s s') : HasImage g φ s.finish s'.finish := by
  rw [Scan.finish, Scan.finish, h.current]
  cases s.current with
  | none => exact h
  | some block => exact h.warn _

end HasImage

end Scan

/-! ## Replacements of fields -/

/-- What is asked of a replacement of fields: they look the same, what a field line makes is
replaced by what the line makes the second time, and so is what linking makes. -/
structure CarriesOver (g : Id → Id) (φ : Field → Field) (unlinked unlinked' : Cardinality) : Prop
    extends KeepsLooks φ where
  /-- A field line makes the image of what it made. -/
  kept : ∀ id parts, φ (keptField unlinked id parts) = keptField unlinked' (g id) parts
  /-- Linking makes the image of what it made. -/
  link : ∀ (t : Entity) (r : Relationship) (f : Field), t.id ≠ .unresolved →
    φ (f.link t r) = (φ f).link (t.image g φ) r

/-- The resolver picks the same field after the replacement. -/
def Resolver.Overlooks (g : Id → Id) (φ : Field → Field) (resolver : Resolver) : Prop :=
  ∀ s t r, resolver.select (s.image g φ) (t.image g φ) r = resolver.select s t r

/-- Picking by name does not depend on anything but looks. -/
lemma overlooks_byName (hφ : KeepsLooks φ) : Resolver.byName.Overlooks g φ := fun _ _ _ =>
  congrArg Except.ok (selectByName_congr hφ rfl rfl)

/-- Picking by label does not depend on anything but looks. -/
lemma overlooks_byLabel (hφ : KeepsLooks φ) : Resolver.byLabel.Overlooks g φ := by
  intro s t r
  have hlabel : selectByLabel (s.image g φ) r.label = selectByLabel s r.label :=
    selectByLabel_congr hφ rfl r.label
  have hname : selectByName (s.image g φ) (t.image g φ) = selectByName s t :=
    selectByName_congr hφ rfl rfl
  exact congrArg Except.ok (congrArg₂ Option.or hlabel hname)

section CarriesOver

variable {unlinked unlinked' : Cardinality} (hφ : CarriesOver g φ unlinked unlinked')
include hφ

namespace Scan.HasImage

variable {s s' : Scan}

lemma stepField (h : HasImage g φ s s') (n : Nat) (block : OpenBlock)
    (parts : LineForm.FieldParts) :
    HasImage g φ (s.stepField unlinked n block parts) (s'.stepField unlinked' n block parts) := by
  have hname : ∀ name, ((fun f : Field => foldName f.name == foldName name) ∘ φ)
      = fun f : Field => foldName f.name == foldName name := by
    intro name
    funext f
    rw [Function.comp_apply, hφ.name]
  have hknown : ∀ name, ((s'.entity? block.entity).bind (·.findFieldNamed? name)).isSome
      = ((s.entity? block.entity).bind (·.findFieldNamed? name)).isSome := by
    intro name
    rw [h.entity? block.entity]
    cases s.entity? block.entity with
    | none => rfl
    | some e =>
      rw [Option.map_some, Option.bind_some, Option.bind_some, Entity.findFieldNamed?,
        Entity.findFieldNamed?, Entity.image, List.find?_map, Option.isSome_map, hname]
  rw [Scan.stepField, Scan.stepField, hknown]
  split_ifs
  · exact h
  · exact h.warn _
  · exact h.addField _ fun id => hφ.kept id parts

lemma step (h : HasImage g φ s s') (statement : Nat × List Char) :
    HasImage g φ (s.step unlinked statement) (s'.step unlinked' statement) := by
  obtain ⟨n, line⟩ := statement
  rw [Scan.step, Scan.step, h.headerSeen, h.current]
  split_ifs
  · exact ⟨rfl, h.entities, h.relationships, h.warnings, rfl, h.supply⟩
  · cases s.current with
    | none => exact h.stepOutside n line
    | some block =>
      dsimp only
      rw [Scan.stepInside, Scan.stepInside]
      cases insideForm line with
      | closing => exact ⟨h.headerSeen, h.entities, h.relationships, h.warnings, rfl, h.supply⟩
      | opening =>
        have hwarn := h.warn (.neverClosed block.line block.entity)
        refine stepOutside ?_ n line
        exact ⟨hwarn.headerSeen, hwarn.entities, hwarn.relationships, hwarn.warnings, rfl,
          hwarn.supply⟩
      | field parts => exact h.stepField hφ n block parts
      | other => exact h

end Scan.HasImage

/-- A text is scanned in the same way. -/
lemma hasImage_scan {supply supply' : Supply} (h : supply.Leads g supply') (text : List Char) :
    Scan.HasImage g φ (scan unlinked supply text) (scan unlinked' supply' text) := by
  have hsteps : ∀ (xs : List (Nat × List Char)) {s s' : Scan}, Scan.HasImage g φ s s' →
      Scan.HasImage g φ (xs.foldl (Scan.step unlinked) s) (xs.foldl (Scan.step unlinked') s') := by
    intro xs
    induction xs with
    | nil => exact fun h => h
    | cons x xs ih => exact fun h => ih (h.step hφ x)
  have hstart : Scan.HasImage g φ { supply } { supply := supply' } := ⟨rfl, rfl, rfl, rfl, rfl, h⟩
  exact (hsteps _ hstart).finish

/-! ## Relationship lines -/

variable {resolver : Resolver} (hresolver : resolver.Overlooks g φ)
include hresolver

/-- The source of a line is linked in the same way. -/
lemma resolverLink_image {s t : Entity} (ht : t.id ≠ .unresolved) (r : Relationship) :
    resolver.link (s.image g φ) (t.image g φ) r
      = (resolver.link s t r).map (Option.map fun p => (p.1.image g φ, φ p.2)) := by
  rw [Resolver.link, Resolver.link, hresolver]
  cases resolver.select s t r with
  | error reason => rfl
  | ok picked =>
    cases picked with
    | none => rfl
    | some i =>
      have hfields : (s.image g φ).fields = s.fields.map φ := rfl
      simp only [bind, Except.bind, hfields, List.getElem?_map]
      cases s.fields[i]? with
      | none => rfl
      | some f =>
        simp only [Option.map_some, ← hφ.link t r f ht, ← List.map_set]
        rfl

/-- A line is resolved in the same way. -/
lemma resolveLine_image {es : List Entity} (hes : ∀ e ∈ es, e.id ≠ .unresolved) (n : Nat)
    (r : Relationship) :
    resolveLine resolver (es.map (·.image g φ)) n r
      = (resolveLine resolver es n r).map fun p => (p.1.map (·.image g φ), p.2) := by
  rw [resolveLine, resolveLine, entityNamed?_image, entityNamed?_image]
  cases entityNamed? es r.source with
  | none => rfl
  | some s =>
    cases htarget : entityNamed? es r.target with
    | none => rfl
    | some t =>
      have ht := hes t (List.mem_of_find?_eq_some htarget)
      simp only [Option.map_some, resolverLink_image hφ hresolver ht]
      cases resolver.link s t r with
      | error reason => rfl
      | ok result =>
        cases result with
        | none => rfl
        | some p =>
          refine congrArg (fun es => Except.ok (es, [])) ?_
          rw [replaceNamed, replaceNamed, List.map_map, List.map_map]
          refine List.map_congr_left fun e _ => ?_
          have hname : (e.image g φ).name == (s.image g φ).name ↔ e.name == s.name := Iff.rfl
          simp only [Function.comp_apply, hname]
          split_ifs
          · rfl
          · rfl

/-- Relationship lines are resolved in the same way. -/
lemma resolveLines_image {es : List Entity} (hnames : (es.map Entity.name).Nodup)
    (hes : ∀ id ∈ modelIds es, id ≠ .unresolved) (lines : List (Nat × Relationship)) :
    resolveLines resolver (es.map (·.image g φ)) lines
      = (resolveLines resolver es lines).map fun p => (p.1.map (·.image g φ), p.2) := by
  induction lines generalizing es with
  | nil => rfl
  | cons line lines ih =>
    obtain ⟨n, r⟩ := line
    have hids : ∀ e ∈ es, e.id ≠ .unresolved := fun e he => hes _ (entityId_mem_modelIds he)
    rw [resolveLines, resolveLines, resolveLine_image hφ hresolver hids]
    cases hline : resolveLine resolver es n r with
    | error reason => rfl
    | ok p =>
      obtain ⟨es₁, ws₁⟩ := p
      have hbare := bare_resolveLine hnames hline
      have hnames₁ : (es₁.map Entity.name).Nodup := by
        rwa [map_bare_congr hbare Entity.name fun _ => rfl]
      have hrest := ih hnames₁ (by rwa [modelIds_of_bare hbare])
      simp only [Except.map, bind, Except.bind, hrest]
      cases resolveLines resolver es₁ lines with
      | error reason => rfl
      | ok q => rfl

/-! ## Texts -/

/-- **What is read is the same but for the replacement.** -/
theorem parse_image {supply supply' : Supply} (hfresh : supply.IsFresh)
    (h : supply.Leads g supply') (text : String) :
    (parse resolver unlinked' supply' text).1
      = (parse resolver unlinked supply text).1.image g φ := by
  have hscan := hasImage_scan hφ h text.toList
  have hsound := Scan.isSound_scan unlinked hfresh text.toList
  have hresolved : ∀ id ∈ modelIds (scan unlinked supply text.toList).entities, id ≠ .unresolved :=
    fun id hid => (hsound.given id hid).ne_unresolved hfresh
  have hlines := resolveLines_image hφ hresolver hsound.named.names hresolved
    (scan unlinked supply text.toList).relationships
  rw [parse, parse]
  split_ifs
  · dsimp only
    rw [hscan.entities, hscan.relationships, hscan.warnings, hlines]
    cases resolveLines resolver (scan unlinked supply text.toList).entities
        (scan unlinked supply text.toList).relationships with
    | error reason => rfl
    | ok p =>
      simp only [Except.map, List.isEmpty_map]
      split_ifs
      · rfl
      · rfl
  · rfl

end CarriesOver

end DiagramSync
