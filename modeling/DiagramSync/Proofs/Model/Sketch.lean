import DiagramSync.Proofs.Model.Ids
import DiagramSync.Proofs.Model.Named

/-!
# What a model says apart from its ids

Ids only tell entities and fields apart.  A *sketch* of a model says everything else: the names,
types, flags and descriptions in order, and of every reference the names of what it points at.  Two
models with the same sketch are the same up to ids.

* `ReferenceSketch`, `FieldSketch`, `EntitySketch` — a model without ids
* `sketch` — what a model says apart from its ids
* `Entity.renameIds` — an entity under other ids
* `KeepsApart` — a renaming under which entities and fields are still told apart
* **`sketch_renameIds`** — such a renaming does not change the sketch
-/

namespace DiagramSync

/-! ## Sketches -/

/-- What a reference says: the names of the entity and the field that it points at, if any. -/
structure ReferenceSketch where
  /-- The entity, and the field if there is one. -/
  link : Option (String × Option String)
  /-- How many rows stand at either end. -/
  cardinality : Cardinality
  /-- What the relationship line says. -/
  label : Option String
  deriving Repr, DecidableEq

/-- What a field says. -/
structure FieldSketch where
  /-- The name. -/
  name : String
  /-- The type. -/
  type : FieldType
  /-- Marked as primary key. -/
  isPrimary : Bool
  /-- Marked as foreign key. -/
  isForeign : Bool
  /-- The remark. -/
  description : Option String
  /-- Where a foreign key points. -/
  reference : Option ReferenceSketch
  deriving Repr, DecidableEq

/-- What an entity says. -/
structure EntitySketch where
  /-- The name. -/
  name : String
  /-- The fields in order. -/
  fields : List FieldSketch
  deriving Repr, DecidableEq

/-- What a reference between the entities of a model says. -/
def Reference.sketch (es : List Entity) (r : Reference) : ReferenceSketch where
  link := (es.find? fun t => t.id == r.target).map fun t =>
    (t.name, (t.findField? r.targetField).map (·.name))
  cardinality := r.cardinality
  label := r.label

/-- What a field of a model says. -/
def Field.sketch (es : List Entity) (f : Field) : FieldSketch where
  name := f.name
  type := f.type
  isPrimary := f.isPrimary
  isForeign := f.isForeign
  description := f.description
  reference := f.reference.map (·.sketch es)

/-- What an entity of a model says. -/
def Entity.sketch (es : List Entity) (e : Entity) : EntitySketch where
  name := e.name
  fields := e.fields.map (·.sketch es)

/-- What a model says apart from its ids. -/
def sketch (es : List Entity) : List EntitySketch :=
  es.map (·.sketch es)

/-! ## Other ids -/

/-- The reference with what it points at under other ids. -/
def Reference.renameIds (ρ φ : Id → Id) (r : Reference) : Reference :=
  if r.isLinked then { r with target := ρ r.target, targetField := φ r.targetField } else r

/-- The field under another id. -/
def Field.renameIds (ρ φ : Id → Id) (f : Field) : Field :=
  { f with id := φ f.id, reference := f.reference.map (·.renameIds ρ φ) }

/-- The entity under another id, with fields under other ids. -/
def Entity.renameIds (ρ φ : Id → Id) (e : Entity) : Entity :=
  { e with id := ρ e.id, fields := e.fields.map (·.renameIds ρ φ) }

/-- Under other ids the entities, and the fields of each of them, are still told apart, and none of
them gets the id of none. -/
structure KeepsApart (ρ φ : Id → Id) (es : List Entity) : Prop where
  /-- The entities have distinct ids. -/
  ids : (es.map fun e => ρ e.id).Nodup
  /-- The fields of an entity have distinct ids. -/
  fieldIds : ∀ e ∈ es, (e.fields.map fun f => φ f.id).Nodup
  /-- No entity has the id of none. -/
  resolved : ∀ e ∈ es, ρ e.id ≠ .unresolved
  /-- No field has the id of none. -/
  fieldResolved : ∀ e ∈ es, ∀ f ∈ e.fields, φ f.id ≠ .unresolved
  /-- The id of none stays what it is. -/
  none : φ .unresolved = .unresolved

/-- A reference of a model is unlinked or points at one of the entities, and there at a field or at
none. -/
def Reference.IsLocal (es : List Entity) (r : Reference) : Prop :=
  r.isLinked = false ∨ ∃ t ∈ es, r.target = t.id ∧
    (r.targetField = .unresolved ∨ ∃ f ∈ t.fields, r.targetField = f.id)

section Rename

variable {ρ φ : Id → Id} {es : List Entity}

/-- Under an id of its own every entity is found. -/
lemma find?_id {es : List Entity} (h : (es.map Entity.id).Nodup) {t : Entity} (ht : t ∈ es) :
    es.find? (fun x => x.id == t.id) = some t :=
  (find?_key_eq_some h).mpr ⟨ht, rfl⟩

/-- Under an id of its own every field is found. -/
lemma findField?_id {t : Entity} (h : (t.fields.map Field.id).Nodup) {f : Field}
    (hf : f ∈ t.fields) : t.findField? f.id = some f :=
  (find?_key_eq_some h).mpr ⟨hf, rfl⟩

/-- Nothing is found under the id of none. -/
lemma find?_unresolved {es : List Entity} (h : ∀ e ∈ es, e.id ≠ .unresolved) :
    es.find? (fun x => x.id == Id.unresolved) = none := by
  refine find?_key_eq_none.mpr fun hmem => ?_
  obtain ⟨e, he, hid⟩ := List.mem_map.mp hmem
  exact h e he hid

/-- No field is found under the id of none. -/
lemma findField?_unresolved {t : Entity} (h : ∀ f ∈ t.fields, f.id ≠ .unresolved) :
    t.findField? .unresolved = none := by
  refine find?_key_eq_none.mpr fun hmem => ?_
  obtain ⟨f, hf, hid⟩ := List.mem_map.mp hmem
  exact h f hf hid

/-- What a link says that points at the first primary key of its target. -/
lemma sketch_of_target (hids : (es.map Entity.id).Nodup) {t : Entity} (ht : t ∈ es)
    (hfieldIds : (t.fields.map Field.id).Nodup) (hresolved : ∀ f ∈ t.fields, f.id ≠ .unresolved)
    {r : Reference} (htarget : r.target = t.id)
    (hfield : r.targetField = (t.primaryKey?.map (·.id)).getD .unresolved) :
    r.sketch es = ⟨some (t.name, t.primaryKey?.map (·.name)), r.cardinality, r.label⟩ := by
  have hname : (t.findField? r.targetField).map (·.name) = t.primaryKey?.map (·.name) := by
    rw [hfield]
    cases hkey : t.primaryKey? with
    | none => rw [Option.map_none, Option.getD_none, findField?_unresolved hresolved, Option.map_none]
    | some p =>
      rw [Option.map_some, Option.getD_some,
        findField?_id hfieldIds (List.mem_of_find?_eq_some hkey)]
  rw [Reference.sketch, htarget, find?_id hids ht, Option.map_some, hname]

/-- What a reference says that points nowhere. -/
lemma sketch_of_unlinked (hresolved : ∀ e ∈ es, e.id ≠ .unresolved) {r : Reference}
    (hr : r.target = .unresolved) : r.sketch es = ⟨none, r.cardinality, r.label⟩ := by
  rw [Reference.sketch, hr, find?_unresolved hresolved, Option.map_none]

lemma nodup_of_nodup_map_comp {α : Type} (key : α → Id) {xs : List α}
    (h : (xs.map fun x => ρ (key x)).Nodup) : (xs.map key).Nodup := by
  refine List.Nodup.of_map ρ ?_
  rwa [List.map_map]

lemma isLinked_of_isLocal {r : Reference} (hresolved : ∀ id ∈ modelIds es, id ≠ .unresolved)
    {t : Entity} (ht : t ∈ es) (htarget : r.target = t.id) : r.isLinked = true := by
  rw [Reference.isLinked, bne_iff_ne, htarget]
  exact hresolved _ (entityId_mem_modelIds ht)

/-- What a reference says does not change under other ids. -/
lemma sketch_renameIds_reference (hρ : KeepsApart ρ φ es)
    (hresolved : ∀ id ∈ modelIds es, id ≠ .unresolved) {r : Reference} (hr : r.IsLocal es) :
    (r.renameIds ρ φ).sketch (es.map (·.renameIds ρ φ)) = r.sketch es := by
  have hids := nodup_of_nodup_map_comp Entity.id hρ.ids
  have hnew : ((es.map (·.renameIds ρ φ)).map Entity.id).Nodup := by
    rw [List.map_map]
    exact hρ.ids
  rcases hr with hunlinked | ⟨t, ht, htarget, hfield⟩
  · have hnone : r.target = .unresolved := by
      simpa [Reference.isLinked] using hunlinked
    have hold : es.find? (fun t => t.id == r.target) = none := by
      rw [hnone]
      exact find?_unresolved fun e he => hresolved _ (entityId_mem_modelIds he)
    have hnew : (es.map (·.renameIds ρ φ)).find? (fun t => t.id == r.target) = none := by
      rw [hnone]
      refine find?_unresolved fun e' he' => ?_
      obtain ⟨e, he, rfl⟩ := List.mem_map.mp he'
      exact hρ.resolved e he
    rw [Reference.renameIds, hunlinked, if_neg Bool.false_ne_true, Reference.sketch,
      Reference.sketch,
      hold, hnew]
  · have hlinked := isLinked_of_isLocal hresolved ht htarget
    have hold : es.find? (fun t => t.id == r.target) = some t := by
      rw [htarget]
      exact find?_id hids ht
    have hfound : (es.map (·.renameIds ρ φ)).find? (fun t => t.id == ρ r.target)
        = some (t.renameIds ρ φ) := by
      rw [htarget]
      exact find?_id hnew (List.mem_map_of_mem ht)
    have hname : ((t.renameIds ρ φ).findField? (φ r.targetField)).map (·.name)
        = (t.findField? r.targetField).map (·.name) := by
      rcases hfield with hnone | ⟨f, hf, hid⟩
      · rw [hnone, hρ.none, findField?_unresolved, findField?_unresolved]
        · exact fun f hf => hresolved _ (fieldId_mem_modelIds ht hf)
        · intro f' hf'
          obtain ⟨f, hf, rfl⟩ := List.mem_map.mp hf'
          exact hρ.fieldResolved t ht f hf
      · have hfields := hρ.fieldIds t ht
        have hrenamed : ((t.renameIds ρ φ).fields.map Field.id).Nodup := by
          rw [Entity.renameIds, List.map_map]
          exact hfields
        rw [hid, findField?_id (nodup_of_nodup_map_comp Field.id hfields) hf]
        rw [show φ f.id = (f.renameIds ρ φ).id from rfl,
          findField?_id hrenamed (List.mem_map_of_mem hf)]
        rfl
    rw [Reference.renameIds, if_pos hlinked, Reference.sketch, Reference.sketch, hold, hfound,
      Option.map_some, Option.map_some, hname]
    rfl

/-- The entities and fields are told apart by the new ids. -/
lemma KeepsApart.hasDistinctIds (hρ : KeepsApart ρ φ es) :
    HasDistinctIds (es.map (·.renameIds ρ φ)) := by
  constructor
  · rw [List.map_map]
    exact hρ.ids
  · intro e' he'
    obtain ⟨e, he, rfl⟩ := List.mem_map.mp he'
    rw [Entity.renameIds, List.map_map]
    exact hρ.fieldIds e he
  · intro id hid
    obtain ⟨e', he', hid⟩ := mem_modelIds hid
    obtain ⟨e, he, rfl⟩ := List.mem_map.mp he'
    rcases hid with rfl | ⟨f', hf', rfl⟩
    · exact hρ.resolved e he
    · obtain ⟨f, hf, rfl⟩ := List.mem_map.mp hf'
      exact hρ.fieldResolved e he f hf

/-- A reference between entities stays one under other ids. -/
lemma isLocal_renameIds (hnone : φ .unresolved = .unresolved) {r : Reference} (hr : r.IsLocal es) :
    (r.renameIds ρ φ).IsLocal (es.map (·.renameIds ρ φ)) := by
  cases hlinked : r.isLinked with
  | false =>
    rw [Reference.renameIds, hlinked, if_neg Bool.false_ne_true]
    exact Or.inl hlinked
  | true =>
    rw [Reference.renameIds, if_pos hlinked]
    rcases hr with hunlinked | ⟨t, ht, htarget, hfield⟩
    · rw [hlinked] at hunlinked
      exact absurd hunlinked Bool.noConfusion
    · refine Or.inr ⟨t.renameIds ρ φ, List.mem_map_of_mem ht, congrArg ρ htarget, ?_⟩
      rcases hfield with hfield | ⟨f, hf, hfield⟩
      · exact Or.inl ((congrArg φ hfield).trans hnone)
      · exact Or.inr ⟨f.renameIds ρ φ, List.mem_map_of_mem hf, congrArg φ hfield⟩

/-- Names do not depend on ids. -/
lemma IsNamed.renameIds (h : IsNamed es) : IsNamed (es.map (·.renameIds ρ φ)) := by
  constructor
  · intro e' he'
    obtain ⟨e, he, rfl⟩ := List.mem_map.mp he'
    exact h.named e he
  · rw [List.map_map]
    exact h.names
  · intro e' he' f' hf'
    obtain ⟨e, he, rfl⟩ := List.mem_map.mp he'
    obtain ⟨f, hf, rfl⟩ := List.mem_map.mp hf'
    exact h.fieldNamed e he f hf
  · intro e' he'
    obtain ⟨e, he, rfl⟩ := List.mem_map.mp he'
    rw [Entity.renameIds, List.map_map]
    exact h.fieldNames e he

/-- **A renaming that keeps entities and fields apart does not change what a model says.** -/
theorem sketch_renameIds (hρ : KeepsApart ρ φ es)
    (hresolved : ∀ id ∈ modelIds es, id ≠ .unresolved)
    (hlocal : ∀ e ∈ es, ∀ f ∈ e.fields, ∀ r, f.reference = some r → r.IsLocal es) :
    sketch (es.map (·.renameIds ρ φ)) = sketch es := by
  rw [sketch, List.map_map]
  refine List.map_congr_left fun e he => ?_
  have hfields : (e.renameIds ρ φ).fields = e.fields.map (·.renameIds ρ φ) := rfl
  refine congrArg (EntitySketch.mk e.name) ?_
  rw [hfields, List.map_map]
  refine List.map_congr_left fun f hf => ?_
  refine congrArg (FieldSketch.mk f.name f.type f.isPrimary f.isForeign f.description) ?_
  have hreference : (f.renameIds ρ φ).reference = f.reference.map (·.renameIds ρ φ) := rfl
  rw [hreference, Option.map_map]
  cases hr : f.reference with
  | none => rfl
  | some r => exact congrArg some (sketch_renameIds_reference hρ hresolved (hlocal e he f hf r hr))

end Rename

end DiagramSync
