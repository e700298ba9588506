import DiagramSync.Proofs.Store.Updated
import Mathlib.Data.List.Forall2

/-!
# What edits leave alone

An edit names an entity, and perhaps a field of it, and changes nothing else; what stands before and
behind stays where it is.  Only a deletion reaches further: references to what is gone are cut, in
whichever entity they stand.  They are found by the id that they point at.

* `Entity.KeptBut` — an entity is the same but for its references
* `Reference.WithoutEntity`, `Reference.WithoutField` — what becomes of a reference when something
  is gone
* `IsFirst` — where the entity or the field that an edit names stands
* `Edit.TouchesOnly` — what an edit changes
* `HasValidFields.of_made` — every edit keeps fields valid
* **`touchesOnly_of_made`** — an edit of valid fields changes nothing else
-/

namespace DiagramSync

/-! ## The same but for references -/

/-- The field is the same, but its reference may be another one that `R` relates to it. -/
structure Field.KeptBut (R : Reference → Reference → Prop) (f f' : Field) : Prop where
  /-- All but the reference is the same. -/
  same : f' = { f with reference := f'.reference }
  /-- A reference stays, or another one comes in its place. -/
  reference : Option.Rel R f.reference f'.reference

/-- The entity is the same, with its fields in order, but for their references. -/
structure Entity.KeptBut (R : Reference → Reference → Prop) (e e' : Entity) : Prop where
  /-- The id is the same. -/
  id : e'.id = e.id
  /-- The name is the same. -/
  name : e'.name = e.name
  /-- The fields are the same, one by one, but for their references. -/
  fields : List.Forall₂ (Field.KeptBut R) e.fields e'.fields

/-- The reference after the entity with that id is gone. -/
structure Reference.WithoutEntity (id : Id) (r r' : Reference) : Prop where
  /-- The cardinality stays. -/
  cardinality : r'.cardinality = r.cardinality
  /-- The label stays. -/
  label : r'.label = r.label
  /-- A reference to the entity points nowhere. -/
  cut : r.target = id → r'.target = .unresolved ∧ r'.targetField = .unresolved
  /-- Any other reference stays. -/
  kept : r.target ≠ id → r' = r

/-- The reference after the field with that id is gone. -/
structure Reference.WithoutField (id : Id) (r r' : Reference) : Prop where
  /-- It points at the same entity. -/
  target : r'.target = r.target
  /-- The cardinality stays. -/
  cardinality : r'.cardinality = r.cardinality
  /-- The label stays. -/
  label : r'.label = r.label
  /-- A reference to the field points at no field. -/
  cut : r.targetField = id → r'.targetField = .unresolved
  /-- Any other reference stays. -/
  kept : r.targetField ≠ id → r' = r

lemma keptBut_mapReferences {R : Reference → Reference → Prop} {g : Reference → Reference}
    (h : ∀ r, R r (g r)) (es : List Entity) :
    List.Forall₂ (Entity.KeptBut R) es (es.map (·.mapReferences g)) := by
  rw [List.forall₂_map_right_iff, List.forall₂_same]
  refine fun e _ => ⟨rfl, rfl, ?_⟩
  rw [Entity.mapReferences, List.forall₂_map_right_iff, List.forall₂_same]
  refine fun f _ => ⟨rfl, ?_⟩
  rw [Field.mapReference]
  cases f.reference with
  | none => exact .none
  | some r => exact .some (h r)

lemma keptBut_unlinkEntity (id : Id) (es : List Entity) :
    List.Forall₂ (Entity.KeptBut (Reference.WithoutEntity id)) es (unlinkEntity id es) := by
  refine keptBut_mapReferences (fun r => ?_) es
  by_cases htarget : r.target = id
  · rw [if_pos (beq_iff_eq.mpr htarget)]
    exact ⟨rfl, rfl, fun _ => ⟨rfl, rfl⟩, fun hne => absurd htarget hne⟩
  · rw [if_neg fun heq => htarget (beq_iff_eq.mp heq)]
    exact ⟨rfl, rfl, fun heq => absurd heq htarget, fun _ => rfl⟩

lemma keptBut_unlinkField (id : Id) (es : List Entity) :
    List.Forall₂ (Entity.KeptBut (Reference.WithoutField id)) es (unlinkField id es) := by
  refine keptBut_mapReferences (fun r => ?_) es
  by_cases htarget : r.targetField = id
  · rw [if_pos (beq_iff_eq.mpr htarget)]
    exact ⟨rfl, rfl, rfl, fun _ => rfl, fun hne => absurd htarget hne⟩
  · rw [if_neg fun heq => htarget (beq_iff_eq.mp heq)]
    exact ⟨rfl, rfl, rfl, fun heq => absurd heq htarget, fun _ => rfl⟩

/-! ## Where the edit takes place -/

/-- The item is the first of the list with its key, and stands between these others. -/
structure IsFirst {α κ : Type} (key : α → κ) (xs pre : List α) (x : α) (post : List α) : Prop where
  /-- What stands before it and behind it. -/
  split : xs = pre ++ x :: post
  /-- No item before it has its key. -/
  first : ∀ y ∈ pre, key y ≠ key x

section Places

variable {α : Type} {key : α → Id} {xs pre post : List α} {x : α}

lemma IsFirst.modifyFirst_eq (h : IsFirst key xs pre x post) (g : α → α) :
    modifyFirst (fun y => key y == key x) g xs = pre ++ g x :: post := by
  have hpre : ∀ y ∈ pre, (key y == key x) = false := fun y hy => beq_false_of_ne (h.first y hy)
  rw [h.split, modifyFirst_append hpre (beq_self_eq_true (key x))]

lemma IsFirst.eraseP_eq (h : IsFirst key xs pre x post) :
    xs.eraseP (fun y => key y == key x) = pre ++ post := by
  have hpre : ∀ y ∈ pre, ¬ (key y == key x) = true := fun y hy heq =>
    h.first y hy (beq_iff_eq.mp heq)
  rw [h.split, List.eraseP_append_right _ hpre, List.eraseP_cons_of_pos]
  exact beq_self_eq_true (key x)

lemma exists_isFirst {id : Option Id} (h : xs.find? (fun y => some (key y) == id) = some x) :
    id = some (key x) ∧ ∃ pre post, IsFirst key xs pre x post := by
  obtain ⟨hx, pre, post, hsplit, hpre⟩ := List.find?_eq_some_iff_append.mp h
  obtain rfl := beq_iff_eq.mp hx
  refine ⟨rfl, pre, post, hsplit, fun y hy heq => ?_⟩
  have hne := hpre y hy
  rw [heq, beq_self_eq_true] at hne
  exact absurd hne Bool.false_ne_true

end Places

/-! ## Edits -/

/-- What an edit changes in the entities `es`: what it names, and of all others only references to
what is gone.  An edit that puts entities in place of all others may change everything. -/
inductive Edit.TouchesOnly (unlinked : Cardinality) (es : List Entity) :
    Edit → List Entity → Prop
  /-- A new entity without fields comes last. -/
  | addEntity {value : Value} (e : Entity) (blank : e.fields = []) :
    TouchesOnly unlinked es (.addEntity value) (es ++ [e])
  /-- One entity gets another name. -/
  | renameEntity {value : Value} {pre post : List Entity} {e : Entity}
      (named : IsFirst Entity.id es pre e post) (name : String) :
    TouchesOnly unlinked es (.renameEntity (some e.id) value) (pre ++ { e with name } :: post)
  /-- One entity is gone, and references to it are cut. -/
  | deleteEntity {pre post es' : List Entity} {e : Entity} (named : IsFirst Entity.id es pre e post)
      (kept : List.Forall₂ (Entity.KeptBut (Reference.WithoutEntity e.id)) (pre ++ post) es') :
    TouchesOnly unlinked es (.deleteEntity (some e.id)) es'
  /-- A new field comes last in one entity. -/
  | addField {attributes : NewField} {pre post : List Entity} {e : Entity}
      (named : IsFirst Entity.id es pre e post) (f : Field) :
    TouchesOnly unlinked es (.addField (some e.id) attributes)
      (pre ++ { e with fields := e.fields ++ [f] } :: post)
  /-- One field of one entity is updated. -/
  | updateField {updates : List (String × Value)} {pre post : List Entity} {e : Entity}
      {before after : List Field} {f f' : Field} (named : IsFirst Entity.id es pre e post)
      (namedField : IsFirst Field.id e.fields before f after)
      (update : f.IsUpdate unlinked updates f') :
    TouchesOnly unlinked es (.updateField (some e.id) (some f.id) updates)
      (pre ++ { e with fields := before ++ f' :: after } :: post)
  /-- One field of one entity is gone, and references to it are cut. -/
  | deleteField {pre post es' : List Entity} {e : Entity} {before after : List Field} {f : Field}
      (named : IsFirst Entity.id es pre e post)
      (namedField : IsFirst Field.id e.fields before f after)
      (kept : List.Forall₂ (Entity.KeptBut (Reference.WithoutField f.id))
        (pre ++ { e with fields := before ++ after } :: post) es') :
    TouchesOnly unlinked es (.deleteField (some e.id) (some f.id)) es'
  /-- Other entities come in place of all. -/
  | setEntities {replacement es' : List Entity} :
    TouchesOnly unlinked es (.setEntities replacement) es'

/-- All fields of the entities are valid. -/
def HasValidFields (es : List Entity) : Prop :=
  ∀ e ∈ es, ∀ f ∈ e.fields, f.IsValid

section Edits

variable {unlinked : Cardinality} {edit : Edit} {es es' pre post : List Entity} {e : Entity}
  {s s' : Supply}

lemma HasValidFields.of_subset (h : HasValidFields es) (hsub : ∀ x ∈ es', x ∈ es) :
    HasValidFields es' :=
  fun x hx => h x (hsub x hx)

/-- The fields of one entity may be replaced by valid ones. -/
lemma HasValidFields.replace (h : HasValidFields (pre ++ e :: post)) {e' : Entity}
    (hfields : ∀ f ∈ e'.fields, f.IsValid) : HasValidFields (pre ++ e' :: post) := by
  intro x hx
  rcases List.mem_append.mp hx with hx | hx
  · exact h x (List.mem_append_left _ hx)
  · rcases List.mem_cons.mp hx with rfl | hx
    · exact hfields
    · exact h x (List.mem_append_right _ (List.mem_cons_of_mem e hx))

/-- References may be replaced by ones with the same label. -/
lemma HasValidFields.mapReferences (h : HasValidFields es) {g : Reference → Reference}
    (hg : ∀ r, (g r).label = r.label) : HasValidFields (es.map (·.mapReferences g)) := by
  intro x hx y hy
  obtain ⟨e, he, rfl⟩ := List.mem_map.mp hx
  obtain ⟨f, hf, rfl⟩ := List.mem_map.mp hy
  obtain ⟨name, description, reference, label⟩ := h e he f hf
  refine ⟨name, description, (Option.isSome_map).trans reference, fun r' hr' => ?_⟩
  obtain ⟨r, hr, rfl⟩ := Option.map_eq_some_iff.mp hr'
  rw [hg]
  exact label r hr

/-- Every edit keeps fields valid, if the entities that it puts in place of all others are valid. -/
lemma HasValidFields.of_made (h : HasValidFields es) (hmade : edit.Made unlinked es s es' s')
    (hset : ∀ e ∈ edit.given, e.IsValid) : HasValidFields es' := by
  cases hmade with
  | addEntity free =>
    intro x hx f hf
    rcases List.mem_append.mp hx with hx | hx
    · exact h x hx f hf
    · rw [List.mem_singleton.mp hx] at hf
      exact absurd hf List.not_mem_nil
  | @renameEntity id _ e name found free =>
    obtain ⟨pre, post, rfl, hmodify⟩ := modifyEntity_eq found
    rw [hmodify]
    exact h.replace (h e (by simp))
  | @deleteEntity id e found =>
    refine (h.of_subset fun x => List.mem_of_mem_eraseP).mapReferences fun r => ?_
    split_ifs <;> rfl
  | @addField id attributes e f found read fits =>
    obtain ⟨pre, post, rfl, hmodify⟩ := modifyEntity_eq found
    rw [hmodify]
    refine h.replace fun g hg => ?_
    rcases List.mem_append.mp hg with hg | hg
    · exact h e (by simp) g hg
    · rw [List.mem_singleton.mp hg]
      exact isValid_of_check read
  | @updateField id fieldId updates e f updated found foundField known read fits =>
    obtain ⟨pre, post, rfl, hmodify⟩ := modifyEntity_eq found
    obtain ⟨before, after, hfields, hmodifyField⟩ := modifyField_eq foundField
    rw [hmodify, hmodifyField]
    have hold : ∀ g ∈ before ++ f :: after, g.IsValid := hfields ▸ h e (by simp)
    refine h.replace fun g hg => ?_
    rcases List.mem_append.mp hg with hg | hg
    · exact hold g (List.mem_append_left _ hg)
    · rcases List.mem_cons.mp hg with rfl | hg
      · exact isValid_of_check read
      · exact hold g (List.mem_append_right _ (List.mem_cons_of_mem f hg))
  | @deleteField id fieldId e f found foundField =>
    obtain ⟨pre, post, rfl, hmodify⟩ := modifyEntity_eq found
    rw [hmodify]
    have hremoved : HasValidFields
        (pre ++ { e with fields := e.fields.eraseP fun g => g.id == f.id } :: post) :=
      h.replace fun g hg => h e (by simp) g (List.mem_of_mem_eraseP hg)
    refine hremoved.mapReferences fun r => ?_
    split_ifs <;> rfl
  | @setEntities replacement named distinct =>
    have hgiven : HasValidFields replacement := fun e he => (hset e he).fields
    refine hgiven.mapReferences fun r => ?_
    split_ifs <;> rfl

/-- **An edit of valid fields touches only what it names**, but for references to what is gone. -/
theorem touchesOnly_of_made (hvalid : HasValidFields es)
    (hmade : edit.Made unlinked es s es' s') : edit.TouchesOnly unlinked es es' := by
  cases hmade with
  | addEntity free => exact .addEntity _ rfl
  | renameEntity found free =>
    obtain ⟨rfl, pre, post, hfirst⟩ := exists_isFirst found
    rw [modifyEntity, hfirst.modifyFirst_eq]
    exact .renameEntity hfirst _
  | deleteEntity found =>
    obtain ⟨rfl, pre, post, hfirst⟩ := exists_isFirst found
    rw [hfirst.eraseP_eq]
    exact .deleteEntity hfirst (keptBut_unlinkEntity _ _)
  | addField found read fits =>
    obtain ⟨rfl, pre, post, hfirst⟩ := exists_isFirst found
    rw [modifyEntity, hfirst.modifyFirst_eq]
    exact .addField hfirst _
  | @updateField id fieldId updates e f updated found foundField known read fits =>
    obtain ⟨rfl, pre, post, hfirst⟩ := exists_isFirst found
    obtain ⟨rfl, before, after, hfirstField⟩ := exists_isFirst foundField
    rw [modifyEntity, hfirst.modifyFirst_eq, hfirstField.modifyFirst_eq]
    have he : e ∈ es := List.mem_of_find?_eq_some found
    have hf : f ∈ e.fields := List.mem_of_find?_eq_some foundField
    exact .updateField hfirst hfirstField (isUpdate_of_check (hvalid e he f hf) known read)
  | deleteField found foundField =>
    obtain ⟨rfl, pre, post, hfirst⟩ := exists_isFirst found
    obtain ⟨rfl, before, after, hfirstField⟩ := exists_isFirst foundField
    rw [modifyEntity, hfirst.modifyFirst_eq, hfirstField.eraseP_eq]
    exact .deleteField hfirst hfirstField (keptBut_unlinkField _ _)
  | setEntities named distinct => exact .setEntities

end Edits

end DiagramSync
