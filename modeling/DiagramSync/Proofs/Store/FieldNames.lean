import DiagramSync.Proofs.Store.OwnIds

/-!
# Fields that are told apart by their names

Within its entity a field goes by its name, whatever the case of its letters.  A field that is added
or updated is checked against all others of its entity, by their names; the one that it replaces is
told from these by its id.  A model that is put in place of all entities is taken with the names
that its fields have.

* `Entity.NamesFields` — the names of the fields are keys
* `FieldsFrom`, `fieldsFrom_of_made` — what becomes of ids and names of fields when an edit is made
* **`nodup_fieldIds_of_made`**, **`namesFields_of_made`** — what keeps the ids, and with them the
  names, apart
* `namesFields_given` — the names that come with a model are those that are there afterwards
-/

namespace DiagramSync

open Text

/-- Every field has a name, and no two have the same name but for case. -/
structure Entity.NamesFields (e : Entity) : Prop where
  /-- No name is empty. -/
  named : ∀ f ∈ e.fields, f.name ≠ ""
  /-- The names are distinct without regard to case. -/
  apart : (e.fields.map fun f => foldName f.name).Nodup

lemma namesFields_iff {e : Entity} : e.NamesFields ↔
    (∀ f ∈ e.fields, f.name ≠ "") ∧ (e.fields.map fun f => foldName f.name).Nodup :=
  ⟨fun h => ⟨h.named, h.apart⟩, fun ⟨hnamed, hapart⟩ => ⟨hnamed, hapart⟩⟩

instance (e : Entity) : Decidable e.NamesFields :=
  decidable_of_iff' _ namesFields_iff

/-- The ids and names of the fields in order. -/
def Entity.fieldKeys (e : Entity) : List (Id × String) :=
  e.fields.map fun f => (f.id, f.name)

section Keys

variable {e : Entity}

lemma map_fst_fieldKeys (e : Entity) : e.fieldKeys.map Prod.fst = e.fields.map Field.id := by
  rw [Entity.fieldKeys, List.map_map]
  rfl

lemma fieldKeys_mapReferences (g : Reference → Reference) (e : Entity) :
    (e.mapReferences g).fieldKeys = e.fieldKeys := by
  rw [Entity.fieldKeys, Entity.mapReferences, List.map_map]
  rfl

/-- Only the names matter. -/
lemma namesFields_iff_fieldKeys : e.NamesFields ↔
    (∀ k ∈ e.fieldKeys, k.2 ≠ "") ∧ (e.fieldKeys.map fun k => foldName k.2).Nodup := by
  have hmap : (e.fieldKeys.map fun k => foldName k.2) = e.fields.map fun f => foldName f.name := by
    rw [Entity.fieldKeys, List.map_map]
    rfl
  rw [hmap, Entity.fieldKeys, List.forall_mem_map, namesFields_iff]

lemma namesFields_mapReferences (g : Reference → Reference) :
    (e.mapReferences g).NamesFields ↔ e.NamesFields := by
  rw [namesFields_iff_fieldKeys, fieldKeys_mapReferences, ← namesFields_iff_fieldKeys]

end Keys

/-! ## What becomes of the fields of an entity -/

/-- Where the ids and names of the fields of an entity come from, when the edit led from `es`
to `es'`. -/
inductive FieldsFrom (edit : Edit) (es es' : List Entity) : List (Id × String) → Prop
  /-- A new entity has no fields. -/
  | none : FieldsFrom edit es es' []
  /-- An entity was there before, and it has lost a field at most. -/
  | kept {e : Entity} {keys : List (Id × String)} (mem : e ∈ es)
      (sublist : keys.Sublist e.fieldKeys) : FieldsFrom edit es es' keys
  /-- An entity was there before, and a field was added to it. -/
  | added {id : Option Id} {attributes : NewField} {e : Entity} {f : Field}
      (edit_eq : edit = .addField id attributes) (mem : e ∈ es)
      (found : findEntity? es' id = some { e with fields := e.fields ++ [f] })
      (fits : f.Fits es e .none) : FieldsFrom edit es es' (e.fieldKeys ++ [(f.id, f.name)])
  /-- An entity was there before, and a field of it was updated. -/
  | updated {e : Entity} {f updated : Field} {before after : List (Id × String)} (mem : e ∈ es)
      (keys_eq : e.fieldKeys = before ++ (f.id, f.name) :: after)
      (fits : updated.Fits es e (some f.id)) :
      FieldsFrom edit es es' (before ++ (f.id, updated.name) :: after)
  /-- An entity came with the edit. -/
  | given {e : Entity} (mem : e ∈ edit.given) : FieldsFrom edit es es' e.fieldKeys

section Made

variable {unlinked : Cardinality} {edit : Edit} {es es' : List Entity} {s s' : Supply}

/-- An entity that is changed is found under its id as before. -/
lemma findEntity?_modifyEntity {id : Option Id} {e : Entity} (h : findEntity? es id = some e)
    {g : Entity → Entity} (hg : (g e).id = e.id) :
    findEntity? (modifyEntity e.id g es) id = some (g e) := by
  obtain ⟨-, rfl⟩ := findEntity?_eq_some h
  rw [findEntity?, modifyEntity]
  rw [findEntity?] at h
  induction es with
  | nil => exact absurd h nofun
  | cons x es ih =>
    by_cases hx : x.id = e.id
    · rw [List.find?_cons_of_pos (by simp [hx])] at h
      obtain rfl := Option.some.inj h
      rw [modifyFirst, if_pos (by simp), List.find?_cons_of_pos (by simp [hg])]
    · rw [List.find?_cons_of_neg (by simpa using hx)] at h
      rw [modifyFirst, if_neg (by simpa using hx), List.find?_cons_of_neg (by simpa using hx)]
      exact ih h

/-- The entities beside the one that is changed keep their fields. -/
lemma fieldsFrom_beside {pre post : List Entity} {e x y : Entity} (hes : es = pre ++ e :: post)
    (hy : y ∈ pre ++ x :: post) (hx : FieldsFrom edit es es' x.fieldKeys) :
    FieldsFrom edit es es' y.fieldKeys := by
  subst hes
  rcases List.mem_append.mp hy with hy | hy
  · exact .kept (List.mem_append_left _ hy) (List.Sublist.refl _)
  · rcases List.mem_cons.mp hy with rfl | hy
    · exact hx
    · exact .kept (List.mem_append_right _ (List.mem_cons_of_mem e hy)) (List.Sublist.refl _)

/-- **There is no other way.** -/
theorem fieldsFrom_of_made (hmade : edit.Made unlinked es s es' s') {e' : Entity} (he' : e' ∈ es') :
    FieldsFrom edit es es' e'.fieldKeys := by
  cases hmade with
  | addEntity free =>
    rcases List.mem_append.mp he' with he' | he'
    · exact .kept he' (List.Sublist.refl _)
    · rw [List.mem_singleton.mp he']
      exact .none
  | @renameEntity id value e name found free =>
    obtain ⟨pre, post, hes, hmodify⟩ := modifyEntity_eq found
    rw [hmodify] at he'
    refine fieldsFrom_beside hes he' (.kept (e := e) (findEntity?_eq_some found).1 ?_)
    exact List.Sublist.refl _
  | @deleteEntity id e found =>
    obtain ⟨x, hx, rfl⟩ := List.mem_map.mp he'
    rw [fieldKeys_mapReferences]
    exact .kept (List.mem_of_mem_eraseP hx) (List.Sublist.refl _)
  | @addField id attributes e f found read fits =>
    have hadded : FieldsFrom (.addField id attributes) es
        (modifyEntity e.id (fun e => { e with fields := e.fields ++ [f] }) es)
        (e.fieldKeys ++ [(f.id, f.name)]) :=
      .added rfl (findEntity?_eq_some found).1 (findEntity?_modifyEntity found rfl) fits
    obtain ⟨pre, post, hes, hmodify⟩ := modifyEntity_eq found
    rw [hmodify] at he' hadded ⊢
    refine fieldsFrom_beside hes he' ?_
    rw [Entity.fieldKeys, List.map_append]
    exact hadded
  | @updateField id fieldId updates e f updated found foundField known read fits =>
    have hid := List.find?_some foundField
    have hfieldId : fieldId = some f.id := (beq_iff_eq.mp hid).symm
    obtain ⟨pre, post, hes, hmodify⟩ := modifyEntity_eq found
    obtain ⟨before, after, hfields, hmodifyField⟩ := modifyField_eq foundField
    rw [hmodify] at he' ⊢
    refine fieldsFrom_beside hes he' ?_
    have hkeys : e.fieldKeys = before.map (fun f => (f.id, f.name)) ++ (f.id, f.name)
        :: after.map (fun f => (f.id, f.name)) := by
      rw [Entity.fieldKeys, hfields, List.map_append, List.map_cons]
    have hupdated : FieldsFrom (.updateField id fieldId updates) es
        (pre ++ { e with fields := before ++ updated :: after } :: post)
        (before.map (fun f => (f.id, f.name)) ++ (f.id, updated.name)
          :: after.map (fun f => (f.id, f.name))) :=
      .updated (findEntity?_eq_some found).1 hkeys (hfieldId ▸ fits)
    rw [hmodifyField, Entity.fieldKeys, List.map_append, List.map_cons,
      check_updateField known read]
    exact hupdated
  | @deleteField id fieldId e f found foundField =>
    obtain ⟨pre, post, hes, hmodify⟩ := modifyEntity_eq found
    obtain ⟨x, hx, rfl⟩ := List.mem_map.mp he'
    rw [hmodify] at hx
    rw [fieldKeys_mapReferences]
    refine fieldsFrom_beside hes hx (.kept (e := e) (findEntity?_eq_some found).1 ?_)
    exact List.eraseP_sublist.map _
  | @setEntities replacement named distinct =>
    obtain ⟨x, hx, rfl⟩ := List.mem_map.mp he'
    rw [fieldKeys_mapReferences]
    exact .given hx

end Made

/-! ## What keeps ids and names apart -/

/-- The field that the edit adds, which comes last in its entity, has an id that no other field of
the entity has. -/
def Edit.AddsNewFieldId (es' : List Entity) : Edit → Prop
  | .addField id _ => ∀ e ∈ findEntity? es' id, ∀ f ∈ e.fields.getLast?,
      f.id ∉ e.fields.dropLast.map Field.id
  | _ => True

instance (es' : List Entity) (edit : Edit) : Decidable (edit.AddsNewFieldId es') :=
  match edit with
  | .addField .. => inferInstanceAs (Decidable (∀ e ∈ _, _))
  | .addEntity .. | .renameEntity .. | .deleteEntity .. | .updateField .. | .deleteField ..
  | .setEntities .. => inferInstanceAs (Decidable True)

section Apart

variable {unlinked : Cardinality} {edit : Edit} {es es' : List Entity} {s s' : Supply}

/-- Where fields come from, no two of an entity have the same id. -/
lemma FieldsFrom.nodup_ids {keys : List (Id × String)} (h : FieldsFrom edit es es' keys)
    (hes : ∀ e ∈ es, (e.fields.map Field.id).Nodup)
    (hset : ∀ e ∈ edit.given, (e.fields.map Field.id).Nodup) (hnew : edit.AddsNewFieldId es') :
    (keys.map Prod.fst).Nodup := by
  cases h with
  | none => exact List.nodup_nil
  | kept mem sublist =>
    refine List.Nodup.sublist (sublist.map Prod.fst) ?_
    rw [map_fst_fieldKeys]
    exact hes _ mem
  | @added id attributes e f edit_eq mem found fits =>
    subst edit_eq
    have hf := hnew _ found f (by simp)
    rw [List.dropLast_concat] at hf
    rw [List.map_append, map_fst_fieldKeys]
    refine List.nodup_append.mpr ⟨hes e mem, List.nodup_singleton _, fun x hx y hy heq => ?_⟩
    rw [heq, List.mem_singleton.mp hy] at hx
    exact hf hx
  | @updated e f updated before after mem keys_eq fits =>
    have he := hes e mem
    rw [← map_fst_fieldKeys, keys_eq] at he
    simpa using he
  | given mem =>
    rw [map_fst_fieldKeys]
    exact hset _ mem

/-- Where fields come from, their names are keys. -/
lemma FieldsFrom.named_apart {keys : List (Id × String)} (h : FieldsFrom edit es es' keys)
    (hes : ∀ e ∈ es, e.NamesFields) (hids : ∀ e ∈ es, (e.fields.map Field.id).Nodup)
    (hset : ∀ e ∈ edit.given, e.NamesFields) :
    (∀ k ∈ keys, k.2 ≠ "") ∧ (keys.map fun k => foldName k.2).Nodup := by
  cases h with
  | none => exact ⟨by simp, List.nodup_nil⟩
  | kept mem sublist =>
    obtain ⟨hnamed, hapart⟩ := namesFields_iff_fieldKeys.mp (hes _ mem)
    exact ⟨fun k hk => hnamed k (sublist.subset hk), hapart.sublist (sublist.map _)⟩
  | @added id attributes e f edit_eq mem found fits =>
    obtain ⟨hnamed, hapart⟩ := namesFields_iff_fieldKeys.mp (hes e mem)
    have hfree : ∀ k ∈ e.fieldKeys, foldName k.2 ≠ foldName f.name :=
      List.forall_mem_map.mpr fun g hg => fits.free g hg nofun
    constructor
    · intro k hk
      rcases List.mem_append.mp hk with hk | hk
      · exact hnamed k hk
      · rw [List.mem_singleton.mp hk]
        exact fits.named
    · rw [List.map_append]
      refine List.nodup_append.mpr ⟨hapart, List.nodup_singleton _, fun n hn m hm => ?_⟩
      obtain ⟨k, hk, rfl⟩ := List.mem_map.mp hn
      rw [List.mem_singleton.mp hm]
      exact hfree k hk
  | @updated e f updated before after mem keys_eq fits =>
    obtain ⟨hnamed, hapart⟩ := namesFields_iff_fieldKeys.mp (hes e mem)
    have he := hids e mem
    have hfree : ∀ k ∈ e.fieldKeys, k.1 ≠ f.id → foldName k.2 ≠ foldName updated.name :=
      List.forall_mem_map.mpr fun g hg hid => fits.free g hg fun heq => hid (Option.some.inj heq)
    rw [keys_eq] at hnamed hapart hfree
    rw [← map_fst_fieldKeys, keys_eq, List.map_append, List.map_cons, List.nodup_middle,
      List.nodup_cons] at he
    rw [List.map_append, List.map_cons, List.nodup_middle, List.nodup_cons] at hapart
    -- the id of the field that is replaced is that of no other one
    have hother : ∀ k ∈ before ++ after, foldName k.2 ≠ foldName updated.name := by
      intro k hk
      refine hfree k ?_ fun heq => he.1 ?_
      · simp only [List.mem_append, List.mem_cons] at hk ⊢
        tauto
      · rw [← List.map_append]
        exact List.mem_map.mpr ⟨k, hk, heq⟩
    constructor
    · intro k hk
      rcases List.mem_append.mp hk with hk | hk
      · exact hnamed k (List.mem_append_left _ hk)
      · rcases List.mem_cons.mp hk with rfl | hk
        · exact fits.named
        · exact hnamed k (List.mem_append_right _ (List.mem_cons_of_mem _ hk))
    · rw [List.map_append, List.map_cons, List.nodup_middle, List.nodup_cons]
      refine ⟨fun hmem => ?_, hapart.2⟩
      rw [← List.map_append] at hmem
      obtain ⟨k, hk, heq⟩ := List.mem_map.mp hmem
      exact hother k hk heq
  | given mem => exact namesFields_iff_fieldKeys.mp (hset _ mem)

/-- **Every edit keeps the ids of the fields apart**, as long as none comes in twice. -/
theorem nodup_fieldIds_of_made (hmade : edit.Made unlinked es s es' s')
    (hes : ∀ e ∈ es, (e.fields.map Field.id).Nodup)
    (hset : ∀ e ∈ edit.given, (e.fields.map Field.id).Nodup) (hnew : edit.AddsNewFieldId es') :
    ∀ e ∈ es', (e.fields.map Field.id).Nodup := by
  intro e' he'
  rw [← map_fst_fieldKeys]
  exact (fieldsFrom_of_made hmade he').nodup_ids hes hset hnew

/-- **Every edit keeps the names of the fields keys**, if they are in the entities that it puts in
place of all others, and the fields are told apart by their ids. -/
theorem namesFields_of_made (hmade : edit.Made unlinked es s es' s')
    (hes : ∀ e ∈ es, e.NamesFields) (hids : ∀ e ∈ es, (e.fields.map Field.id).Nodup)
    (hset : ∀ e ∈ edit.given, e.NamesFields) : ∀ e ∈ es', e.NamesFields := by
  intro e' he'
  rw [namesFields_iff_fieldKeys]
  exact (fieldsFrom_of_made hmade he').named_apart hes hids hset

/-- The names that come with a model are those that are there afterwards: nobody checks them. -/
theorem namesFields_given (hmade : edit.Made unlinked es s es' s')
    (hafter : ∀ e ∈ es', e.NamesFields) : ∀ e ∈ edit.given, e.NamesFields := by
  cases hmade with
  | setEntities named distinct =>
    intro e he
    exact (namesFields_mapReferences _).mp (hafter _ (List.mem_map_of_mem he))
  | _ => exact fun _ he => absurd he List.not_mem_nil

end Apart

end DiagramSync
