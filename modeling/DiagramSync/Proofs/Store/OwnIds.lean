import DiagramSync.Proofs.Model.Ids
import DiagramSync.Proofs.Store.Edits

/-!
# Ids that edits give out

A new entity and a new field take the next id of the supply, and nothing else takes any.  So
entities whose ids are distinct, and none of which is still to come, keep both under every edit.

* `Supply.Avoids` — an id that is not still to come
* `HasOwnIds` — distinct ids, of which none is still to come
* `check_addField`, `check_updateField` — the id of a field that is added, and of one that is
  updated
* **`HasOwnIds.of_made`** — every edit keeps this
-/

namespace DiagramSync

/-! ## Ids that are not still to come -/

/-- The id is not that of none, and no draw to come gives it out. -/
structure Supply.Avoids (s : Supply) (id : Id) : Prop where
  /-- The id is not that of none. -/
  resolved : id ≠ .unresolved
  /-- The id is not still to come. -/
  past : ∀ n, s.drawn ≤ n → s.mint n ≠ id

section Avoids

variable {s s' : Supply} {id : Id}

lemma Supply.Avoids.of_extends (h : s.Avoids id) (h' : s.Extends s') : s'.Avoids id := by
  refine ⟨h.resolved, fun n hn => ?_⟩
  rw [h'.mint]
  exact h.past n (Nat.le_trans h'.drawn hn)

/-- What a fresh supply has given out is not still to come. -/
lemma Supply.Gave.avoids (hfresh : s.IsFresh) (h : s.Gave s' id) (h' : s.Extends s') : s'.Avoids id :=
  ⟨h.ne_unresolved hfresh, fun _ hn => h.ne_later hfresh h' hn⟩

lemma Supply.avoids_draw (hfresh : s.IsFresh) : s.draw.2.Avoids s.draw.1 :=
  (Supply.gave_draw (Supply.Extends.refl s)).avoids hfresh s.extends_draw

end Avoids

/-! ## Readers -/

section Readers

variable {s s' : Supply}

lemma extends_mapM {α β : Type} {f : α → Reader β}
    (hf : ∀ a s b s', f a s = .ok (b, s') → s.Extends s') {xs : List α} {ys : List β}
    (h : xs.mapM f s = .ok (ys, s')) : s.Extends s' := by
  induction xs generalizing s ys with
  | nil =>
    rw [List.mapM_nil] at h
    obtain ⟨-, rfl⟩ := supply_pure_eq_ok.mp h
    exact Supply.Extends.refl s
  | cons x xs ih =>
    rw [List.mapM_cons] at h
    obtain ⟨b, s₁, hx, h⟩ := supply_bind_eq_ok.mp h
    obtain ⟨bs, s₂, hxs, h⟩ := supply_bind_eq_ok.mp h
    obtain ⟨-, rfl⟩ := supply_pure_eq_ok.mp h
    exact (hf x s b s₁ hx).trans (ih hxs)

/-- Reading entities only draws from the supply. -/
lemma extends_readAll {vs : List Value} {es : List Entity}
    (h : Entity.readAll vs s = .ok (es, s')) :
    s.Extends s' := by
  refine extends_mapM (fun v s e s' hread => ?_) h
  have hdraw : ∀ {s s' : Supply} {id : Id}, Reader.draw s = .ok (id, s') → s.Extends s' := by
    intro s s' id hdraw
    obtain ⟨-, rfl⟩ := Prod.mk.inj (Except.ok.inj hdraw)
    exact s.extends_draw
  obtain ⟨_, s₁, hnames, hread⟩ := supply_bind_eq_ok.mp hread
  obtain rfl := demandNames_eq_ok hnames
  obtain ⟨fresh, s₂, hfresh, hread⟩ := supply_bind_eq_ok.mp hread
  obtain ⟨freshFields, s₃, hfields, hread⟩ := supply_bind_eq_ok.mp hread
  obtain ⟨-, rfl⟩ := ofChecked_eq_ok.mp hread
  exact (hdraw hfresh).trans (extends_mapM (fun _ _ _ _ => hdraw) hfields)

end Readers

/-- The ids of an entity and of its fields are not still to come, and those of the fields are
distinct. -/
structure Entity.HasOwnIds (s : Supply) (e : Entity) : Prop where
  /-- The id of the entity is not still to come. -/
  id : s.Avoids e.id
  /-- The ids of the fields are distinct. -/
  fieldIds : (e.fields.map Field.id).Nodup
  /-- None of them is still to come. -/
  fields : ∀ f ∈ e.fields, s.Avoids f.id

/-- The ids of the entities are distinct, so are those of the fields of each of them, and none of
all these is that of none or still to come. -/
structure HasOwnIds (s : Supply) (es : List Entity) : Prop where
  /-- The ids of the entities are distinct. -/
  ids : (es.map Entity.id).Nodup
  /-- Every entity has ids of its own. -/
  entities : ∀ e ∈ es, e.HasOwnIds s

section HasOwnIds

variable {s s' : Supply} {es : List Entity}

lemma hasOwnIds_iff : HasOwnIds s es ↔ HasDistinctIds es ∧ ∀ id ∈ modelIds es, s.Avoids id := by
  constructor
  · intro h
    have havoids : ∀ id ∈ modelIds es, s.Avoids id := by
      intro id hid
      obtain ⟨e, he, rfl | ⟨f, hf, rfl⟩⟩ := mem_modelIds hid
      · exact (h.entities e he).id
      · exact (h.entities e he).fields f hf
    exact ⟨⟨h.ids, fun e he => (h.entities e he).fieldIds, fun id hid => (havoids id hid).resolved⟩,
      havoids⟩
  · rintro ⟨h, havoids⟩
    exact ⟨h.ids, fun e he => ⟨havoids _ (entityId_mem_modelIds he), h.fieldIds e he,
      fun f hf => havoids _ (fieldId_mem_modelIds he hf)⟩⟩

lemma Entity.HasOwnIds.of_extends {e : Entity} (h : e.HasOwnIds s) (h' : s.Extends s') :
    e.HasOwnIds s' :=
  ⟨h.id.of_extends h', h.fieldIds, fun f hf => (h.fields f hf).of_extends h'⟩

lemma HasOwnIds.of_extends (h : HasOwnIds s es) (h' : s.Extends s') : HasOwnIds s' es :=
  ⟨h.ids, fun e he => (h.entities e he).of_extends h'⟩

lemma Entity.HasOwnIds.mapReferences {e : Entity} (h : e.HasOwnIds s) (g : Reference → Reference) :
    (e.mapReferences g).HasOwnIds s := by
  refine ⟨h.id, ?_, fun f' hf' => ?_⟩
  · rw [Entity.mapReferences, List.map_map]
    exact h.fieldIds
  · obtain ⟨f, hf, rfl⟩ := List.mem_map.mp hf'
    exact h.fields f hf

/-- References do not matter. -/
lemma HasOwnIds.mapReferences (h : HasOwnIds s es) (g : Reference → Reference) :
    HasOwnIds s (es.map (·.mapReferences g)) := by
  refine ⟨?_, fun e' he' => ?_⟩
  · rw [map_id_mapReferences]
    exact h.ids
  · obtain ⟨e, he, rfl⟩ := List.mem_map.mp he'
    exact (h.entities e he).mapReferences g

/-- An entity may be replaced by one of the same id whose fields have ids of their own. -/
lemma HasOwnIds.replace {pre post : List Entity} {e e' : Entity}
    (h : HasOwnIds s (pre ++ e :: post))
    (hid : e'.id = e.id) (hfieldIds : (e'.fields.map Field.id).Nodup)
    (hfields : ∀ f ∈ e'.fields, s.Avoids f.id) : HasOwnIds s (pre ++ e' :: post) := by
  refine ⟨nodup_id_replace h.ids hid, fun x hx => ?_⟩
  rcases List.mem_append.mp hx with hx | hx
  · exact h.entities x (List.mem_append_left _ hx)
  · rcases List.mem_cons.mp hx with rfl | hx
    · exact ⟨hid ▸ (h.entities e (by simp)).id, hfieldIds, hfields⟩
    · exact h.entities x (List.mem_append_right _ (List.mem_cons_of_mem e hx))

end HasOwnIds

/-! ## Fields that are added or updated -/

/-- A field that is added has the new id. -/
lemma check_addField {unlinked : Cardinality} {n : NewField} {fresh : Id} {f : Field}
    (h : Field.check fresh (.record (n.attributes unlinked)) = .good f) : f.id = fresh := by
  have hid := (check_eq_good h).2
  have hfind : Value.find? (n.attributes unlinked) "id" = none := rfl
  rw [Checked.optional, hfind] at hid
  exact congrArg Id.mk (Checked.good.inj hid).symm

/-- A field that is updated keeps its id. -/
lemma check_updateField {unlinked : Cardinality} {f updated : Field}
    {updates : List (String × Value)}
    {fresh : Id} (hknown : ∀ u ∈ updates, u.1 ∈ updatableAttributes)
    (h : Field.check fresh (.record (updatedAttributes unlinked f updates)) = .good updated) :
    updated.id = f.id := by
  have hid := (check_eq_good h).2
  have hfind : Value.find? (updatedAttributes unlinked f updates) "id"
      = some (.text f.id.text) := by
    rw [find?_updatedAttributes, find?_overwrite, find?_id_of_known hknown]
    rfl
  rw [Checked.optional, hfind] at hid
  exact congrArg Id.mk (Checked.good.inj hid).symm

/-! ## Edits -/

/-- An edit only draws from the supply. -/
lemma Edit.Made.extends {unlinked : Cardinality} {edit : Edit} {es es' : List Entity} {s s' : Supply}
    (h : edit.Made unlinked es s es' s') : s.Extends s' := by
  cases h with
  | addEntity _ => exact s.extends_draw
  | addField _ _ _ => exact s.extends_draw
  | updateField _ _ _ _ _ => exact s.extends_draw
  | _ => exact Supply.Extends.refl s

lemma extends_apply {unlinked : Cardinality} {expected : Option Int} {edit : Edit}
    {store store' : Store} {edited : Edited} {s s' : Supply}
    (h : store.apply unlinked expected edit s = .ok ((store', edited), s')) : s.Extends s' :=
  (made_of_run (apply_eq_ok h).1).extends

/-- **Every edit leaves distinct ids of which none is still to come**, if the entities that it puts
in place of all others have such ids. -/
theorem HasOwnIds.of_made {unlinked : Cardinality} {edit : Edit} {es es' : List Entity}
    {s s' : Supply}
    (h : HasOwnIds s es) (hfresh : s.IsFresh) (hmade : edit.Made unlinked es s es' s')
    (hset : HasOwnIds s edit.given) : s.Extends s' ∧ HasOwnIds s' es' := by
  have hnew : s.draw.1 ∉ es.map Entity.id := by
    intro hmem
    obtain ⟨e, he, hid⟩ := List.mem_map.mp hmem
    exact (h.entities e he).id.past s.drawn (Nat.le_refl _) hid.symm
  have hids := nodup_ids_of_made h.ids hmade (fun _ => hnew) hset.ids
  cases hmade with
  | @addEntity value name free =>
    refine ⟨s.extends_draw, hids, fun x hx => ?_⟩
    rcases List.mem_append.mp hx with hx | hx
    · exact (h.entities x hx).of_extends s.extends_draw
    · rw [List.mem_singleton.mp hx]
      exact ⟨Supply.avoids_draw hfresh, List.nodup_nil, by simp⟩
  | @renameEntity id value e name found free =>
    obtain ⟨pre, post, rfl, hmodify⟩ := modifyEntity_eq found
    have he := h.entities e (by simp)
    rw [hmodify]
    exact ⟨Supply.Extends.refl s, h.replace rfl he.fieldIds he.fields⟩
  | @deleteEntity id e found =>
    refine ⟨Supply.Extends.refl s, HasOwnIds.mapReferences ⟨?_, fun x hx => ?_⟩ _⟩
    · exact h.ids.sublist (List.eraseP_sublist.map Entity.id)
    · exact h.entities x (List.mem_of_mem_eraseP hx)
  | @addField id attributes e f found read fits =>
    obtain ⟨pre, post, rfl, hmodify⟩ := modifyEntity_eq found
    have he := h.entities e (by simp)
    have hfield := check_addField read
    rw [hmodify]
    refine ⟨s.extends_draw, (h.of_extends s.extends_draw).replace rfl ?_ fun g hg => ?_⟩
    · rw [List.map_append, List.nodup_append]
      refine ⟨he.fieldIds, List.nodup_singleton _, fun id hid id' hid' heq => ?_⟩
      obtain ⟨g, hg, rfl⟩ := List.mem_map.mp hid
      rw [List.mem_singleton.mp hid', hfield] at heq
      exact (he.fields g hg).past s.drawn (Nat.le_refl _) heq.symm
    · rcases List.mem_append.mp hg with hg | hg
      · exact (he.fields g hg).of_extends s.extends_draw
      · rw [List.mem_singleton.mp hg, hfield]
        exact Supply.avoids_draw hfresh
  | @updateField id fieldId updates e f updated found foundField known read fits =>
    obtain ⟨pre, post, rfl, hmodify⟩ := modifyEntity_eq found
    obtain ⟨before, after, hfields, hmodifyField⟩ := modifyField_eq foundField
    have he := (h.entities e (by simp)).of_extends s.extends_draw
    have hfield := check_updateField known read
    have hfieldIds := he.fieldIds
    have hold := he.fields
    rw [hfields] at hfieldIds hold
    rw [hmodify, hmodifyField]
    refine ⟨s.extends_draw, (h.of_extends s.extends_draw).replace rfl ?_ fun g hg => ?_⟩
    · simpa [hfield] using hfieldIds
    · rcases List.mem_append.mp hg with hg | hg
      · exact hold g (List.mem_append_left _ hg)
      · rcases List.mem_cons.mp hg with rfl | hg
        · rw [hfield]
          exact hold f (by simp)
        · exact hold g (List.mem_append_right _ (List.mem_cons_of_mem f hg))
  | @deleteField id fieldId e f found foundField =>
    obtain ⟨pre, post, rfl, hmodify⟩ := modifyEntity_eq found
    have he := h.entities e (by simp)
    rw [hmodify]
    have hremoved : HasOwnIds s
        (pre ++ { e with fields := e.fields.eraseP fun g => g.id == f.id } :: post) :=
      h.replace rfl (he.fieldIds.sublist (List.eraseP_sublist.map Field.id)) fun g hg =>
        he.fields g (List.mem_of_mem_eraseP hg)
    exact ⟨Supply.Extends.refl s, hremoved.mapReferences _⟩
  | @setEntities replacement named distinct =>
    exact ⟨Supply.Extends.refl s, hset.mapReferences _⟩

end DiagramSync
