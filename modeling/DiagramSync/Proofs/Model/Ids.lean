import DiagramSync.Model.Entity
import Mathlib.Data.List.Nodup
import Mathlib.Data.List.Pairwise

/-!
# The ids of a model

The ids that the entities and fields of a model have, and the ids that a supply still gives out.  A
supply is *fresh* if the ids to come differ from each other and from the id of none.

* `modelIds`, `allFieldIds` — the ids of the entities and fields of a model
* `HasDistinctIds` — entities and fields are told apart by their ids
* `nodup_entityIds`, `nodup_fieldIds` — what it means for entities and fields that all are distinct
* `renamingTo` — the renaming from one sequence of ids to another one
* `Supply.IsFresh` — the ids to come are distinct
* `Supply.Extends`, `Supply.Gave` — a later state of a supply, and the ids given out until then
-/

namespace DiagramSync

/-! ## The ids in a model -/

/-- The ids of an entity and of its fields. -/
def Entity.allIds (e : Entity) : List Id :=
  e.id :: e.fields.map Field.id

/-- The ids of the entities and fields of a model. -/
def modelIds (es : List Entity) : List Id :=
  es.flatMap Entity.allIds

/-- The ids of the fields of a model. -/
def allFieldIds (es : List Entity) : List Id :=
  es.flatMap fun e => e.fields.map Field.id

lemma modelIds_append (es es' : List Entity) : modelIds (es ++ es') = modelIds es ++ modelIds es' :=
  List.flatMap_append

lemma modelIds_cons (e : Entity) (es : List Entity) :
    modelIds (e :: es) = e.allIds ++ modelIds es :=
  List.flatMap_cons

lemma entityId_mem_modelIds {es : List Entity} {e : Entity} (he : e ∈ es) : e.id ∈ modelIds es :=
  List.mem_flatMap.mpr ⟨e, he, List.mem_cons_self⟩

lemma fieldId_mem_modelIds {es : List Entity} {e : Entity} (he : e ∈ es) {f : Field}
    (hf : f ∈ e.fields) : f.id ∈ modelIds es :=
  List.mem_flatMap.mpr ⟨e, he, List.mem_cons_of_mem _ (List.mem_map.mpr ⟨f, hf, rfl⟩)⟩

/-- An id of a model is that of an entity or that of a field. -/
lemma mem_modelIds {es : List Entity} {id : Id} (h : id ∈ modelIds es) :
    ∃ e ∈ es, id = e.id ∨ ∃ f ∈ e.fields, id = f.id := by
  obtain ⟨e, he, hid⟩ := List.mem_flatMap.mp h
  rcases List.mem_cons.mp hid with rfl | hid
  · exact ⟨e, he, Or.inl rfl⟩
  · obtain ⟨f, hf, rfl⟩ := List.mem_map.mp hid
    exact ⟨e, he, Or.inr ⟨f, hf, rfl⟩⟩

lemma mem_allFieldIds {es : List Entity} {id : Id} :
    id ∈ allFieldIds es ↔ ∃ e ∈ es, ∃ f ∈ e.fields, f.id = id := by
  rw [allFieldIds, List.mem_flatMap]
  exact exists_congr fun e => and_congr_right fun _ => List.mem_map

/-- If all ids are distinct, then those of the entities are. -/
lemma nodup_entityIds {es : List Entity} (h : (modelIds es).Nodup) : (es.map Entity.id).Nodup := by
  induction es with
  | nil => exact List.nodup_nil
  | cons e es ih =>
    rw [modelIds_cons, List.nodup_append] at h
    rw [List.map_cons, List.nodup_cons]
    refine ⟨fun hmem => ?_, ih h.2.1⟩
    obtain ⟨t, ht, hid⟩ := List.mem_map.mp hmem
    exact h.2.2 e.id List.mem_cons_self t.id (entityId_mem_modelIds ht) hid.symm

/-- If all ids are distinct, then those of the fields are. -/
lemma nodup_allFieldIds {es : List Entity} (h : (modelIds es).Nodup) :
    (allFieldIds es).Nodup := by
  obtain ⟨hentity, hpairwise⟩ := List.nodup_flatMap.mp h
  refine List.nodup_flatMap.mpr ⟨fun e he => (List.nodup_cons.mp (hentity e he)).2, ?_⟩
  refine hpairwise.imp fun hdisjoint => ?_
  exact List.disjoint_of_subset_left (List.subset_cons_self _ _)
    (List.disjoint_of_subset_right (List.subset_cons_self _ _) hdisjoint)

/-- If the ids of all fields are distinct, then by its id a field is told apart together with the
entity that it belongs to. -/
lemma eq_of_fieldId_eq {es : List Entity} (h : (allFieldIds es).Nodup) {e e' : Entity}
    (he : e ∈ es) (he' : e' ∈ es) {f f' : Field} (hf : f ∈ e.fields) (hf' : f' ∈ e'.fields)
    (hid : f.id = f'.id) : e = e' ∧ f = f' := by
  obtain ⟨hentity, hpairwise⟩ := List.nodup_flatMap.mp h
  have hsame : e = e' := by
    by_contra hne
    have : Std.Symm (List.Disjoint.onFun fun e : Entity => e.fields.map Field.id) :=
      ⟨fun _ _ hdisjoint _ hx hy => hdisjoint hy hx⟩
    refine hpairwise.forall he he' hne (List.mem_map_of_mem hf) ?_
    exact hid ▸ List.mem_map_of_mem hf'
  subst hsame
  exact ⟨rfl, List.inj_on_of_nodup_map (hentity e he) hf hf' hid⟩

/-- If all ids are distinct, then those of the fields of one entity are. -/
lemma nodup_fieldIds {es : List Entity} (h : (modelIds es).Nodup) {e : Entity} (he : e ∈ es) :
    (e.fields.map Field.id).Nodup :=
  (List.nodup_cons.mp ((List.nodup_flatMap.mp h).1 e he)).2

/-- The entities, and the fields of each of them, have distinct ids, and none has the id of none. -/
structure HasDistinctIds (es : List Entity) : Prop where
  /-- The ids of the entities are distinct. -/
  ids : (es.map Entity.id).Nodup
  /-- The ids of the fields of an entity are distinct. -/
  fieldIds : ∀ e ∈ es, (e.fields.map Field.id).Nodup
  /-- None of the ids is that of none. -/
  resolved : ∀ id ∈ modelIds es, id ≠ .unresolved

instance (es : List Entity) : Decidable (HasDistinctIds es) :=
  decidable_of_iff
    ((es.map Entity.id).Nodup ∧ (∀ e ∈ es, (e.fields.map Field.id).Nodup) ∧
      ∀ id ∈ modelIds es, id ≠ .unresolved)
    ⟨fun ⟨hids, hfields, hresolved⟩ => ⟨hids, hfields, hresolved⟩,
      fun h => ⟨h.ids, h.fieldIds, h.resolved⟩⟩

/-! ## Renamings -/

open Classical in
/-- The renaming that takes the ids of one sequence to those of another one, and leaves all others
alone. -/
noncomputable def renamingTo (mint mint' : Nat → Id) (id : Id) : Id :=
  if h : ∃ n, mint n = id then mint' h.choose else id

lemma renamingTo_mint {mint : Nat → Id} (hinjective : Function.Injective mint)
    (mint' : Nat → Id) (n : Nat) : renamingTo mint mint' (mint n) = mint' n := by
  have hid : ∃ m, mint m = mint n := ⟨n, rfl⟩
  rw [renamingTo, dif_pos hid, hinjective hid.choose_spec]

lemma renamingTo_other {mint : Nat → Id} {id : Id} (hid : ∀ n, mint n ≠ id)
    (mint' : Nat → Id) : renamingTo mint mint' id = id :=
  dif_neg fun ⟨n, hn⟩ => hid n hn

/-! ## Supplies -/

namespace Supply

/-- The ids to come differ from each other and from the id of none. -/
structure IsFresh (s : Supply) : Prop where
  /-- Two draws give different ids. -/
  injective : ∀ m n, s.drawn ≤ m → s.drawn ≤ n → s.mint m = s.mint n → m = n
  /-- No draw gives the id of none. -/
  resolved : ∀ n, s.drawn ≤ n → s.mint n ≠ .unresolved

/-- The second supply is the first one after some draws. -/
structure Extends (s s' : Supply) : Prop where
  /-- The ids are given out in the same order. -/
  mint : s'.mint = s.mint
  /-- The draws add up. -/
  drawn : s.drawn ≤ s'.drawn

/-- The id was given out between the two states of a supply. -/
def Gave (s s' : Supply) (id : Id) : Prop :=
  ∃ n, s.drawn ≤ n ∧ n < s'.drawn ∧ s.mint n = id

variable {s s' s'' : Supply}

lemma Extends.refl (s : Supply) : s.Extends s :=
  ⟨rfl, Nat.le_refl _⟩

lemma Extends.trans (h : s.Extends s') (h' : s'.Extends s'') : s.Extends s'' :=
  ⟨h'.mint.trans h.mint, Nat.le_trans h.drawn h'.drawn⟩

lemma extends_draw (s : Supply) : s.Extends s.draw.2 :=
  ⟨rfl, Nat.le_succ _⟩

lemma IsFresh.of_extends (h : s.IsFresh) (h' : s.Extends s') : s'.IsFresh where
  injective m n hm hn heq := by
    rw [h'.mint] at heq
    exact h.injective m n (Nat.le_trans h'.drawn hm) (Nat.le_trans h'.drawn hn) heq
  resolved n hn := by
    rw [h'.mint]
    exact h.resolved n (Nat.le_trans h'.drawn hn)

/-- What was given out is still so after more draws. -/
lemma Gave.mono {id : Id} (h : Gave s s' id) (h' : s'.Extends s'') : Gave s s'' id := by
  obtain ⟨n, hn, hlt, hid⟩ := h
  exact ⟨n, hn, Nat.lt_of_lt_of_le hlt h'.drawn, hid⟩

lemma gave_draw (h : s.Extends s') : Gave s s'.draw.2 s'.draw.1 :=
  ⟨s'.drawn, h.drawn, Nat.lt_succ_self _, by rw [← h.mint]; rfl⟩

/-- The next id of a fresh supply has not been given out before. -/
lemma not_gave_draw (hfresh : s.IsFresh) (h : s.Extends s') : ¬ Gave s s' s'.draw.1 := by
  rintro ⟨n, hn, hlt, hid⟩
  have hnext : s'.draw.1 = s.mint s'.drawn := by
    rw [← h.mint]
    rfl
  exact absurd (hfresh.injective n s'.drawn hn h.drawn (hid.trans hnext)) (Nat.ne_of_lt hlt)

/-- A supply that counts in strokes. -/
def strokes : Supply where
  mint n := ⟨String.ofList (List.replicate (n + 1) '|')⟩

/-- No two numbers of strokes are the same, and none says that there is no id. -/
lemma isFresh_strokes : strokes.IsFresh where
  injective m n _ _ h := by
    have hlist := String.ofList_inj.mp (congrArg Id.text h)
    have hlength := congrArg List.length hlist
    rw [List.length_replicate, List.length_replicate] at hlength
    omega
  resolved n _ h := by
    have htext : String.ofList (List.replicate (n + 1) '|')
        = String.ofList Id.unresolved.text.toList := by
      rw [String.ofList_toList]
      exact congrArg Id.text h
    have hlist := String.ofList_inj.mp htext
    rw [List.replicate_succ] at hlist
    exact absurd (List.cons.inj hlist).1 (by decide)

lemma Gave.ne_unresolved {id : Id} (hfresh : s.IsFresh) (h : Gave s s' id) : id ≠ .unresolved := by
  obtain ⟨n, hn, -, rfl⟩ := h
  exact hfresh.resolved n hn

/-- What was given out before is not given out again. -/
lemma Gave.ne_later {id : Id} (hfresh : s.IsFresh) (h : Gave s s' id) (h' : s.Extends s') {n : Nat}
    (hn : s'.drawn ≤ n) : s'.mint n ≠ id := by
  obtain ⟨m, hm, hlt, rfl⟩ := h
  rw [h'.mint]
  intro heq
  have hsame := hfresh.injective n m (Nat.le_trans h'.drawn hn) hm heq
  omega

end Supply

end DiagramSync
