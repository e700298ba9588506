import DiagramSync.Proofs.Model.Sketch
import DiagramSync.Proofs.Store.Coherent
import DiagramSync.Proofs.Store.OwnIds

/-!
# References that do not dangle

A reference of a resolved model is unlinked, or it points at one of the entities, and there at one
of its fields or at none.  What is deleted takes with it whatever pointed at it, a field that is
updated keeps its id, and what comes in is checked or unlinked: so no edit leaves a reference that
points at nothing.

* `IsResolved` — no reference dangles
* `Edit.references`, `Edit.PointsWell` — the references that an edit brings in, and what is asked of
  them
* `reference_of_addField`, `reference_of_updateField` — the reference of a field that is added, and
  of one that is updated
* `isLocal_covers` — a reference does not dangle as long as what it points at is there
* `IsResolved.unlinkEntity`, `IsResolved.unlinkField`, `IsResolved.replaceField`,
  `isResolved_unlinkStrangers` — what is deleted, replaced or brought in
* **`IsResolved.of_made`** — every edit keeps a model resolved
-/

namespace DiagramSync

/-! ## References that are brought in -/

/-- Every reference is unlinked, or it points at one of the entities, and there at a field or at
none. -/
def IsResolved (es : List Entity) : Prop :=
  ∀ e ∈ es, ∀ f ∈ e.fields, ∀ r ∈ f.reference, r.IsLocal es

instance (es : List Entity) (r : Reference) : Decidable (r.IsLocal es) :=
  inferInstanceAs (Decidable (_ ∨ _))

instance (es : List Entity) : Decidable (IsResolved es) :=
  inferInstanceAs (Decidable (∀ e ∈ es, ∀ f ∈ e.fields, ∀ r ∈ f.reference, r.IsLocal es))

/-- The references that an edit brings in. -/
def Edit.references : Edit → List Reference
  | .addField _ attributes => attributes.reference.toList
  | .updateField _ _ updates =>
    match (Value.find? updates "fk_reference").map Reference.check with
    | some (.good r) => [r]
    | _ => []
  | .setEntities es => es.flatMap fun e => e.fields.filterMap Field.reference
  | _ => []

/-- The entities among which the references of an edit point: those of the model that it brings in,
or else those that are there. -/
def Edit.scope (es : List Entity) : Edit → List Entity
  | .setEntities replacement => replacement
  | _ => es

/-- Every reference that the edit brings in is resolved in its scope, or points at an entity that is
absent there. -/
def Edit.PointsWell (es : List Entity) (edit : Edit) : Prop :=
  ∀ r ∈ edit.references, r.IsLocal (edit.scope es) ∨ r.target ∉ (edit.scope es).map Entity.id

instance (es : List Entity) (edit : Edit) : Decidable (edit.PointsWell es) :=
  inferInstanceAs (Decidable (∀ r ∈ _, _))

/-! ## Fields that are read -/

/-- Two references point at the same. -/
def Reference.PointsAs (r r' : Reference) : Prop :=
  r.target = r'.target ∧ r.targetField = r'.targetField

section Reading

variable {unlinked : Cardinality} {fresh : Id} {f : Field}

lemma Reference.PointsAs.isLocal {es : List Entity} {r r' : Reference} (h : r.PointsAs r')
    (hr' : r'.IsLocal es) : r.IsLocal es := by
  obtain ⟨htarget, hfield⟩ := h
  rw [Reference.IsLocal, Reference.isLinked, htarget, hfield]
  exact hr'

/-- What is missing is no reference. -/
lemma check_null_ne_good (r : Reference) : Reference.check .null ≠ .good r := by
  intro h
  cases h

/-- The record of a reference points where the reference does. -/
lemma check_dump {r r' : Reference} (h : Reference.check r.dump = .good r') : r'.PointsAs r := by
  simp only [Reference.check, Reference.dump, seq_eq_good, map_eq_good] at h
  obtain ⟨_, _, ⟨_, _, ⟨_, _, ⟨target, htarget, rfl⟩, hfield, rfl⟩, -, rfl⟩, -, rfl⟩ := h
  exact ⟨congrArg Id.mk (Checked.good.inj htarget).symm,
    congrArg Id.mk (Checked.good.inj hfield).symm⟩

/-- The reference of a field that was read is the one that was in the record, or it points
nowhere. -/
lemma reference_of_check {as : List (String × Value)}
    (h : Field.check fresh (.record as) = .good f) {r : Reference} (hr : r ∈ f.reference) :
    r = {} ∨ ∃ v, Value.find? as "fk_reference" = some v ∧ Reference.check v = .good r := by
  obtain ⟨_, _, _, _, _, reference, -, -, -, -, -, hreference, rfl⟩ := fieldCheck_eq_good h
  simp only [Field.settle, Option.mem_def] at hr
  split_ifs at hr
  obtain rfl := Option.some.inj hr
  cases reference with
  | none => exact Or.inl rfl
  | some r =>
    rw [Checked.optional] at hreference
    cases hfind : Value.find? as "fk_reference" with
    | none =>
      rw [hfind] at hreference
      exact absurd (Checked.good.inj hreference).symm (Option.some_ne_none r)
    | some v =>
      rw [hfind] at hreference
      refine Or.inr ⟨v, rfl, ?_⟩
      have hgood := within_eq_good hreference
      cases v <;> simp_all [Reference.checkOptional, map_eq_good]

/-- A field that is added has the reference that comes with it, or it points nowhere. -/
lemma reference_of_addField {n : NewField}
    (h : Field.check fresh (.record (n.attributes unlinked)) = .good f) {r : Reference}
    (hr : r ∈ f.reference) : r.isLinked = false ∨ ∃ r' ∈ n.reference, r.PointsAs r' := by
  rcases reference_of_check h hr with rfl | ⟨v, hv, hcheck⟩
  · exact Or.inl rfl
  · cases hreference : n.reference with
    | some r' =>
      simp only [NewField.attributes, hreference] at hv
      obtain rfl := Option.some.inj hv
      exact Or.inr ⟨r', rfl, check_dump hcheck⟩
    | none =>
      left
      simp only [NewField.attributes, hreference] at hv
      obtain rfl := Option.some.inj hv
      split_ifs at hcheck
      · obtain ⟨htarget, -⟩ := check_dump hcheck
        rw [Reference.isLinked, htarget]
        rfl
      · exact absurd hcheck (check_null_ne_good r)

/-- What is read as the reference of a field that is updated. -/
lemma updatedReference_cases {updates : List (String × Value)} {v : Value}
    (h : Value.find? (updatedAttributes unlinked f updates) "fk_reference" = some v) :
    v = .null ∨ v = (unlinkedReference unlinked).dump ∨
      v = (Value.find? updates "fk_reference").getD
        ((f.reference.map Reference.dump).getD .null) := by
  have hlast : Value.find? f.dump "fk_reference"
      = some ((f.reference.map Reference.dump).getD .null) := rfl
  rw [find?_updatedAttributes, find?_overwrite, hlast, Option.map_some, Option.map_some,
    if_pos rfl] at h
  obtain rfl := Option.some.inj h
  cases (Value.find? updates "fk_reference").getD ((f.reference.map Reference.dump).getD .null) with
  | null =>
    rw [filledIn]
    split_ifs
    · exact Or.inr (Or.inl rfl)
    · exact Or.inl rfl
  | _ => exact Or.inr (Or.inr rfl)

/-- A field that is updated has the reference of the update or the one that it had before, or it
points nowhere. -/
lemma reference_of_updateField {id fieldId : Option Id} {updated : Field}
    {updates : List (String × Value)}
    (h : Field.check fresh (.record (updatedAttributes unlinked f updates)) = .good updated)
    {r : Reference} (hr : r ∈ updated.reference) :
    r.isLinked = false ∨ r ∈ (Edit.updateField id fieldId updates).references ∨
      ∃ r' ∈ f.reference, r.PointsAs r' := by
  rcases reference_of_check h hr with rfl | ⟨v, hv, hcheck⟩
  · exact Or.inl rfl
  rcases updatedReference_cases hv with rfl | rfl | hgiven
  · exact absurd hcheck (check_null_ne_good r)
  · obtain ⟨htarget, -⟩ := check_dump hcheck
    left
    rw [Reference.isLinked, htarget]
    rfl
  · cases hupdate : Value.find? updates "fk_reference" with
    | some v' =>
      obtain rfl : v = v' := by rw [hgiven, hupdate, Option.getD_some]
      right
      left
      rw [Edit.references, hupdate, Option.map_some, hcheck]
      exact List.mem_singleton_self r
    | none =>
      rw [hupdate, Option.getD_none] at hgiven
      cases hreference : f.reference with
      | none =>
        rw [hreference] at hgiven
        rw [hgiven] at hcheck
        exact absurd hcheck (check_null_ne_good r)
      | some r' =>
        rw [hreference] at hgiven
        rw [hgiven] at hcheck
        exact Or.inr (Or.inr ⟨r', rfl, check_dump hcheck⟩)

end Reading

/-! ## What references point at stays -/

/-- For every entity there is one with the same id, and its fields have the ids of the other one,
apart from the id of a field that is gone. -/
def Covers (gone : Option Id) (es es' : List Entity) : Prop :=
  ∀ t ∈ es, ∃ t' ∈ es', t'.id = t.id ∧
    ∀ f ∈ t.fields, some f.id ≠ gone → ∃ f' ∈ t'.fields, f'.id = f.id

section Covers

variable {gone : Option Id} {es es' pre post : List Entity} {e e' : Entity} {r : Reference}

/-- A reference stays resolved where what it points at is still there. -/
lemma isLocal_covers (h : Covers gone es es') (hr : r.IsLocal es)
    (hgone : some r.targetField = gone → r.targetField = .unresolved) : r.IsLocal es' := by
  rcases hr with hunlinked | ⟨t, ht, htarget, hfield⟩
  · exact Or.inl hunlinked
  · obtain ⟨t', ht', hid, hfields⟩ := h t ht
    refine Or.inr ⟨t', ht', htarget.trans hid.symm, ?_⟩
    rcases hfield with hnone | ⟨f, hf, hfield⟩
    · exact Or.inl hnone
    · by_cases hgone' : some f.id = gone
      · exact Or.inl (hgone (hfield ▸ hgone'))
      · obtain ⟨f', hf', hid'⟩ := hfields f hf hgone'
        exact Or.inr ⟨f', hf', hfield.trans hid'.symm⟩

lemma covers_of_subset (h : ∀ t ∈ es, t ∈ es') : Covers none es es' :=
  fun t ht => ⟨t, h t ht, rfl, fun f hf _ => ⟨f, hf, rfl⟩⟩

lemma covers_mapReferences (g : Reference → Reference) (es : List Entity) :
    Covers none es (es.map (·.mapReferences g)) :=
  fun t ht => ⟨t.mapReferences g, List.mem_map_of_mem ht, rfl,
    fun f hf _ => ⟨f.mapReference g, List.mem_map_of_mem hf, rfl⟩⟩

lemma covers_replace (hid : e'.id = e.id)
    (hfields : ∀ f ∈ e.fields, some f.id ≠ gone → ∃ f' ∈ e'.fields, f'.id = f.id) :
    Covers gone (pre ++ e :: post) (pre ++ e' :: post) := by
  intro t ht
  rcases List.mem_append.mp ht with ht | ht
  · exact ⟨t, List.mem_append_left _ ht, rfl, fun f hf _ => ⟨f, hf, rfl⟩⟩
  · rcases List.mem_cons.mp ht with rfl | ht
    · exact ⟨e', by simp, hid, hfields⟩
    · exact ⟨t, by simp [ht], rfl, fun f hf _ => ⟨f, hf, rfl⟩⟩

/-- A model is resolved if its references are replaced by resolved ones. -/
lemma isResolved_mapReferences {g : Reference → Reference}
    (hg : ∀ e ∈ es, ∀ f ∈ e.fields, ∀ r ∈ f.reference, (g r).IsLocal es) :
    IsResolved (es.map (·.mapReferences g)) := by
  intro x hx y hy r' hr'
  obtain ⟨e, he, rfl⟩ := List.mem_map.mp hx
  obtain ⟨f, hf, rfl⟩ := List.mem_map.mp hy
  obtain ⟨r, hr, rfl⟩ := Option.map_eq_some_iff.mp hr'
  exact isLocal_covers (covers_mapReferences g es) (hg e he f hf r hr) nofun

/-- Where an entity is replaced by one whose references are resolved, all references still are among
the entities that were there. -/
lemma IsResolved.beside (h : IsResolved (pre ++ e :: post))
    (hreferences : ∀ f ∈ e'.fields, ∀ r ∈ f.reference, r.IsLocal (pre ++ e :: post)) :
    ∀ x ∈ pre ++ e' :: post, ∀ f ∈ x.fields, ∀ r ∈ f.reference, r.IsLocal (pre ++ e :: post) := by
  intro x hx
  rcases List.mem_append.mp hx with hx | hx
  · exact h x (List.mem_append_left _ hx)
  · rcases List.mem_cons.mp hx with rfl | hx
    · exact hreferences
    · exact h x (List.mem_append_right _ (List.mem_cons_of_mem e hx))

/-- An entity may be replaced by one with the same ids whose references are resolved. -/
lemma IsResolved.replace (h : IsResolved (pre ++ e :: post)) (hid : e'.id = e.id)
    (hfields : ∀ f ∈ e.fields, ∃ f' ∈ e'.fields, f'.id = f.id)
    (hreferences : ∀ f ∈ e'.fields, ∀ r ∈ f.reference, r.IsLocal (pre ++ e :: post)) :
    IsResolved (pre ++ e' :: post) := by
  have hcovers : Covers none (pre ++ e :: post) (pre ++ e' :: post) :=
    covers_replace hid fun f hf _ => hfields f hf
  intro x hx f hf r hr
  exact isLocal_covers hcovers (h.beside hreferences x hx f hf r hr) nofun

end Covers

/-! ## Edits -/

section Edits

variable {unlinked : Cardinality} {edit : Edit} {es es' : List Entity} {s s' : Supply}

/-- The reference of a field that fits in is resolved unless its target is absent. -/
lemma Field.Fits.isLocal {e : Entity} {replaced : Option Id} {f : Field} (h : f.Fits es e replaced)
    {r : Reference} (hr : r ∈ f.reference)
    (hwell : r.IsLocal es ∨ r.target ∉ es.map Entity.id) : r.IsLocal es := by
  rcases hwell with hlocal | habsent
  · exact hlocal
  · cases hlinked : r.isLinked with
    | false => exact Or.inl hlinked
    | true =>
      obtain ⟨t, ht, hid⟩ := h.linked r hr hlinked
      exact absurd (List.mem_map.mpr ⟨t, ht, hid⟩) habsent

/-- What pointed at an entity that is deleted no longer points anywhere. -/
lemma IsResolved.unlinkEntity (h : IsResolved es) (id : Id) :
    IsResolved (DiagramSync.unlinkEntity id (es.eraseP fun x => x.id == id)) := by
  refine isResolved_mapReferences fun x hx f hf r hr => ?_
  by_cases htarget : r.target = id
  · rw [if_pos (beq_iff_eq.mpr htarget)]
    exact Or.inl (isLinked_unlink r)
  · rw [if_neg (by simpa using htarget)]
    rcases h x (List.mem_of_mem_eraseP hx) f hf r hr with hunlinked | ⟨t, ht, hid, hfield⟩
    · exact Or.inl hunlinked
    · refine Or.inr ⟨t, (List.mem_eraseP_of_neg ?_).mpr ht, hid, hfield⟩
      simpa [← hid] using htarget

/-- What pointed at a field that is deleted points at its entity alone. -/
lemma IsResolved.unlinkField {pre post : List Entity} {e : Entity}
    (h : IsResolved (pre ++ e :: post)) (id : Id) :
    IsResolved (DiagramSync.unlinkField id
      (pre ++ { e with fields := e.fields.eraseP fun g => g.id == id } :: post)) := by
  have hcovers : Covers (some id) (pre ++ e :: post)
      (pre ++ { e with fields := e.fields.eraseP fun g => g.id == id } :: post) := by
    refine covers_replace rfl fun g hg hgone => ⟨g, (List.mem_eraseP_of_neg ?_).mpr hg, rfl⟩
    simpa using hgone
  have hbefore : ∀ x ∈ pre ++ { e with fields := e.fields.eraseP fun g => g.id == id } :: post,
      ∀ g ∈ x.fields, ∀ r ∈ g.reference, r.IsLocal (pre ++ e :: post) :=
    h.beside fun g hg => h e (by simp) g (List.mem_of_mem_eraseP hg)
  refine isResolved_mapReferences fun x hx g hg r hr => ?_
  have hlocal := hbefore x hx g hg r hr
  by_cases htarget : r.targetField = id
  · rw [if_pos (beq_iff_eq.mpr htarget)]
    refine isLocal_covers hcovers ?_ fun _ => rfl
    rcases hlocal with hunlinked | ⟨t, ht, hid, -⟩
    · exact Or.inl hunlinked
    · exact Or.inr ⟨t, ht, hid, Or.inl rfl⟩
  · rw [if_neg (by simpa using htarget)]
    exact isLocal_covers hcovers hlocal fun hgone => absurd (Option.some.inj hgone) htarget

/-- A field may be replaced by one with its id whose reference is resolved. -/
lemma IsResolved.replaceField {pre post : List Entity} {e : Entity} {before after : List Field}
    {f f' : Field} (h : IsResolved (pre ++ e :: post)) (hfields : e.fields = before ++ f :: after)
    (hid : f'.id = f.id) (hreference : ∀ r ∈ f'.reference, r.IsLocal (pre ++ e :: post)) :
    IsResolved (pre ++ { e with fields := before ++ f' :: after } :: post) := by
  have he : ∀ g ∈ before ++ f :: after, ∀ r ∈ g.reference, r.IsLocal (pre ++ e :: post) :=
    hfields ▸ h e (by simp)
  refine h.replace rfl (fun g hg => ?_) fun g hg => ?_
  · rw [hfields] at hg
    rcases List.mem_append.mp hg with hg | hg
    · exact ⟨g, List.mem_append_left _ hg, rfl⟩
    · rcases List.mem_cons.mp hg with rfl | hg
      · exact ⟨f', by simp, hid⟩
      · exact ⟨g, by simp [hg], rfl⟩
  · rcases List.mem_append.mp hg with hg | hg
    · exact he g (List.mem_append_left _ hg)
    · rcases List.mem_cons.mp hg with rfl | hg
      · exact hreference
      · exact he g (List.mem_append_right _ (List.mem_cons_of_mem f hg))

/-- What points at an entity that is not in the model is unlinked. -/
lemma isResolved_unlinkStrangers {replacement : List Entity}
    (hwell : (Edit.setEntities replacement).PointsWell es) :
    IsResolved (unlinkStrangers replacement) := by
  refine isResolved_mapReferences fun x hx f hf r hr => ?_
  have hbrought : r ∈ (Edit.setEntities replacement).references :=
    List.mem_flatMap.mpr ⟨x, hx, List.mem_filterMap.mpr ⟨f, hf, hr⟩⟩
  by_cases hstranger : (r.isLinked && !replacement.any fun t => t.id == r.target) = true
  · rw [if_pos hstranger]
    exact Or.inl (isLinked_unlink r)
  · rw [if_neg hstranger]
    rcases hwell r hbrought with hlocal | habsent
    · exact hlocal
    · -- A reference that is left as it is and points at no entity of the model is not linked.
      left
      have hnone : (replacement.any fun t => t.id == r.target) = false := by
        rw [List.any_eq_false]
        intro t ht hid
        exact habsent (List.mem_map.mpr ⟨t, ht, beq_iff_eq.mp hid⟩)
      rw [hnone, Bool.not_false, Bool.and_true, Bool.not_eq_true] at hstranger
      exact hstranger

/-- **No edit leaves a reference that points at nothing**, if those that it brings in are resolved
or point at an entity that is absent. -/
theorem IsResolved.of_made (h : IsResolved es) (hmade : edit.Made unlinked es s es' s')
    (hwell : edit.PointsWell es) : IsResolved es' := by
  cases hmade with
  | addEntity free =>
    intro x hx f hf r hr
    refine isLocal_covers (covers_of_subset fun t => List.mem_append_left _) ?_ nofun
    rcases List.mem_append.mp hx with hx | hx
    · exact h x hx f hf r hr
    · rw [List.mem_singleton.mp hx] at hf
      exact absurd hf List.not_mem_nil
  | @renameEntity id _ e name found free =>
    obtain ⟨pre, post, rfl, hmodify⟩ := modifyEntity_eq found
    rw [hmodify]
    exact h.replace rfl (fun f hf => ⟨f, hf, rfl⟩) (h e (by simp))
  | @deleteEntity id e found => exact h.unlinkEntity e.id
  | @addField id attributes e f found read fits =>
    obtain ⟨pre, post, rfl, hmodify⟩ := modifyEntity_eq found
    rw [hmodify]
    refine h.replace rfl (fun g hg => ⟨g, List.mem_append_left _ hg, rfl⟩) fun g hg r hr => ?_
    rcases List.mem_append.mp hg with hg | hg
    · exact h e (by simp) g hg r hr
    · rw [List.mem_singleton.mp hg] at hr
      refine fits.isLocal hr ?_
      rcases reference_of_addField read hr with hunlinked | ⟨r', hr', hpoints⟩
      · exact Or.inl (Or.inl hunlinked)
      · rcases hwell r' (Option.mem_toList.mpr hr') with hlocal | habsent
        · exact Or.inl (hpoints.isLocal hlocal)
        · exact Or.inr (hpoints.1 ▸ habsent)
  | @updateField id fieldId updates e f updated found foundField known read fits =>
    obtain ⟨pre, post, rfl, hmodify⟩ := modifyEntity_eq found
    obtain ⟨before, after, hfields, hmodifyField⟩ := modifyField_eq foundField
    rw [hmodify, hmodifyField]
    refine h.replaceField hfields (check_updateField known read) fun r hr => fits.isLocal hr ?_
    rcases reference_of_updateField read hr with hunlinked | hgiven | ⟨r', hr', hpoints⟩
    · exact Or.inl (Or.inl hunlinked)
    · exact hwell r hgiven
    · exact Or.inl (hpoints.isLocal (h e (by simp) f (by simp [hfields]) r' hr'))
  | @deleteField id fieldId e f found foundField =>
    obtain ⟨pre, post, rfl, hmodify⟩ := modifyEntity_eq found
    rw [hmodify]
    exact h.unlinkField f.id
  | @setEntities replacement named distinct => exact isResolved_unlinkStrangers hwell

end Edits

end DiagramSync
