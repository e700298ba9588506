import DiagramSync.Proofs.Store.Edits

/-!
# Entities that hang together

Every edit protects the entities of a store in its own way: a name is checked, a reference is
checked, or whatever pointed at what is gone is unlinked.  Together they keep the entities coherent,
and they keep them apart from each other.

* `IsCoherent` — entities have names, and what references point at is there
* `TellsApart` — no two entities have the same id, or the same name but for case
* **`IsCoherent.of_made`**, **`TellsApart.of_made`** — every edit keeps both
-/

namespace DiagramSync

/-! ## What holds of the entities of a store -/

/-- The field has a reference exactly when it is a foreign key, and the reference points nowhere or
at an entity. -/
structure Field.IsSettledAmong (es : List Entity) (f : Field) : Prop where
  /-- There is a reference exactly on a foreign key. -/
  settled : f.reference.isSome = f.isForeign
  /-- What it points at is there. -/
  linked : ∀ r ∈ f.reference, r.isLinked = true → r.target ∈ es.map Entity.id

/-- No entity is without a name, and every field is settled. -/
structure IsCoherent (es : List Entity) : Prop where
  /-- Every entity has a name. -/
  named : ∀ e ∈ es, e.name ≠ ""
  /-- Every field is settled. -/
  fields : ∀ e ∈ es, ∀ f ∈ e.fields, f.IsSettledAmong es

/-- No two entities have the same id, and no two have the same name but for case. -/
structure TellsApart (es : List Entity) : Prop where
  /-- The ids are distinct. -/
  ids : (es.map Entity.id).Nodup
  /-- The names are distinct without regard to case. -/
  names : (es.map fun e => Text.foldName e.name).Nodup

section Coherent

variable {es es' : List Entity}

lemma Field.IsSettledAmong.mono {f : Field} (h : f.IsSettledAmong es)
    (hids : ∀ id ∈ es.map Entity.id, id ∈ es'.map Entity.id) : f.IsSettledAmong es' :=
  ⟨h.settled, fun r hr hlinked => hids _ (h.linked r hr hlinked)⟩

/-- A field that fits in is settled. -/
lemma Field.Fits.isSettledAmong {e : Entity} {replaced : Option Id} {f : Field}
    (h : f.Fits es e replaced) (hf : f.reference.isSome = f.isForeign) : f.IsSettledAmong es := by
  refine ⟨hf, fun r hr hlinked => ?_⟩
  obtain ⟨t, ht, hid⟩ := h.linked r hr hlinked
  exact List.mem_map.mpr ⟨t, ht, hid⟩

lemma isLinked_unlink (r : Reference) : r.unlink.isLinked = false := by
  simp [Reference.unlink, Reference.isLinked]

lemma map_name_mapReferences (g : Reference → Reference) (es : List Entity) :
    (es.map (·.mapReferences g)).map (fun e => Text.foldName e.name)
      = es.map fun e => Text.foldName e.name := by
  rw [List.map_map]
  rfl

/-- Entities stay coherent when their references are replaced by ones that point nowhere or at an
entity. -/
lemma isCoherent_mapReferences {g : Reference → Reference} (hnamed : ∀ e ∈ es, e.name ≠ "")
    (hsettled : ∀ e ∈ es, ∀ f ∈ e.fields, f.reference.isSome = f.isForeign)
    (hg : ∀ e ∈ es, ∀ f ∈ e.fields, ∀ r ∈ f.reference, (g r).isLinked = true →
      (g r).target ∈ es.map Entity.id) : IsCoherent (es.map (·.mapReferences g)) := by
  refine ⟨fun x hx => ?_, fun x hx y hy => ?_⟩
  · obtain ⟨e, he, rfl⟩ := List.mem_map.mp hx
    exact hnamed e he
  · obtain ⟨e, he, rfl⟩ := List.mem_map.mp hx
    obtain ⟨f, hf, rfl⟩ := List.mem_map.mp hy
    refine ⟨?_, fun r' hr' hlinked => ?_⟩
    · rw [Field.mapReference, Option.isSome_map]
      exact hsettled e he f hf
    · obtain ⟨r, hr, rfl⟩ := Option.map_eq_some_iff.mp hr'
      rw [map_id_mapReferences]
      exact hg e he f hf r hr hlinked

/-! ## One entity is replaced -/

variable {pre post : List Entity} {e e' : Entity}

/-- An entity may be replaced by one of the same id that has a name and settled fields. -/
lemma IsCoherent.replace (h : IsCoherent (pre ++ e :: post)) (hid : e'.id = e.id)
    (hname : e'.name ≠ "") (hfields : ∀ f ∈ e'.fields, f.IsSettledAmong (pre ++ e :: post)) :
    IsCoherent (pre ++ e' :: post) := by
  have hids : ∀ id ∈ (pre ++ e :: post).map Entity.id, id ∈ (pre ++ e' :: post).map Entity.id := by
    rw [map_id_replace hid]
    exact fun _ hmem => hmem
  refine ⟨fun x hx => ?_, fun x hx f hf => Field.IsSettledAmong.mono ?_ hids⟩
  · rcases List.mem_append.mp hx with hx | hx
    · exact h.named x (List.mem_append_left _ hx)
    · rcases List.mem_cons.mp hx with rfl | hx
      · exact hname
      · exact h.named x (List.mem_append_right _ (List.mem_cons_of_mem e hx))
  · rcases List.mem_append.mp hx with hx | hx
    · exact h.fields x (List.mem_append_left _ hx) f hf
    · rcases List.mem_cons.mp hx with rfl | hx
      · exact hfields f hf
      · exact h.fields x (List.mem_append_right _ (List.mem_cons_of_mem e hx)) f hf

end Coherent

/-! ## Edits -/

section Edits

variable {unlinked : Cardinality} {edit : Edit} {es es' : List Entity} {s s' : Supply}

/-- **Every edit keeps entities coherent**, if the entities that it puts in place of all others are
settled. -/
theorem IsCoherent.of_made (h : IsCoherent es) (hmade : edit.Made unlinked es s es' s')
    (hset : ∀ e ∈ edit.given, ∀ f ∈ e.fields, f.reference.isSome = f.isForeign) : IsCoherent es' := by
  cases hmade with
  | addEntity free =>
    refine ⟨fun x hx => ?_, fun x hx f hf => ?_⟩
    · rcases List.mem_append.mp hx with hx | hx
      · exact h.named x hx
      · rw [List.mem_singleton.mp hx]
        exact free.named
    · rcases List.mem_append.mp hx with hx | hx
      · refine (h.fields x hx f hf).mono fun id hid => ?_
        rw [List.map_append]
        exact List.mem_append_left _ hid
      · rw [List.mem_singleton.mp hx] at hf
        exact absurd hf List.not_mem_nil
  | @renameEntity id _ e name found free =>
    obtain ⟨pre, post, rfl, hmodify⟩ := modifyEntity_eq found
    rw [hmodify]
    exact h.replace rfl free.named (h.fields e (by simp))
  | @deleteEntity id e found =>
    have hsub : ∀ x ∈ es.eraseP (fun x => x.id == e.id), x ∈ es := fun x => List.mem_of_mem_eraseP
    refine isCoherent_mapReferences (fun x hx => h.named x (hsub x hx))
      (fun x hx f hf => (h.fields x (hsub x hx) f hf).settled) fun x hx f hf r hr hlinked => ?_
    -- What pointed at the entity that is gone no longer points anywhere.
    by_cases htarget : r.target = e.id
    · simp [htarget, isLinked_unlink] at hlinked
    · simp only [beq_iff_eq, htarget, if_false] at hlinked ⊢
      obtain ⟨t, ht, hid⟩ := List.mem_map.mp ((h.fields x (hsub x hx) f hf).linked r hr hlinked)
      refine List.mem_map.mpr ⟨t, (List.mem_eraseP_of_neg ?_).mpr ht, hid⟩
      simpa [hid] using htarget
  | @addField id attributes e f found read fits =>
    obtain ⟨pre, post, rfl, hmodify⟩ := modifyEntity_eq found
    rw [hmodify]
    refine h.replace rfl (h.named e (by simp)) fun g hg => ?_
    rcases List.mem_append.mp hg with hg | hg
    · exact h.fields e (by simp) g hg
    · rw [List.mem_singleton.mp hg]
      exact fits.isSettledAmong (check_eq_good read).1
  | @updateField id fieldId updates e f updated found foundField known read fits =>
    obtain ⟨pre, post, rfl, hmodify⟩ := modifyEntity_eq found
    obtain ⟨before, after, hfields, hmodifyField⟩ := modifyField_eq foundField
    rw [hmodify, hmodifyField]
    refine h.replace rfl (h.named e (by simp)) fun g hg => ?_
    rcases List.mem_append.mp hg with hg | hg
    · exact h.fields e (by simp) g (by simp [hfields, hg])
    · rcases List.mem_cons.mp hg with rfl | hg
      · exact fits.isSettledAmong (check_eq_good read).1
      · exact h.fields e (by simp) g (by simp [hfields, hg])
  | @deleteField id fieldId e f found foundField =>
    obtain ⟨pre, post, rfl, hmodify⟩ := modifyEntity_eq found
    rw [hmodify]
    have hremoved : IsCoherent
        (pre ++ { e with fields := e.fields.eraseP fun g => g.id == f.id } :: post) :=
      h.replace rfl (h.named e (by simp)) fun g hg =>
        h.fields e (by simp) g (List.mem_of_mem_eraseP hg)
    refine isCoherent_mapReferences hremoved.named
      (fun x hx g hg => (hremoved.fields x hx g hg).settled) fun x hx g hg r hr hlinked => ?_
    have htarget := (hremoved.fields x hx g hg).linked r hr
    split_ifs at hlinked ⊢
    · exact htarget hlinked
    · exact htarget hlinked
  | @setEntities replacement named distinct =>
    refine isCoherent_mapReferences named hset fun x hx f hf r hr hlinked => ?_
    by_cases hstranger : (r.isLinked && !replacement.any fun t => t.id == r.target) = true
    · rw [if_pos hstranger, isLinked_unlink] at hlinked
      exact absurd hlinked Bool.false_ne_true
    · rw [if_neg hstranger] at hlinked ⊢
      rw [hlinked, Bool.true_and, Bool.not_eq_true, Bool.not_eq_false', List.any_eq_true] at hstranger
      obtain ⟨t, ht, hid⟩ := hstranger
      exact List.mem_map.mpr ⟨t, ht, beq_iff_eq.mp hid⟩

lemma nodup_names_of_made (h : TellsApart es) (hmade : edit.Made unlinked es s es' s') :
    (es'.map fun e => Text.foldName e.name).Nodup := by
  cases hmade with
  | @addEntity value name free =>
    rw [List.map_append, List.nodup_append]
    refine ⟨h.names, List.nodup_singleton _, fun n hn n' hn' heq => ?_⟩
    obtain ⟨e, he, rfl⟩ := List.mem_map.mp hn
    rw [List.mem_singleton.mp hn'] at heq
    exact free.free e he (by simp) heq
  | @renameEntity id value e name found free =>
    obtain ⟨pre, post, rfl, hmodify⟩ := modifyEntity_eq found
    obtain ⟨-, rfl⟩ := findEntity?_eq_some found
    have hids := h.ids
    have hnames := h.names
    rw [List.map_append, List.map_cons, List.nodup_middle, List.nodup_cons, ← List.map_append]
      at hids hnames
    rw [hmodify, List.map_append, List.map_cons, List.nodup_middle, List.nodup_cons,
      ← List.map_append]
    refine ⟨fun hmem => ?_, hnames.2⟩
    obtain ⟨x, hx, hsame⟩ := List.mem_map.mp hmem
    -- No other entity has the id of the one that is renamed.
    refine free.free x ?_ (fun hid => hids.1 (List.mem_map.mpr ⟨x, hx, Option.some.inj hid⟩)) hsame
    rcases List.mem_append.mp hx with hx | hx
    · exact List.mem_append_left _ hx
    · exact List.mem_append_right _ (List.mem_cons_of_mem e hx)
  | @deleteEntity id e found =>
    have hsub : (es.eraseP fun x => x.id == e.id).Sublist es := List.eraseP_sublist
    rw [unlinkEntity, map_name_mapReferences]
    exact List.Nodup.sublist (List.Sublist.map _ hsub) h.names
  | @addField id attributes e f found read fits =>
    obtain ⟨pre, post, rfl, hmodify⟩ := modifyEntity_eq found
    rw [hmodify]
    simpa using h.names
  | @updateField id fieldId updates e f updated found foundField known read fits =>
    obtain ⟨pre, post, rfl, hmodify⟩ := modifyEntity_eq found
    rw [hmodify]
    simpa using h.names
  | @deleteField id fieldId e f found foundField =>
    obtain ⟨pre, post, rfl, hmodify⟩ := modifyEntity_eq found
    rw [hmodify, unlinkField, map_name_mapReferences]
    simpa using h.names
  | @setEntities replacement named distinct =>
    rw [unlinkStrangers, map_name_mapReferences]
    exact distinct

/-- **Every edit keeps entities apart**, if a new entity gets a new id and the entities that are put
in place of all others have distinct ids. -/
theorem TellsApart.of_made (h : TellsApart es) (hmade : edit.Made unlinked es s es' s')
    (hnew : edit.isAddition = true → s.draw.1 ∉ es.map Entity.id)
    (hset : (edit.given.map Entity.id).Nodup) : TellsApart es' :=
  ⟨nodup_ids_of_made h.ids hmade hnew hset, nodup_names_of_made h hmade⟩

end Edits

end DiagramSync
