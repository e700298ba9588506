import DiagramSync.Proofs.Opaque.Reading
import DiagramSync.Store.Reconcile

/-!
# Stores under other ids

An edit of a model under other ids, which names what it is about by these, is the edit of the model,
under other ids: it is refused for the same reason, and draws as many ids.  Reconciling compares
names, and ids only with each other, so that it goes alike as well.

* `Store.mapIds`, `Edited.mapIds` — a store and what an edit hands back, under other ids
* `demandEntity_draws`, `validEntityName_draws`, `demandFits_draws` — what is checked of an edit
* `unlinkEntity_mapIds`, `unlinkStrangers_mapIds` — references that are led along
* `isFieldUnder_attributes`, `isFieldUnder_updatedAttributes` — the records of fields
* **`run_draws`**, **`apply_draws`** — every edit
* `Reconciling.mapIds`, **`reconcile_mapIds`** — reconciling
-/

namespace DiagramSync

variable {g : Id → Id}

/-- The store with the ids in it replaced by their images. -/
def Store.mapIds (g : Id → Id) (s : Store) : Store :=
  { s with entities := s.entities.map (·.mapIds g) }

/-- What an edit hands back, with the ids in it replaced by their images. -/
def Edited.mapIds (g : Id → Id) : Edited → Edited
  | nothing => nothing
  | entity e => entity (e.mapIds g)
  | field f => field (f.mapIds g)

/-! ## Refusals -/

section Refusals

variable {α α' β β' : Type} {f : α → α'}

lemma throw_draws (e : Fault) :
    Draws g (Fault.mapIds g) f (throw e : Editing α) (throw (e.mapIds g)) := fun _ => rfl

/-- Nothing comes after a refusal. -/
lemma throw_bind_draws (e : Fault) (k : β → Editing α) (k' : β' → Editing α') :
    Draws g (Fault.mapIds g) f ((throw e : Editing β) >>= k) (throw (e.mapIds g) >>= k') :=
  fun _ => rfl

lemma ofReader_draws {x : Reader α} {x' : Reader α'} (h : Draws g id f x x') :
    Draws g (Fault.mapIds g) f (Editing.ofReader x) (Editing.ofReader x') := by
  intro s
  rw [Editing.ofReader, Editing.ofReader, h s]
  cases x s with
  | error reason => rfl
  | ok p => rfl

end Refusals

/-! ## What is checked -/

section Checks

variable (hg : IsRelabeling g)
include hg

lemma demandEntity_draws (es : List Entity) (id : Option Id) :
    Draws g (Fault.mapIds g) (·.mapIds g) (demandEntity es id)
      (demandEntity (es.map (·.mapIds g)) (id.map g)) := by
  rw [demandEntity, demandEntity, findEntity?_mapIds hg]
  cases findEntity? es id with
  | some e => exact Draws.pure e
  | none => exact throw_draws _

lemma demandField_draws (e : Entity) (id : Option Id) :
    Draws g (Fault.mapIds g) (·.mapIds g) (demandField e id)
      (demandField (e.mapIds g) (id.map g)) := by
  have hfind : (e.mapIds g).fields.find? (fun f => some f.id == id.map g)
      = (e.fields.find? fun f => some f.id == id).map (·.mapIds g) :=
    find?_map_of_iff (fun f => hg.beq_some f.id id) e.fields
  rw [demandField, demandField, hfind]
  cases e.fields.find? fun f => some f.id == id with
  | some f => exact Draws.pure f
  | none => exact throw_draws _

/-- Names are compared, and ids only to leave out what is renamed. -/
lemma validEntityName_draws (es : List Entity) (renamed : Option Id) (name : Value) :
    Draws g (Fault.mapIds g) id (validEntityName es renamed name)
      (validEntityName (es.map (·.mapIds g)) (renamed.map g) name) := by
  rw [validEntityName, validEntityName]
  cases name.nameText with
  | error shape => exact throw_draws _
  | ok text =>
    have hfind : (es.map (·.mapIds g)).find? (fun e => some e.id != renamed.map g &&
          Text.foldName e.name == Text.foldName (cleanEntityName text))
        = (es.find? fun e => some e.id != renamed &&
          Text.foldName e.name == Text.foldName (cleanEntityName text)).map (·.mapIds g) :=
      find?_map_of_iff (fun e => by rw [← hg.bne_some e.id renamed]; rfl) es
    dsimp only
    split_ifs
    · exact throw_bind_draws _ _ _
    · rw [hfind]
      cases es.find? fun e => some e.id != renamed &&
          Text.foldName e.name == Text.foldName (cleanEntityName text) with
      | some e => exact throw_draws _
      | none => exact Draws.pure _

lemma demandFits_draws (es : List Entity) (e : Entity) (replaced : Option Id) (f : Field) :
    Draws g (Fault.mapIds g) id (demandFits es e replaced f)
      (demandFits (es.map (·.mapIds g)) (e.mapIds g) (replaced.map g) (f.mapIds g)) := by
  have hfind : (e.mapIds g).fields.find? (fun x => some x.id != replaced.map g &&
        Text.foldName x.name == Text.foldName f.name)
      = (e.fields.find? fun x => some x.id != replaced &&
        Text.foldName x.name == Text.foldName f.name).map (·.mapIds g) :=
    find?_map_of_iff (fun x => by rw [← hg.bne_some x.id replaced]; rfl) e.fields
  have hname : (f.mapIds g).name = f.name := rfl
  have hreference : (f.mapIds g).reference = f.reference.map (·.mapIds g) := rfl
  rw [demandFits, demandFits, hname]
  split_ifs
  · exact throw_bind_draws _ _ _
  · rw [hfind]
    cases e.fields.find? fun x => some x.id != replaced &&
        Text.foldName x.name == Text.foldName f.name with
    | some x => exact throw_bind_draws _ _ _
    | none =>
      dsimp only [Option.map_none]
      rw [hreference]
      cases f.reference with
      | none => exact Draws.pure ()
      | some r =>
        dsimp only [Option.map_some]
        rw [isLinked_mapIds hg]
        split_ifs
        · exact (demandEntity_draws hg es (some r.target)).bind fun _ => Draws.pure ()
        · exact Draws.pure ()

omit hg in
lemma demandDistinct_draws (seen : List String) (es : List Entity) :
    Draws g (Fault.mapIds g) id (demandDistinct seen es)
      (demandDistinct seen (es.map (·.mapIds g))) := by
  induction es generalizing seen with
  | nil => exact Draws.pure ()
  | cons e es ih =>
    have hname : (e.mapIds g).name = e.name := rfl
    rw [List.map_cons, demandDistinct, demandDistinct, hname]
    split_ifs
    · exact throw_bind_draws _ _ _
    · cases seen.find? fun n => Text.foldName n == Text.foldName e.name with
      | some n => exact throw_draws _
      | none => exact ih _

end Checks

/-! ## What is changed -/

section Changes

lemma modifyFirst_map {α β : Type} {m : α → β} {p : α → Bool} {q : β → Bool} {h : α → α}
    {k : β → β} (hpq : ∀ x, q (m x) = p x) (hh : ∀ x, k (m x) = m (h x)) (xs : List α) :
    modifyFirst q k (xs.map m) = (modifyFirst p h xs).map m := by
  induction xs with
  | nil => rfl
  | cons x xs ih =>
    rw [List.map_cons, modifyFirst, modifyFirst, hpq]
    split_ifs
    · rw [hh, List.map_cons]
    · rw [ih, List.map_cons]

lemma eraseP_map_of_iff {α β : Type} {m : α → β} {p : α → Bool} {q : β → Bool}
    (hpq : ∀ x, q (m x) = p x) (xs : List α) : (xs.map m).eraseP q = (xs.eraseP p).map m := by
  rw [List.eraseP_map]
  exact congrArg (fun r => (xs.eraseP r).map m) (funext hpq)

lemma modifyEntity_mapIds (hg : IsRelabeling g) {h k : Entity → Entity}
    (hh : ∀ e, k (e.mapIds g) = (h e).mapIds g) (id : Id) (es : List Entity) :
    modifyEntity (g id) k (es.map (·.mapIds g)) = (modifyEntity id h es).map (·.mapIds g) :=
  modifyFirst_map (fun e => hg.beq e.id id) hh es

/-- References are led along in the same way under other ids, if each of them is. -/
lemma mapReferences_all {h k : Reference → Reference}
    (hh : ∀ r, k (r.mapIds g) = (h r).mapIds g) (es : List Entity) :
    (es.map (·.mapIds g)).map (·.mapReferences k)
      = (es.map (·.mapReferences h)).map (·.mapIds g) := by
  rw [List.map_map, List.map_map]
  exact List.map_congr_left fun e _ => mapReferences_mapIds hh e

variable (hg : IsRelabeling g)
include hg

lemma unlinkEntity_mapIds (id : Id) (es : List Entity) :
    unlinkEntity (g id) (es.map (·.mapIds g)) = (unlinkEntity id es).map (·.mapIds g) := by
  refine mapReferences_all (fun r => ?_) es
  have htarget : ((r.mapIds g).target == g id) = (r.target == id) := hg.beq r.target id
  rw [htarget]
  split_ifs
  · exact unlink_mapIds hg r
  · rfl

lemma unlinkField_mapIds (id : Id) (es : List Entity) :
    unlinkField (g id) (es.map (·.mapIds g)) = (unlinkField id es).map (·.mapIds g) := by
  refine mapReferences_all (fun r => ?_) es
  have htarget : ((r.mapIds g).targetField == g id) = (r.targetField == id) :=
    hg.beq r.targetField id
  rw [htarget]
  split_ifs
  · simp only [Reference.mapIds, hg.unresolved]
  · rfl

lemma unlinkStrangers_mapIds (es : List Entity) :
    unlinkStrangers (es.map (·.mapIds g)) = (unlinkStrangers es).map (·.mapIds g) := by
  refine mapReferences_all (fun r => ?_) es
  have hany : (es.map (·.mapIds g)).any (fun t => t.id == (r.mapIds g).target)
      = es.any fun t => t.id == r.target := by
    rw [List.any_map]
    exact congrArg es.any (funext fun t => hg.beq t.id r.target)
  rw [isLinked_mapIds hg, hany]
  split_ifs
  · exact unlink_mapIds hg r
  · rfl

end Changes

/-! ## The records of fields -/

section Records

lemma unlinkedReference_mapIds (hg : IsRelabeling g) (unlinked : Cardinality) :
    (unlinkedReference unlinked).dump.mapIds g = (unlinkedReference unlinked).dump := by
  rw [← dump_mapIds]
  simp only [unlinkedReference, Reference.mapIds, hg.unresolved]

/-- The record of a new field under other ids. -/
lemma isFieldUnder_attributes (hg : IsRelabeling g) (unlinked : Cardinality) (n : NewField) :
    IsFieldUnder g (n.attributes unlinked)
      ({ n with reference := n.reference.map (·.mapIds g) : NewField }.attributes unlinked) := by
  refine ⟨rfl, fun name hname => Or.inl ?_, ?_⟩
  · simp only [plainAttributes, List.mem_cons, List.not_mem_nil, or_false] at hname
    rcases hname with rfl | rfl | rfl | rfl | rfl <;> rfl
  · refine congrArg some ?_
    cases hreference : n.reference with
    | some r =>
      simp only [Option.map_some]
      exact dump_mapIds r
    | none =>
      simp only [Option.map_none]
      split_ifs
      · exact (unlinkedReference_mapIds hg unlinked).symm
      · rfl

/-- The record of a field under other ids has the same attributes, under other ids. -/
lemma find?_dump_mapIds (f : Field) {name : String} (hname : name ∈ updatableAttributes) :
    Value.find? (f.mapIds g).dump name = (Value.find? f.dump name).map (·.mapIds g) := by
  obtain ⟨id, fieldName, type, isPrimary, isForeign, description, reference⟩ := f
  simp only [updatableAttributes, List.mem_cons, List.not_mem_nil, or_false] at hname
  rcases hname with rfl | rfl | rfl | rfl | rfl | rfl
  · rfl
  · rfl
  · rfl
  · rfl
  · cases description <;> rfl
  · cases reference with
    | none => rfl
    | some r => exact congrArg some (dump_mapIds r)

/-- The record of a field after updates under other ids. -/
lemma isFieldUnder_updatedAttributes (hg : IsRelabeling g) (unlinked : Cardinality) (f : Field)
    {updates : List (String × Value)} (hknown : ∀ u ∈ updates, u.1 ∈ updatableAttributes) :
    IsFieldUnder g (updatedAttributes unlinked f updates)
      (updatedAttributes unlinked (f.mapIds g) (updates.map fun u => (u.1, u.2.mapIds g))) := by
  have hmapped : ∀ name, Value.find? (updates.map fun u => (u.1, u.2.mapIds g)) name
      = (Value.find? updates name).map (·.mapIds g) :=
    find?_map_keyed (fun _ v => v.mapIds g) updates
  have hmerged : ∀ name ∈ updatableAttributes,
      Value.find? (overwrite (f.mapIds g).dump (updates.map fun u => (u.1, u.2.mapIds g))) name
        = (Value.find? (overwrite f.dump updates) name).map (·.mapIds g) := by
    intro name hname
    rw [find?_overwrite, find?_overwrite, find?_dump_mapIds f hname, hmapped, Option.map_map,
      Option.map_map]
    refine congrArg (Option.map · _) (funext fun v => ?_)
    rw [Function.comp_apply, Function.comp_apply, Option.getD_map]
  refine ⟨?_, fun name hname => Or.inr ?_, ?_⟩
  · rw [find?_updatedAttributes, find?_updatedAttributes, find?_overwrite, find?_overwrite, hmapped,
      find?_id_of_known hknown]
    rfl
  · have hplain : ∀ name ∈ plainAttributes, name ≠ "fk_reference" ∧ name ∈ updatableAttributes := by
      decide
    obtain ⟨hne, hmem⟩ := hplain name hname
    simp only [find?_updatedAttributes, if_neg hne, Option.map_id', hmerged name hmem]
  · have hforeign : ((Value.record (overwrite (f.mapIds g).dump
          (updates.map fun u => (u.1, u.2.mapIds g)))).get "is_fk").isTruthy
        = ((Value.record (overwrite f.dump updates)).get "is_fk").isTruthy := by
      have hmap := map_read_congr Value.isTruthy (isTruthy_mapIds g)
        (Or.inr (hmerged "is_fk" (by decide)))
      rw [Value.get, Value.get, Value.lookup?, Value.lookup?, ← Option.getD_map Value.isTruthy, hmap,
        Option.getD_map]
    rw [find?_updatedAttributes, find?_updatedAttributes, hmerged "fk_reference" (by decide),
      Option.map_map, Option.map_map]
    refine congrArg (Option.map · _) (funext fun v => ?_)
    rw [Function.comp_apply, Function.comp_apply, if_pos rfl, if_pos rfl]
    cases v with
    | null =>
      show filledIn unlinked _ .null = (filledIn unlinked _ .null).mapIds g
      rw [filledIn, filledIn, hforeign]
      split_ifs
      · exact (unlinkedReference_mapIds hg unlinked).symm
      · rfl
    | _ => rfl

end Records

/-! ## Every edit -/

/-- The entities after an edit and what it hands back, with the ids in them replaced by their
images. -/
def mapMade (g : Id → Id) (p : List Entity × Edited) : List Entity × Edited :=
  (p.1.map (·.mapIds g), p.2.mapIds g)

lemma made_draws {es es' : List Entity} {edited edited' : Edited}
    (hes : es' = es.map (·.mapIds g)) (hedited : edited' = edited.mapIds g) :
    Draws g (Fault.mapIds g) (mapMade g) (pure (es, edited) : Editing (List Entity × Edited))
      (pure (es', edited')) := by
  rw [hes, hedited]
  exact Draws.pure (es, edited)

section Runs

variable (hg : IsRelabeling g) (unlinked : Cardinality) (es : List Entity)
include hg

lemma addEntity_draws (name : Value) :
    Draws g (Fault.mapIds g) (mapMade g) (runAddEntity es name)
      (runAddEntity (es.map (·.mapIds g)) name) := by
  refine (validEntityName_draws hg es none name).bind fun name => ?_
  refine (ofReader_draws draw_draws).bind fun id => made_draws ?_ rfl
  rw [List.map_append]
  rfl

lemma renameEntity_draws (entity : Option Id) (name : Value) :
    Draws g (Fault.mapIds g) (mapMade g) (runRenameEntity es entity name)
      (runRenameEntity (es.map (·.mapIds g)) (entity.map g) name) := by
  refine (demandEntity_draws hg es entity).bind fun e => ?_
  refine (validEntityName_draws hg es entity name).bind fun name => made_draws ?_ rfl
  exact modifyEntity_mapIds hg (h := fun _ => { e with name })
    (k := fun _ => Entity.mapIds g { e with name }) (fun _ => rfl) e.id es

lemma deleteEntity_draws (entity : Option Id) :
    Draws g (Fault.mapIds g) (mapMade g) (runDeleteEntity es entity)
      (runDeleteEntity (es.map (·.mapIds g)) (entity.map g)) := by
  refine (demandEntity_draws hg es entity).bind fun e => made_draws ?_ rfl
  have herase : (es.map (·.mapIds g)).eraseP (fun x => x.id == g e.id)
      = (es.eraseP fun x => x.id == e.id).map (·.mapIds g) :=
    eraseP_map_of_iff (fun x => hg.beq x.id e.id) es
  exact (congrArg (unlinkEntity (g e.id)) herase).trans (unlinkEntity_mapIds hg e.id _)

lemma addField_draws (entity : Option Id) (n : NewField) :
    Draws g (Fault.mapIds g) (mapMade g) (runAddField unlinked es entity n)
      (runAddField unlinked (es.map (·.mapIds g)) (entity.map g)
        { n with reference := n.reference.map (·.mapIds g) }) := by
  refine (demandEntity_draws hg es entity).bind fun e => ?_
  have hread := readField_draws hg (isFieldUnder_attributes hg unlinked n)
  refine (ofReader_draws hread).bind fun f => ?_
  refine (demandFits_draws hg es e none f).bind fun _ => made_draws ?_ rfl
  refine modifyEntity_mapIds hg (fun e => ?_) e.id es
  simp only [Entity.mapIds, List.map_append, List.map_cons, List.map_nil]

lemma updateField_draws (entity field : Option Id) (updates : List (String × Value)) :
    Draws g (Fault.mapIds g) (mapMade g) (runUpdateField unlinked es entity field updates)
      (runUpdateField unlinked (es.map (·.mapIds g)) (entity.map g) (field.map g)
        (updates.map fun u => (u.1, u.2.mapIds g))) := by
  refine (demandEntity_draws hg es entity).bind fun e => ?_
  refine (demandField_draws hg e field).bind fun f => ?_
  have hnames : (updates.map fun u => (u.1, u.2.mapIds g)).map (·.1) = updates.map (·.1) := by
    rw [List.map_map]
    rfl
  rw [hnames]
  dsimp only
  split_ifs with hunknown
  · exact throw_bind_draws _ _ _
  · have hknown : ∀ u ∈ updates, u.1 ∈ updatableAttributes := by
      simpa using hunknown
    have hread := readField_draws hg (isFieldUnder_updatedAttributes hg unlinked f hknown)
    refine (ofReader_draws hread).bind fun updated => ?_
    refine (demandFits_draws hg es e field updated).bind fun _ => made_draws ?_ rfl
    refine modifyEntity_mapIds hg (fun e => ?_) e.id es
    have hfields : modifyFirst (fun x => x.id == g f.id) (fun _ => updated.mapIds g)
          (e.fields.map (·.mapIds g))
        = (modifyFirst (fun x => x.id == f.id) (fun _ => updated) e.fields).map (·.mapIds g) :=
      modifyFirst_map (m := Field.mapIds g) (h := fun _ => updated) (fun x => hg.beq x.id f.id)
        (fun _ => rfl) e.fields
    exact congrArg (Entity.mk (g e.id) e.name) hfields

lemma deleteField_draws (entity field : Option Id) :
    Draws g (Fault.mapIds g) (mapMade g) (runDeleteField es entity field)
      (runDeleteField (es.map (·.mapIds g)) (entity.map g) (field.map g)) := by
  refine (demandEntity_draws hg es entity).bind fun e => ?_
  refine (demandField_draws hg e field).bind fun f => made_draws ?_ rfl
  rw [← unlinkField_mapIds hg]
  refine congrArg (unlinkField (g f.id)) (modifyEntity_mapIds hg (fun e => ?_) e.id es)
  have herase : (e.fields.map (·.mapIds g)).eraseP (fun x => x.id == g f.id)
      = (e.fields.eraseP fun x => x.id == f.id).map (·.mapIds g) :=
    eraseP_map_of_iff (fun x => hg.beq x.id f.id) e.fields
  exact congrArg (Entity.mk (g e.id) e.name) herase

/-- **Every edit goes alike under other ids.** -/
theorem run_draws (edit : Edit) :
    Draws g (Fault.mapIds g) (mapMade g) (edit.run unlinked es)
      ((edit.mapIds g).run unlinked (es.map (·.mapIds g))) := by
  cases edit with
  | addEntity name => exact addEntity_draws hg es name
  | renameEntity entity name => exact renameEntity_draws hg es entity name
  | deleteEntity entity => exact deleteEntity_draws hg es entity
  | addField entity attributes => exact addField_draws hg unlinked es entity attributes
  | updateField entity field updates => exact updateField_draws hg unlinked es entity field updates
  | deleteField entity field => exact deleteField_draws hg es entity field
  | setEntities entities =>
    exact (demandDistinct_draws [] entities).bind fun _ =>
      made_draws (unlinkStrangers_mapIds hg entities) rfl

end Runs

/-- **An edit that may depend on the version goes alike as well.** -/
theorem apply_draws (hg : IsRelabeling g) (unlinked : Cardinality) (expected : Option Int)
    (edit : Edit) (s : Store) :
    Draws g (Fault.mapIds g) (fun p => (p.1.mapIds g, p.2.mapIds g))
      (s.apply unlinked expected edit)
      ((s.mapIds g).apply unlinked expected (edit.mapIds g)) := by
  have hrun : Draws g (Fault.mapIds g) (fun p => (p.1.mapIds g, p.2.mapIds g))
      (edit.run unlinked s.entities >>= fun p =>
        pure (({ entities := p.1, version := s.version + 1 } : Store), p.2))
      ((edit.mapIds g).run unlinked (s.entities.map (·.mapIds g)) >>= fun p =>
        pure ({ entities := p.1, version := s.version + 1 }, p.2)) :=
    (run_draws hg unlinked s.entities edit).bind fun p => Draws.pure (_, p.2)
  have hversion : (s.mapIds g).version = s.version := rfl
  unfold Store.apply
  rw [hversion]
  cases expected with
  | none => exact hrun
  | some v =>
    dsimp only
    split_ifs
    · exact throw_bind_draws _ _ _
    · exact hrun

/-- The entity of a name is found without regard to ids. -/
lemma findNamed?_mapIds (g : Id → Id) (name : String) (s : Store) :
    (s.mapIds g).findNamed? name = (s.findNamed? name).map (·.mapIds g) :=
  find?_map_of_iff (fun _ => rfl) s.entities

/-! ## Reconciling -/

/-- What has been reconciled so far, with the ids in it replaced by their images. -/
def Reconciling.mapIds (g : Id → Id) (s : Reconciling) : Reconciling where
  claimed := s.claimed.map g
  entityIds := s.entityIds.map (Prod.map g g)
  fieldIds := s.fieldIds.map (Prod.map g g)
  merged := s.merged.map (·.mapIds g)

section Reconcile

variable (hg : IsRelabeling g)
include hg

lemma renamed_mapIds (renamings : List (Id × Id)) (id : Id) :
    renamed (renamings.map (Prod.map g g)) (g id) = g (renamed renamings id) := by
  have hfind : (renamings.map (Prod.map g g)).find? (fun r => r.1 == g id)
      = (renamings.find? fun r => r.1 == id).map (Prod.map g g) :=
    find?_map_of_iff (fun r => hg.beq r.1 id) renamings
  rw [renamed, renamed, hfind]
  cases renamings.find? fun r => r.1 == id with
  | none => rfl
  | some r => rfl

lemma previousOf_mapIds (current : List Entity) (claimed : List Id) (e : Entity) :
    previousOf (current.map (·.mapIds g)) (claimed.map g) (e.mapIds g)
      = (previousOf current claimed e).map (·.mapIds g) := by
  have hfind : (current.map (·.mapIds g)).reverse.find?
        (fun p => Text.foldName p.name == Text.foldName e.name)
      = (current.reverse.find? fun p => Text.foldName p.name == Text.foldName e.name).map
        (·.mapIds g) := by
    rw [← List.map_reverse]
    exact find?_map_of_iff (fun _ => rfl) current.reverse
  have hclaimed : ∀ id, (claimed.map g).contains (g id) = claimed.contains id := by
    intro id
    simp only [List.contains_eq_mem, List.mem_map_of_injective hg.injective]
  have hname : (e.mapIds g).name = e.name := rfl
  rw [previousOf, previousOf, hname, hfind]
  cases current.reverse.find? fun p => Text.foldName p.name == Text.foldName e.name with
  | none => rfl
  | some p =>
    have hid : (p.mapIds g).id = g p.id := rfl
    simp only [Option.map_some, bind, Option.bind_some, hid, hclaimed]
    split_ifs
    · rfl
    · rfl

omit hg in
lemma keptFieldId_mapIds (previous : Option Entity) (f : Field) :
    keptFieldId (previous.map (·.mapIds g)) (f.mapIds g) = g (keptFieldId previous f) := by
  have hname : (f.mapIds g).name = f.name := rfl
  rw [keptFieldId, keptFieldId, hname]
  cases previous with
  | none => rfl
  | some p =>
    rw [Option.map_some, Option.bind_some, Option.bind_some, findFieldNamed?_mapIds]
    cases p.findFieldNamed? f.name with
    | none => rfl
    | some old => rfl

/-- One entity is reconciled alike. -/
lemma step_mapIds (current : List Entity) (s : Reconciling) (e : Entity) :
    Reconciling.step (current.map (·.mapIds g)) (s.mapIds g) (e.mapIds g)
      = (Reconciling.step current s e).mapIds g := by
  have hprevious : previousOf (current.map (·.mapIds g)) (s.mapIds g).claimed (e.mapIds g)
      = (previousOf current s.claimed e).map (·.mapIds g) := previousOf_mapIds hg _ _ _
  rw [Reconciling.step, Reconciling.step, hprevious]
  generalize previousOf current s.claimed e = previous
  have hid : ((previous.map (·.mapIds g)).map (·.id)).getD (e.mapIds g).id
      = g ((previous.map (·.id)).getD e.id) := by
    cases previous <;> rfl
  have hfields : (e.mapIds g).fields.map (fun f => { f with
        id := keptFieldId (previous.map (·.mapIds g)) f })
      = (e.fields.map fun f => { f with id := keptFieldId previous f }).map (·.mapIds g) := by
    rw [Entity.mapIds, List.map_map, List.map_map]
    refine List.map_congr_left fun f _ => ?_
    rw [Function.comp_apply, keptFieldId_mapIds]
    rfl
  have hfieldIds : ((e.mapIds g).fields.map fun f =>
        (f.id, keptFieldId (previous.map (·.mapIds g)) f))
      = (e.fields.map fun f => (f.id, keptFieldId previous f)).map (Prod.map g g) := by
    rw [Entity.mapIds, List.map_map, List.map_map]
    refine List.map_congr_left fun f _ => ?_
    rw [Function.comp_apply, keptFieldId_mapIds]
    rfl
  simp only [Reconciling.mapIds, hid, hfields, hfieldIds, List.map_append, List.map_reverse,
    List.map_cons, List.map_nil]
  rfl

/-- References are led along alike. -/
lemma rename_mapIds (entityIds fieldIds : List (Id × Id)) (r : Reference) :
    (r.mapIds g).rename (entityIds.map (Prod.map g g)) (fieldIds.map (Prod.map g g))
      = (r.rename entityIds fieldIds).mapIds g := by
  rw [Reference.rename, Reference.rename, isLinked_mapIds hg]
  split_ifs
  · simp only [Reference.mapIds, renamed_mapIds hg]
  · rfl

/-- **Reconciling goes alike under other ids.** -/
theorem reconcile_mapIds (current parsed : List Entity) :
    reconcile (current.map (·.mapIds g)) (parsed.map (·.mapIds g))
      = (reconcile current parsed).map (·.mapIds g) := by
  have hfold : ∀ (es : List Entity) (s : Reconciling),
      (es.map (·.mapIds g)).foldl (Reconciling.step (current.map (·.mapIds g))) (s.mapIds g)
        = (es.foldl (Reconciling.step current) s).mapIds g := by
    intro es
    induction es with
    | nil => exact fun _ => rfl
    | cons e es ih =>
      intro s
      rw [List.map_cons, List.foldl_cons, List.foldl_cons, step_mapIds hg]
      exact ih _
  have hall := hfold parsed {}
  have hempty : ({} : Reconciling).mapIds g = {} := rfl
  rw [hempty] at hall
  rw [reconcile, reconcile, hall]
  exact mapReferences_all (rename_mapIds hg _ _) _

end Reconcile

end DiagramSync
