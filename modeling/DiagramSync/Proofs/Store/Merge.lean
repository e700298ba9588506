import DiagramSync.Proofs.Diagram.Accepted
import DiagramSync.Proofs.Store.OwnIds
import DiagramSync.Proofs.Store.Reconcile

/-!
# Putting a text into a store

A model that was read from a text is reconciled with the entities of the store and put in their
place. Nothing that the text says is lost on the way: reconciling only changes ids, and there is
nothing to unlink, for every reference points at an entity of the text itself.  What can go wrong is
that two names are the same but for case.

* `unlinkStrangers_eq_self` — there is nothing to unlink where every target is there
* `IsMerged` — what holds of a model that was read and reconciled
* **`isMerged_reconcile`** — it does
* `run_setEntities`, `IsMerged.run_setEntities` — putting it into the store
-/

namespace DiagramSync

open Text

/-- Where every target is there, nothing is unlinked. -/
lemma unlinkStrangers_eq_self {es : List Entity}
    (h : ∀ e ∈ es, ∀ f ∈ e.fields, ∀ r, f.reference = some r → r.IsLocal es) :
    unlinkStrangers es = es := by
  have hfield : ∀ e ∈ es, ∀ f ∈ e.fields, f.mapReference (fun r =>
      if r.isLinked && !es.any (fun t => t.id == r.target) then r.unlink else r) = f := by
    intro e he f hf
    have hreference : f.reference.map (fun r =>
        if r.isLinked && !es.any (fun t => t.id == r.target) then r.unlink else r) = f.reference := by
      cases hr : f.reference with
      | none => rfl
      | some r =>
        rw [Option.map_some]
        rcases h e he f hf r hr with hunlinked | ⟨t, ht, htarget, -⟩
        · rw [hunlinked, Bool.false_and, if_neg Bool.false_ne_true]
        · have hthere : es.any (fun t => t.id == r.target) = true :=
            List.any_eq_true.mpr ⟨t, ht, beq_iff_eq.mpr htarget.symm⟩
          rw [hthere, Bool.not_true, Bool.and_false, if_neg Bool.false_ne_true]
    rw [Field.mapReference, hreference]
  have hentity : ∀ e ∈ es, e.mapReferences (fun r =>
      if r.isLinked && !es.any (fun t => t.id == r.target) then r.unlink else r) = e := by
    intro e he
    rw [Entity.mapReferences, List.map_congr_left (hfield e he), List.map_id']
  rw [unlinkStrangers, List.map_congr_left hentity, List.map_id']

/-- What holds of a model that was read as `es` and then reconciled with the entities of a store. -/
structure IsMerged (supply : Supply) (es merged : List Entity) : Prop where
  /-- It says what was read. -/
  sketch : sketch merged = sketch es
  /-- Its ids are distinct, and none is still to come. -/
  ids : HasOwnIds supply merged
  /-- Its entities have the names that were read. -/
  names : merged.map Entity.name = es.map Entity.name
  /-- Every entity has a name. -/
  named : ∀ e ∈ merged, e.name ≠ ""
  /-- There is nothing to unlink. -/
  unlinked : unlinkStrangers merged = merged

/-- **A text that was read and reconciled still says what was read.** -/
theorem isMerged_reconcile {resolver : Resolver} {unlinked : Cardinality} {supply supply' : Supply}
    {text : String} {current es : List Entity} {rs : List Relationship} {ws : List Warning}
    (hresolver : resolver.PicksForeign) (hfresh : supply.IsFresh) (hcurrent : HasOwnIds supply current)
    (h : parse resolver unlinked supply text = (.accepted es rs ws, supply')) :
    IsMerged supply' es (reconcile current es) := by
  obtain ⟨hread, hids, hgiven⟩ := isRead_parse hresolver hfresh h
  have hlater := extends_parse hfresh h
  have hlocal : ∀ e ∈ es, ∀ f ∈ e.fields, ∀ r, f.reference = some r → r.IsLocal es :=
    fun e he f hf r hr => (hread.references e he f hf r hr).isLocal
  obtain ⟨hdistinct, hpast⟩ := hasOwnIds_iff.mp hcurrent
  have hnew : IsNewTo current es := by
    refine ⟨hread.toIsNamed, hids, fun id hid => (hgiven id hid).ne_unresolved hfresh, ?_⟩
    intro id hid hmem
    obtain ⟨n, hn, -, hmint⟩ := hgiven id hid
    exact (hpast id hmem).past n hn hmint
  obtain ⟨hsketch, hapart⟩ := sketch_reconcile hdistinct hnew hlocal
  have hrenamed := reconcile_eq_map (nodup_entityIds hids) (nodup_allFieldIds hids) current
  refine ⟨hsketch, hasOwnIds_iff.mpr ⟨hapart, fun id hid => ?_⟩, ?_, ?_, ?_⟩
  · rcases mem_modelIds_reconcile hids hid with hid | hid
    · exact (hpast id hid).of_extends hlater
    · exact (hgiven id hid).avoids hfresh hlater
  · rw [hrenamed, List.map_map]
    rfl
  · rw [hrenamed]
    exact hread.toIsNamed.renameIds.named
  · exact unlinkStrangers_eq_self (isLocal_reconcile hids hnew.resolved hlocal current)

/-- Entities with names are put into a store, unless two names are the same but for case. -/
lemma run_setEntities {merged : List Entity} (hnamed : ∀ e ∈ merged, e.name ≠ "")
    (unlinked : Cardinality) (current : List Entity) (supply : Supply) :
    ((Edit.setEntities merged).run unlinked current supply
        = .ok ((unlinkStrangers merged, .nothing), supply) ∧
      (merged.map (foldName ·.name)).Nodup) ∨
      ∃ first second, (Edit.setEntities merged).run unlinked current supply
          = .error (.sameButForCase first second) ∧ ¬ (merged.map (foldName ·.name)).Nodup := by
  have hrun : (Edit.setEntities merged).run unlinked current supply
      = (demandDistinct [] merged >>= fun _ =>
          pure (unlinkStrangers merged, Edited.nothing)) supply := rfl
  rw [hrun]
  simp only [bind, StateT.bind]
  rcases demandDistinct_cases [] merged supply with ⟨hok, -, hnodup, -⟩ | ⟨-, e, he, hname⟩ |
      ⟨first, second, herror, hnot⟩
  · exact Or.inl ⟨by rw [hok]; rfl, hnodup⟩
  · exact absurd hname (hnamed e he)
  · exact Or.inr ⟨first, second, by rw [herror]; rfl, fun hnodup => hnot ⟨hnodup, by simp⟩⟩

/-- What was read is put into the store as it is, unless two names are the same but for case. -/
lemma IsMerged.run_setEntities {supply : Supply} {es merged : List Entity}
    (h : IsMerged supply es merged)
    (unlinked : Cardinality) (current : List Entity) :
    (Edit.setEntities merged).run unlinked current supply = .ok ((merged, .nothing), supply) ∨
      ∃ first second, (Edit.setEntities merged).run unlinked current supply
          = .error (.sameButForCase first second) ∧
        ¬ (es.map fun e => foldName e.name).Nodup := by
  have hnames := map_foldName_congr h.names
  rcases DiagramSync.run_setEntities h.named unlinked current supply with ⟨hrun, -⟩ |
      ⟨first, second, hrun, hnot⟩
  · exact Or.inl (by rw [hrun, h.unlinked])
  · exact Or.inr ⟨first, second, hrun, hnames ▸ hnot⟩

end DiagramSync
