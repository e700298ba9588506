import DiagramSync.Proofs.Diagram.Renaming
import DiagramSync.Proofs.Store.Reconcile

/-!
# Reconciling a text that has been reconciled before

A text that is read twice gives the same model under other ids, and the first time its ids were
exchanged for those that are in use.  The second time the model is reconciled with what came of the
first time.  Every entity and every field finds itself there by its name, so that all the new ids
are taken back, and references are led to where they point already.

Nothing is asked of the entities of the first time: their names and their ids may clash.  All that
matters is that the names that were read tell the entities apart, and they do, or the text would not
have come into the store (`nodup_foldNames_of_unchanged`).

* `nodup_foldNames_of_unchanged` — names that are the same but for case always change something
* `keptFieldId_again` — a field finds itself under its name
* `renameIds_again` — the new ids are exchanged for the ids in use
* **`reconcile_again`** — the second time changes nothing
-/

namespace DiagramSync

open Text

section Again

variable {current es : List Entity} {g : Id → Id}

/-- If reconciling changes nothing, then no two of the names that were read are the same but for
case: the second of two such entities would find its place taken, and keep its new id. -/
lemma nodup_foldNames_of_unchanged (h : IsNewTo current es)
    (hsame : reconcile current es = current) : (es.map (foldName ·.name)).Nodup := by
  set ps := pairings current [] es with hps
  -- nobody kept a new id, for there is none among the ids in use
  have htaken : ∀ p ∈ ps, ∃ q, p.2 = some q := by
    rintro ⟨e, p⟩ hp
    cases p with
    | some q => exact ⟨q, rfl⟩
    | none =>
      have he : e ∈ es := by
        rw [← map_fst_pairings current [] es]
        exact List.mem_map_of_mem (f := Prod.fst) hp
      have hkept := renamed_entityRenamings (nodup_entityIds h.ids) hp
      have hmem : e.renameIds (renamed (entityRenamings ps)) (renamed (fieldRenamings ps))
          ∈ current := by
        rw [← hsame, reconcile_eq_map (nodup_entityIds h.ids) (nodup_allFieldIds h.ids)]
        exact List.mem_map_of_mem he
      have hid : keptId none e ∈ modelIds current := hkept ▸ entityId_mem_modelIds hmem
      exact absurd hid (h.unused _ (entityId_mem_modelIds he))
  -- so the name decides whose id an entity has
  let place (name : String) : Id :=
    ((current.reverse.find? fun p => foldName p.name == name).map (·.id)).getD .unresolved
  have hplace : (es.map (foldName ·.name)).map place = ps.map fun p => keptId p.2 p.1 := by
    conv_lhs => rw [← map_fst_pairings current [] es]
    rw [List.map_map, List.map_map]
    refine List.map_congr_left fun p hp => ?_
    obtain ⟨q, hq⟩ := htaken p hp
    obtain ⟨e, p⟩ := p
    obtain rfl : p = some q := hq
    show place (foldName e.name) = q.id
    simp only [place, find?_of_mem_pairings hp, Option.map_some, Option.getD_some]
  have hnodup := nodup_keptIds_pairings (nodup_entityIds h.ids) h.unused
  rw [← hps, ← hplace] at hnodup
  exact List.Nodup.of_map place hnodup

/-- A field finds itself under its name. -/
lemma keptFieldId_again (hnamed : IsNamed es) {ρ φ : Id → Id} {e : Entity} (he : e ∈ es) {f : Field}
    (hf : f ∈ e.fields) : keptFieldId (some (e.renameIds ρ φ)) (f.renameIds g g) = φ f.id := by
  have hnames : ((e.renameIds ρ φ).fields.map (foldName ·.name)).Nodup :=
    hnamed.renameIds.fieldNames _ (List.mem_map_of_mem he)
  have hfind : (e.renameIds ρ φ).findFieldNamed? (f.renameIds g g).name
      = some (f.renameIds ρ φ) :=
    (findFieldNamed?_eq_some hnames).mpr ⟨List.mem_map_of_mem hf, rfl⟩
  rw [keptFieldId, Option.bind_some, hfind]
  rfl

/-- Where the new ids are exchanged for what the first ones were exchanged for, the entities are
what they were. -/
lemma renameIds_again (hg : ∀ id, g id = .unresolved ↔ id = .unresolved) {ρ φ ρ' φ' : Id → Id}
    (hlocal : ∀ e ∈ es, ∀ f ∈ e.fields, ∀ r, f.reference = some r → r.IsLocal es)
    (hentity : ∀ e ∈ es, ρ' (g e.id) = ρ e.id)
    (hfield : ∀ e ∈ es, ∀ f ∈ e.fields, φ' (g f.id) = φ f.id) (hnone : φ .unresolved = .unresolved)
    (hnone' : φ' .unresolved = .unresolved) :
    (es.map (·.renameIds g g)).map (·.renameIds ρ' φ') = es.map (·.renameIds ρ φ) := by
  have hreference : ∀ r : Reference, r.IsLocal es →
      (r.renameIds g g).renameIds ρ' φ' = r.renameIds ρ φ := by
    intro r hr
    have hlinked := isLinked_renameIds hg r
    by_cases hr' : r.isLinked = true
    · obtain hunlinked | ⟨t, ht, htarget, hkey⟩ := hr
      · exact absurd (hr'.symm.trans hunlinked) Bool.noConfusion
      · rw [hr'] at hlinked
        have hback : φ' (g r.targetField) = φ r.targetField := by
          rcases hkey with hkey | ⟨f, hf, hkey⟩
          · rw [hkey, (hg _).mpr rfl, hnone, hnone']
          · rw [hkey, hfield t ht f hf]
        rw [Reference.renameIds, if_pos hlinked]
        simp only [Reference.renameIds, if_pos hr', htarget, hentity t ht, hback]
    · rw [Bool.not_eq_true] at hr'
      simp only [Reference.renameIds, hr', Bool.false_eq_true, if_false]
  rw [List.map_map]
  refine List.map_congr_left fun e he => ?_
  have hfields : (e.fields.map (·.renameIds g g)).map (·.renameIds ρ' φ')
      = e.fields.map (·.renameIds ρ φ) := by
    rw [List.map_map]
    refine List.map_congr_left fun f hf => ?_
    have hreferences : (f.reference.map (·.renameIds g g)).map (·.renameIds ρ' φ')
        = f.reference.map (·.renameIds ρ φ) := by
      cases hr : f.reference with
      | none => rfl
      | some r => exact congrArg some (hreference r (hlocal e he f hf r hr))
    simp only [Function.comp_apply, Field.renameIds, hreferences, hfield e he f hf]
  simp only [Function.comp_apply, Entity.renameIds, hfields, hentity e he]

/-- **A model that has been reconciled once is reconciled under other ids without any change**,
whatever the entities were that it was reconciled with first. -/
theorem reconcile_again (h : IsNewTo current es)
    (hlocal : ∀ e ∈ es, ∀ f ∈ e.fields, ∀ r, f.reference = some r → r.IsLocal es)
    (hnames : (es.map (foldName ·.name)).Nodup)
    (hg : ∀ id, g id = .unresolved ↔ id = .unresolved)
    (hids : (modelIds (es.map (·.renameIds g g))).Nodup)
    (hresolved : ∀ id ∈ modelIds (es.map (·.renameIds g g)), id ≠ .unresolved) :
    reconcile (reconcile current es) (es.map (·.renameIds g g)) = reconcile current es := by
  have hfirst := reconcile_eq_map (nodup_entityIds h.ids) (nodup_allFieldIds h.ids) current
  have hapart := nodup_renamed_ids h
  have hnone : renamed (fieldRenamings (pairings current [] es)) .unresolved = .unresolved :=
    renamed_fieldRenamings_none h.resolved
  have hfolded := map_foldName_congr (map_name_reconcile current es)
  rw [hfirst] at hfolded ⊢
  set ρ := renamed (entityRenamings (pairings current [] es))
  set φ := renamed (fieldRenamings (pairings current [] es))
  have hpairings : pairings (es.map (·.renameIds ρ φ)) [] (es.map (·.renameIds g g))
      = es.map fun e => (e.renameIds g g, some (e.renameIds ρ φ)) :=
    pairings_of_names (hfolded ▸ hnames) (fun _ => List.mem_map_of_mem) (fun _ _ => rfl) hapart
      fun _ _ => List.not_mem_nil
  have hpair : ∀ e ∈ es, (e.renameIds g g, some (e.renameIds ρ φ))
      ∈ pairings (es.map (·.renameIds ρ φ)) [] (es.map (·.renameIds g g)) := by
    intro e he
    rw [hpairings]
    exact List.mem_map.mpr ⟨e, he, rfl⟩
  rw [reconcile_eq_map (nodup_entityIds hids) (nodup_allFieldIds hids)]
  refine renameIds_again hg hlocal (fun e he => ?_) (fun e he f hf => ?_) hnone
    (renamed_fieldRenamings_none hresolved)
  · exact renamed_entityRenamings (nodup_entityIds hids) (hpair e he)
  · have hkept := renamed_fieldRenamings (nodup_allFieldIds hids) (hpair e he)
      (List.mem_map_of_mem hf)
    rwa [keptFieldId_again h.named he hf] at hkept

end Again

end DiagramSync
