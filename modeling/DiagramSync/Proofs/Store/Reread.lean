import DiagramSync.Proofs.Diagram.Recovery
import DiagramSync.Proofs.Store.Reconcile

/-!
# Reading a model that is there already

If the diagram of a model shows everything that there is to it, then reading the diagram and
reconciling what was read gives the model itself, with every id and every reference as it was.

* `FullyShown` — the models of which the diagram shows everything
* `pairings_rebuilt` — every entity takes its own place
* `renameIds_rebuilt` — with the old ids what was read is the entity that was written
* **`reconcile_rebuilt`** — the model itself comes out
-/

namespace DiagramSync

open Text

/-- A recoverable model whose names are distinct without regard to case, and in which every
reference points at an entity of the model or has never been linked. -/
structure FullyShown (unlinked : Cardinality) (es : List Entity) : Prop extends Recoverable es where
  /-- No two entities have the same name but for case. -/
  foldedNames : (es.map (foldName ·.name)).Nodup
  /-- References outside the model are as they were made. -/
  references : ∀ e ∈ es, ∀ f ∈ e.fields, ∀ r, f.reference = some r →
    r = { cardinality := unlinked } ∨ ∃ t ∈ es, t.id = r.target

instance (unlinked : Cardinality) (es : List Entity) : Decidable (FullyShown unlinked es) :=
  decidable_of_iff (Recoverable es ∧ (es.map fun e : Entity => foldName e.name).Nodup ∧
      ∀ e ∈ es, ∀ f ∈ e.fields, ∀ r ∈ f.reference,
        r = { cardinality := unlinked } ∨ ∃ t ∈ es, t.id = r.target)
    ⟨fun ⟨hrecoverable, hnames, hreferences⟩ => ⟨hrecoverable, hnames, hreferences⟩,
      fun h => ⟨h.toRecoverable, h.foldedNames, h.references⟩⟩

section Reread

variable {unlinked : Cardinality} {es : List Entity} {ν : Numbering}

/-- Every entity takes its own place. -/
lemma pairings_rebuilt (h : FullyShown unlinked es) :
    pairings es [] (es.map (·.rebuilt ν unlinked es))
      = es.map fun x => (x.rebuilt ν unlinked es, some x) :=
  pairings_of_names h.foldedNames (fun _ hx => hx) (fun _ _ => rfl) h.ids fun _ _ => List.not_mem_nil

/-- Every field finds itself under its name. -/
lemma keptFieldId_rebuilt (h : FullyShown unlinked es) {e : Entity} (he : e ∈ es) {f : Field}
    (hf : f ∈ e.fields) (owner : String) :
    keptFieldId (some e) (f.rebuilt ν unlinked es owner) = f.id := by
  have hfind : e.findFieldNamed? f.name = some f :=
    (findFieldNamed?_eq_some (h.fieldNames e he)).mpr ⟨hf, rfl⟩
  rw [keptFieldId, Option.bind_some, Field.name_rebuilt, hfind]

/-! ### Taking the new ids back -/

section Back

variable {ρ φ : Id → Id} (hentity : ∀ e ∈ es, ρ (ν.entity e.name) = e.id)
  (hfield : ∀ e ∈ es, ∀ f ∈ e.fields, φ (ν.field e.name f.name) = f.id)

include hentity hfield in
lemma renameIds_relink (h : FullyShown unlinked es) (hnone : φ .unresolved = .unresolved)
    (hresolved : ∀ t ∈ es, ν.entity t.name ≠ .unresolved) {e : Entity} (he : e ∈ es) {f : Field}
    (hf : f ∈ e.fields) {r : Reference} {t : Entity} (hlink : f.link? es = some (r, t)) :
    (ν.relink r t).renameIds ρ φ = r := by
  obtain ⟨-, ht, htarget⟩ := Field.link?_eq_some hlink
  have hlinked : (ν.relink r t).isLinked = true := bne_iff_ne.mpr (hresolved t ht)
  have hback : ρ (ν.relink r t).target = r.target := (hentity t ht).trans htarget
  have hbackField : φ (ν.relink r t).targetField = r.targetField := by
    rw [h.targets e he f hf r t hlink, Numbering.relink]
    cases hkey : t.primaryKey? with
    | none => exact hnone
    | some p => exact hfield t ht p (List.mem_of_find?_eq_some hkey)
  rw [Reference.renameIds, if_pos hlinked, hback, hbackField]
  rfl

/-- A field without a link is scanned with the reference that it has. -/
lemma reference_copy (h : FullyShown unlinked es) {e : Entity} (he : e ∈ es) {f : Field}
    (hf : f ∈ e.fields) (hlink : f.link? es = none) :
    (if f.isForeign then some ({ cardinality := unlinked } : Reference) else none)
      = f.reference := by
  have hsettled := ((h.writable e he).fields f hf).reference
  cases hr : f.reference with
  | none =>
    rw [hr, Option.isSome_none] at hsettled
    rw [← hsettled, if_neg Bool.false_ne_true]
  | some r =>
    rw [hr, Option.isSome_some] at hsettled
    rw [← hsettled, if_pos rfl]
    rcases h.references e he f hf r hr with rfl | ⟨t, ht, htarget⟩
    · rfl
    · exact absurd htarget (Field.link?_eq_none hlink hr t ht)

include hentity hfield in
lemma renameIds_rebuilt_field (h : FullyShown unlinked es) (hnone : φ .unresolved = .unresolved)
    (hresolved : ∀ t ∈ es, ν.entity t.name ≠ .unresolved) {e : Entity} (he : e ∈ es) {f : Field}
    (hf : f ∈ e.fields) : (f.rebuilt ν unlinked es e.name).renameIds ρ φ = f := by
  cases hlink : f.link? es with
  | some p =>
    obtain ⟨r, t⟩ := p
    obtain ⟨hr, -, -⟩ := Field.link?_eq_some hlink
    rw [Field.rebuilt_of_link? hlink, copy_eq h.toRecoverable he hf, Field.renameIds,
      Option.map_some,
      renameIds_relink hentity hfield h hnone hresolved he hf hlink, ← hr]
    simp only [hfield e he f hf]
  | none =>
    have hback : f.reference.map (·.renameIds ρ φ) = f.reference := by
      rw [← reference_copy h he hf hlink]
      cases f.isForeign <;> rfl
    rw [Field.rebuilt_of_none hlink, copy_eq h.toRecoverable he hf, reference_copy h he hf hlink,
      Field.renameIds, hback]
    simp only [hfield e he f hf]

include hentity hfield in
lemma renameIds_rebuilt (h : FullyShown unlinked es) (hnone : φ .unresolved = .unresolved)
    (hresolved : ∀ t ∈ es, ν.entity t.name ≠ .unresolved) {e : Entity} (he : e ∈ es) :
    (e.rebuilt ν unlinked es).renameIds ρ φ = e := by
  have hfields : (e.rebuilt ν unlinked es).fields.map (·.renameIds ρ φ) = e.fields := by
    rw [Entity.rebuilt, List.map_map]
    refine (List.map_congr_left fun f hf => ?_).trans (List.map_id e.fields)
    exact renameIds_rebuilt_field hentity hfield h hnone hresolved he hf
  have hid : ρ (e.rebuilt ν unlinked es).id = e.id := hentity e he
  rw [Entity.renameIds, hfields, hid]
  rfl

end Back

/-- **Reconciling what is read of the diagram of a model gives the model itself.** -/
theorem reconcile_rebuilt (h : FullyShown unlinked es)
    (hids : (modelIds (es.map (·.rebuilt ν unlinked es))).Nodup)
    (hresolved : ∀ id ∈ modelIds (es.map (·.rebuilt ν unlinked es)), id ≠ .unresolved) :
    reconcile es (es.map (·.rebuilt ν unlinked es)) = es := by
  have hpair : ∀ e ∈ es, (e.rebuilt ν unlinked es, some e)
      ∈ pairings es [] (es.map (·.rebuilt ν unlinked es)) := by
    intro e he
    rw [pairings_rebuilt h]
    exact List.mem_map.mpr ⟨e, he, rfl⟩
  rw [reconcile_eq_map (nodup_entityIds hids) (nodup_allFieldIds hids)]
  set ρ := renamed (entityRenamings (pairings es [] (es.map (·.rebuilt ν unlinked es))))
  set φ := renamed (fieldRenamings (pairings es [] (es.map (·.rebuilt ν unlinked es))))
  have hentity : ∀ e ∈ es, ρ (ν.entity e.name) = e.id := fun e he =>
    renamed_entityRenamings (nodup_entityIds hids) (hpair e he)
  have hfield : ∀ e ∈ es, ∀ f ∈ e.fields, φ (ν.field e.name f.name) = f.id := by
    intro e he f hf
    have hmem : f.rebuilt ν unlinked es e.name ∈ (e.rebuilt ν unlinked es).fields :=
      List.mem_map_of_mem hf
    have hkept := renamed_fieldRenamings (nodup_allFieldIds hids) (hpair e he) hmem
    rwa [Field.id_rebuilt, keptFieldId_rebuilt h he hf] at hkept
  have hnone : φ .unresolved = .unresolved := renamed_fieldRenamings_none hresolved
  have hnew : ∀ t ∈ es, ν.entity t.name ≠ .unresolved := fun t ht =>
    hresolved _ (entityId_mem_modelIds (List.mem_map_of_mem ht))
  rw [List.map_map]
  refine (List.map_congr_left fun e he => ?_).trans (List.map_id es)
  exact renameIds_rebuilt hentity hfield h hnone hnew he

end Reread

end DiagramSync
