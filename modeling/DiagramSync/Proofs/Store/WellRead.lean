import DiagramSync.Proofs.Diagram.ReadTexts
import DiagramSync.Proofs.Diagram.Renaming
import DiagramSync.Proofs.Store.Merge

/-!
# What is read can be stored

Reading a text by one of the two resolvers that are built in never ends in a surprise: the text has
no header, or it declares no entity, or what is read of it is a model as a store wants it.  Whatever
the store holds, such a model can be put into it, unless two of its entities have names that are the
same but for case.

* `Resolver.IsBuiltIn` — the two resolvers
* `IsWellRead` — a model as a store wants it
* `parse_cases`, `resolveLines_of_accepted` — how reading can end
* `isWellRead_resolveLines` — what the lines of a text make of its scan
* **`isWellRead_parse`** — what is read is well read, and can be stored
-/

namespace DiagramSync

open Text

/-! ## Models that are well read -/

/-- The resolver is one of the two that are built in. -/
def Resolver.IsBuiltIn (resolver : Resolver) : Prop :=
  resolver = .byName ∨ resolver = .byLabel

lemma Resolver.IsBuiltIn.picksForeign {resolver : Resolver} (h : resolver.IsBuiltIn) :
    resolver.PicksForeign := by
  rcases h with rfl | rfl
  · exact picksForeign_byName
  · exact picksForeign_byLabel

lemma Resolver.IsBuiltIn.isTotal {resolver : Resolver} (h : resolver.IsBuiltIn) :
    resolver.IsTotal := by
  rcases h with rfl | rfl
  · exact isTotal_byName
  · exact isTotal_byLabel

lemma Resolver.IsBuiltIn.ignoresIds {resolver : Resolver} (h : resolver.IsBuiltIn) {g : Id → Id}
    (hg : ∀ id, g id = .unresolved ↔ id = .unresolved) : resolver.IgnoresIds g := by
  rcases h with rfl | rfl
  · exact ignoresIds_byName hg
  · exact ignoresIds_byLabel hg

/-- A model that was read: not empty, with names and texts that are clean, on one line and told
apart, references on exactly the foreign keys, and links to the first primary keys of entities. -/
structure IsWellRead (unlinked : Cardinality) (es : List Entity) : Prop extends IsNamed es where
  /-- Something was read. -/
  nonempty : es ≠ []
  /-- Names, descriptions and labels are clean and on one line, and exactly the foreign keys have a
  reference. -/
  writable : ∀ e ∈ es, e.IsWritable
  /-- A link points at an entity and there at the first primary key, or at no field if there is
  none. -/
  linked : ∀ e ∈ es, ∀ f ∈ e.fields, ∀ r, f.reference = some r → r.isLinked = true →
    ∃ t ∈ es, r.target = t.id ∧ r.targetField = (t.primaryKey?.map (·.id)).getD .unresolved
  /-- A reference that is not linked is as it was made. -/
  unlinked : ∀ e ∈ es, ∀ f ∈ e.fields, ∀ r, f.reference = some r → r.isLinked = false →
    r = { cardinality := unlinked }

/-- Of a model that was read every reference is linked, or it is as it was made. -/
lemma isWellRead_of_isRead {unlinked : Cardinality} {es : List Entity} (hread : IsRead unlinked es)
    (hnonempty : es ≠ []) (hwritable : ∀ e ∈ es, e.IsWritable)
    (hresolved : ∀ e ∈ es, e.id ≠ .unresolved) : IsWellRead unlinked es where
  toIsNamed := hread.toIsNamed
  nonempty := hnonempty
  writable := hwritable
  linked e he f hf r hr hlinked := by
    rcases hread.references e he f hf r hr with rfl | htarget
    · exact absurd hlinked Bool.false_ne_true
    · exact htarget
  unlinked e he f hf r hr hunlinked := by
    rcases hread.references e he f hf r hr with hmade | ⟨t, ht, htarget, -⟩
    · exact hmade
    · have hlinked : r.isLinked = true := bne_iff_ne.mpr (htarget ▸ hresolved t ht)
      exact absurd (hlinked.symm.trans hunlinked) Bool.noConfusion

/-! ## How reading can end -/

section Reading

variable {resolver : Resolver} {supply : Supply}

/-- A text has no header, or it declares no entity, or it is accepted. -/
lemma parse_cases (hresolver : resolver.IsTotal) (unlinked : Cardinality) (supply : Supply)
    (text : String) :
    (∃ ws, (parse resolver unlinked supply text).1 = .rejected .missingHeader ws) ∨
      (∃ ws, (parse resolver unlinked supply text).1 = .rejected .noEntities ws) ∨
      ∃ es ws ws', (parse resolver unlinked supply text).1
          = .accepted es ((scan unlinked supply text.toList).relationships.map (·.2)) ws ∧
        es ≠ [] ∧ resolveLines resolver (scan unlinked supply text.toList).entities
          (scan unlinked supply text.toList).relationships = .ok (es, ws') := by
  rw [parse]
  split_ifs with hheader
  · obtain ⟨es, ws', hlines⟩ := exists_resolveLines hresolver
      (scan unlinked supply text.toList).entities (scan unlinked supply text.toList).relationships
    simp only [hlines]
    cases es with
    | nil => exact Or.inr (Or.inl ⟨_, rfl⟩)
    | cons e es => exact Or.inr (Or.inr ⟨e :: es, _, ws', rfl, List.cons_ne_nil e es, rfl⟩)
  · exact Or.inl ⟨[], rfl⟩

/-- The outcome of an accepted text is what its lines make of its scan. -/
lemma resolveLines_of_accepted (hresolver : resolver.IsTotal) {unlinked : Cardinality}
    {text : String} {es : List Entity} {rs : List Relationship} {ws : List Warning}
    (h : (parse resolver unlinked supply text).1 = .accepted es rs ws) :
    es ≠ [] ∧ rs = (scan unlinked supply text.toList).relationships.map (·.2) ∧
      ∃ ws', resolveLines resolver (scan unlinked supply text.toList).entities
        (scan unlinked supply text.toList).relationships = .ok (es, ws') := by
  rcases parse_cases hresolver unlinked supply text with
    ⟨ws₀, hmissing⟩ | ⟨ws₀, hnone⟩ | ⟨es₀, ws₀, ws', haccepted, hnonempty, hlines⟩
  · exact absurd (hmissing.symm.trans h) ParseOutcome.noConfusion
  · exact absurd (hnone.symm.trans h) ParseOutcome.noConfusion
  · obtain ⟨rfl, rfl, -⟩ := ParseOutcome.accepted.inj (haccepted.symm.trans h)
    exact ⟨hnonempty, rfl, ws', hlines⟩

/-- What the lines of a text make of its scan is well read, and all its ids are distinct ids of
something. -/
lemma isWellRead_resolveLines (hresolver : resolver.PicksForeign) (hfresh : supply.IsFresh)
    {unlinked : Cardinality} {text : String} {es : List Entity} {ws : List Warning}
    (hnonempty : es ≠ [])
    (hlines : resolveLines resolver (scan unlinked supply text.toList).entities
      (scan unlinked supply text.toList).relationships = .ok (es, ws)) :
    IsWellRead unlinked es ∧ (modelIds es).Nodup ∧ ∀ id ∈ modelIds es, id ≠ .unresolved := by
  have hscan := Scan.isSound_scan unlinked hfresh text.toList
  have hwritable := Scan.isWritable_scan unlinked supply text.toList
  obtain ⟨hread, hbare⟩ := isRead_resolveLines hscan.isRead hresolver hlines
  have hresolved : ∀ id ∈ modelIds es, id ≠ .unresolved := by
    intro id hid
    rw [modelIds_of_bare hbare] at hid
    exact (hscan.given id hid).ne_unresolved hfresh
  refine ⟨isWellRead_of_isRead hread hnonempty ?_ fun e he => hresolved _ (entityId_mem_modelIds he),
    modelIds_of_bare hbare ▸ hscan.ids, hresolved⟩
  exact isWritable_resolveLines hwritable.entities hresolver hwritable.relationships hlines

/-- **Whatever a text says, reading it by a resolver that is built in ends in one of three ways**:
it has no header, it declares no entity, or it is accepted.  What is read then is well read, no text
in its relationships breaks a line, and it can be reconciled with any store and put into it, unless
two of its names are the same but for case. -/
theorem isWellRead_parse (hresolver : resolver.IsBuiltIn) (hfresh : supply.IsFresh)
    (unlinked : Cardinality) (text : String) :
    (∃ ws, (parse resolver unlinked supply text).1 = .rejected .missingHeader ws) ∨
      (∃ ws, (parse resolver unlinked supply text).1 = .rejected .noEntities ws) ∨
      ∃ es rs ws, (parse resolver unlinked supply text).1 = .accepted es rs ws ∧
        IsWellRead unlinked es ∧ (∀ r ∈ rs, r.StaysOnLine) ∧
        ∀ (store : Store) (later : Supply),
          (∃ stored, store.apply unlinked none (.setEntities (reconcile store.entities es)) later
              = .ok ((stored, .nothing), later) ∧ (es.map (foldName ·.name)).Nodup) ∨
            ∃ first second,
              store.apply unlinked none (.setEntities (reconcile store.entities es)) later
                = .error (.sameButForCase first second) ∧
              ¬ (es.map (foldName ·.name)).Nodup := by
  refine (parse_cases hresolver.isTotal unlinked supply text).imp_right (Or.imp_right ?_)
  rintro ⟨es, ws, ws', haccepted, hnonempty, hlines⟩
  have hwritable := Scan.isWritable_scan unlinked supply text.toList
  obtain ⟨hwell, -, -⟩ := isWellRead_resolveLines hresolver.picksForeign hfresh hnonempty hlines
  refine ⟨es, _, ws, haccepted, hwell, fun r hr => ?_, fun store later => ?_⟩
  · obtain ⟨p, hp, rfl⟩ := List.mem_map.mp hr
    exact hwritable.relationships p hp
  · have hnames := map_name_reconcile store.entities es
    have hfolded := map_foldName_congr hnames
    have hnamed : ∀ e ∈ reconcile store.entities es, e.name ≠ "" := by
      intro e he
      have hmem : e.name ∈ es.map Entity.name := hnames ▸ List.mem_map_of_mem he
      obtain ⟨x, hx, hname⟩ := List.mem_map.mp hmem
      exact hname ▸ hwell.named x hx
    rcases run_setEntities hnamed unlinked store.entities later with ⟨hrun, hnodup⟩ |
        ⟨first, second, hrun, hnot⟩
    · exact Or.inl ⟨_, apply_of_run hrun, hfolded ▸ hnodup⟩
    · exact Or.inr ⟨first, second, apply_of_run_error hrun, hfolded ▸ hnot⟩

end Reading

/-- Users that are declared with their fields, and in capitals once more. -/
def usersInCapitals : String :=
  "erDiagram\nUsers \x7b\n  int id PK\n\x7d\nUSERS"

/-- The text is well read, and no store takes what was read. -/
theorem isWellRead_usersInCapitals :
    ∃ es rs ws, (parse .byLabel .manyToOne .strokes usersInCapitals).1 = .accepted es rs ws ∧
      IsWellRead .manyToOne es ∧ ∀ (store : Store) (later : Supply), ∃ first second,
        store.apply .manyToOne none (.setEntities (reconcile store.entities es)) later
          = .error (.sameButForCase first second) := by
  have hread : (parse .byLabel .manyToOne .strokes usersInCapitals).1.isAccepted = true ∧
      ¬ ((parse .byLabel .manyToOne .strokes usersInCapitals).1.entities.map fun e =>
        foldName e.name).Nodup := by
    decide +kernel
  rcases isWellRead_parse (Or.inr rfl) Supply.isFresh_strokes .manyToOne usersInCapitals with
    ⟨ws, hmissing⟩ | ⟨ws, hnone⟩ | ⟨es, rs, ws, haccepted, hwell, -, hstore⟩
  · rw [hmissing] at hread
    exact absurd hread.1 Bool.false_ne_true
  · rw [hnone] at hread
    exact absurd hread.1 Bool.false_ne_true
  · rw [haccepted] at hread
    refine ⟨es, rs, ws, haccepted, hwell, fun store later => ?_⟩
    rcases hstore store later with ⟨-, -, hnodup⟩ | ⟨first, second, hrefused, -⟩
    · exact absurd hnodup hread.2
    · exact ⟨first, second, hrefused⟩

end DiagramSync
