import DiagramSync.Proofs.Model.Sketch
import DiagramSync.Store.Reconcile

/-!
# Reconciling is renaming

Reconciling a model with the current one gives every entity and field an id, its own or that of the
current one with its name, and leads the references along.  If the ids of the model are distinct,
this is a renaming, and if moreover no current id is among them, the renaming keeps entities and
fields apart: the model says the same afterwards.

* `pairings` — the entities of a model, each with the current one whose place it takes
* `pairings_of_names` — entities with the names of current ones take their places
* `foldl_step_eq` — what has been reconciled, in terms of the pairings
* `map_name_reconcile` — names are kept
* `reconcile_eq_map` — **reconciling is renaming**
* `keepsApart_reconcile` — the renaming keeps entities and fields apart
* `sketch_reconcile` — **the model says the same afterwards**
-/

namespace DiagramSync

open Text

/-! ## Pairings -/

/-- The id that an entity gets. -/
def keptId (previous : Option Entity) (e : Entity) : Id :=
  (previous.map (·.id)).getD e.id

/-- The entities of a model, each with the current one whose place it takes, if there is one. -/
def pairings (current : List Entity) (claimed : List Id) :
    List Entity → List (Entity × Option Entity)
  | [] => []
  | e :: es =>
    let previous := previousOf current claimed e
    (e, previous) :: pairings current (keptId previous e :: claimed) es

/-- The entity under the ids that it gets, with references as they were. -/
def underKeptIds (p : Entity × Option Entity) : Entity :=
  { p.1 with
    id := keptId p.2 p.1, fields := p.1.fields.map fun f => { f with id := keptFieldId p.2 f } }

/-- What became of the ids of some entities, the latest first. -/
def entityRenamings (ps : List (Entity × Option Entity)) : List (Id × Id) :=
  (ps.map fun p => (p.1.id, keptId p.2 p.1)).reverse

/-- What became of the ids of their fields, the latest first. -/
def fieldRenamings (ps : List (Entity × Option Entity)) : List (Id × Id) :=
  (ps.flatMap fun p => p.1.fields.map fun f => (f.id, keptFieldId p.2 f)).reverse

section Pairings

variable {current : List Entity} {claimed : List Id} {es : List Entity}

lemma map_fst_pairings (current : List Entity) (claimed : List Id) (es : List Entity) :
    (pairings current claimed es).map Prod.fst = es := by
  induction es generalizing claimed with
  | nil => rfl
  | cons e es ih => rw [pairings, List.map_cons, ih]

/-- Whoever takes a place takes that of a current entity of the same name, and it is free. -/
lemma previousOf_eq_some {e p : Entity} (h : previousOf current claimed e = some p) :
    p ∈ current ∧ foldName p.name = foldName e.name ∧ p.id ∉ claimed := by
  simp only [previousOf, Option.bind_eq_bind, Option.bind_eq_some_iff] at h
  obtain ⟨q, hq, h⟩ := h
  split_ifs at h with hclaimed
  obtain rfl := Option.some.inj h
  refine ⟨List.mem_reverse.mp (List.mem_of_find?_eq_some hq), ?_, ?_⟩
  · simpa using List.find?_some hq
  · simpa using hclaimed

/-- Whoever is paired takes the place of a current entity of the same name. -/
lemma mem_pairings {e p : Entity} (h : (e, some p) ∈ pairings current claimed es) :
    p ∈ current ∧ foldName p.name = foldName e.name := by
  induction es generalizing claimed with
  | nil => exact absurd h List.not_mem_nil
  | cons x es ih =>
    rw [pairings] at h
    rcases List.mem_cons.mp h with heq | h
    · obtain ⟨rfl, hp⟩ := Prod.mk.inj heq
      obtain ⟨hmem, hname, -⟩ := previousOf_eq_some hp.symm
      exact ⟨hmem, hname⟩
    · exact ih h

/-- Whoever is paired takes the place of the last current entity of the same name. -/
lemma find?_of_mem_pairings {e p : Entity} (h : (e, some p) ∈ pairings current claimed es) :
    current.reverse.find? (fun p => foldName p.name == foldName e.name) = some p := by
  induction es generalizing claimed with
  | nil => exact absurd h List.not_mem_nil
  | cons x es ih =>
    rw [pairings] at h
    rcases List.mem_cons.mp h with heq | h
    · obtain ⟨rfl, hp⟩ := Prod.mk.inj heq
      obtain ⟨q, hq, hfree⟩ := Option.bind_eq_some_iff.mp hp.symm
      split_ifs at hfree
      exact Option.some.inj hfree ▸ hq
    · exact ih h

/-- Where no two current entities have the same name but for case, entities with the names of
current ones take the places of these. -/
lemma pairings_of_names {α : Type} {a b : α → Entity} {xs : List α}
    (hnames : (current.map (foldName ·.name)).Nodup) (hb : ∀ x ∈ xs, b x ∈ current)
    (hab : ∀ x ∈ xs, (a x).name = (b x).name) (hids : (xs.map fun x => (b x).id).Nodup)
    (hfree : ∀ x ∈ xs, (b x).id ∉ claimed) :
    pairings current claimed (xs.map a) = xs.map fun x => (a x, some (b x)) := by
  induction xs generalizing claimed with
  | nil => rfl
  | cons x xs ih =>
    rw [List.map_cons, List.nodup_cons] at hids
    have hfind : current.reverse.find? (fun p => foldName p.name == foldName (b x).name)
        = some (b x) := by
      rw [find?_key_reverse hnames]
      exact (find?_key_eq_some hnames).mpr ⟨hb x List.mem_cons_self, rfl⟩
    have hclaimed : claimed.contains (b x).id = false := by
      simpa using hfree x List.mem_cons_self
    have hprevious : previousOf current claimed (a x) = some (b x) := by
      rw [previousOf, hab x List.mem_cons_self, hfind]
      simp only [Option.bind_eq_bind, Option.bind_some, hclaimed, Bool.false_eq_true, if_false]
    have hrest : ∀ y ∈ xs, (b y).id ∉ keptId (some (b x)) (a x) :: claimed := by
      intro y hy hmem
      rcases List.mem_cons.mp hmem with heq | hmem
      · exact hids.1 (List.mem_map.mpr ⟨y, hy, heq⟩)
      · exact hfree y (List.mem_cons_of_mem x hy) hmem
    rw [List.map_cons, pairings, hprevious, ih (fun y hy => hb y (List.mem_cons_of_mem x hy))
      (fun y hy => hab y (List.mem_cons_of_mem x hy)) hids.2 hrest, List.map_cons]

lemma foldl_step_eq (current : List Entity) (s : Reconciling) (es : List Entity) :
    (es.foldl (Reconciling.step current) s).merged
        = s.merged ++ (pairings current s.claimed es).map underKeptIds ∧
      (es.foldl (Reconciling.step current) s).entityIds
        = entityRenamings (pairings current s.claimed es) ++ s.entityIds ∧
      (es.foldl (Reconciling.step current) s).fieldIds
        = fieldRenamings (pairings current s.claimed es) ++ s.fieldIds := by
  induction es generalizing s with
  | nil => exact ⟨(List.append_nil _).symm, rfl, rfl⟩
  | cons e es ih =>
    obtain ⟨hmerged, hentities, hfields⟩ := ih (s.step current e)
    rw [List.foldl_cons, hmerged, hentities, hfields, pairings]
    refine ⟨?_, ?_, ?_⟩
    · rw [List.map_cons, Reconciling.step, List.append_assoc]
      rfl
    · simp only [entityRenamings, List.map_cons, List.reverse_cons, List.append_assoc]
      rfl
    · simp only [fieldRenamings, List.flatMap_cons, List.reverse_append, List.append_assoc]
      rfl

/-- Whatever the current model is, reconciling keeps the names. -/
lemma map_name_reconcile (current es : List Entity) :
    (reconcile current es).map Entity.name = es.map Entity.name := by
  obtain ⟨hmerged, -, -⟩ := foldl_step_eq current {} es
  have hnames : (pairings current [] es).map (fun p => p.1.name) = es.map Entity.name := by
    conv_rhs => rw [← map_fst_pairings current [] es, List.map_map]
    rfl
  rw [reconcile, hmerged, List.nil_append, List.map_map, List.map_map, ← hnames]
  rfl

end Pairings

/-! ## Renamings -/

/-- An id is renamed to what stands beside it, if it stands in the list once only. -/
lemma renamed_of_mem {rs : List (Id × Id)} (h : (rs.map Prod.fst).Nodup) {a b : Id}
    (hab : (a, b) ∈ rs) : renamed rs a = b := by
  have hfind : rs.find? (fun r => r.1 == a) = some (a, b) :=
    (find?_key_eq_some h).mpr ⟨hab, rfl⟩
  rw [renamed, hfind]
  rfl

/-- An id that does not stand in the list keeps its name. -/
lemma renamed_of_not_mem {rs : List (Id × Id)} {a : Id} (h : a ∉ rs.map Prod.fst) :
    renamed rs a = a := by
  have hfind : rs.find? (fun r => r.1 == a) = none := find?_key_eq_none.mpr h
  rw [renamed, hfind]
  rfl

section Renamings

variable {current : List Entity} {claimed : List Id} {es : List Entity}

lemma map_fst_entityRenamings (ps : List (Entity × Option Entity)) :
    (entityRenamings ps).map Prod.fst = ((ps.map Prod.fst).map Entity.id).reverse := by
  rw [entityRenamings, List.map_reverse, List.map_map, List.map_map]
  rfl

lemma map_fst_fieldRenamings (ps : List (Entity × Option Entity)) :
    (fieldRenamings ps).map Prod.fst
      = (allFieldIds (ps.map Prod.fst)).reverse := by
  rw [fieldRenamings, allFieldIds, List.map_reverse, List.map_flatMap, List.flatMap_map]
  refine congrArg List.reverse (List.flatMap_congr fun p _ => ?_)
  rw [List.map_map]
  rfl

/-- An entity gets the id that its place gives it. -/
lemma renamed_entityRenamings (h : (es.map Entity.id).Nodup) {e : Entity} {p : Option Entity}
    (hmem : (e, p) ∈ pairings current claimed es) :
    renamed (entityRenamings (pairings current claimed es)) e.id = keptId p e := by
  refine renamed_of_mem ?_ (List.mem_reverse.mpr (List.mem_map.mpr ⟨(e, p), hmem, rfl⟩))
  rw [map_fst_entityRenamings, map_fst_pairings]
  exact List.nodup_reverse.mpr h

/-- A field gets the id that the place of its entity gives it. -/
lemma renamed_fieldRenamings (h : (allFieldIds es).Nodup) {e : Entity} {p : Option Entity}
    (hmem : (e, p) ∈ pairings current claimed es) {f : Field} (hf : f ∈ e.fields) :
    renamed (fieldRenamings (pairings current claimed es)) f.id = keptFieldId p f := by
  refine renamed_of_mem ?_ (List.mem_reverse.mpr ?_)
  · rw [map_fst_fieldRenamings, map_fst_pairings]
    exact List.nodup_reverse.mpr h
  · exact List.mem_flatMap.mpr ⟨(e, p), hmem, List.mem_map.mpr ⟨f, hf, rfl⟩⟩

/-- **Reconciling is renaming**, if the ids of the model are distinct. -/
theorem reconcile_eq_map (hentities : (es.map Entity.id).Nodup) (hfields : (allFieldIds es).Nodup)
    (current : List Entity) :
    reconcile current es = es.map (·.renameIds
      (renamed (entityRenamings (pairings current [] es)))
      (renamed (fieldRenamings (pairings current [] es)))) := by
  obtain ⟨hmerged, hentityIds, hfieldIds⟩ := foldl_step_eq current {} es
  rw [List.append_nil] at hentityIds hfieldIds
  have hes : es = (pairings current [] es).map Prod.fst := (map_fst_pairings current [] es).symm
  conv_rhs => rw [hes]
  rw [reconcile, hmerged, hentityIds, hfieldIds, List.nil_append, List.map_map, List.map_map]
  refine List.map_congr_left fun p hp => ?_
  obtain ⟨e, p⟩ := p
  simp only [Function.comp_apply, underKeptIds, Entity.mapReferences, Entity.renameIds,
    List.map_map, ← hes]
  rw [renamed_entityRenamings hentities hp]
  refine congrArg (fun fs => (⟨keptId p e, e.name, fs⟩ : Entity)) ?_
  refine List.map_congr_left fun f hf => ?_
  rw [Function.comp_apply, Field.renameIds, renamed_fieldRenamings hfields hp hf]
  rfl

/-! ## What is told apart -/

/-- The entities get distinct ids, none of which had been claimed before. -/
lemma nodup_keptIds (hids : (es.map Entity.id).Nodup)
    (hcurrent : ∀ e ∈ es, e.id ∉ current.map Entity.id) (hclaimed : ∀ e ∈ es, e.id ∉ claimed) :
    ((pairings current claimed es).map fun p => keptId p.2 p.1).Nodup ∧
      ∀ p ∈ pairings current claimed es, keptId p.2 p.1 ∉ claimed := by
  induction es generalizing claimed with
  | nil => exact ⟨List.nodup_nil, fun p hp => absurd hp List.not_mem_nil⟩
  | cons e es ih =>
    rw [List.map_cons, List.nodup_cons] at hids
    set previous := previousOf current claimed e with hprevious
    have hkept : keptId previous e ∉ claimed ∧ ∀ x ∈ es, x.id ≠ keptId previous e := by
      cases hp : previous with
      | none =>
        refine ⟨hclaimed e List.mem_cons_self, fun x hx heq => ?_⟩
        exact hids.1 (List.mem_map.mpr ⟨x, hx, heq⟩)
      | some p =>
        obtain ⟨hmem, -, hfree⟩ := previousOf_eq_some (hprevious.symm.trans hp)
        refine ⟨hfree, fun x hx heq => ?_⟩
        exact hcurrent x (List.mem_cons_of_mem e hx) (heq ▸ List.mem_map_of_mem hmem)
    have hrest : ∀ x ∈ es, x.id ∉ keptId previous e :: claimed := fun x hx hmem =>
      (List.mem_cons.mp hmem).elim (hkept.2 x hx) (hclaimed x (List.mem_cons_of_mem e hx))
    obtain ⟨hnodup, hfree⟩ := ih hids.2 (fun x hx => hcurrent x (List.mem_cons_of_mem e hx)) hrest
    rw [pairings, List.map_cons, List.nodup_cons]
    refine ⟨⟨fun hmem => ?_, hnodup⟩, fun p hp => ?_⟩
    · obtain ⟨p, hp, heq⟩ := List.mem_map.mp hmem
      exact hfree p hp (heq ▸ List.mem_cons_self)
    · rcases List.mem_cons.mp hp with rfl | hp
      · exact hkept.1
      · exact fun hmem => hfree p hp (List.mem_cons_of_mem _ hmem)

/-- A field keeps its id or gets that of a current field of the same name. -/
lemma keptFieldId_cases (p : Option Entity) (f : Field) :
    keptFieldId p f = f.id ∨ ∃ q old, p = some q ∧ old ∈ q.fields ∧
      foldName old.name = foldName f.name ∧ keptFieldId p f = old.id := by
  rw [keptFieldId]
  cases hfind : p.bind (·.findFieldNamed? f.name) with
  | none => exact Or.inl rfl
  | some old =>
    obtain ⟨q, rfl, hold⟩ := Option.bind_eq_some_iff.mp hfind
    exact Or.inr ⟨q, old, rfl, List.mem_of_find?_eq_some hold, by simpa using List.find?_some hold,
      rfl⟩

/-- Two new fields that get the same id had the same id, or they take the places of current fields
that have the same id. -/
lemma keptFieldId_eq_cases {p p' : Option Entity} (hp : ∀ q, p = some q → q ∈ current)
    (hp' : ∀ q, p' = some q → q ∈ current) {f f' : Field} (hf : f.id ∉ modelIds current)
    (hf' : f'.id ∉ modelIds current) (heq : keptFieldId p f = keptFieldId p' f') :
    f.id = f'.id ∨ ∃ q q' old old', p = some q ∧ p' = some q' ∧ old ∈ q.fields ∧
      old' ∈ q'.fields ∧ foldName old.name = foldName f.name ∧
      foldName old'.name = foldName f'.name ∧ old.id = old'.id := by
  rcases keptFieldId_cases p f with hkept | ⟨q, old, hq, hold, hname, hkept⟩
  · rcases keptFieldId_cases p' f' with hkept' | ⟨q', old', hq', hold', -, hkept'⟩
    · exact Or.inl (hkept.symm.trans (heq.trans hkept'))
    · have hsame : f.id = old'.id := hkept.symm.trans (heq.trans hkept')
      exact absurd (hsame ▸ fieldId_mem_modelIds (hp' q' hq') hold') hf
  · rcases keptFieldId_cases p' f' with hkept' | ⟨q', old', hq', hold', hname', hkept'⟩
    · have hsame : f'.id = old.id := hkept'.symm.trans (heq.symm.trans hkept)
      exact absurd (hsame ▸ fieldId_mem_modelIds (hp q hq) hold) hf'
    · exact Or.inr ⟨q, q', old, old', hq, hq', hold, hold', hname, hname',
        hkept.symm.trans (heq.trans hkept')⟩

/-- The fields of an entity get distinct ids. -/
lemma nodup_keptFieldIds (hcurrent : HasDistinctIds current) {e : Entity} {p : Option Entity}
    (hp : ∀ q, p = some q → q ∈ current) (hids : (e.fields.map Field.id).Nodup)
    (hnames : (e.fields.map (foldName ·.name)).Nodup)
    (hnew : ∀ f ∈ e.fields, f.id ∉ modelIds current) :
    (e.fields.map (keptFieldId p)).Nodup := by
  refine List.Nodup.map_on (fun f hf g hg heq => ?_) (List.Nodup.of_map Field.id hids)
  rcases keptFieldId_eq_cases hp hp (hnew f hf) (hnew g hg) heq with
    hid | ⟨q, q', old, old', hq, hq', hold, hold', hname, hname', hid⟩
  · exact List.inj_on_of_nodup_map hids hf hg hid
  · obtain rfl := Option.some.inj (hq.symm.trans hq')
    obtain rfl := List.inj_on_of_nodup_map (hcurrent.fieldIds q (hp q hq)) hold hold' hid
    exact List.inj_on_of_nodup_map hnames hf hg (hname.symm.trans hname')

/-- The ids that the entities get are distinct, if none of them was in use before. -/
lemma nodup_keptIds_pairings (hids : (es.map Entity.id).Nodup)
    (hnew : ∀ id ∈ modelIds es, id ∉ modelIds current) :
    ((pairings current [] es).map fun p => keptId p.2 p.1).Nodup := by
  refine (nodup_keptIds hids (fun e he hmem => ?_) fun _ _ => List.not_mem_nil).1
  obtain ⟨x, hx, hid⟩ := List.mem_map.mp hmem
  exact hnew _ (entityId_mem_modelIds he) (hid ▸ entityId_mem_modelIds hx)

/-- The ids of a model that is reconciled: distinct, and not among those of the current one. -/
structure IsNewTo (current es : List Entity) : Prop where
  /-- Entities and fields are told apart by their names. -/
  named : IsNamed es
  /-- No two entities or fields have the same id. -/
  ids : (modelIds es).Nodup
  /-- None has the id of none. -/
  resolved : ∀ id ∈ modelIds es, id ≠ .unresolved
  /-- No id is in use. -/
  unused : ∀ id ∈ modelIds es, id ∉ modelIds current

lemma exists_pairing (current : List Entity) {e : Entity} (he : e ∈ es) :
    ∃ p, (e, p) ∈ pairings current [] es := by
  rw [← map_fst_pairings current [] es] at he
  obtain ⟨⟨x, p⟩, hmem, rfl⟩ := List.mem_map.mp he
  exact ⟨p, hmem⟩

/-- Every id is that of a current entity or field, or it stays what it was. -/
lemma renamed_cases (hids : (modelIds es).Nodup) (current : List Entity) {e : Entity}
    (he : e ∈ es) :
    (renamed (entityRenamings (pairings current [] es)) e.id ∈ modelIds current ∨
        renamed (entityRenamings (pairings current [] es)) e.id = e.id) ∧
      ∀ f ∈ e.fields, renamed (fieldRenamings (pairings current [] es)) f.id ∈ modelIds current ∨
        renamed (fieldRenamings (pairings current [] es)) f.id = f.id := by
  obtain ⟨p, hp⟩ := exists_pairing current he
  refine ⟨?_, fun f hf => ?_⟩
  · rw [renamed_entityRenamings (nodup_entityIds hids) hp]
    cases p with
    | none => exact Or.inr rfl
    | some q => exact Or.inl (entityId_mem_modelIds (mem_pairings hp).1)
  · rw [renamed_fieldRenamings (nodup_allFieldIds hids) hp hf]
    rcases keptFieldId_cases p f with heq | ⟨q, old, rfl, hold, -, heq⟩
    · exact Or.inr heq
    · exact Or.inl (heq ▸ fieldId_mem_modelIds (mem_pairings hp).1 hold)

/-- Every id of a reconciled model is one of the current model or one of the new model. -/
lemma mem_modelIds_reconcile (hids : (modelIds es).Nodup) {id : Id}
    (h : id ∈ modelIds (reconcile current es)) : id ∈ modelIds current ∨ id ∈ modelIds es := by
  rw [reconcile_eq_map (nodup_entityIds hids) (nodup_allFieldIds hids)] at h
  obtain ⟨e', he', hid⟩ := mem_modelIds h
  obtain ⟨e, he, rfl⟩ := List.mem_map.mp he'
  obtain ⟨hentity, hfields⟩ := renamed_cases hids current he
  rcases hid with rfl | ⟨f', hf', rfl⟩
  · refine hentity.imp_right fun heq => ?_
    have hmem := entityId_mem_modelIds he
    rwa [← heq] at hmem
  · obtain ⟨f, hf, rfl⟩ := List.mem_map.mp hf'
    refine (hfields f hf).imp_right fun heq => ?_
    have hmem := fieldId_mem_modelIds he hf
    rwa [← heq] at hmem

/-- The id of none is not renamed. -/
lemma renamed_fieldRenamings_none (hresolved : ∀ id ∈ modelIds es, id ≠ .unresolved) :
    renamed (fieldRenamings (pairings current claimed es)) .unresolved = .unresolved := by
  refine renamed_of_not_mem fun hnone => ?_
  rw [map_fst_fieldRenamings, map_fst_pairings, List.mem_reverse, mem_allFieldIds] at hnone
  obtain ⟨e, he, f, hf, hid⟩ := hnone
  exact hresolved _ (fieldId_mem_modelIds he hf) hid

/-- References between the entities of a model stay such when it is reconciled. -/
lemma isLocal_reconcile (hids : (modelIds es).Nodup)
    (hresolved : ∀ id ∈ modelIds es, id ≠ .unresolved)
    (hlocal : ∀ e ∈ es, ∀ f ∈ e.fields, ∀ r, f.reference = some r → r.IsLocal es)
    (current : List Entity) : ∀ e ∈ reconcile current es, ∀ f ∈ e.fields, ∀ r,
      f.reference = some r → r.IsLocal (reconcile current es) := by
  rw [reconcile_eq_map (nodup_entityIds hids) (nodup_allFieldIds hids) current]
  intro e' he' f' hf' r' hr'
  obtain ⟨e, he, rfl⟩ := List.mem_map.mp he'
  obtain ⟨f, hf, rfl⟩ := List.mem_map.mp hf'
  obtain ⟨r, hr, rfl⟩ := Option.map_eq_some_iff.mp hr'
  exact isLocal_renameIds (renamed_fieldRenamings_none hresolved) (hlocal e he f hf r hr)

/-- The entities get distinct ids. -/
lemma nodup_renamed_ids (h : IsNewTo current es) :
    (es.map fun e => renamed (entityRenamings (pairings current [] es)) e.id).Nodup := by
  have hkept : (es.map fun e => renamed (entityRenamings (pairings current [] es)) e.id)
      = (pairings current [] es).map fun p => keptId p.2 p.1 := by
    conv_lhs => rw [← map_fst_pairings current [] es]
    rw [List.map_map, map_fst_pairings]
    exact List.map_congr_left fun p hp => renamed_entityRenamings (nodup_entityIds h.ids) hp
  rw [hkept]
  exact nodup_keptIds_pairings (nodup_entityIds h.ids) h.unused

/-- Reconciling keeps entities and fields apart. -/
theorem keepsApart_reconcile (hcurrent : HasDistinctIds current) (h : IsNewTo current es) :
    KeepsApart (renamed (entityRenamings (pairings current [] es)))
      (renamed (fieldRenamings (pairings current [] es))) es := by
  have hmem : ∀ {e p}, (e, p) ∈ pairings current [] es → ∀ q, p = some q → q ∈ current := by
    rintro e p hep q rfl
    exact (mem_pairings hep).1
  constructor
  · exact nodup_renamed_ids h
  · intro e he
    obtain ⟨p, hp⟩ := exists_pairing current he
    have hkept : (e.fields.map fun f => renamed (fieldRenamings (pairings current [] es)) f.id)
        = e.fields.map (keptFieldId p) :=
      List.map_congr_left fun f hf => renamed_fieldRenamings (nodup_allFieldIds h.ids) hp hf
    rw [hkept]
    exact nodup_keptFieldIds hcurrent (hmem hp) (nodup_fieldIds h.ids he)
      (h.named.fieldNames e he) fun f hf => h.unused _ (fieldId_mem_modelIds he hf)
  · intro e he
    rcases (renamed_cases h.ids current he).1 with hid | hid
    · exact hcurrent.resolved _ hid
    · rw [hid]
      exact h.resolved _ (entityId_mem_modelIds he)
  · intro e he f hf
    rcases (renamed_cases h.ids current he).2 f hf with hid | hid
    · exact hcurrent.resolved _ hid
    · rw [hid]
      exact h.resolved _ (fieldId_mem_modelIds he hf)
  · exact renamed_fieldRenamings_none h.resolved

/-- **A model says the same after it has been reconciled**, and its entities and fields are told
apart by the ids that it has then. -/
theorem sketch_reconcile (hcurrent : HasDistinctIds current) (h : IsNewTo current es)
    (hlocal : ∀ e ∈ es, ∀ f ∈ e.fields, ∀ r, f.reference = some r → r.IsLocal es) :
    sketch (reconcile current es) = sketch es ∧ HasDistinctIds (reconcile current es) := by
  have hapart := keepsApart_reconcile hcurrent h
  rw [reconcile_eq_map (nodup_entityIds h.ids) (nodup_allFieldIds h.ids)]
  exact ⟨sketch_renameIds hapart h.resolved hlocal, hapart.hasDistinctIds⟩

end Renamings

end DiagramSync
