import DiagramSync.Proofs.Store.Reconcile

/-!
# Reconciling twice is reconciling once

The second time, the entities come under the ids that they were given the first time.  Whoever
claims an id claims the same one as before, so that entity by entity the same places are free, the
same places are taken, and every entity and every field is told to keep the id that it has.  Then
nothing is renamed, and references stay where they point, into the model or out of it.

Nothing is asked of either model for this: names and ids may clash.  That a model is reconciled with
itself to itself takes names that tell its entities and its fields apart, for of two entities of one
name the last is the one that is found.

* `IsAtHome` — an entity has the ids that its place gives it
* `reconcile_of_isAtHome` — a model all at home is left as it is
* `pairings_again` — the places of the second time are those of the first
* `isAtHome_again`, `isAtHome_self` — who is at home
* **`reconcile_reconcile`**, **`reconcile_self`** — what reconciling leaves as it is
-/

namespace DiagramSync

open Text

/-- The entity has the ids that the place which it takes gives it, and so have its fields. -/
structure IsAtHome (p : Entity × Option Entity) : Prop where
  /-- It has its id already. -/
  id : keptId p.2 p.1 = p.1.id
  /-- Its fields have theirs. -/
  fieldIds : ∀ f ∈ p.1.fields, keptFieldId p.2 f = f.id

/-! ## Nothing to rename -/

/-- Renamings of ids to themselves rename nothing. -/
lemma renamed_of_forall_same {rs : List (Id × Id)} (h : ∀ r ∈ rs, r.2 = r.1) (id : Id) :
    renamed rs id = id := by
  rw [renamed]
  cases hfind : rs.find? fun r => r.1 == id with
  | none => rfl
  | some r =>
    have hkey := List.find?_some hfind
    exact (h r (List.mem_of_find?_eq_some hfind)).trans (beq_iff_eq.mp hkey)

/-- A reference of which nothing is renamed stays as it is. -/
lemma Reference.rename_of_forall_same {entityIds fieldIds : List (Id × Id)}
    (hentities : ∀ r ∈ entityIds, r.2 = r.1) (hfields : ∀ r ∈ fieldIds, r.2 = r.1)
    (r : Reference) : r.rename entityIds fieldIds = r := by
  rw [Reference.rename, renamed_of_forall_same hentities, renamed_of_forall_same hfields, ite_self]

section AtHome

variable {current : List Entity} {claimed : List Id} {es : List Entity}

lemma IsAtHome.underKeptIds_eq {p : Entity × Option Entity} (h : IsAtHome p) :
    underKeptIds p = p.1 := by
  have hfields : p.1.fields.map (fun f => { f with id := keptFieldId p.2 f }) = p.1.fields := by
    conv_rhs => rw [← List.map_id p.1.fields]
    refine List.map_congr_left fun f hf => ?_
    rw [h.fieldIds f hf]
    rfl
  rw [underKeptIds, h.id, hfields]

lemma same_of_mem_entityRenamings {ps : List (Entity × Option Entity)} (h : ∀ p ∈ ps, IsAtHome p)
    {r : Id × Id} (hr : r ∈ entityRenamings ps) : r.2 = r.1 := by
  obtain ⟨p, hp, rfl⟩ := List.mem_map.mp (List.mem_reverse.mp hr)
  exact (h p hp).id

lemma same_of_mem_fieldRenamings {ps : List (Entity × Option Entity)} (h : ∀ p ∈ ps, IsAtHome p)
    {r : Id × Id} (hr : r ∈ fieldRenamings ps) : r.2 = r.1 := by
  obtain ⟨p, hp, hmem⟩ := List.mem_flatMap.mp (List.mem_reverse.mp hr)
  obtain ⟨f, hf, rfl⟩ := List.mem_map.mp hmem
  exact (h p hp).fieldIds f hf

/-- A model all at home is left as it is. -/
theorem reconcile_of_isAtHome (h : ∀ p ∈ pairings current [] es, IsAtHome p) :
    reconcile current es = es := by
  obtain ⟨hmerged, hentityIds, hfieldIds⟩ := foldl_step_eq current {} es
  rw [List.append_nil] at hentityIds hfieldIds
  have hreference : ∀ r : Reference,
      r.rename (entityRenamings (pairings current [] es)) (fieldRenamings (pairings current [] es))
        = r :=
    Reference.rename_of_forall_same (fun _ => same_of_mem_entityRenamings h)
      fun _ => same_of_mem_fieldRenamings h
  rw [reconcile, hmerged, hentityIds, hfieldIds, List.nil_append, List.map_map]
  conv_rhs => rw [← map_fst_pairings current [] es]
  refine List.map_congr_left fun p hp => ?_
  rw [Function.comp_apply, (h p hp).underKeptIds_eq]
  simp only [Entity.mapReferences, Field.mapReference, hreference, Option.map_id', List.map_id']

/-! ## The second time -/

/-- Under the ids that they were given the entities take the places that they took. -/
lemma pairings_again {g : Entity × Option Entity → Entity} (hname : ∀ p, (g p).name = p.1.name)
    (hid : ∀ p, (g p).id = keptId p.2 p.1) :
    pairings current claimed ((pairings current claimed es).map g)
      = (pairings current claimed es).map fun p => (g p, p.2) := by
  induction es generalizing claimed with
  | nil => rfl
  | cons e es ih =>
    set previous := previousOf current claimed e with hprevious
    have hsame : previousOf current claimed (g (e, previous)) = previous := by
      rw [previousOf, hname, hprevious, previousOf]
    -- the id that is claimed is the one that was claimed the first time
    have hkept : keptId previous (g (e, previous)) = keptId previous e := by
      rw [keptId, hid]
      cases previous with
      | none => rfl
      | some q => rfl
    rw [pairings, List.map_cons, pairings, ← hprevious, hsame, hkept, ih, List.map_cons]

/-- Who has been given the ids of a place is at home there. -/
lemma isAtHome_again (ρ : Reference → Reference) (p : Entity × Option Entity) :
    IsAtHome ((underKeptIds p).mapReferences ρ, p.2) := by
  obtain ⟨e, previous⟩ := p
  constructor
  · cases previous with
    | none => rfl
    | some q => rfl
  · intro f' hf'
    obtain ⟨f₁, hf₁, rfl⟩ := List.mem_map.mp hf'
    obtain ⟨f, -, rfl⟩ := List.mem_map.mp hf₁
    show keptFieldId previous
        { f with id := keptFieldId previous f, reference := f.reference.map ρ }
      = keptFieldId previous f
    simp only [keptFieldId]
    cases previous.bind (·.findFieldNamed? f.name) with
    | none => rfl
    | some old => rfl

/-- **Reconciling twice is reconciling once**, whatever the two models are. -/
theorem reconcile_reconcile (current es : List Entity) :
    reconcile current (reconcile current es) = reconcile current es := by
  obtain ⟨hmerged, -, -⟩ := foldl_step_eq current {} es
  obtain ⟨ρ, hreconciled⟩ : ∃ ρ : Reference → Reference, reconcile current es
      = (pairings current [] es).map fun p => (underKeptIds p).mapReferences ρ :=
    ⟨_, by rw [reconcile, hmerged, List.nil_append, List.map_map]; rfl⟩
  have hagain : pairings current []
        ((pairings current [] es).map fun p => (underKeptIds p).mapReferences ρ)
      = (pairings current [] es).map fun p => ((underKeptIds p).mapReferences ρ, p.2) :=
    pairings_again (fun _ => rfl) fun _ => rfl
  rw [hreconciled]
  refine reconcile_of_isAtHome fun p hp => ?_
  rw [hagain] at hp
  obtain ⟨p, -, rfl⟩ := List.mem_map.mp hp
  exact isAtHome_again ρ p

/-! ## With itself -/

/-- Where names tell entities and fields apart, an entity that takes a place of its own model takes
its own. -/
lemma isAtHome_self (hentities : (current.map (foldName ·.name)).Nodup)
    (hfields : ∀ e ∈ current, (e.fields.map (foldName ·.name)).Nodup)
    {p : Entity × Option Entity} (hp : p ∈ pairings current [] current) : IsAtHome p := by
  obtain ⟨e, previous⟩ := p
  have he : e ∈ current := by
    rw [← map_fst_pairings current [] current]
    exact List.mem_map_of_mem (f := Prod.fst) hp
  cases previous with
  | none => exact ⟨rfl, fun _ _ => rfl⟩
  | some q =>
    obtain ⟨hq, hname⟩ := mem_pairings hp
    obtain rfl := List.inj_on_of_nodup_map hentities hq he hname
    refine ⟨rfl, fun f hf => ?_⟩
    have hfind : q.findFieldNamed? f.name = some f :=
      (findFieldNamed?_eq_some (hfields q hq)).mpr ⟨hf, rfl⟩
    rw [keptFieldId, Option.bind_some, hfind]

/-- **A model whose names tell its entities and fields apart is reconciled with itself to
itself.**  Its ids may clash: an entity whose id another one has claimed before keeps it all the
same. -/
theorem reconcile_self (hentities : (current.map (foldName ·.name)).Nodup)
    (hfields : ∀ e ∈ current, (e.fields.map (foldName ·.name)).Nodup) :
    reconcile current current = current :=
  reconcile_of_isAtHome fun _ => isAtHome_self hentities hfields

/-- **Reconciling is idempotent.**  What has been reconciled with a model once is left as it is by
reconciling it again, whatever the two models are, and so is the model itself where its names tell
its entities and fields apart. -/
theorem reconcile_idempotent (current : List Entity) :
    (∀ es, reconcile current (reconcile current es) = reconcile current es) ∧
      ((current.map (foldName ·.name)).Nodup →
        (∀ e ∈ current, (e.fields.map (foldName ·.name)).Nodup) →
        reconcile current current = current) :=
  ⟨reconcile_reconcile current, reconcile_self⟩

/-- Two entities with one id between them, whose fields have one id as well and point at each other
and out of the model. -/
def sharedIds : List Entity :=
  [{ id := ⟨"e"⟩, name := "Users",
     fields :=
       [{ id := ⟨"f"⟩, name := "id" },
        { id := ⟨"f"⟩, name := "boss", isForeign := true,
          reference := some { target := ⟨"e"⟩, targetField := ⟨"f"⟩ } }] },
   { id := ⟨"e"⟩, name := "Orders",
     fields :=
       [{ id := ⟨"f"⟩, name := "buyer", isForeign := true,
          reference := some { target := ⟨"gone"⟩, targetField := ⟨"f"⟩ } }] }]

/-- It is reconciled with itself to itself, and what was read twice under one name with it in two
steps as in one. -/
theorem reconcile_idempotent_sharedIds :
    reconcile sharedIds sharedIds = sharedIds ∧
      reconcile sharedIds (reconcile sharedIds [{ id := ⟨"x"⟩, name := "USERS" },
        { id := ⟨"x"⟩, name := "users", fields := [{ id := ⟨"y"⟩, name := "Boss" }] }])
      = reconcile sharedIds [{ id := ⟨"x"⟩, name := "USERS" },
        { id := ⟨"x"⟩, name := "users", fields := [{ id := ⟨"y"⟩, name := "Boss" }] }] :=
  ⟨(reconcile_idempotent sharedIds).2 (by decide +kernel) (by decide +kernel),
    (reconcile_idempotent sharedIds).1 _⟩

end AtHome

end DiagramSync
