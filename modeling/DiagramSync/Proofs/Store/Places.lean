import DiagramSync.Proofs.Store.Reconcile
import Mathlib.Data.Set.Function

/-!
# Whose place is taken

Reconciling renames ids, and by the names one can tell how: the first entity of a name takes the
place of the current entity that has it in some case of letters, and its fields take the places of
the fields there.  Everything else keeps its id.  Two entities never take one place, so that no two
ids become one.

* `Takes` — an entity takes the place of a current one
* `TakesPlaces` — renamings that give whoever takes a place the id that belongs to it
* `exists_pairing_takes` — an entity is paired with the one whose place it takes
* `takesPlaces_pairings` — the renamings of the pairings are such renamings
* `injOn_of_moved` — what is moved out of the way is not moved onto anything
* **`reconcile_takesPlaces`** — reconciling is such a renaming, and it is injective
-/

namespace DiagramSync

open Text

/-! ## Places -/

/-- The place of the current entity `p` is taken by `e`: it has the same name but for case, and
none of the `earlier` entities has been given the id of `p`. -/
structure Takes (current earlier : List Entity) (ρ : Id → Id) (e p : Entity) : Prop where
  /-- There is such a place. -/
  mem : p ∈ current
  /-- It is that of a namesake. -/
  name : foldName p.name = foldName e.name
  /-- It is free. -/
  free : ∀ x ∈ earlier, ρ x.id ≠ p.id

/-- The renamings `ρ` of entities and `φ` of fields give those that take a place the id of that
place, and leave all other ids alone. -/
structure TakesPlaces (current es : List Entity) (ρ φ : Id → Id) : Prop where
  /-- An entity gets the id of the one whose place it takes. -/
  entity : ∀ pre e post, es = pre ++ e :: post → ∀ p, Takes current pre ρ e p → ρ e.id = p.id
  /-- Without a place an entity keeps its id. -/
  newEntity : ∀ pre e post, es = pre ++ e :: post → (∀ p, ¬ Takes current pre ρ e p) →
    ρ e.id = e.id
  /-- A field gets the id of its namesake in the entity whose place is taken. -/
  field : ∀ pre e post, es = pre ++ e :: post → ∀ p, Takes current pre ρ e p → ∀ f ∈ e.fields,
    ∀ old, p.findFieldNamed? f.name = some old → φ f.id = old.id
  /-- Without a namesake there a field keeps its id. -/
  newField : ∀ pre e post, es = pre ++ e :: post → ∀ f ∈ e.fields,
    (∀ p, Takes current pre ρ e p → p.findFieldNamed? f.name = none) → φ f.id = f.id
  /-- What is the id of no entity stays as it is. -/
  otherEntity : ∀ id, id ∉ es.map Entity.id → ρ id = id
  /-- What is the id of no field stays as it is. -/
  otherField : ∀ id, id ∉ allFieldIds es → φ id = id

section Places

variable {current es : List Entity}

/-- A place is taken exactly if there is a namesake whose id is free. -/
lemma previousOf_eq_some_iff (hnames : (current.map (foldName ·.name)).Nodup) {claimed : List Id}
    {e p : Entity} :
    previousOf current claimed e = some p ↔
      p ∈ current ∧ foldName p.name = foldName e.name ∧ p.id ∉ claimed := by
  constructor
  · exact previousOf_eq_some
  · rintro ⟨hp, hname, hfree⟩
    have hfind : current.reverse.find? (fun q => foldName q.name == foldName e.name) = some p := by
      rw [find?_key_reverse hnames]
      exact (find?_key_eq_some hnames).mpr ⟨hp, hname⟩
    have hclaimed : claimed.contains p.id = false := by simpa using hfree
    rw [previousOf, hfind]
    simp only [Option.bind_eq_bind, Option.bind_some, hclaimed, Bool.false_eq_true, if_false]

/-- The later entities are paired as if the ids of the earlier ones had been claimed before. -/
lemma pairings_append (current : List Entity) (claimed : List Id) (pre es : List Entity) :
    pairings current claimed (pre ++ es) = pairings current claimed pre ++
      pairings current
        (((pairings current claimed pre).map fun p => keptId p.2 p.1).reverse ++ claimed) es := by
  induction pre generalizing claimed with
  | nil => rfl
  | cons x pre ih =>
    rw [List.cons_append, pairings, ih, pairings, List.cons_append, List.map_cons,
      List.reverse_cons, List.append_assoc]
    rfl

/-- An entity is paired with the one whose place it takes. -/
lemma exists_pairing_takes (hids : (es.map Entity.id).Nodup)
    (hnames : (current.map (foldName ·.name)).Nodup) {pre post : List Entity} {e : Entity}
    (hes : es = pre ++ e :: post) :
    ∃ q, (e, q) ∈ pairings current [] es ∧
      ∀ p, q = some p ↔
        Takes current pre (renamed (entityRenamings (pairings current [] es))) e p := by
  set ρ := renamed (entityRenamings (pairings current [] es)) with hρ
  set claimed := ((pairings current [] pre).map fun p => keptId p.2 p.1).reverse ++ []
    with hclaimed
  have happend : pairings current [] es
      = pairings current [] pre ++ pairings current claimed (e :: post) := by
    rw [hes, pairings_append]
  have hmem : ∀ id, id ∈ claimed ↔ ∃ x ∈ pre, ρ x.id = id := by
    have hkept : ∀ x q, (x, q) ∈ pairings current [] pre → ρ x.id = keptId q x :=
      fun x q hx => renamed_entityRenamings hids (happend ▸ List.mem_append_left _ hx)
    intro id
    rw [hclaimed, List.append_nil, List.mem_reverse, List.mem_map]
    constructor
    · rintro ⟨⟨x, q⟩, hx, rfl⟩
      have hxpre : x ∈ pre := by
        rw [← map_fst_pairings current [] pre]
        exact List.mem_map_of_mem hx
      exact ⟨x, hxpre, hkept x q hx⟩
    · rintro ⟨x, hx, rfl⟩
      obtain ⟨q, hq⟩ := exists_pairing current hx
      exact ⟨(x, q), hq, (hkept x q hq).symm⟩
  refine ⟨previousOf current claimed e, ?_, fun p => ?_⟩
  · rw [happend, pairings]
    exact List.mem_append_right _ List.mem_cons_self
  · rw [previousOf_eq_some_iff hnames, hmem]
    constructor
    · rintro ⟨hp, hname, hfree⟩
      exact ⟨hp, hname, fun x hx heq => hfree ⟨x, hx, heq⟩⟩
    · rintro ⟨hp, hname, hfree⟩
      refine ⟨hp, hname, ?_⟩
      rintro ⟨x, hx, heq⟩
      exact hfree x hx heq

/-- The renamings of the pairings give everyone the id of the place that is taken. -/
lemma takesPlaces_pairings (hentities : (es.map Entity.id).Nodup)
    (hfields : (allFieldIds es).Nodup) (hnames : (current.map (foldName ·.name)).Nodup) :
    TakesPlaces current es (renamed (entityRenamings (pairings current [] es)))
      (renamed (fieldRenamings (pairings current [] es))) where
  entity pre e post hes p hp := by
    obtain ⟨q, hq, htakes⟩ := exists_pairing_takes hentities hnames hes
    rw [renamed_entityRenamings hentities hq, (htakes p).mpr hp]
    rfl
  newEntity pre e post hes hnone := by
    obtain ⟨q, hq, htakes⟩ := exists_pairing_takes hentities hnames hes
    rw [renamed_entityRenamings hentities hq]
    cases hplace : q with
    | none => rfl
    | some p => exact absurd ((htakes p).mp hplace) (hnone p)
  field pre e post hes p hp f hf old hold := by
    obtain ⟨q, hq, htakes⟩ := exists_pairing_takes hentities hnames hes
    rw [renamed_fieldRenamings hfields hq hf, (htakes p).mpr hp, keptFieldId, Option.bind_some,
      hold]
  newField pre e post hes f hf hnone := by
    obtain ⟨q, hq, htakes⟩ := exists_pairing_takes hentities hnames hes
    rw [renamed_fieldRenamings hfields hq hf, keptFieldId]
    cases hplace : q with
    | none => rfl
    | some p => rw [Option.bind_some, hnone p ((htakes p).mp hplace)]
  otherEntity id hid := by
    refine renamed_of_not_mem ?_
    rwa [map_fst_entityRenamings, map_fst_pairings, List.mem_reverse]
  otherField id hid := by
    refine renamed_of_not_mem ?_
    rwa [map_fst_fieldRenamings, map_fst_pairings, List.mem_reverse]

/-! ## No two ids become one -/

/-- A renaming of some ids of a set that is injective on these and moves them out of the set, if it
moves them at all, is injective on the set. -/
lemma injOn_of_moved {ρ : Id → Id} {all : List Id} (moving : List Id)
    (hinj : ∀ a ∈ moving, ∀ b ∈ moving, ρ a = ρ b → a = b)
    (hmoved : ∀ a ∈ moving, ρ a = a ∨ ρ a ∉ all) (hother : ∀ a, a ∉ moving → ρ a = a) :
    Set.InjOn ρ {id | id ∈ all} := by
  have hmixed : ∀ a ∈ moving, ∀ b ∈ all, b ∉ moving → ρ a = ρ b → a = b := by
    intro a ha b hb hnot heq
    rw [hother b hnot] at heq
    rcases hmoved a ha with hkept | hleft
    · exact hkept.symm.trans heq
    · exact absurd (heq ▸ hb) hleft
  intro a ha b hb heq
  by_cases ha' : a ∈ moving
  · by_cases hb' : b ∈ moving
    · exact hinj a ha' b hb' heq
    · exact hmixed a ha' b hb hb' heq
  · by_cases hb' : b ∈ moving
    · exact (hmixed b hb' a ha ha' heq.symm).symm
    · exact (hother a ha').symm.trans (heq.trans (hother b hb'))

/-- No two entities get the same id, and no entity gets the id of a field. -/
lemma injOn_entityRenamings (hentities : (es.map Entity.id).Nodup)
    (hnew : ∀ id ∈ modelIds es, id ∉ modelIds current) :
    Set.InjOn (renamed (entityRenamings (pairings current [] es))) {id | id ∈ modelIds es} := by
  have hnodup := nodup_keptIds_pairings hentities hnew
  refine injOn_of_moved (es.map Entity.id) (fun a ha b hb heq => ?_) (fun a ha => ?_)
    fun a ha => ?_
  · obtain ⟨e, he, rfl⟩ := List.mem_map.mp ha
    obtain ⟨e', he', rfl⟩ := List.mem_map.mp hb
    obtain ⟨p, hp⟩ := exists_pairing current he
    obtain ⟨p', hp'⟩ := exists_pairing current he'
    rw [renamed_entityRenamings hentities hp, renamed_entityRenamings hentities hp'] at heq
    exact congrArg (fun p => p.1.id) (List.inj_on_of_nodup_map hnodup hp hp' heq)
  · obtain ⟨e, he, rfl⟩ := List.mem_map.mp ha
    obtain ⟨p, hp⟩ := exists_pairing current he
    rw [renamed_entityRenamings hentities hp]
    cases p with
    | none => exact Or.inl rfl
    | some q =>
      refine Or.inr fun hmem => hnew _ hmem ?_
      exact entityId_mem_modelIds (mem_pairings hp).1
  · refine renamed_of_not_mem ?_
    rwa [map_fst_entityRenamings, map_fst_pairings, List.mem_reverse]

/-- No two fields of the model get the same id. -/
lemma eq_of_keptFieldId_eq (hentities : (es.map Entity.id).Nodup)
    (hcurrent : (allFieldIds current).Nodup)
    (hnew : ∀ id ∈ modelIds es, id ∉ modelIds current)
    (hnames : ∀ e ∈ es, (e.fields.map (foldName ·.name)).Nodup) {e e' : Entity}
    {p p' : Option Entity} (hp : (e, p) ∈ pairings current [] es)
    (hp' : (e', p') ∈ pairings current [] es) {f f' : Field} (hf : f ∈ e.fields)
    (hf' : f' ∈ e'.fields) (heq : keptFieldId p f = keptFieldId p' f') : f.id = f'.id := by
  have hmem : ∀ {x q}, (x, q) ∈ pairings current [] es → x ∈ es := by
    intro x q hx
    rw [← map_fst_pairings current [] es]
    exact List.mem_map_of_mem hx
  have hplace : ∀ {x q}, (x, q) ∈ pairings current [] es → ∀ y, q = some y → y ∈ current := by
    rintro x q hx y rfl
    exact (mem_pairings hx).1
  rcases keptFieldId_eq_cases (hplace hp) (hplace hp')
      (hnew _ (fieldId_mem_modelIds (hmem hp) hf)) (hnew _ (fieldId_mem_modelIds (hmem hp') hf'))
      heq with hid | ⟨q, q', old, old', rfl, rfl, hold, hold', hname, hname', hid⟩
  · exact hid
  · -- one current field cannot be claimed twice: its entity has one place only
    obtain ⟨rfl, rfl⟩ := eq_of_fieldId_eq hcurrent (mem_pairings hp).1 (mem_pairings hp').1
      hold hold' hid
    have hpair : (e, some q) = (e', some q) :=
      List.inj_on_of_nodup_map (nodup_keptIds_pairings hentities hnew) hp hp' rfl
    obtain rfl := congrArg Prod.fst hpair
    rw [List.inj_on_of_nodup_map (hnames e (hmem hp)) hf hf' (hname.symm.trans hname')]

/-- No two fields get the same id, and no field gets the id of an entity. -/
lemma injOn_fieldRenamings (hentities : (es.map Entity.id).Nodup)
    (hfields : (allFieldIds es).Nodup) (hcurrent : (allFieldIds current).Nodup)
    (hnew : ∀ id ∈ modelIds es, id ∉ modelIds current)
    (hnames : ∀ e ∈ es, (e.fields.map (foldName ·.name)).Nodup) :
    Set.InjOn (renamed (fieldRenamings (pairings current [] es))) {id | id ∈ modelIds es} := by
  refine injOn_of_moved (allFieldIds es) (fun a ha b hb heq => ?_) (fun a ha => ?_)
    fun a ha => ?_
  · obtain ⟨e, he, f, hf, rfl⟩ := mem_allFieldIds.mp ha
    obtain ⟨e', he', f', hf', rfl⟩ := mem_allFieldIds.mp hb
    obtain ⟨p, hp⟩ := exists_pairing current he
    obtain ⟨p', hp'⟩ := exists_pairing current he'
    rw [renamed_fieldRenamings hfields hp hf, renamed_fieldRenamings hfields hp' hf'] at heq
    exact eq_of_keptFieldId_eq hentities hcurrent hnew hnames hp hp' hf hf' heq
  · obtain ⟨e, he, f, hf, rfl⟩ := mem_allFieldIds.mp ha
    obtain ⟨p, hp⟩ := exists_pairing current he
    rw [renamed_fieldRenamings hfields hp hf]
    rcases keptFieldId_cases p f with hkept | ⟨q, old, rfl, hold, -, hkept⟩
    · exact Or.inl hkept
    · rw [hkept]
      exact Or.inr fun hmem => hnew _ hmem (fieldId_mem_modelIds (mem_pairings hp).1 hold)
  · refine renamed_of_not_mem ?_
    rwa [map_fst_fieldRenamings, map_fst_pairings, List.mem_reverse]

/-- **Reconciling is an injective renaming of ids**: whoever has the name of a current entity takes
its place, with the fields, if nobody has taken it before, and nothing else is renamed.  The
references are led along, and whatever is not an id stays as it is. -/
theorem reconcile_takesPlaces (hentities : (es.map Entity.id).Nodup)
    (hfields : (allFieldIds es).Nodup) (hcurrent : (allFieldIds current).Nodup)
    (hnew : ∀ id ∈ modelIds es, id ∉ modelIds current)
    (hcurrentNames : (current.map (foldName ·.name)).Nodup)
    (hnames : ∀ e ∈ es, (e.fields.map (foldName ·.name)).Nodup) :
    ∃ ρ φ : Id → Id, Set.InjOn ρ {id | id ∈ modelIds es} ∧ Set.InjOn φ {id | id ∈ modelIds es} ∧
      TakesPlaces current es ρ φ ∧ reconcile current es = es.map (·.renameIds ρ φ) :=
  ⟨_, _, injOn_entityRenamings hentities hnew,
    injOn_fieldRenamings hentities hfields hcurrent hnew hnames,
    takesPlaces_pairings hentities hfields hcurrentNames,
    reconcile_eq_map hentities hfields current⟩

end Places

/-- Users as they are known. -/
def knownUsers : List Entity :=
  [{ id := ⟨"users"⟩, name := "Users"
     fields :=
      [{ id := ⟨"users.id"⟩, name := "id", type := .int, isPrimary := true },
       { id := ⟨"users.email"⟩, name := "email" }] }]

/-- Users typed anew in capitals, a second time in small letters, and posts that point at the
first. -/
def retypedUsers : List Entity :=
  [{ id := ⟨"1"⟩, name := "USERS"
     fields := [{ id := ⟨"2"⟩, name := "ID", type := .int, isPrimary := true }] },
   { id := ⟨"3"⟩, name := "users", fields := [{ id := ⟨"4"⟩, name := "id" }] },
   { id := ⟨"5"⟩, name := "Posts"
     fields :=
      [{ id := ⟨"6"⟩, name := "user_id", type := .int, isForeign := true
         reference := some { target := ⟨"1"⟩, targetField := ⟨"2"⟩ } }] }]

/-- The first users take the place of the known ones, and the second ones stay apart. -/
theorem reconcile_takesPlaces_retypedUsers :
    ∃ ρ φ : Id → Id, Set.InjOn ρ {id | id ∈ modelIds retypedUsers} ∧
      Set.InjOn φ {id | id ∈ modelIds retypedUsers} ∧
      TakesPlaces knownUsers retypedUsers ρ φ ∧
      reconcile knownUsers retypedUsers = retypedUsers.map (·.renameIds ρ φ) :=
  reconcile_takesPlaces (by decide +kernel) (by decide +kernel) (by decide +kernel)
    (by decide +kernel) (by decide +kernel) (by decide +kernel)

end DiagramSync
