import DiagramSync.Proofs.Session.Steps

/-!
# The history of a store

Whatever is asked of a session, by its user, by a listener or by an alarm, the store changes by
edits alone, and each of them is recorded.  So the entities of the store are what its recorded edits
made of the empty store, one after the other.

* `World.IsCounted` — no controller has read more edits than there were
* `IsAboutStore`, `IsKeptByEdits` — the properties that depend on the store and on the counts alone,
  and those that every edit keeps
* `IsKeptByEdits.after` — they are kept by every run if every edit keeps them
* `isCounted_of_isReachable` — the counts are right in every session that can be reached
* `IsHistory`, `World.IsRecorded` — edits of which each was made on what the one before it left
* **`isRecorded_after`** — the store of a session is what its history says
-/

namespace DiagramSync

/-! ## Properties that edits keep -/

/-- No controller has read more edits than there were. -/
def World.IsCounted (w : World) : Prop :=
  ∀ k ∈ w.controllers, k.IsCounted

lemma World.IsCounted.modifyController {w : World} (h : w.IsCounted) (c : Nat)
    {g : Controller → Controller} (hg : ∀ k, k.IsCounted → (g k).IsCounted) :
    (w.modifyController c g).IsCounted := by
  intro k hk
  obtain ⟨d, hd⟩ := List.mem_iff_getElem?.mp hk
  rw [World.modifyController, List.getElem?_modify] at hd
  obtain ⟨k', hget, rfl⟩ := Option.map_eq_some_iff.mp hd
  have hk' := h k' (List.mem_of_getElem? hget)
  split_ifs
  · exact hg k' hk'
  · exact hk'

/-- A property of sessions that depends on the store and on the counts of the controllers alone. -/
structure IsAboutStore (P : World → Prop) : Prop where
  /-- Nothing matters but the store, its history, the settings, and that the counts are right. -/
  congr : ∀ {w w' : World}, P w → w'.store = w.store → w'.commits = w.commits →
    w'.unlinked = w.unlinked → (w.IsCounted → w'.IsCounted) → P w'

/-- A property of that kind that every edit of the store keeps. -/
structure IsKeptByEdits (P : World → Prop) : Prop extends IsAboutStore P where
  /-- An edit keeps the property. -/
  edit : ∀ {w : World} {expected : Option Int} {edit : Edit} {store : Store} {edited : Edited}
    {supply : Supply}, P w →
    w.store.apply w.unlinked expected edit w.supply = .ok ((store, edited), supply) →
    P { w with store, supply, commits := ⟨edit, store.entities⟩ :: w.commits }

section Steps

variable {P : World → Prop}

/-- Steps that leave the store alone keep the counts right. -/
lemma IsAboutStore.toShifts (hP : IsAboutStore P) : IsKeptByShifts Request.any P where
  asks _ l _ := Request.allWithin_any l.script
  shift h hstep := by
    cases hstep with
    | control c _ counted =>
      exact hP.congr h rfl rfl rfl fun hcounts => hcounts.modifyController c counted
    | opens _ debouncer =>
      refine hP.congr h rfl rfl rfl fun hcounts k hk => ?_
      rcases List.mem_append.mp hk with hk | hk
      · exact hcounts k hk
      · rw [List.mem_singleton.mp hk]
        exact Nat.le_refl 0
    | _ => exact hP.congr h rfl rfl rfl id

lemma IsKeptByEdits.toSteps (hP : IsKeptByEdits P) : IsKeptBySteps Request.any P :=
  { hP.toShifts with edit := hP.edit }

/-- What every edit keeps, every run of a session keeps. -/
lemma IsKeptByEdits.after (hP : IsKeptByEdits P) {w : World} (hw : P w) (rs : List Request) :
    P (w.after rs) :=
  keeps_after hP.toSteps hw fun r _ => r.within_any

end Steps

/-! ## Counts -/

/-- The session can be reached by some requests from one without controllers. -/
def World.IsReachable (w : World) : Prop :=
  ∃ (start : World) (rs : List Request), start.controllers = [] ∧ w = start.after rs

lemma isKeptByEdits_isCounted : IsKeptByEdits World.IsCounted where
  congr h _ _ _ hcounts := hcounts h
  edit h _ := h

/-- No controller ever reads more edits than there were. -/
theorem isCounted_of_isReachable {w : World} (hw : w.IsReachable) : w.IsCounted := by
  obtain ⟨start, rs, hnone, rfl⟩ := hw
  refine isKeptByEdits_isCounted.after (fun k hk => ?_) rs
  rw [hnone] at hk
  exact absurd hk List.not_mem_nil

/-! ## Histories -/

/-- The entities after some edits, the latest first. -/
def entitiesAfter : List Commit → List Entity
  | [] => []
  | c :: _ => c.entities

/-- Edits, the latest first, of which each was made on the entities that the one before it left. -/
inductive IsHistory (unlinked : Cardinality) : List Commit → Prop
  | nil : IsHistory unlinked []
  | cons {c : Commit} {earlier : List Commit} {edited : Edited} {supply supply' : Supply}
      (rest : IsHistory unlinked earlier)
      (made : c.edit.run unlinked (entitiesAfter earlier) supply
        = .ok ((c.entities, edited), supply')) :
      IsHistory unlinked (c :: earlier)

/-- The store is what its recorded edits made of the empty one. -/
structure World.IsRecorded (w : World) : Prop where
  /-- The edits were made one after the other. -/
  history : IsHistory w.unlinked w.commits
  /-- The last of them left the entities of the store. -/
  entities : w.store.entities = entitiesAfter w.commits

lemma isRecorded_of_empty {w : World} (hempty : w.store.entities = []) (hnone : w.commits = []) :
    w.IsRecorded := by
  constructor
  · rw [hnone]
    exact .nil
  · rw [hnone, hempty]
    rfl

lemma isKeptByEdits_isRecorded : IsKeptByEdits World.IsRecorded where
  congr h hstore hcommits hunlinked _ := by
    obtain ⟨history, entities⟩ := h
    constructor
    · rwa [hcommits, hunlinked]
    · rwa [hstore, hcommits]
  edit h happly := by
    have hmade := (apply_eq_ok happly).1
    rw [h.entities] at hmade
    exact ⟨IsHistory.cons h.history hmade, rfl⟩

/-- **The store of a session is what its history says**, after any requests and whatever listeners
ask for in between. -/
theorem isRecorded_after {w : World} (hw : w.IsRecorded) (rs : List Request) :
    (w.after rs).IsRecorded :=
  isKeptByEdits_isRecorded.after hw rs

end DiagramSync
