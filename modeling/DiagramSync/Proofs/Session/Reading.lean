import DiagramSync.Proofs.Session.Surroundings

/-!
# Reading an edit

When its delay ends, or as soon as it is told to, a controller reads its text: it notes what it has
read, and draws its conclusion.  An edit that is not the latest one, or that has been read before,
is left alone.

* `exec_readEdit_unread`, `exec_readEdit_done` — reading an edit, and leaving it alone
* **`exec_wake_unread`** — the end of the delay of an edit that has not been read
* `exec_wake_none`, `exec_wake_done` — the end of a delay where there is nothing to read
* `exec_flushController_pending`, `exec_flushController`, `exec_flushController_idle` — reading
  at once
* `exec_applyEntities_same`, `exec_applyEntities_changed` — what becomes of a model that was read
-/

namespace DiagramSync

/-! ## Reading -/

section Reading

variable (react : React) {w : World} {c : Nat} {k : Controller}

/-- The latest edit is read if it has not been read yet. -/
lemma exec_readEdit_unread (hk : w.controllers[c]? = some k)
    (hunread : k.parsedGeneration < k.editGeneration) {outcome : ParseOutcome} {supply : Supply}
    (hparse : parse k.resolver w.unlinked w.supply k.text = (outcome, supply)) :
    (readEdit react c k.editGeneration).exec w
      = (conclude react c outcome).exec (({ w with supply } : World).modifyController c fun k => { k
          with lastResult := some outcome, parsedGeneration := k.editGeneration }) := by
  rw [← Surroundings.readEdit_plain, ← Surroundings.conclude_plain]
  exact Surroundings.exec_readEdit_unread _ hk (by omega) hparse

/-- No other edit is read. -/
lemma exec_readEdit_done (hk : w.controllers[c]? = some k) {generation : Int}
    (hdone : generation ≠ k.editGeneration ∨ generation ≤ k.parsedGeneration) :
    (readEdit react c generation).exec w = (.ok (), w) := by
  rw [← Surroundings.readEdit_plain]
  exact Surroundings.exec_readEdit_done _ hk hdone

end Reading

/-! ## The end of a delay -/

section Waking

variable (react : React) {w : World} {c : Nat} {k : Controller}

/-- What a controller is once it has noted what it read. -/
lemma getElem?_noting (hk : w.controllers[c]? = some k) (outcome : ParseOutcome)
    (supply : Supply) : (w.noting c outcome supply).controllers[c]? = some { k with
      debouncer := k.debouncer.cancel, parsedGeneration := k.editGeneration
      lastResult := some outcome } :=
  getElem?_modifyController (w := { w with supply }) hk _

/-- The latest edit is what a controller looks at when its delay ends. -/
lemma exec_wake_some (hk : w.controllers[c]? = some k) :
    (wake react c).exec w = (readEdit react c k.editGeneration).exec
      (w.modifyController c fun k => { k with debouncer := k.debouncer.cancel }) := by
  rw [← Surroundings.wake_plain, ← Surroundings.readEdit_plain]
  exact Surroundings.exec_wake_some _ hk

lemma exec_wake_none (hnone : w.controllers[c]? = none) :
    (wake react c).exec w
      = (.ok (), w.modifyController c fun k => { k with debouncer := k.debouncer.cancel }) := by
  have hcancel := exec_modifyController c (fun k => { k with debouncer := k.debouncer.cancel }) w
  rw [wake, exec_bind_ok hcancel, exec_bind_ok (exec_get _), getElem?_modifyController_none hnone]
  exact exec_pure () _

/-- **When its delay ends, a controller reads what it has not read.** -/
theorem exec_wake_unread (hk : w.controllers[c]? = some k)
    (hunread : k.parsedGeneration < k.editGeneration) {outcome : ParseOutcome} {supply : Supply}
    (hparse : parse k.resolver w.unlinked w.supply k.text = (outcome, supply)) :
    (wake react c).exec w = (conclude react c outcome).exec (w.noting c outcome supply) := by
  rw [← Surroundings.wake_plain, ← Surroundings.conclude_plain]
  exact Surroundings.exec_wake_unread _ hk hunread hparse

/-- It leaves what it has read before. -/
lemma exec_wake_done (hk : w.controllers[c]? = some k)
    (hread : ¬ k.parsedGeneration < k.editGeneration) :
    (wake react c).exec w
      = (.ok (), w.modifyController c fun k => { k with debouncer := k.debouncer.cancel }) := by
  rw [← Surroundings.wake_plain]
  exact Surroundings.exec_wake_done _ hk hread

/-- Where an edit is pending, reading it at once is what the end of the delay does. -/
lemma exec_flushController_pending (hk : w.controllers[c]? = some k)
    (hpending : k.debouncer.pending = true) :
    (flushController react c).exec w = (((wake react c).exec w).1.map fun _ =>
      ((wake react c).exec w).2.controllers[c]?.bind (·.lastResult), ((wake react c).exec w).2) := by
  rw [← Surroundings.flush_plain, ← Surroundings.wake_plain]
  exact Surroundings.exec_flush_pending _ hk hpending

/-- Waiting for the delay and reading at once come to the same. -/
lemma exec_flushController {react : React} (hk : w.controllers[c]? = some k)
    (hpending : k.debouncer.pending = true) {w' : World}
    (hwake : (wake react c).exec w = (.ok (), w')) :
    (flushController react c).exec w = (.ok (w'.controllers[c]?.bind (·.lastResult)), w') := by
  rw [exec_flushController_pending react hk hpending, hwake]
  rfl

/-- Where no edit is pending, nothing is read. -/
lemma exec_flushController_idle
    (hidle : ¬ ∃ k, w.controllers[c]? = some k ∧ k.debouncer.pending = true) :
    (flushController react c).exec w = (.ok none, w) := by
  rw [flushController, exec_bind_ok (exec_get w)]
  cases hk : w.controllers[c]? with
  | none => rfl
  | some k =>
    dsimp only
    rw [if_neg fun hpending => hidle ⟨k, hk, hpending⟩]
    rfl

end Waking

/-! ## A model that was read -/

section Applying

variable (react : React) (c : Nat) {es : List Entity} {w : World}

/-- A model that is there already is not written. -/
lemma exec_applyEntities_same (hsame : reconcile w.store.entities es = w.store.entities) :
    (applyEntities react c es).exec w
      = (.ok (), w.modifyController c fun k => { k with lastError := none }) := by
  rw [applyEntities, exec_bind_ok (exec_get w)]
  dsimp only
  rw [if_pos hsame, clearError, exec_modifyController]

/-- Any other model is put in place of all entities; what fails on a duplicate name is rejected. -/
lemma exec_applyEntities_changed (hchanged : reconcile w.store.entities es ≠ w.store.entities) :
    (applyEntities react c es).exec w =
      match (commit react .text none (.setEntities (reconcile w.store.entities es))).exec w with
      | (.ok _, w') => (.ok (), w'.modifyController c fun k => { k with lastError := none })
      | (.error f, w') =>
        if f.isDuplicateName then (reject c ⟨.duplicateEntity, f.message⟩).exec w'
        else (.error f, w') := by
  rw [applyEntities, exec_bind_ok (exec_get w)]
  dsimp only
  rw [if_neg hchanged, exec_tryCatch, exec_bind]
  cases (commit react .text none (.setEntities (reconcile w.store.entities es))).exec w with
  | mk r w' =>
    cases r with
    | ok _ => rfl
    | error f =>
      dsimp only
      split_ifs
      · rfl
      · exact exec_throw f w'

end Applying

end DiagramSync
