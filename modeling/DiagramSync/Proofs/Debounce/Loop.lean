import DiagramSync.Debounce.Loop
import DiagramSync.Proofs.Debounce.Exact

/-!
# One timer at a time

On an event loop a debouncer leaves cancelled timers behind, but never more than one that is not,
and that is the one it holds on to.  So nothing is seen of the others when their time comes, and the
debouncer with its timers does what the debouncer with its one alarm does.

* `DebounceLoop.Shows` — the timers amount to the alarm that is set
* `DebounceLoop.Shows.runUntil` — of the timers that are due, one at most is called
* **`DebounceLoop.shows_after`** — they do so after any operations
* **`debounces_exactly`** — when the callback runs, and what is seen of the debouncer
-/

namespace DiagramSync

namespace DebounceLoop

/-- The timers amount to the alarm that is set: it is the one timer that has not been cancelled, and
the debouncer holds on to it. -/
structure Shows (l : DebounceLoop) (s : DebounceState) : Prop where
  /-- The delay is the same. -/
  delay : l.delay = s.debouncer.delay
  /-- The clock is the same. -/
  clock : l.clock = s.clock
  /-- The callback has run at the same times. -/
  fired : l.fired = s.fired
  /-- The debouncer holds on to the alarm that is set. -/
  handle : l.handle = s.debouncer.alarm.map Alarm.order
  /-- Nothing but the alarm that is set is live. -/
  live : l.live = (s.debouncer.alarm.map fun alarm => { alarm : LoopTimer }).toList

section Shows

variable {l : DebounceLoop} {s : DebounceState}

lemma Shows.pending (h : l.Shows s) : l.pending = s.debouncer.pending := by
  rw [DebounceLoop.pending, h.handle, Option.isSome_map]
  rfl

/-- Cancelling leaves no timer live. -/
lemma Shows.cancel (h : l.Shows s) :
    l.cancel.Shows { s with debouncer := s.debouncer.cancel } := by
  have hhandle := h.handle
  have hlive := h.live
  cases halarm : s.debouncer.alarm with
  | none =>
    rw [halarm] at hhandle hlive
    have hcancel : l.cancel = l := by rw [DebounceLoop.cancel, hhandle]; rfl
    rw [hcancel]
    exact ⟨h.delay, h.clock, h.fired, hhandle, hlive⟩
  | some a =>
    rw [halarm] at hhandle hlive
    have hcancel : l.cancel = { l with
        timers := l.timers.map fun t =>
          if t.alarm.order = a.order then { t with cancelled := true } else t
        handle := none } := by
      rw [DebounceLoop.cancel, hhandle]
      rfl
    rw [hcancel]
    refine ⟨h.delay, h.clock, h.fired, rfl, ?_⟩
    refine List.filter_eq_nil_iff.mpr fun t' ht' => ?_
    obtain ⟨t, ht, rfl⟩ := List.mem_map.mp ht'
    split_ifs with horder
    · exact Bool.false_ne_true
    · intro hnot
      have hmem : t ∈ l.live := List.mem_filter.mpr ⟨ht, hnot⟩
      rw [hlive] at hmem
      obtain rfl := List.mem_singleton.mp hmem
      exact horder rfl

/-- A timer started where none is live is the one that is. -/
lemma Shows.start (h : l.Shows s) (hnone : s.debouncer.alarm = none) :
    l.start.Shows (s.step (.trigger true)).1 := by
  have hlive := h.live
  rw [hnone] at hlive
  have halarm : ({ due := l.clock.now + l.delay, order := l.clock.alarms } : Alarm)
      = { due := s.clock.now + s.debouncer.delay, order := s.clock.alarms } := by
    rw [h.clock, h.delay]
  refine ⟨h.delay, ?_, h.fired, ?_, ?_⟩
  · show { l.clock with alarms := l.clock.alarms + 1 }
      = { s.clock with alarms := s.clock.alarms + 1 }
    rw [h.clock]
  · show some l.clock.alarms = some s.clock.alarms
    rw [h.clock]
  · rw [DebounceLoop.live, DebounceLoop.start, List.filter_append, ← DebounceLoop.live, hlive,
      halarm]
    rfl

/-- Cancelled timers are passed over. -/
lemma foldl_expire_live (l : DebounceLoop) (timers : List LoopTimer) :
    timers.foldl expire l = (timers.filter fun t => !t.cancelled).foldl expire l := by
  induction timers generalizing l with
  | nil => rfl
  | cons t timers ih =>
    cases hcancelled : t.cancelled with
    | true =>
      have hpassed : l.expire t = l := by rw [expire, if_pos hcancelled]
      rw [List.foldl_cons, hpassed, ih, List.filter_cons_of_neg (by simp [hcancelled])]
    | false =>
      rw [List.foldl_cons, ih, List.filter_cons_of_pos (by simp [hcancelled]), List.foldl_cons]

/-- The live timers that are due, in whatever order the loop comes to them. -/
lemma Shows.live_due (h : l.Shows s) (time : Nat) {due : List LoopTimer}
    (hdue : due.Perm (l.timers.filter fun t => t.alarm.due ≤ time)) :
    (due.filter fun t => !t.cancelled)
      = ((s.debouncer.due? time).map fun alarm => { alarm : LoopTimer }).toList := by
  have hperm : (due.filter fun t => !t.cancelled).Perm
      (l.live.filter fun t => t.alarm.due ≤ time) := by
    rw [DebounceLoop.live, List.filter_comm]
    exact hdue.filter _
  rw [h.live] at hperm
  cases halarm : s.debouncer.alarm with
  | none =>
    rw [halarm] at hperm
    rw [Debouncer.due?, halarm]
    exact List.perm_nil.mp hperm
  | some a =>
    rw [halarm] at hperm
    rw [Debouncer.due?_of_alarm halarm]
    by_cases hdue : a.due ≤ time
    · simpa [hdue] using hperm
    · simpa [hdue] using hperm

/-- The live timers that are not due stay. -/
lemma Shows.live_later (h : l.Shows s) (time : Nat) :
    ((l.timers.filter fun t => !decide (t.alarm.due ≤ time)).filter fun t => !t.cancelled)
      = ((s.debouncer.alarm.filter fun a => !decide (a.due ≤ time)).map
          fun alarm => { alarm : LoopTimer }).toList := by
  rw [List.filter_comm, ← DebounceLoop.live, h.live]
  cases halarm : s.debouncer.alarm with
  | none => rfl
  | some a =>
    by_cases hdue : a.due ≤ time
    · simp [Option.filter, hdue]
    · simp [Option.filter, hdue]

/-- What is due and live is called, and what is live and not due stays. -/
lemma runUntil_eq (h : l.Shows s) (time : Nat) : ∃ later : List LoopTimer,
    (later.filter fun t => !t.cancelled)
      = ((s.debouncer.alarm.filter fun a => !decide (a.due ≤ time)).map
          fun alarm => { alarm : LoopTimer }).toList ∧
    l.runUntil time = match s.debouncer.due? time with
      | some a => { l with
          timers := later, handle := none, fired := l.fired ++ [a.due],
          clock := { l.clock with now := time } }
      | none => { l with timers := later, clock := { l.clock with now := time } } := by
  refine ⟨_, h.live_later time, ?_⟩
  rw [DebounceLoop.runUntil, List.partition_eq_filter_filter]
  simp only
  rw [foldl_expire_live, h.live_due time (List.mergeSort_perm _ _)]
  cases s.debouncer.due? time with
  | none => rfl
  | some a => rfl

/-- Of the timers that are due the loop calls the one that is live, if it is due. -/
lemma Shows.runUntil (h : l.Shows s) (ms : Nat) :
    (l.runUntil (l.clock.now + ms)).Shows (s.step (.advance ms)).1 := by
  obtain ⟨later, hlater, heq⟩ := runUntil_eq h (l.clock.now + ms)
  rw [heq]
  have hhandle := h.handle
  rw [h.clock] at hlater ⊢
  rw [DebounceState.step]
  cases halarm : s.debouncer.alarm with
  | none =>
    have hdue : s.debouncer.due? (s.clock.now + ms) = none := by rw [Debouncer.due?, halarm]; rfl
    rw [halarm] at hlater
    simp only [hdue]
    exact ⟨h.delay, rfl, h.fired, h.handle, by rw [halarm]; exact hlater⟩
  | some a =>
    have hdue := Debouncer.due?_of_alarm halarm (s.clock.now + ms)
    rw [halarm, Option.filter_some] at hlater
    by_cases hle : a.due ≤ s.clock.now + ms
    · rw [if_pos hle] at hdue
      rw [if_neg (by simpa using hle)] at hlater
      simp only [hdue]
      exact ⟨h.delay, rfl, congrArg (· ++ [a.due]) h.fired, rfl, hlater⟩
    · rw [if_neg hle] at hdue
      rw [if_pos (by simpa using hle), ← halarm] at hlater
      simp only [hdue]
      exact ⟨h.delay, rfl, h.fired, h.handle, hlater⟩

/-- **One operation more, and the timers still amount to the alarm that is set**; the answers are
the same. -/
lemma Shows.step (h : l.Shows s) (op : DebounceOp) :
    (l.step op).1.Shows (s.step op).1 ∧ (l.step op).2 = (s.step op).2 := by
  cases op with
  | trigger inLoop =>
    cases inLoop with
    | true => exact ⟨h.cancel.start rfl, rfl⟩
    | false => exact ⟨h, rfl⟩
  | cancel => exact ⟨h.cancel, rfl⟩
  | flush =>
    rw [DebounceLoop.step, DebounceState.step, h.pending]
    split_ifs with hpending
    · refine ⟨⟨h.cancel.delay, h.cancel.clock, ?_, h.cancel.handle, h.cancel.live⟩, rfl⟩
      show l.cancel.fired ++ [l.clock.now] = s.fired ++ [s.clock.now]
      rw [h.cancel.fired, h.clock]
    · exact ⟨h, rfl⟩
  | advance ms => exact ⟨h.runUntil ms, rfl⟩

/-- **The timers amount to the alarm that is set** after any operations, if they do before. -/
theorem shows_after (h : l.Shows s) (ops : List DebounceOp) :
    (l.after ops).Shows (s.after ops) := by
  induction ops generalizing l s with
  | nil => exact h
  | cons op ops ih => exact ih (h.step op).1

/-- Never more than one timer is live. -/
lemma Shows.length_live_le (h : l.Shows s) : l.live.length ≤ 1 := by
  rw [h.live]
  exact Option.length_toList_le

end Shows

end DebounceLoop

/-! ## Exactly -/

open DebounceOp

/-- **Debouncing is exact.**  Let a debouncer with any delay be made at any time, and let anything
be done to it.  Then

* it has run once for each trigger that leads to a run, and for nothing else: when the delay is over
  if that comes first, or at a flush if that does (`DebounceOp.LeadsTo`);
* a call is pending if a trigger in an event loop has not come to its end;
* a flush answers whether it has made the call, and makes it then;
* a trigger outside an event loop is refused, and nothing else is; nothing changes then;
* timers on an event loop that calls the live ones when their time has come show all this, and
  never more than one of them is live. -/
theorem debounces_exactly (delay : Nat) (clock : Clock) (ops : List DebounceOp) :
    let s := ({ debouncer := { delay }, clock } : DebounceState).after ops
    let l := ({ delay, clock } : DebounceLoop).after ops
    Debouncer.ofDelay delay = .ok { delay } ∧
      s.clock.now = timeAt clock.now ops ops.length ∧
      AreTheRuns clock.now delay ops s.fired ∧
      (∀ i t t', LeadsTo clock.now delay ops i t → LeadsTo clock.now delay ops i t' → t = t') ∧
      (s.debouncer.pending = true ↔ ∃ i, IsOpen clock.now delay ops i) ∧
      (∃ ran, (s.step .flush).2 = .ok (some ran) ∧
        (s.step .flush).1.fired = s.fired ++ if ran then [s.clock.now] else []) ∧
      s.step (.trigger false) = (s, .error .noEventLoop) ∧
      (∀ op f, (s.step op).2 = .error f → op = .trigger false) ∧
      l.fired = s.fired ∧ l.pending = s.debouncer.pending ∧
      (∀ op, (l.step op).2 = (s.step op).2) ∧ l.step (.trigger false) = (l, .error .noEventLoop) ∧
      l.live.length ≤ 1 := by
  intro s l
  have hfollows : s.Follows clock.now delay ops := follows_after delay clock ops
  have hshows : l.Shows s := DebounceLoop.shows_after ⟨rfl, rfl, rfl, rfl, rfl⟩ ops
  exact ⟨rfl, hfollows.now_eq, hfollows.runs, fun _ _ _ h h' => h.unique h', hfollows.pending_iff,
    s.step_flush, rfl, fun _ _ => DebounceState.eq_trigger_of_error, hshows.fired, hshows.pending,
    fun op => (hshows.step op).2, rfl, hshows.length_live_le⟩

end DiagramSync
