import DiagramSync.Debounce.Trace
import Mathlib.Algebra.GroupWithZero.Nat
import Mathlib.Data.List.Forall2
import Mathlib.Data.List.Induction
import Mathlib.Order.Nat

/-!
# When a debounced callback runs

What becomes of a trigger is read off what is done after it.  The first operation that ends the
delay decides: a later trigger or a cancel gives the call up, a flush makes it at once, and an
advance of the clock that reaches the end of the delay makes it then.  A delay of nothing is over
the next time that the clock is asked, even if it does not go on.

The debouncer does just that, from any delay and any time on, whatever is done to it: there is a run
for each trigger that leads to one, at the time at which it does, and no other.  One operation more
either ends the one delay that is open or leaves it open (`isOpen_concat`, `leadsTo_concat`), and
the debouncer keeps in step with it (`DebounceState.Follows.concat`).

* `DelayFate`, `DebounceOp.fate` — what an operation does to a delay that is under way
* `DebounceOp.IsOpenUntil`, `DebounceOp.LeadsTo` — a delay that nothing has ended, and its run
* `DebounceState.after` — the debouncer after some operations
* `DebounceState.Follows` — the debouncer shows what the operations lead to
* **`follows_after`** — it does so after any operations
-/

namespace DiagramSync

/-! ## What operations do to a delay -/

/-- What becomes of a delay that is under way. -/
inductive DelayFate where
  /-- It goes on. -/
  | goesOn
  /-- It ends without a run. -/
  | givenUp
  /-- It ends with a run at that time. -/
  | runs (time : Nat)
  deriving Repr, DecidableEq

/-- When it runs, if it does. -/
def DelayFate.run? : DelayFate → Option Nat
  | .goesOn => none
  | .givenUp => none
  | .runs time => some time

namespace DebounceOp

/-- By how much the clock goes on. -/
def elapsed : DebounceOp → Nat
  | .advance ms => ms
  | _ => 0

/-- What an operation at the time `now` does to a delay that is over at the time `due`. -/
def fate (due now : Nat) : DebounceOp → DelayFate
  | .trigger true => .givenUp
  | .trigger false => .goesOn
  | .cancel => .givenUp
  | .flush => .runs now
  | .advance ms => if due ≤ now + ms then .runs due else .goesOn

/-- The time before the operation at that place, if it was `start` before the first one. -/
def timeAt (start : Nat) (ops : List DebounceOp) (place : Nat) : Nat :=
  start + ((ops.take place).map elapsed).sum

/-- At the place `i` there is a trigger in an event loop, and no operation between there and the
place `j` ends its delay. -/
structure IsOpenUntil (start delay : Nat) (ops : List DebounceOp) (i j : Nat) : Prop where
  /-- The delay begins before. -/
  lt : i < j
  /-- It begins with a trigger. -/
  trigger : ops[i]? = some (.trigger true)
  /-- It goes on at every place between. -/
  goesOn : ∀ k op, i < k → k < j → ops[k]? = some op →
    op.fate (timeAt start ops i + delay) (timeAt start ops k) = .goesOn

/-- At the place `i` there is a trigger in an event loop whose delay nothing has ended. -/
def IsOpen (start delay : Nat) (ops : List DebounceOp) (i : Nat) : Prop :=
  IsOpenUntil start delay ops i ops.length

/-- The first operation that ends the delay of the trigger at the place `i` ends it with a run at
the time `t`. -/
def LeadsTo (start delay : Nat) (ops : List DebounceOp) (i t : Nat) : Prop :=
  ∃ j op, IsOpenUntil start delay ops i j ∧ ops[j]? = some op ∧
    op.fate (timeAt start ops i + delay) (timeAt start ops j) = .runs t

section Places

variable {start delay : Nat} {ops : List DebounceOp} {op : DebounceOp} {i j k t : Nat}

/-- The first end of a delay is its only one. -/
lemma IsOpenUntil.end_unique (hj : IsOpenUntil start delay ops i j)
    (hk : IsOpenUntil start delay ops i k) {op op' : DebounceOp} (hop : ops[j]? = some op)
    (hop' : ops[k]? = some op')
    (hends : op.fate (timeAt start ops i + delay) (timeAt start ops j) ≠ .goesOn)
    (hends' : op'.fate (timeAt start ops i + delay) (timeAt start ops k) ≠ .goesOn) : j = k := by
  rcases lt_trichotomy j k with h | h | h
  · exact absurd (hk.goesOn j op hj.lt h hop) hends
  · exact h
  · exact absurd (hj.goesOn k op' hk.lt h hop') hends'

/-- A trigger leads to one run at most. -/
lemma LeadsTo.unique {t' : Nat} (h : LeadsTo start delay ops i t)
    (h' : LeadsTo start delay ops i t') : t = t' := by
  obtain ⟨j, op, hj, hop, hfate⟩ := h
  obtain ⟨k, op', hk, hop', hfate'⟩ := h'
  obtain rfl := hj.end_unique hk hop hop' (hfate ▸ DelayFate.noConfusion)
    (hfate' ▸ DelayFate.noConfusion)
  obtain rfl := Option.some.inj (hop.symm.trans hop')
  exact DelayFate.runs.inj (hfate.symm.trans hfate')

/-- A later trigger would have ended the delay. -/
lemma IsOpenUntil.not_lt (hi : IsOpenUntil start delay ops i j) (hk : k < j)
    (htrigger : ops[k]? = some (.trigger true)) : ¬i < k := fun h =>
  DelayFate.noConfusion (hi.goesOn k _ h hk htrigger)

/-- There is one open delay at most. -/
lemma IsOpen.unique (hi : IsOpen start delay ops i) (hk : IsOpen start delay ops k) : i = k :=
  le_antisymm (not_lt.mp (hk.not_lt hi.lt hi.trigger)) (not_lt.mp (hi.not_lt hk.lt hk.trigger))

/-- Whatever has run was triggered before what is open. -/
lemma IsOpen.lt_of_leadsTo (hi : IsOpen start delay ops i) (hk : LeadsTo start delay ops k t) :
    k < i := by
  obtain ⟨j, op, hopen, hop, hfate⟩ := hk
  have hlt : j < ops.length := (List.getElem?_eq_some_iff.mp hop).1
  rcases lt_trichotomy k i with h | rfl | h
  · exact h
  · exact absurd ((hi.goesOn j op hopen.lt hlt hop).symm.trans hfate) DelayFate.noConfusion
  · exact absurd h (hi.not_lt (hopen.lt.trans hlt) hopen.trigger)

/-! ## One operation more -/

lemma timeAt_concat (h : i ≤ ops.length) :
    timeAt start (ops ++ [op]) i = timeAt start ops i := by
  rw [timeAt, timeAt, List.take_append_of_le_length h]

lemma timeAt_length_concat :
    timeAt start (ops ++ [op]) (ops ++ [op]).length
      = timeAt start ops ops.length + op.elapsed := by
  rw [timeAt, timeAt, List.take_length, List.take_length, List.map_append, List.sum_append,
    ← Nat.add_assoc]
  rfl

lemma getElem?_concat (h : i < ops.length) : (ops ++ [op])[i]? = ops[i]? :=
  List.getElem?_append_left h

/-- What comes later does not count. -/
lemma isOpenUntil_concat (hj : j ≤ ops.length) :
    IsOpenUntil start delay (ops ++ [op]) i j ↔ IsOpenUntil start delay ops i j := by
  constructor
  · intro h
    have hi := h.lt.trans_le hj
    refine ⟨h.lt, (getElem?_concat hi).symm.trans h.trigger, fun k op' hik hkj hop' => ?_⟩
    have hk := hkj.trans_le hj
    have hgoesOn := h.goesOn k op' hik hkj ((getElem?_concat hk).trans hop')
    rwa [timeAt_concat hi.le, timeAt_concat hk.le] at hgoesOn
  · intro h
    have hi := h.lt.trans_le hj
    refine ⟨h.lt, (getElem?_concat hi).trans h.trigger, fun k op' hik hkj hop' => ?_⟩
    have hk := hkj.trans_le hj
    rw [timeAt_concat hi.le, timeAt_concat hk.le]
    exact h.goesOn k op' hik hkj ((getElem?_concat hk).symm.trans hop')

/-- Open is what was open and has not been ended, and what has just been triggered. -/
lemma isOpen_concat : IsOpen start delay (ops ++ [op]) i ↔
    (IsOpen start delay ops i ∧
      op.fate (timeAt start ops i + delay) (timeAt start ops ops.length) = .goesOn) ∨
    i = ops.length ∧ op = .trigger true := by
  have hlength : (ops ++ [op]).length = ops.length + 1 := List.length_append
  have hlast : (ops ++ [op])[ops.length]? = some op := List.getElem?_concat_length
  rw [IsOpen, hlength]
  constructor
  · intro h
    rcases Nat.lt_succ_iff_lt_or_eq.mp h.lt with hlt | rfl
    · have hgoesOn := h.goesOn _ op hlt (Nat.lt_succ_self _) hlast
      rw [timeAt_concat hlt.le, timeAt_concat le_rfl] at hgoesOn
      refine Or.inl ⟨(isOpenUntil_concat le_rfl).mp ⟨hlt, h.trigger, ?_⟩, hgoesOn⟩
      exact fun k op' hik hk => h.goesOn k op' hik (hk.trans (Nat.lt_succ_self _))
    · exact Or.inr ⟨rfl, Option.some.inj (hlast.symm.trans h.trigger)⟩
  · rintro (⟨h, hgoesOn⟩ | ⟨rfl, rfl⟩)
    · have h' : IsOpenUntil start delay (ops ++ [op]) i ops.length :=
        (isOpenUntil_concat le_rfl).mpr h
      refine ⟨h.lt.trans (Nat.lt_succ_self _), h'.trigger, fun k op' hik hk hop' => ?_⟩
      rcases Nat.lt_succ_iff_lt_or_eq.mp hk with hlt | rfl
      · exact h'.goesOn k op' hik hlt hop'
      · obtain rfl := Option.some.inj (hlast.symm.trans hop')
        rwa [timeAt_concat h.lt.le, timeAt_concat le_rfl]
    · exact ⟨Nat.lt_succ_self _, hlast,
        fun k op' hik hk => absurd (Nat.lt_succ_iff.mp hk) (not_le.mpr hik)⟩

/-- A trigger leads to the run that it led to before, or to the one that ends its delay now. -/
lemma leadsTo_concat : LeadsTo start delay (ops ++ [op]) i t ↔
    LeadsTo start delay ops i t ∨
    IsOpen start delay ops i ∧
      op.fate (timeAt start ops i + delay) (timeAt start ops ops.length) = .runs t := by
  have hlast : (ops ++ [op])[ops.length]? = some op := List.getElem?_concat_length
  constructor
  · rintro ⟨j, op', hopen, hop', hfate⟩
    have hj : j < ops.length + 1 := by
      simpa using (List.getElem?_eq_some_iff.mp hop').1
    rcases Nat.lt_succ_iff_lt_or_eq.mp hj with hlt | rfl
    · have hopen' := (isOpenUntil_concat hlt.le).mp hopen
      rw [timeAt_concat (hopen'.lt.trans hlt).le, timeAt_concat hlt.le] at hfate
      exact Or.inl ⟨j, op', hopen', (getElem?_concat hlt).symm.trans hop', hfate⟩
    · obtain rfl := Option.some.inj (hlast.symm.trans hop')
      have hopen' := (isOpenUntil_concat le_rfl).mp hopen
      rw [timeAt_concat hopen'.lt.le, timeAt_concat le_rfl] at hfate
      exact Or.inr ⟨hopen', hfate⟩
  · rintro (⟨j, op', hopen, hop', hfate⟩ | ⟨hopen, hfate⟩)
    · have hlt : j < ops.length := (List.getElem?_eq_some_iff.mp hop').1
      refine ⟨j, op', (isOpenUntil_concat hlt.le).mpr hopen, (getElem?_concat hlt).trans hop', ?_⟩
      rwa [timeAt_concat (hopen.lt.trans hlt).le, timeAt_concat hlt.le]
    · refine ⟨ops.length, op, (isOpenUntil_concat le_rfl).mpr hopen, hlast, ?_⟩
      rwa [timeAt_concat hopen.lt.le, timeAt_concat le_rfl]

end Places

end DebounceOp

/-! ## What the debouncer does -/

/-- The alarm that is set is due when its time has come. -/
lemma Debouncer.due?_of_alarm {d : Debouncer} {a : Alarm} (h : d.alarm = some a) (time : Nat) :
    d.due? time = if a.due ≤ time then some a else none := by
  rw [Debouncer.due?, h, Option.filter_some]
  simp only [decide_eq_true_eq]

namespace DebounceState

/-- The state after some operations. -/
def after (s : DebounceState) (ops : List DebounceOp) : DebounceState :=
  ops.foldl (fun s op => (s.step op).1) s

/-- When the delay that is under way is over. -/
def due? (s : DebounceState) : Option Nat :=
  s.debouncer.alarm.map Alarm.due

variable {s : DebounceState} {op : DebounceOp}

lemma after_concat (s : DebounceState) (ops : List DebounceOp) (op : DebounceOp) :
    s.after (ops ++ [op]) = ((s.after ops).step op).1 := by
  rw [after, List.foldl_append]
  rfl

lemma delay_step (s : DebounceState) (op : DebounceOp) :
    (s.step op).1.debouncer.delay = s.debouncer.delay := by
  cases op with
  | trigger inLoop => cases inLoop <;> rfl
  | cancel => rfl
  | flush =>
    rw [step]
    split_ifs <;> rfl
  | advance ms =>
    simp only [step]
    cases s.debouncer.due? (s.clock.now + ms) <;> rfl

lemma now_step (s : DebounceState) (op : DebounceOp) :
    (s.step op).1.clock.now = s.clock.now + op.elapsed := by
  cases op with
  | trigger inLoop => cases inLoop <;> rfl
  | cancel => rfl
  | flush =>
    rw [step]
    split_ifs <;> rfl
  | advance ms => rfl

/-- A trigger in an event loop starts the delay, whether one was under way or not. -/
lemma step_trigger (s : DebounceState) :
    (s.step (.trigger true)).1.fired = s.fired ∧
      (s.step (.trigger true)).1.due? = some (s.clock.now + s.debouncer.delay) :=
  ⟨rfl, rfl⟩

/-- Where no delay is under way, only a trigger does something. -/
lemma step_of_due_eq_none (h : s.due? = none) (hop : op ≠ .trigger true) :
    (s.step op).1.fired = s.fired ∧ (s.step op).1.due? = none := by
  have halarm : s.debouncer.alarm = none := Option.map_eq_none_iff.mp h
  cases op with
  | trigger inLoop =>
    cases inLoop with
    | true => exact absurd rfl hop
    | false => exact ⟨rfl, h⟩
  | cancel => exact ⟨rfl, rfl⟩
  | flush => simp [step, due?, Debouncer.pending, halarm]
  | advance ms => simp [step, due?, Debouncer.due?, halarm]

/-- Where a delay is under way, the operation decides what becomes of it. -/
lemma step_of_due_eq_some {due : Nat} (h : s.due? = some due) (hop : op ≠ .trigger true) :
    (s.step op).1.fired = s.fired ++ (op.fate due s.clock.now).run?.toList ∧
      (s.step op).1.due? = if op.fate due s.clock.now = .goesOn then some due else none := by
  obtain ⟨a, halarm, rfl⟩ := Option.map_eq_some_iff.mp h
  cases op with
  | trigger inLoop =>
    cases inLoop with
    | true => exact absurd rfl hop
    | false => exact ⟨(List.append_nil _).symm, h⟩
  | cancel => exact ⟨(List.append_nil _).symm, rfl⟩
  | flush =>
    simp [step, due?, fire, Debouncer.pending, Debouncer.cancel, halarm, DebounceOp.fate,
      DelayFate.run?]
  | advance ms =>
    have hfound := Debouncer.due?_of_alarm halarm (s.clock.now + ms)
    by_cases hdue : a.due ≤ s.clock.now + ms
    · rw [if_pos hdue] at hfound
      simp [step, due?, hfound, fire, Debouncer.cancel, hdue, DebounceOp.fate, DelayFate.run?]
    · rw [if_neg hdue] at hfound
      simp [step, due?, hfound, halarm, hdue, DebounceOp.fate, DelayFate.run?]

/-- A flush answers whether it makes the call, and makes it at once. -/
lemma step_flush (s : DebounceState) : ∃ ran : Bool, (s.step .flush).2 = .ok (some ran) ∧
    (s.step .flush).1.fired = s.fired ++ if ran then [s.clock.now] else [] := by
  rw [step]
  split_ifs with hpending
  · exact ⟨true, rfl, rfl⟩
  · exact ⟨false, rfl, (List.append_nil _).symm⟩

/-- Only a trigger outside an event loop is refused. -/
lemma eq_trigger_of_error {f : Fault} (h : (s.step op).2 = .error f) : op = .trigger false := by
  cases op with
  | trigger inLoop =>
    cases inLoop with
    | true => exact nomatch h
    | false => rfl
  | cancel => exact nomatch h
  | flush =>
    obtain ⟨ran, hok, -⟩ := s.step_flush
    exact nomatch hok.symm.trans h
  | advance ms => exact nomatch h

end DebounceState

/-! ## Keeping in step -/

open DebounceOp

/-- The times are those of the runs that triggers lead to: one for each trigger that leads to one,
in the order of the triggers, and no other. -/
def AreTheRuns (start delay : Nat) (ops : List DebounceOp) (times : List Nat) : Prop :=
  ∃ places : List Nat, places.Pairwise (· < ·) ∧
    (∀ i, i ∈ places ↔ ∃ t, LeadsTo start delay ops i t) ∧
    List.Forall₂ (LeadsTo start delay ops) places times

/-- The debouncer shows what some operations lead to, the first of which was done at the time
`start`. -/
structure DebounceState.Follows (start delay : Nat) (ops : List DebounceOp) (s : DebounceState) : Prop where
  /-- It has the delay. -/
  delay_eq : s.debouncer.delay = delay
  /-- Its clock has gone on as it was told. -/
  now_eq : s.clock.now = timeAt start ops ops.length
  /-- A delay is under way if a trigger has one open, and it is over when that one is. -/
  due : ∀ t, s.due? = some t ↔ ∃ i, IsOpen start delay ops i ∧ timeAt start ops i + delay = t
  /-- It has run when triggers led to a run. -/
  runs : AreTheRuns start delay ops s.fired

section Follows

variable {start delay : Nat} {ops : List DebounceOp} {op : DebounceOp} {s : DebounceState}

/-- Before anything is done nothing is open, and nothing has run. -/
lemma follows_nil (delay : Nat) (clock : Clock) :
    ({ debouncer := { delay }, clock } : DebounceState).Follows clock.now delay [] where
  delay_eq := rfl
  now_eq := rfl
  due t := by
    constructor
    · exact fun h => nomatch h
    · rintro ⟨i, hopen, -⟩
      exact absurd hopen.lt (Nat.not_lt_zero i)
  runs := by
    refine ⟨[], List.Pairwise.nil, fun i => ⟨fun h => absurd h List.not_mem_nil, ?_⟩, .nil⟩
    rintro ⟨t, j, op, -, hop, -⟩
    exact nomatch hop

/-- An operation that ends no open delay with a run adds no run. -/
lemma AreTheRuns.concat_of_no_run {times : List Nat} (h : AreTheRuns start delay ops times)
    (hop : ∀ i, IsOpen start delay ops i →
      (op.fate (timeAt start ops i + delay) (timeAt start ops ops.length)).run? = none) :
    AreTheRuns start delay (ops ++ [op]) times := by
  have hsame : ∀ i t, LeadsTo start delay (ops ++ [op]) i t ↔ LeadsTo start delay ops i t := by
    intro i t
    rw [leadsTo_concat]
    refine or_iff_left fun ⟨hopen, hfate⟩ => ?_
    have hnone := hop i hopen
    rw [hfate] at hnone
    exact nomatch hnone
  obtain ⟨places, hsorted, hmem, hleads⟩ := h
  refine ⟨places, hsorted, fun i => ?_, hleads.imp fun i t => (hsame i t).mpr⟩
  simp only [hmem, hsame]

/-- An operation that ends the open delay with a run adds that run, after all others. -/
lemma AreTheRuns.concat_of_run {times : List Nat} (h : AreTheRuns start delay ops times) {i t : Nat}
    (hopen : IsOpen start delay ops i)
    (hop : op.fate (timeAt start ops i + delay) (timeAt start ops ops.length) = .runs t) :
    AreTheRuns start delay (ops ++ [op]) (times ++ [t]) := by
  have hmore : LeadsTo start delay (ops ++ [op]) i t := leadsTo_concat.mpr (Or.inr ⟨hopen, hop⟩)
  obtain ⟨places, hsorted, hmem, hleads⟩ := h
  refine ⟨places ++ [i], ?_, fun k => ?_, ?_⟩
  · refine List.pairwise_append.mpr ⟨hsorted, List.pairwise_singleton _ i, fun k hk i' hi' => ?_⟩
    obtain rfl := List.mem_singleton.mp hi'
    obtain ⟨t', hk⟩ := (hmem k).mp hk
    exact hopen.lt_of_leadsTo hk
  · rw [List.mem_append, List.mem_singleton, hmem]
    constructor
    · rintro (⟨t', hk⟩ | rfl)
      · exact ⟨t', leadsTo_concat.mpr (Or.inl hk)⟩
      · exact ⟨t, hmore⟩
    · rintro ⟨t', hk⟩
      rcases leadsTo_concat.mp hk with hk | ⟨hk, -⟩
      · exact Or.inl ⟨t', hk⟩
      · exact Or.inr (hk.unique hopen)
  · refine List.rel_append (hleads.imp fun k t' hk => leadsTo_concat.mpr (Or.inl hk)) ?_
    exact List.Forall₂.cons hmore List.Forall₂.nil

/-- Where a delay is open, an operation adds the run that it ends the delay with, if it does. -/
lemma AreTheRuns.concat_of_isOpen {times : List Nat} (h : AreTheRuns start delay ops times)
    {i : Nat} (hopen : IsOpen start delay ops i) :
    AreTheRuns start delay (ops ++ [op]) (times ++
      (op.fate (timeAt start ops i + delay) (timeAt start ops ops.length)).run?.toList) := by
  have hnone : ∀ fate, op.fate (timeAt start ops i + delay) (timeAt start ops ops.length) = fate →
      fate.run? = none → AreTheRuns start delay (ops ++ [op]) (times ++ fate.run?.toList) := by
    intro fate hfate hrun
    rw [hrun, Option.toList_none, List.append_nil]
    refine h.concat_of_no_run fun k hk => ?_
    rw [hk.unique hopen, hfate, hrun]
  cases hfate : op.fate (timeAt start ops i + delay) (timeAt start ops ops.length) with
  | goesOn => exact hnone _ hfate rfl
  | givenUp => exact hnone _ hfate rfl
  | runs t => exact h.concat_of_run hopen hfate

/-- After a trigger its own delay is open, and no other. -/
lemma exists_isOpen_trigger {t : Nat} :
    (∃ i, IsOpen start delay (ops ++ [.trigger true]) i ∧
        timeAt start (ops ++ [.trigger true]) i + delay = t)
      ↔ t = timeAt start ops ops.length + delay := by
  simp only [isOpen_concat]
  constructor
  · rintro ⟨i, ⟨-, hfate⟩ | ⟨rfl, -⟩, rfl⟩
    · exact DelayFate.noConfusion hfate
    · rw [timeAt_concat le_rfl]
  · rintro rfl
    exact ⟨ops.length, Or.inr ⟨rfl, trivial⟩, by rw [timeAt_concat le_rfl]⟩

/-- After any other operation a delay is open if one was, and it goes on. -/
lemma exists_isOpen_concat (hop : op ≠ .trigger true) {t : Nat} :
    (∃ i, IsOpen start delay (ops ++ [op]) i ∧ timeAt start (ops ++ [op]) i + delay = t) ↔
      (∃ i, IsOpen start delay ops i ∧ timeAt start ops i + delay = t) ∧
        op.fate t (timeAt start ops ops.length) = .goesOn := by
  simp only [isOpen_concat, hop, and_false, or_false]
  constructor
  · rintro ⟨i, ⟨hopen, hfate⟩, rfl⟩
    rw [timeAt_concat hopen.lt.le]
    exact ⟨⟨i, hopen, rfl⟩, hfate⟩
  · rintro ⟨⟨i, hopen, rfl⟩, hfate⟩
    exact ⟨i, ⟨hopen, hfate⟩, by rw [timeAt_concat hopen.lt.le]⟩

/-- A debouncer keeps in step with one operation more. -/
lemma DebounceState.Follows.concat (h : s.Follows start delay ops) (op : DebounceOp) :
    (s.step op).1.Follows start delay (ops ++ [op]) := by
  have hdelay : (s.step op).1.debouncer.delay = delay := by rw [s.delay_step, h.delay_eq]
  have hnow : (s.step op).1.clock.now = timeAt start (ops ++ [op]) (ops ++ [op]).length := by
    rw [s.now_step, timeAt_length_concat, h.now_eq]
  by_cases hop : op = .trigger true
  · subst hop
    obtain ⟨hfired, hdue⟩ := s.step_trigger
    refine ⟨hdelay, hnow, fun t => ?_, ?_⟩
    · rw [exists_isOpen_trigger, hdue, h.now_eq, h.delay_eq, Option.some_inj, eq_comm]
    · rw [hfired]
      exact h.runs.concat_of_no_run fun _ _ => rfl
  · cases hs : s.due? with
    | none =>
      obtain ⟨hfired, hdue⟩ := DebounceState.step_of_due_eq_none hs hop
      have hnotOpen : ¬∃ i, IsOpen start delay ops i := by
        rintro ⟨i, hopen⟩
        exact nomatch hs.symm.trans ((h.due _).mpr ⟨i, hopen, rfl⟩)
      refine ⟨hdelay, hnow, fun t => ?_, ?_⟩
      · rw [exists_isOpen_concat hop, hdue]
        constructor
        · exact fun h => nomatch h
        · rintro ⟨⟨i, hopen, -⟩, -⟩
          exact absurd ⟨i, hopen⟩ hnotOpen
      · rw [hfired]
        exact h.runs.concat_of_no_run fun i hopen => absurd ⟨i, hopen⟩ hnotOpen
    | some due =>
      obtain ⟨hfired, hdue⟩ := DebounceState.step_of_due_eq_some hs hop
      obtain ⟨i, hopen, rfl⟩ := (h.due due).mp hs
      rw [h.now_eq] at hfired hdue
      refine ⟨hdelay, hnow, fun t => ?_, ?_⟩
      · rw [exists_isOpen_concat hop, ← h.due, hs, hdue]
        split_ifs with hgoesOn
        · constructor
          · rintro ⟨⟩
            exact ⟨rfl, hgoesOn⟩
          · exact fun h => h.1
        · constructor
          · exact fun h => nomatch h
          · rintro ⟨⟨⟩, hfate⟩
            exact absurd hfate hgoesOn
      · rw [hfired]
        exact h.runs.concat_of_isOpen hopen

/-- A call is pending while a delay is open. -/
lemma DebounceState.Follows.pending_iff (h : s.Follows start delay ops) :
    s.debouncer.pending = true ↔ ∃ i, IsOpen start delay ops i := by
  have hpending : s.debouncer.pending = s.due?.isSome := Option.isSome_map.symm
  rw [hpending, Option.isSome_iff_exists]
  constructor
  · rintro ⟨t, ht⟩
    obtain ⟨i, hopen, -⟩ := (h.due t).mp ht
    exact ⟨i, hopen⟩
  · rintro ⟨i, hopen⟩
    exact ⟨_, (h.due _).mpr ⟨i, hopen, rfl⟩⟩

end Follows

/-- **A debouncer shows what the operations lead to**, whatever its delay is and whenever it is
made. -/
theorem follows_after (delay : Nat) (clock : Clock) (ops : List DebounceOp) :
    (({ debouncer := { delay }, clock } : DebounceState).after ops).Follows clock.now delay ops := by
  induction ops using List.reverseRecOn with
  | nil => exact follows_nil delay clock
  | append_singleton ops op ih =>
    rw [DebounceState.after_concat]
    exact ih.concat op

end DiagramSync
