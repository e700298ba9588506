import DiagramSync.Debounce.Basic

/-!
# Traces of a debouncer

A debouncer on a clock of its own, with a callback that does nothing but note the time.

* `DebounceOp` — what is done to the debouncer and its clock
* `DebounceState`, `DebounceState.step` — the debouncer, its clock and the times noted
-/

namespace DiagramSync

/-- What is done to a debouncer and its clock. -/
inductive DebounceOp where
  /-- A trigger, inside or outside an event loop. -/
  | trigger (inLoop : Bool)
  /-- The pending call is given up. -/
  | cancel
  /-- The pending call is made at once. -/
  | flush
  /-- The clock goes on. -/
  | advance (ms : Nat)
  deriving Repr, DecidableEq

/-- A debouncer with its clock and the times at which the callback ran. -/
structure DebounceState where
  /-- The debouncer. -/
  debouncer : Debouncer
  /-- Its clock. -/
  clock : Clock := {}
  /-- The times at which the callback ran, in order. -/
  fired : List Nat := []
  deriving Repr, DecidableEq

namespace DebounceState

/-- The state after the pending call has been made at that time. -/
def fire (time : Nat) (s : DebounceState) : DebounceState :=
  { s with debouncer := s.debouncer.cancel, fired := s.fired ++ [time] }

/-- The state after an operation; with it, what a flush answers or why a trigger is refused. -/
def step (s : DebounceState) : DebounceOp → DebounceState × Except Fault (Option Bool)
  | .trigger inLoop =>
    match s.debouncer.trigger inLoop s.clock with
    | .ok (debouncer, clock) => ({ s with debouncer, clock }, .ok none)
    | .error f => (s, .error f)
  | .cancel => ({ s with debouncer := s.debouncer.cancel }, .ok none)
  | .flush =>
    if s.debouncer.pending then (s.fire s.clock.now, .ok (some true)) else (s, .ok (some false))
  | .advance ms =>
    let time := s.clock.now + ms
    let s' :=
      match s.debouncer.due? time with
      | some alarm => s.fire alarm.due
      | none => s
    ({ s' with clock := { s'.clock with now := time } }, .ok none)

end DebounceState

end DiagramSync
