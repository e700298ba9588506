import DiagramSync.Debounce.Trace

/-!
# A debouncer on an event loop

A debouncer does not keep the time itself.  It starts timers on an event loop, and holds on to the
one that it started last until it runs or is cancelled.  A timer that is cancelled stays with the
loop until its time comes, and is passed over then.

* `LoopTimer` — a timer that the loop has not come to yet
* `DebounceLoop`, `DebounceLoop.step` — a debouncer together with the loop that its timers are on
-/

namespace DiagramSync

/-- A timer on an event loop. -/
structure LoopTimer where
  /-- When its time comes; the number of timers started before tells it apart. -/
  alarm : Alarm
  /-- It is to be passed over. -/
  cancelled : Bool := false
  deriving Repr, DecidableEq

/-- A debouncer and the event loop that its timers are on, with the times at which the callback
ran. -/
structure DebounceLoop where
  /-- The delay in milliseconds. -/
  delay : Nat
  /-- The clock of the loop. -/
  clock : Clock := {}
  /-- The timers that the loop has not come to, in the order in which they were started. -/
  timers : List LoopTimer := []
  /-- The timer that the debouncer holds on to. -/
  handle : Option Nat := none
  /-- The times at which the callback ran, in order. -/
  fired : List Nat := []
  deriving Repr, DecidableEq

namespace DebounceLoop

/-- A call is pending. -/
def pending (s : DebounceLoop) : Bool :=
  s.handle.isSome

/-- The timers that are not to be passed over. -/
def live (s : DebounceLoop) : List LoopTimer :=
  s.timers.filter fun t => !t.cancelled

/-- The state after the timer that the debouncer holds on to, if there is one, has been
cancelled. -/
def cancel (s : DebounceLoop) : DebounceLoop :=
  match s.handle with
  | none => s
  | some order =>
    { s with
      timers := s.timers.map fun t =>
        if t.alarm.order = order then { t with cancelled := true } else t
      handle := none }

/-- The state after the callback has run at that time. -/
def call (time : Nat) (s : DebounceLoop) : DebounceLoop :=
  { s with fired := s.fired ++ [time] }

/-- The state after a timer has been started. -/
def start (s : DebounceLoop) : DebounceLoop :=
  let alarm : Alarm := { due := s.clock.now + s.delay, order := s.clock.alarms }
  { s with
    clock := { s.clock with alarms := s.clock.alarms + 1 }
    timers := s.timers ++ [{ alarm }]
    handle := some alarm.order }

/-- The state after the loop has come to a timer. -/
def expire (s : DebounceLoop) (t : LoopTimer) : DebounceLoop :=
  if t.cancelled then s else call t.alarm.due { s with handle := none }

/-- The state after the loop has come to every timer that is due at that time, one after another. -/
def runUntil (time : Nat) (s : DebounceLoop) : DebounceLoop :=
  let (due, later) := s.timers.partition fun t => t.alarm.due ≤ time
  let inOrder := due.mergeSort fun t u => !u.alarm.before t.alarm
  let s' := inOrder.foldl expire { s with timers := later }
  { s' with clock := { s'.clock with now := time } }

/-- The state after an operation; with it, what a flush answers or why a trigger is refused. -/
def step (s : DebounceLoop) : DebounceOp → DebounceLoop × Except Fault (Option Bool)
  | .trigger true => (s.cancel.start, .ok none)
  | .trigger false => (s, .error .noEventLoop)
  | .cancel => (s.cancel, .ok none)
  | .flush =>
    if s.pending then (s.cancel.call s.clock.now, .ok (some true)) else (s, .ok (some false))
  | .advance ms => (s.runUntil (s.clock.now + ms), .ok none)

/-- The state after some operations. -/
def after (s : DebounceLoop) (ops : List DebounceOp) : DebounceLoop :=
  ops.foldl (fun s op => (s.step op).1) s

end DebounceLoop

end DiagramSync
