import DiagramSync.Store.Fault

/-!
# Debouncing

A debouncer delays a callback until triggers stop arriving: every trigger starts the delay again, so
that the callback runs once, a delay after the last trigger.  Time is counted in milliseconds.

* `Clock` — the time, and how many alarms have been set
* `Alarm` — when a delay ends
* `Debouncer`, `Debouncer.ofDelay` — a delay, with the alarm that is set while a call is pending
* `Debouncer.trigger`, `Debouncer.cancel` — starting the delay again, and giving it up
-/

namespace DiagramSync

/-- The time, and how many alarms have been set so far. -/
structure Clock where
  /-- The time in milliseconds. -/
  now : Nat := 0
  /-- How many alarms have been set. -/
  alarms : Nat := 0
  deriving Repr, DecidableEq

/-- The end of a delay.  Of two alarms due at one time the one that was set first goes first. -/
structure Alarm where
  /-- When the delay ends. -/
  due : Nat
  /-- How many alarms were set before. -/
  order : Nat
  deriving Repr, DecidableEq

/-- The alarm goes before the other one. -/
def Alarm.before (a b : Alarm) : Bool :=
  a.due < b.due || (a.due == b.due && a.order < b.order)

/-- A delay, with the alarm that is set while a call is pending. -/
structure Debouncer where
  /-- The delay in milliseconds. -/
  delay : Nat
  /-- The alarm that is set. -/
  alarm : Option Alarm := none
  deriving Repr, DecidableEq

namespace Debouncer

/-- A debouncer with that delay, which must not be negative. -/
def ofDelay (delay : Int) : Except Fault Debouncer :=
  if delay < 0 then .error .negativeDelay else .ok { delay := delay.toNat }

/-- A call is pending. -/
def pending (d : Debouncer) : Bool :=
  d.alarm.isSome

/-- The debouncer with no call pending. -/
def cancel (d : Debouncer) : Debouncer :=
  { d with alarm := none }

/-- The debouncer with the delay started again.  Outside an event loop nothing could end the delay,
so the trigger is refused and an alarm set before stays. -/
def trigger (inLoop : Bool) (clock : Clock) (d : Debouncer) : Except Fault (Debouncer × Clock) :=
  if inLoop then
    let alarm : Alarm := { due := clock.now + d.delay, order := clock.alarms }
    .ok ({ d with alarm := some alarm }, { clock with alarms := clock.alarms + 1 })
  else
    .error .noEventLoop

/-- The alarm that is set, if it is due at that time. -/
def due? (time : Nat) (d : Debouncer) : Option Alarm :=
  d.alarm.filter fun a => a.due ≤ time

end Debouncer

end DiagramSync
