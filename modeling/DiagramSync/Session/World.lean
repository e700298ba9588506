import DiagramSync.Debounce.Basic
import DiagramSync.Diagram.Generate
import DiagramSync.Diagram.Parse
import DiagramSync.Session.Request

/-!
# The state of a session

Everything that a session remembers from one request to the next.

* `Event` — what listeners and notifiers saw
* `Listener`, `Subscriber` — who is told of changes
* `Controller` — a diagram that is kept in step with the store
* `Commit` — an edit that was made, with the entities after it
* `World` — the state of a session
* `Action` — a computation on it that may fail; what it did before it failed stays done
-/

namespace DiagramSync

/-! ## Events and listeners -/

/-- What listeners and notifiers saw. -/
inductive Event where
  /-- A listener was told of a change of the store. -/
  | change (tag : String) (change : Change)
  /-- A listener was told of a new text. -/
  | text (tag : String) (text : String)
  /-- The user of a controller was told of a problem. -/
  | notice (controller : Nat) (title message : String)
  deriving Repr, DecidableEq

/-- Where a listener is registered. -/
inductive Station where
  | store
  | controller (number : Nat)
  deriving Repr, DecidableEq

/-- A listener. -/
structure Listener where
  /-- The tag under which it is known. -/
  tag : String
  /-- Where it is registered. -/
  station : Station
  /-- What it still has to ask for, with a pause between one call and the next. -/
  script : List Request
  /-- It fails whenever it is called. -/
  fails : Bool

/-- The listener once it has been called: what it asks for then is behind it. -/
def Listener.called (l : Listener) : Listener :=
  { l with script := Request.afterPause l.script }

/-- Somebody who is told of changes of the store. -/
inductive Subscriber where
  | controller (number : Nat)
  | listener (number : Nat)
  deriving Repr, DecidableEq

/-! ## Controllers -/

/-- A diagram that is kept in step with the store: edits of the text are read after a delay, and
changes of the store from elsewhere replace the text. -/
structure Controller where
  /-- The text, as typed or as last written. -/
  text : String
  /-- How relationship lines are resolved. -/
  resolver : Resolver
  /-- Delays reading until typing stops. -/
  debouncer : Debouncer
  /-- Problems are shown to the user. -/
  notifies : Bool
  /-- How many edits there were. -/
  editGeneration : Nat := 0
  /-- The latest edit that was read or superseded. -/
  parsedGeneration : Nat := 0
  /-- The outcome of the last reading. -/
  lastResult : Option ParseOutcome := none
  /-- Why the last edit was rejected, until one is accepted. -/
  lastError : Option ParseError := none
  /-- The listeners for the text, by number, in order of registration. -/
  textListeners : List Nat := []

/-! ## The state -/

/-- An edit that was made. -/
structure Commit where
  /-- The edit. -/
  edit : Edit
  /-- The entities after it. -/
  entities : List Entity

/-- The state of a session. -/
structure World where
  /-- The entities and their version. -/
  store : Store := {}
  /-- Who is told of changes, in order of registration. -/
  subscribers : List Subscriber := []
  /-- The controllers by number. -/
  controllers : List Controller := []
  /-- The listeners by number, those that are no longer called included. -/
  listeners : List Listener := []
  /-- The time. -/
  clock : Clock := {}
  /-- Where new ids come from. -/
  supply : Supply
  /-- What listeners and notifiers have seen during the present request. -/
  events : List Event := []
  /-- The edits that were made, the latest first. -/
  commits : List Commit := []
  /-- The cardinality of a foreign key before it is linked. -/
  unlinked : Cardinality := .manyToOne
  /-- The delay of a controller that is opened without one. -/
  delay : Nat := 400

/-- A computation on a session that may fail.  What it did before it failed stays done. -/
abbrev Action (α : Type) :=
  ExceptT Fault (StateM World) α

namespace World

/-- How many requests the scripts of all listeners still bring. -/
def weight (w : World) : Nat :=
  w.listeners.foldr (fun l n => Request.totalWeight l.script + n) 0

/-- How many controllers have an alarm set. -/
def armed (w : World) : Nat :=
  w.controllers.countP fun k => k.debouncer.pending

/-- The state with one controller replaced by its image. -/
def modifyController (c : Nat) (g : Controller → Controller) (w : World) : World :=
  { w with controllers := w.controllers.modify c g }

/-- The state in which the ids that scripts speak of are replaced by their images. -/
def mapScriptIds (g : Id → Id) (w : World) : World :=
  { w with listeners := w.listeners.map fun l => { l with script := Request.mapAllIds g l.script } }

/-- The controller whose alarm goes first among those due at that time. -/
def firstDue? (time : Nat) (w : World) : Option (Nat × Alarm) :=
  let due := w.controllers.zipIdx.filterMap fun (k, c) =>
    (k.debouncer.due? time).map fun a => (c, a)
  due.foldl
    (fun best x =>
      match best with
      | some b => if x.2.before b.2 then some x else some b
      | none => some x)
    none

end World

namespace Action

/-- Notes that something was seen. -/
def note (e : Event) : Action Unit :=
  modify fun w => { w with events := w.events ++ [e] }

/-- Replaces one controller by its image. -/
def modifyController (c : Nat) (g : Controller → Controller) : Action Unit :=
  modify (World.modifyController c g)

/-- Computes with the supply of ids. -/
def editing (x : Editing α) : Action α := do
  let w ← get
  match x w.supply with
  | .error f => throw f
  | .ok (a, supply) =>
    set { w with supply }
    return a

end Action

end DiagramSync
