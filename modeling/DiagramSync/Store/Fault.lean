import DiagramSync.Text.Quoted
import DiagramSync.Validation.Model

/-!
# Faults

What can go wrong when a model is edited.  A fault says what the cause is; its message is made from
the cause alone.

* `Fault` — the causes
* `Fault.isDuplicateName` — the faults of two names that are the same
* `Fault.message` — what a fault says
* `Fault.mapIds` — the same fault under other ids
-/

namespace DiagramSync

/-- Why an operation was refused. -/
inductive Fault where
  /-- There is no entity with that id. -/
  | entityNotFound (id : Option Id)
  /-- The entity of that name has no field with that id. -/
  | fieldNotFound (entity : String) (id : Option Id)
  /-- An entity would have no name. -/
  | emptyEntityName
  /-- A field would have no name. -/
  | emptyFieldName
  /-- Another entity has that name already. -/
  | entityExists (name : String)
  /-- Another field of the entity has that name already. -/
  | fieldExists (field entity : String)
  /-- Two of the given entities have the same name but for case. -/
  | sameButForCase (first second : String)
  /-- Attributes that no field has, or that cannot be set. -/
  | unknownAttributes (names : List String)
  /-- The store does not have the version that the caller named. -/
  | stale (expected : String) (actual : Nat)
  /-- A value could not be read. -/
  | refused (reason : Refusal)
  /-- What was named as the source of a change is none. -/
  | unknownSource (shown : String)
  /-- A delay must not be negative. -/
  | negativeDelay
  /-- A delay cannot be started where nothing can run it. -/
  | noEventLoop
  /-- A listener failed. -/
  | listenerFailed (tag : String)
  deriving Repr, DecidableEq

namespace Fault

/-- The fault is that of two names that are the same but for case. -/
def isDuplicateName : Fault → Bool
  | entityExists _ => true
  | fieldExists _ _ => true
  | sameButForCase _ _ => true
  | _ => false

/-! ## Messages -/

/-- The text of an id, of which there may be none. -/
def idText : Option Id → String
  | some id => id.text
  | none => "None"

/-- What a refused value says. -/
def refusalMessage : Refusal → String
  | .notText _ => "a name must be a text"
  | .invalid issues => Issue.renderAll issues

/-- What a fault says. -/
def message : Fault → String
  | entityNotFound id => "Entity not found: " ++ idText id
  | fieldNotFound entity id => "Field not found in '" ++ entity ++ "': " ++ idText id
  | emptyEntityName => "Entity name cannot be empty"
  | emptyFieldName => "Field name cannot be empty"
  | entityExists name => "An entity named '" ++ name ++ "' already exists"
  | fieldExists field entity => "Field '" ++ field ++ "' already exists in '" ++ entity ++ "'"
  | sameButForCase a b => "Entity names '" ++ a ++ "' and '" ++ b ++ "' differ only by case"
  | unknownAttributes names =>
    "Unknown field attributes: " ++ Text.bracketed (names.map Text.quoted)
  | stale expected actual =>
    "Store changed: expected version " ++ expected ++ s!", found {actual}"
  | refused reason => refusalMessage reason
  | unknownSource shown => shown ++ " is not a valid ChangeSource"
  | negativeDelay => "Debounce delay cannot be negative"
  | noEventLoop => "no running event loop"
  | listenerFailed tag => "listener " ++ tag

/-- The same fault with every id replaced by its image. -/
def mapIds (g : Id → Id) : Fault → Fault
  | entityNotFound id => entityNotFound (id.map g)
  | fieldNotFound entity id => fieldNotFound entity (id.map g)
  | f => f

end Fault

end DiagramSync
