import DiagramSync.Diagram.Resolution
import DiagramSync.Store.Edit

/-!
# Requests of a session

A session is a store that several parties work on: controllers that keep a diagram in step with
it, and listeners that are told of changes.  A request is one thing that somebody asks of it.

* `SourceArgument`, `Terms` — who asks for an edit, and on what condition
* `Request` — what can be asked
* `Request.beforePause`, `Request.afterPause` — the parts of a script
* `Request.weight` — how many requests one brings with it, itself included
* `Request.mapIds` — the same request under other ids
-/

namespace DiagramSync

/-- What a caller gives as the source of an edit. -/
inductive SourceArgument where
  /-- Nothing: the edit has a source of its own. -/
  | own
  /-- The source of that name.  It is the caller who looks it up, before the store is asked. -/
  | named (name : Value)
  /-- A value that is no source.  The store is asked with it as it is. -/
  | loose (given : Value)
  deriving Repr

/-- The source of an edit as it is written down: nothing, or the name of one. -/
def SourceArgument.ofWritten : Value → SourceArgument
  | .null => own
  | name => named name

instance : Coe Value SourceArgument :=
  ⟨SourceArgument.ofWritten⟩

/-- Who asks for an edit, and the version on which it depends, as they come in. -/
structure Terms where
  /-- The source. -/
  source : SourceArgument := .own
  /-- The version that the store must have, if there is one that it must have. -/
  expected : Value := .null
  deriving Repr

/-- What can be asked of a session.  Controllers are named by their number.  A listener comes with a
script: what stands before its first pause is asked for when the listener is first called, what
stands between that pause and the next one when it is called again, and so on. -/
inductive Request where
  /-- An edit of the store. -/
  | change (edit : Edit) (terms : Terms)
  /-- A new field with a reference that has not been read yet. -/
  | addPointing (entity : Option Id) (attributes : NewField) (reference : Value) (terms : Terms)
  /-- Entities that have not been read yet in place of all others. -/
  | replaceAll (entities : List Value) (terms : Terms)
  /-- The entity with that id. -/
  | getEntity (entity : Option Id)
  /-- The entity of that name. -/
  | findEntity (name : Value)
  /-- The diagram of the store. -/
  | diagram
  /-- How many entities there are. -/
  | count
  /-- A listener for changes of the store. -/
  | subscribe (tag : String) (script : List Request) (fails : Bool)
  /-- A listener for the text of a controller. -/
  | watchText (tag : String) (controller : Nat) (script : List Request) (fails : Bool)
  /-- The latest listener with that tag is no longer called. -/
  | unsubscribe (tag : String)
  /-- A new controller. -/
  | openController (delay : Option Int) (resolver : Option Resolver) (notifies : Bool)
  /-- An edit of a controller's text: a new text or the present one, with replacements and an
  addition. -/
  | typeText (controller : Nat) (text : Option String) (replacement : Option (String × String))
      (addition : Option String) (inLoop : Bool)
  /-- The pending edit of a controller is read at once. -/
  | flush (controller : Nat)
  /-- What the alarm of a controller would do for the edit of that number. -/
  | applyEdit (controller : Nat) (generation : Int)
  /-- A controller gives up. -/
  | close (controller : Nat)
  /-- The clock goes on. -/
  | advance (ms : Nat)
  /-- Nothing: in a script, a listener waits here until it is called again. -/
  | pause

/-! ## Scripts -/

/-- The request is a pause. -/
def Request.isPause : Request → Bool
  | .pause => true
  | _ => false

/-- What a script asks for before it pauses. -/
def Request.beforePause (script : List Request) : List Request :=
  script.takeWhile fun r => !r.isPause

/-- What a script leaves for later. -/
def Request.afterPause (script : List Request) : List Request :=
  (script.dropWhile fun r => !r.isPause).tail

/-! ## Weight -/

mutual

/-- How many requests a request brings with it, itself included. -/
def Request.weight : Request → Nat
  | .subscribe _ script _ => 1 + Request.totalWeight script
  | .watchText _ _ script _ => 1 + Request.totalWeight script
  | _ => 1

/-- How many requests a script brings with it. -/
def Request.totalWeight : List Request → Nat
  | [] => 0
  | r :: rs => r.weight + Request.totalWeight rs

end

/-! ## Ids -/

/-- The attributes of loose records that hold ids. -/
def idAttributes : List String :=
  ["id", "target_entity_id", "target_field_id"]

/-- A loose value with the ids in it replaced by their images. -/
def Value.mapIds (g : Id → Id) (v : Value) : Value :=
  v.renameTexts idAttributes fun s => (g ⟨s⟩).text

/-- A reference with its ids replaced by their images. -/
def Reference.mapIds (g : Id → Id) (r : Reference) : Reference :=
  { r with target := g r.target, targetField := g r.targetField }

/-- A field with its ids replaced by their images. -/
def Field.mapIds (g : Id → Id) (f : Field) : Field :=
  { f with id := g f.id, reference := f.reference.map (·.mapIds g) }

/-- An entity with its ids replaced by their images. -/
def Entity.mapIds (g : Id → Id) (e : Entity) : Entity :=
  { e with id := g e.id, fields := e.fields.map (·.mapIds g) }

/-- An edit with its ids replaced by their images. -/
def Edit.mapIds (g : Id → Id) : Edit → Edit
  | addEntity name => addEntity name
  | renameEntity e name => renameEntity (e.map g) name
  | deleteEntity e => deleteEntity (e.map g)
  | addField e attributes =>
    addField (e.map g) { attributes with reference := attributes.reference.map (·.mapIds g) }
  | updateField e f updates =>
    updateField (e.map g) (f.map g) (updates.map fun u => (u.1, u.2.mapIds g))
  | deleteField e f => deleteField (e.map g) (f.map g)
  | setEntities es => setEntities (es.map (·.mapIds g))

mutual

/-- A request with its ids replaced by their images. -/
def Request.mapIds (g : Id → Id) : Request → Request
  | .change edit terms => .change (edit.mapIds g) terms
  | .addPointing e attributes reference terms =>
    .addPointing (e.map g) attributes (reference.mapIds g) terms
  | .replaceAll es terms => .replaceAll (es.map (·.mapIds g)) terms
  | .getEntity e => .getEntity (e.map g)
  | .subscribe tag script fails => .subscribe tag (Request.mapAllIds g script) fails
  | .watchText tag c script fails => .watchText tag c (Request.mapAllIds g script) fails
  | r => r

/-- The requests of a script with their ids replaced by their images. -/
def Request.mapAllIds (g : Id → Id) : List Request → List Request
  | [] => []
  | r :: rs => r.mapIds g :: Request.mapAllIds g rs

end

end DiagramSync
