import DiagramSync.Session.World
import DiagramSync.Store.Reconcile
import DiagramSync.Validation.Records
import DiagramSync.Value.Shown

/-!
# Running a session

How a session answers requests.  A change of the store is told to the subscribers one after the
other; a listener that is called may ask for more, which happens before the next subscriber is told.

A listener asks for every request of its script once, a part of them at each call.  Everything below
therefore takes as a parameter what happens to such a part, `react`, and `runScript` ties the knot to
a given depth; the depth that `answer` gives is that of the requests there are, which no nesting can
exceed.

* `tell`, `make`, `commit` — telling the subscribers, and making an edit
* `commitUntold` — an edit with something that is no source, of which nobody is told
* `readEdit` — a controller reads its text into the store
* `goOn` — the clock goes on, and alarms go off
* `perform` — one request
* `answer` — one request of a session, with everything that listeners ask for
-/

namespace DiagramSync

/-! ## Telling -/

/-- What is done with the script of a listener. -/
abbrev React :=
  List Request → Action Unit

/-- Calls a listener: it notes what it was told, and then fails or asks for the next part of its
script. -/
def callListener (react : React) (number : Nat) (event : String → Event) : Action Unit := do
  match (← get).listeners[number]? with
  | none => pure ()
  | some l =>
    Action.note (event l.tag)
    if l.fails then
      throw (.listenerFailed l.tag)
    else
      modify fun w => { w with listeners := w.listeners.modify number Listener.called }
      react (Request.beforePause l.script)

/-- The present text of a controller. -/
def textOf (c : Nat) : Action String := do
  return ((← get).controllers[c]?.map (·.text)).getD ""

/-- A controller learns of a change.  Unless the change came from a text, a pending edit is
superseded, the text is written anew, and the listeners for the text are called. -/
def follow (react : React) (c : Nat) (change : Change) : Action Unit := do
  if change.source = .text then
    pure ()
  else
    let entities := (← get).store.entities
    let supersede (k : Controller) : Controller :=
      if k.debouncer.pending then
        { k with debouncer := k.debouncer.cancel, parsedGeneration := k.editGeneration }
      else k
    Action.modifyController c fun k => { supersede k with text := generate entities }
    let listening := ((← get).controllers[c]?.map (·.textListeners)).getD []
    listening.forM fun number => do
      let text ← textOf c
      callListener react number fun tag => .text tag text

/-- Tells a subscriber of a change. -/
def tell (react : React) (change : Change) : Subscriber → Action Unit
  | .controller c => follow react c change
  | .listener number => callListener react number fun tag => .change tag change

/-! ## Edits -/

/-- Makes an edit.  Nobody has been told of it yet. -/
def make (expected : Option Int) (edit : Edit) : Action (Store × Edited) := do
  let w ← get
  let (store, edited) ← Action.editing (w.store.apply w.unlinked expected edit)
  modify fun w => { w with store, commits := ⟨edit, store.entities⟩ :: w.commits }
  return (store, edited)

/-- Makes an edit and tells everybody who is subscribed at that moment. -/
def commit (react : React) (source : ChangeSource) (expected : Option Int) (edit : Edit) :
    Action Edited := do
  let (store, edited) ← make expected edit
  (← get).subscribers.forM
    (tell react { version := store.version, source, operation := edit.operation })
  return edited

/-- What comes of a value that is no source.  There is no change with such a source; a text that
names a source can be read as one, but fails a little later, when the change is logged, and counts as
an unknown source then. -/
def lateFault (version : Nat) (operation : String) (given : Value) : Fault :=
  match Change.check (.record
      [("version", .whole version), ("source", given), ("operation", .text operation)]) with
  | .bad issues => .refused (.invalid issues)
  | .good _ => .unknownSource given.shown

/-- Makes an edit with a value that is no source.  That is noticed when the change is to be told, so
the edit stays made, and nobody is told of it. -/
def commitUntold (given : Value) (expected : Option Int) (edit : Edit) : Action Edited := do
  let (store, _) ← make expected edit
  throw (lateFault store.version edit.operation given)

/-- What an edit under way will hand back: an entity, or a field with the id of its entity. -/
inductive InHand where
  | nothing
  | entity (e : Entity)
  | field (owner : Option Id) (f : Field)

/-- What an edit hands back, with the entity of a field taken from the edit. -/
def InHand.ofEdit : Edit → Edited → InHand
  | _, .nothing => nothing
  | _, .entity e => entity e
  | .addField owner _, .field f => field owner f
  | .updateField owner _ _, .field f => field owner f
  | _, .field f => field none f

/-- What is in hand, as an edit hands it back. -/
def InHand.edited : InHand → Edited
  | nothing => .nothing
  | entity e => .entity e
  | field _ f => .field f

/-- An edit takes an entity or field out of the store, or puts another one in its place. -/
def InHand.isDetachedBy : InHand → Edit → Bool
  | nothing, _ => false
  | _, .setEntities _ => true
  | entity e, .deleteEntity id => id == some e.id
  | field owner _, .deleteEntity id => id == owner
  | field owner f, .updateField e g _ => e == owner && g == some f.id
  | field owner f, .deleteField e g => e == owner && g == some f.id
  | _, _ => false

/-- What is in hand as it is among those entities. -/
def InHand.refresh (es : List Entity) : InHand → InHand
  | nothing => nothing
  | entity e => entity ((findEntity? es (some e.id)).getD e)
  | field owner f => field owner (((findEntity? es owner).bind (·.findField? f.id)).getD f)

/-- What is in hand after later edits, the earliest first.  Once it is no longer in the store it
stays as it last was there. -/
def InHand.followAll (h : InHand) : List Commit → InHand
  | [] => h
  | later :: rest =>
    if h.isDetachedBy later.edit then h else (h.refresh later.entities).followAll rest

/-- Makes an edit and hands back its entity or field as it is once everybody has been told. -/
def commitAndHandBack (react : React) (source : ChangeSource) (expected : Option Int)
    (edit : Edit) : Action Edited := do
  let before := (← get).commits.length
  let edited ← commit react source expected edit
  let commits := (← get).commits
  let later := (commits.take (commits.length - before - 1)).reverse
  return ((InHand.ofEdit edit edited).followAll later).edited

/-- What the store is given as the source of an edit: the edit's own source, or the one that the
caller has looked up, or else the value that is none. -/
def Terms.given (ownSource : ChangeSource) (terms : Terms) :
    Except Fault (Except Value ChangeSource) :=
  match terms.source with
  | .own => .ok (.ok ownSource)
  | .named name =>
    match name.text?.bind ChangeSource.ofWord? with
    | some source => .ok (.ok source)
    | none => .error (.unknownSource name.shown)
  | .loose given => .ok (.error given)

/-- The version that an edit depends on.  What is no integer is no version of any store. -/
def expectedOf (terms : Terms) : Action (Option Int) := do
  match terms.expected with
  | .null => return none
  | .whole n => return some n
  | given =>
    let actual := (← get).store.version
    if given.whole? = some (actual : Int) then
      return some actual
    else
      throw (.stale given.plain actual)

/-- Makes an edit that somebody asked for.  The caller looks up the source and reads what comes with
the edit; then the store is asked, which does not look at the source before the edit is made. -/
def requestedEdit (react : React) (ownSource : ChangeSource) (terms : Terms) (edit : Action Edit) :
    Action Edited := do
  let given ← MonadExcept.ofExcept (terms.given ownSource)
  let edit ← edit
  let expected ← expectedOf terms
  match given with
  | .ok source => commitAndHandBack react source expected edit
  | .error other => commitUntold other expected edit

/-! ## Controllers -/

/-- A controller keeps the last model and tells its user why an edit was rejected. -/
def reject (c : Nat) (error : ParseError) : Action Unit := do
  Action.modifyController c fun k => { k with lastError := some error }
  match (← get).controllers[c]? with
  | some k => if k.notifies then Action.note (.notice c error.kind.title error.message)
  | none => pure ()

/-- The last edit of a controller was accepted. -/
def clearError (c : Nat) : Action Unit :=
  Action.modifyController c fun k => { k with lastError := none }

/-- Puts what was read into the store, unless nothing has changed.  Where names that are the same
but for case stand in the way, the edit is rejected. -/
def applyEntities (react : React) (c : Nat) (parsed : List Entity) : Action Unit := do
  let current := (← get).store.entities
  let merged := reconcile current parsed
  if merged = current then
    clearError c
  else
    let attempt : Action Unit := do
      let _ ← commit react .text none (.setEntities merged)
      clearError c
    tryCatch attempt fun f =>
      if f.isDuplicateName then reject c ⟨.duplicateEntity, f.message⟩ else throw f

/-- A controller reads its text, if the edit of that number is the latest one and has not been read
or superseded. -/
def readEdit (react : React) (c : Nat) (generation : Int) : Action Unit := do
  let w ← get
  match w.controllers[c]? with
  | none => pure ()
  | some k =>
    if generation ≠ k.editGeneration ∨ generation ≤ k.parsedGeneration then
      pure ()
    else
      let (outcome, supply) := parse k.resolver w.unlinked w.supply k.text
      set { w with supply }
      Action.modifyController c fun k =>
        { k with lastResult := some outcome, parsedGeneration := generation.toNat }
      match outcome with
      | .rejected error _ => reject c error
      | .accepted entities _ _ => applyEntities react c entities

/-- The delay of a controller has ended. -/
def wake (react : React) (c : Nat) : Action Unit := do
  Action.modifyController c fun k => { k with debouncer := k.debouncer.cancel }
  match (← get).controllers[c]? with
  | some k => readEdit react c k.editGeneration
  | none => pure ()

/-- A new controller, which is told of changes from now on. -/
def openController (delay : Option Int) (resolver : Option Resolver) (notifies : Bool) :
    Action Nat := do
  let w ← get
  let debouncer ← MonadExcept.ofExcept (Debouncer.ofDelay (delay.getD w.delay))
  let number := w.controllers.length
  let k : Controller :=
    { text := generate w.store.entities, resolver := resolver.getD .byLabel, debouncer, notifies }
  set { w with
    controllers := w.controllers ++ [k]
    subscribers := w.subscribers ++ [Subscriber.controller number] }
  return number

/-- The text of a controller is edited.  The edit counts even where the delay cannot be started. -/
def typeText (c : Nat) (text : Option String) (replacement : Option (String × String))
    (addition : Option String) (inLoop : Bool) : Action Unit := do
  let w ← get
  match w.controllers[c]? with
  | none => pure ()
  | some k =>
    let base := (text.getD k.text).toList
    let replaced :=
      match replacement with
      | some (old, new) => Text.replaceAll old.toList new.toList base
      | none => base
    let typed := String.ofList replaced ++ addition.getD ""
    Action.modifyController c fun k =>
      { k with text := typed, editGeneration := k.editGeneration + 1 }
    let (debouncer, clock) ← MonadExcept.ofExcept (k.debouncer.trigger inLoop w.clock)
    modify fun w => { w with clock }
    Action.modifyController c fun k => { k with debouncer }

/-- A pending edit of a controller is read at once; what comes of it is handed back. -/
def flushController (react : React) (c : Nat) : Action (Option ParseOutcome) := do
  match (← get).controllers[c]? with
  | none => return none
  | some k =>
    if k.debouncer.pending then
      wake react c
      return (← get).controllers[c]?.bind (·.lastResult)
    else
      return none

/-- A controller gives up its pending edit and is no longer told of changes. -/
def closeController (c : Nat) : Action Unit := do
  Action.modifyController c fun k => { k with debouncer := k.debouncer.cancel }
  modify fun w => { w with subscribers := w.subscribers.filter (· ≠ Subscriber.controller c) }

/-! ## Time -/

/-- Alarms go off in order until none is due at that time; `rounds` bounds how many.  Where reading
fails, that is the end of it, and the alarms that are left stay set: an event loop that puts such a
fault aside and goes on with them is told by letting the clock go on once more. -/
def ring (react : React) (time : Nat) : Nat → Action Unit
  | 0 => pure ()
  | rounds + 1 => do
    match (← get).firstDue? time with
    | none => pure ()
    | some (c, alarm) =>
      modify fun w => { w with clock := { w.clock with now := max w.clock.now alarm.due } }
      wake react c
      ring react time rounds

/-- The clock goes on.  Every round of alarms ends one, and only a request of a script can set
another, which bounds the rounds. -/
def goOn (react : React) (ms : Nat) : Action Unit := do
  let w ← get
  let time := w.clock.now + ms
  ring react time (w.armed + w.weight)
  modify fun w => { w with clock := { w.clock with now := max w.clock.now time } }

/-! ## Listeners -/

/-- A listener is registered. -/
def register (l : Listener) : Action Unit :=
  modify fun w =>
    let number := w.listeners.length
    let w := { w with listeners := w.listeners ++ [l] }
    match l.station with
    | .store => { w with subscribers := w.subscribers ++ [.listener number] }
    | .controller c =>
      w.modifyController c fun k => { k with textListeners := k.textListeners ++ [number] }

/-- The number and station of the latest listener with that tag. -/
def latest? (tag : String) (listeners : List Listener) : Option (Nat × Station) :=
  (listeners.zipIdx.reverse.find? fun p => p.1.tag == tag).map fun p => (p.2, p.1.station)

/-- The latest listener with that tag is no longer called. -/
def unregister (tag : String) : Action Unit :=
  modify fun w =>
    match latest? tag w.listeners with
    | none => w
    | some (number, .store) =>
      { w with subscribers := w.subscribers.filter (· ≠ Subscriber.listener number) }
    | some (number, .controller c) =>
      w.modifyController c fun k =>
        { k with textListeners := k.textListeners.filter (· ≠ number) }

/-! ## Requests -/

/-- What a request is answered with. -/
inductive Answer where
  | nothing
  | entity (e : Entity)
  | field (f : Field)
  | number (n : Nat)
  | text (s : String)
  | outcome (o : ParseOutcome)

/-- What an edit hands back, as an answer. -/
def Answer.ofEdited : Edited → Answer
  | .nothing => nothing
  | .entity e => entity e
  | .field f => field f

/-- Reads a reference, which need not be there. -/
def readReference (v : Value) : Action (Option Reference) :=
  match v with
  | .null => pure none
  | v => some <$> Action.editing (Editing.ofReader (Reference.read v))

/-- Answers one request. -/
def perform (react : React) : Request → Action Answer
  | .change edit terms =>
    Answer.ofEdited <$> requestedEdit react edit.ownSource terms (pure edit)
  | .addPointing entity attributes reference terms =>
    Answer.ofEdited <$> requestedEdit react .editor terms do
      let reference ← readReference reference
      return .addField entity { attributes with reference }
  | .replaceAll entities terms =>
    Answer.ofEdited <$> requestedEdit react .import terms do
      return .setEntities (← Action.editing (Editing.ofReader (Entity.readAll entities)))
  | .getEntity entity => do
    return .entity (← Action.editing (demandEntity (← get).store.entities entity))
  | .findEntity name => do
    match name.nameText with
    | .error shape => throw (.refused (.notText shape))
    | .ok name => return ((← get).store.findNamed? name).elim .nothing .entity
  | .diagram => return .text (generate (← get).store.entities)
  | .count => return .number (← get).store.entities.length
  | .subscribe tag script fails => do
    register { tag, station := .store, script, fails }
    return .nothing
  | .watchText tag c script fails => do
    register { tag, station := .controller c, script, fails }
    return .nothing
  | .unsubscribe tag => do
    unregister tag
    return .nothing
  | .openController delay resolver notifies =>
    return .number (← openController delay resolver notifies)
  | .typeText c text replacement addition inLoop => do
    typeText c text replacement addition inLoop
    return .nothing
  | .flush c => return ((← flushController react c).elim .nothing .outcome)
  | .applyEdit c generation => do
    readEdit react c generation
    return .nothing
  | .close c => do
    closeController c
    return .nothing
  | .advance ms => do
    goOn react ms
    return .nothing
  | .pause => return .nothing

/-- Runs a script whose listeners may call each other to that depth. -/
def runScript : Nat → React
  | 0, _ => pure ()
  | depth + 1, script => script.forM fun r => do
    let _ ← perform (runScript depth) r

/-- Answers one request of a session.  The events are those of this request. -/
def answer (r : Request) (w : World) : Except Fault Answer × World :=
  (perform (runScript (w.weight + r.weight)) r).run { w with events := [] }

end DiagramSync
