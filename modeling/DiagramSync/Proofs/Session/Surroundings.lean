import DiagramSync.Proofs.Session.Action

/-!
# Sessions whose users ask back

A user who is told of a problem may ask for something right away, as a listener may: type into the
text again, read it at once, close the controller.  So that what is proved of a session covers that
as well, this is a session with users who do, and with two more places at which one can look into
it: whenever somebody is called, and where an edit is left alone.  Where the users do nothing and
nobody looks, it is the session itself.

* `conclude`, `World.noting` — what a controller does about what it read, and what it has noted then
* `Surroundings` — those who are called while a session is at work
* `Surroundings.readEdit`, `Surroundings.wake`, `Surroundings.ring`, `Surroundings.perform` — a
  session among them
* `Surroundings.perform_plain` — without any of that it does what it does
* `Conduct`, `Conduct.surroundings` — users who ask for something whenever they are told of a
  problem, to a given depth
* `World.afterWith`, **`afterWith_plain`** — the session after some requests
-/

namespace DiagramSync

/-- What a controller does about what it read. -/
def conclude (react : React) (c : Nat) : ParseOutcome → Action Unit
  | .rejected error _ => reject c error
  | .accepted es _ _ => applyEntities react c es

/-- The session when a controller has noted what it read, and nothing has come of it yet. -/
def World.noting (c : Nat) (outcome : ParseOutcome) (supply : Supply) (w : World) : World :=
  ({ w with supply } : World).modifyController c fun k => { k with
    debouncer := k.debouncer.cancel, parsedGeneration := k.editGeneration
    lastResult := some outcome }

/-- Those who are called while a session is at work, and what they do. -/
structure Surroundings where
  /-- What is done with the script of a listener. -/
  react : React
  /-- What the user of a controller does on being told why an edit was rejected. -/
  heed : Nat → ParseError → Action Unit := fun _ _ => pure ()
  /-- What is done in place of reading an edit that is left alone. -/
  skip : Nat → Action Unit := fun _ => pure ()
  /-- How many alarms may go off in a row. -/
  rounds : World → Nat := fun w => w.armed + w.weight

namespace Surroundings

/-! ## A session among others -/

/-- A controller keeps the last model and tells its user why an edit was rejected. -/
def reject (s : Surroundings) (c : Nat) (error : ParseError) : Action Unit := do
  DiagramSync.reject c error
  s.heed c error

/-- Puts what was read into the store. -/
def applyEntities (s : Surroundings) (c : Nat) (parsed : List Entity) : Action Unit := do
  let current := (← get).store.entities
  let merged := reconcile current parsed
  if merged = current then
    clearError c
  else
    let attempt : Action Unit := do
      let _ ← commit s.react .text none (.setEntities merged)
      clearError c
    tryCatch attempt fun f =>
      if f.isDuplicateName then s.reject c ⟨.duplicateEntity, f.message⟩ else throw f

/-- What a controller does about what it read. -/
def conclude (s : Surroundings) (c : Nat) : ParseOutcome → Action Unit
  | .rejected error _ => s.reject c error
  | .accepted es _ _ => s.applyEntities c es

/-- A controller reads its text, if the edit of that number is the latest one and has not been read
or superseded. -/
def readEdit (s : Surroundings) (c : Nat) (generation : Int) : Action Unit := do
  let w ← get
  match w.controllers[c]? with
  | none => pure ()
  | some k =>
    if generation ≠ k.editGeneration ∨ generation ≤ k.parsedGeneration then
      s.skip c
    else
      let (outcome, supply) := parse k.resolver w.unlinked w.supply k.text
      set { w with supply }
      Action.modifyController c fun k =>
        { k with lastResult := some outcome, parsedGeneration := generation.toNat }
      s.conclude c outcome

/-- The delay of a controller has ended. -/
def wake (s : Surroundings) (c : Nat) : Action Unit := do
  Action.modifyController c fun k => { k with debouncer := k.debouncer.cancel }
  match (← get).controllers[c]? with
  | some k => s.readEdit c k.editGeneration
  | none => pure ()

/-- A pending edit of a controller is read at once. -/
def flush (s : Surroundings) (c : Nat) : Action (Option ParseOutcome) := do
  match (← get).controllers[c]? with
  | none => return none
  | some k =>
    if k.debouncer.pending then
      s.wake c
      return (← get).controllers[c]?.bind (·.lastResult)
    else
      return none

/-- Alarms go off in order until none is due at that time; `rounds` bounds how many. -/
def ring (s : Surroundings) (time : Nat) : Nat → Action Unit
  | 0 => pure ()
  | rounds + 1 => do
    match (← get).firstDue? time with
    | none => pure ()
    | some (c, alarm) =>
      modify fun w => { w with clock := { w.clock with now := max w.clock.now alarm.due } }
      s.wake c
      s.ring time rounds

/-- The clock goes on. -/
def goOn (s : Surroundings) (ms : Nat) : Action Unit := do
  let w ← get
  let time := w.clock.now + ms
  s.ring time (s.rounds w)
  modify fun w => { w with clock := { w.clock with now := max w.clock.now time } }

/-- Answers one request. -/
def perform (s : Surroundings) : Request → Action Answer
  | .flush c => return ((← s.flush c).elim .nothing .outcome)
  | .applyEdit c generation => do
    s.readEdit c generation
    return .nothing
  | .advance ms => do
    s.goOn ms
    return .nothing
  | r => DiagramSync.perform s.react r

/-! ## Reading -/

section Reading

variable (s : Surroundings) {w : World} {c : Nat} {k : Controller}

/-- The latest edit is read if it has not been read yet. -/
lemma exec_readEdit_unread (hk : w.controllers[c]? = some k) {generation : Int}
    (hdue : ¬ (generation ≠ k.editGeneration ∨ generation ≤ k.parsedGeneration))
    {outcome : ParseOutcome} {supply : Supply}
    (hparse : parse k.resolver w.unlinked w.supply k.text = (outcome, supply)) :
    (s.readEdit c generation).exec w
      = (s.conclude c outcome).exec (({ w with supply } : World).modifyController c fun k => { k with
          lastResult := some outcome, parsedGeneration := k.editGeneration }) := by
  have hlatest : generation.toNat = k.editGeneration := by omega
  have hnote : ({ w with supply } : World).modifyController c (fun k' => { k' with
        lastResult := some outcome, parsedGeneration := generation.toNat })
      = ({ w with supply } : World).modifyController c fun k' => { k' with
        lastResult := some outcome, parsedGeneration := k'.editGeneration } :=
    modifyController_congr (w := { w with supply }) hk (by rw [hlatest])
  rw [readEdit, exec_bind_ok (exec_get w)]
  simp only [hk, if_neg hdue, hparse]
  rw [exec_bind_ok (exec_set _ w), exec_bind_ok (exec_modifyController c _ _), hnote]

/-- No other edit is read. -/
lemma exec_readEdit_done (hk : w.controllers[c]? = some k) {generation : Int}
    (hdone : generation ≠ k.editGeneration ∨ generation ≤ k.parsedGeneration) :
    (s.readEdit c generation).exec w = (s.skip c).exec w := by
  rw [readEdit, exec_bind_ok (exec_get w)]
  simp only [hk, if_pos hdone]

/-- The latest edit is what a controller looks at when its delay ends. -/
lemma exec_wake_some (hk : w.controllers[c]? = some k) :
    (s.wake c).exec w = (s.readEdit c k.editGeneration).exec
      (w.modifyController c fun k => { k with debouncer := k.debouncer.cancel }) := by
  have hcancel := exec_modifyController c (fun k => { k with debouncer := k.debouncer.cancel }) w
  rw [wake, exec_bind_ok hcancel, exec_bind_ok (exec_get _), getElem?_modifyController hk]

/-- When its delay ends, a controller reads what it has not read. -/
lemma exec_wake_unread (hk : w.controllers[c]? = some k)
    (hunread : k.parsedGeneration < k.editGeneration) {outcome : ParseOutcome} {supply : Supply}
    (hparse : parse k.resolver w.unlinked w.supply k.text = (outcome, supply)) :
    (s.wake c).exec w = (s.conclude c outcome).exec (w.noting c outcome supply) := by
  have hidle := getElem?_modifyController hk fun k => { k with debouncer := k.debouncer.cancel }
  rw [exec_wake_some s hk, exec_readEdit_unread s hidle (by dsimp only; omega) hparse]
  exact congrArg (s.conclude c outcome).exec
    (modifyController_modifyController _ _ { w with supply })

/-- It leaves what it has read before. -/
lemma exec_wake_done (hk : w.controllers[c]? = some k)
    (hread : ¬ k.parsedGeneration < k.editGeneration) : (s.wake c).exec w = (s.skip c).exec
      (w.modifyController c fun k => { k with debouncer := k.debouncer.cancel }) := by
  have hidle := getElem?_modifyController hk fun k => { k with debouncer := k.debouncer.cancel }
  rw [exec_wake_some s hk, exec_readEdit_done s hidle (by dsimp only; omega)]

/-- Where an edit is pending, reading it at once is what the end of the delay does. -/
lemma exec_flush_pending (hk : w.controllers[c]? = some k) (hpending : k.debouncer.pending = true) :
    (s.flush c).exec w = (((s.wake c).exec w).1.map fun _ =>
      ((s.wake c).exec w).2.controllers[c]?.bind (·.lastResult), ((s.wake c).exec w).2) := by
  rw [flush, exec_bind_ok (exec_get w)]
  simp only [hk, if_pos hpending]
  rw [exec_bind]
  cases (s.wake c).exec w with
  | mk r w' => cases r <;> rfl

end Reading

/-! ## The session itself -/

section Plain

variable (react : React)

/-- Users do nothing, and nobody looks. -/
def plain : Surroundings where
  react := react

lemma reject_plain (c : Nat) (error : ParseError) :
    (plain react).reject c error = DiagramSync.reject c error :=
  bind_pure_unit

lemma applyEntities_plain (c : Nat) (es : List Entity) :
    (plain react).applyEntities c es = DiagramSync.applyEntities react c es := by
  simp only [applyEntities, DiagramSync.applyEntities, reject_plain]
  rfl

lemma conclude_plain (c : Nat) (outcome : ParseOutcome) :
    (plain react).conclude c outcome = DiagramSync.conclude react c outcome := by
  cases outcome with
  | rejected error _ => exact reject_plain react c error
  | accepted es _ _ => exact applyEntities_plain react c es

lemma readEdit_plain (c : Nat) (generation : Int) :
    (plain react).readEdit c generation = DiagramSync.readEdit react c generation := by
  have hconclude : (plain react).conclude c = fun outcome => match outcome with
      | .rejected error _ => DiagramSync.reject c error
      | .accepted es _ _ => DiagramSync.applyEntities react c es := by
    funext outcome
    rw [conclude_plain]
    cases outcome <;> rfl
  simp only [readEdit, hconclude]
  rfl

lemma wake_plain (c : Nat) : (plain react).wake c = DiagramSync.wake react c := by
  simp only [wake, readEdit_plain]
  rfl

lemma flush_plain (c : Nat) : (plain react).flush c = flushController react c := by
  simp only [flush, wake_plain]
  rfl

lemma ring_plain (time rounds : Nat) :
    (plain react).ring time rounds = DiagramSync.ring react time rounds := by
  induction rounds with
  | zero => rfl
  | succ rounds ih =>
    simp only [ring, wake_plain, ih]
    rfl

/-- Among surroundings that do nothing a session answers as it does. -/
lemma perform_plain (r : Request) : (plain react).perform r = DiagramSync.perform react r := by
  cases r with
  | flush c => simp only [perform, DiagramSync.perform, flush_plain]
  | applyEdit c generation => simp only [perform, DiagramSync.perform, readEdit_plain]
  | advance ms =>
    simp only [perform, DiagramSync.perform, goOn, DiagramSync.goOn, ring_plain]
    rfl
  | _ => rfl

end Plain

end Surroundings

/-! ## Users who ask back -/

/-- How those behave who are called while a session is at work. -/
structure Conduct where
  /-- What the user of a controller asks for on being told why an edit was rejected. -/
  complaint : Nat → ParseError → World → List Request := fun _ _ _ => []
  /-- What everybody does first who is called. -/
  look : Action Unit := pure ()
  /-- What is done in place of reading an edit that is left alone. -/
  skip : Nat → Action Unit := fun _ => pure ()
  /-- How many alarms may go off in a row. -/
  rounds : World → Nat := fun w => w.armed + w.weight
  /-- How deep the calls for a request may be nested. -/
  depth : World → Request → Nat := fun w r => w.weight + r.weight

/-- Those who behave like that, with calls that are nested to that depth. -/
def Conduct.surroundings (cd : Conduct) : Nat → Surroundings
  | 0 => { react := fun _ => cd.look, heed := fun _ _ => cd.look, skip := cd.skip, rounds := cd.rounds }
  | depth + 1 =>
    let ask (script : List Request) : Action Unit := script.forM fun r => do
      let _ ← (cd.surroundings depth).perform r
    { react := fun script => do
        cd.look
        ask script
      heed := fun c error => do
        cd.look
        ask (cd.complaint c error (← get))
      skip := cd.skip
      rounds := cd.rounds }

/-- Answers one request of a session, with everything that is asked for meanwhile. -/
def Conduct.answer (cd : Conduct) (r : Request) (w : World) : Except Fault Answer × World :=
  ((cd.surroundings (cd.depth w r)).perform r).run { w with events := [] }

/-- The session after some requests, among those who behave like that. -/
def World.afterWith (cd : Conduct) (w : World) (rs : List Request) : World :=
  rs.foldl (fun w r => (cd.answer r w).2) w

/-- Those who do nothing of their own leave it at the scripts of the listeners. -/
lemma surroundings_plain (depth : Nat) :
    ({} : Conduct).surroundings depth = .plain (runScript depth) := by
  induction depth with
  | zero => rfl
  | succ depth ih =>
    rw [Conduct.surroundings, ih]
    simp only [Surroundings.perform_plain]
    rfl

/-- **Where nobody does anything of his own, the session is the session.** -/
theorem afterWith_plain (w : World) (rs : List Request) : w.afterWith {} rs = w.after rs := by
  have hanswer : ∀ r w, ({} : Conduct).answer r w = answer r w := by
    intro r w
    rw [Conduct.answer, surroundings_plain, Surroundings.perform_plain]
    rfl
  simp only [World.afterWith, World.after, hanswer]

end DiagramSync
