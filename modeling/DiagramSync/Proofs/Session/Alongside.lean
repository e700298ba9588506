import DiagramSync.Proofs.Session.Steps
import DiagramSync.Proofs.Session.Surroundings
import DiagramSync.Proofs.Session.Telling

/-!
# Two sessions side by side

Two sessions may differ in some of their controllers, or in who is called while they are at work,
and still go on in the same way.  It is enough to relate them by what every single move keeps: then
everything that is asked of both has the same result in both and leaves them related.

* `Action.Agrees` — an action in one session does what another one does in the other
* `agrees_bind`, `agrees_tryCatch`, `agrees_forM` — how such actions are put together
* `Controller.IsTimed` — a controller has something to read while its alarm is set
* `World.Move`, `IsLockstep` — the moves of a session, and what is kept by each of them
* `agrees_commit`, `agrees_wake`, `agrees_ring` — what is done in moves is done side by side
* **`agrees_perform`** — and so is every request
* `lockstep_answer`, **`lockstep_after`** — the sessions themselves
-/

namespace DiagramSync

/-! ## Actions that agree -/

/-- In these two sessions the actions have the same result, and the sessions are related after
them. -/
def Action.AgreesAt {α : Type} (S : World → World → Prop) (x y : Action α) (w v : World) : Prop :=
  (x.exec w).1 = (y.exec v).1 ∧ S (x.exec w).2 (y.exec v).2

/-- In related sessions the actions have the same result and leave the sessions related. -/
def Action.Agrees {α : Type} (S : World → World → Prop) (x y : Action α) : Prop :=
  ∀ w v, S w v → Action.AgreesAt S x y w v

section Agrees

open DiagramSync.Action

variable {α β : Type} {S : World → World → Prop} {w v : World}

lemma agrees_pure (a : α) : Agrees S (pure a) (pure a) := fun _ _ h => ⟨rfl, h⟩

lemma agrees_throw (f : Fault) : Agrees S (throw f : Action α) (throw f) := fun _ _ h => ⟨rfl, h⟩

lemma agrees_ofExcept (r : Except Fault α) :
    Agrees S (MonadExcept.ofExcept r : Action α) (MonadExcept.ofExcept r) := by
  cases r with
  | ok a => exact agrees_pure a
  | error f => exact agrees_throw f

lemma agrees_modify {g : World → World} (hg : ∀ w v, S w v → S (g w) (g v)) :
    Agrees S (modify g : Action Unit) (modify g) := fun w v h => ⟨rfl, hg w v h⟩

lemma agreesAt_bind {x y : Action α} {f g : α → Action β} (hxy : AgreesAt S x y w v)
    (hfg : ∀ a, Agrees S (f a) (g a)) : AgreesAt S (x >>= f) (y >>= g) w v := by
  obtain ⟨hresult, hafter⟩ := hxy
  rw [AgreesAt, exec_bind, exec_bind]
  cases hx : x.exec w with
  | mk r w' =>
    cases hy : y.exec v with
    | mk r' v' =>
      rw [hx, hy] at hresult hafter
      obtain rfl : r = r' := hresult
      cases r with
      | ok a => exact hfg a w' v' hafter
      | error e => exact ⟨rfl, hafter⟩

lemma agrees_bind {x y : Action α} {f g : α → Action β} (hxy : Agrees S x y)
    (hfg : ∀ a, Agrees S (f a) (g a)) : Agrees S (x >>= f) (y >>= g) :=
  fun w v h => agreesAt_bind (hxy w v h) hfg

/-- What is done with the present session is done in it. -/
lemma agreesAt_get_bind {f g : World → Action β} (h : AgreesAt S (f w) (g v) w v) :
    AgreesAt S (get >>= f) (get >>= g) w v := by
  rw [AgreesAt, exec_bind_ok (exec_get w), exec_bind_ok (exec_get v)]
  exact h

lemma agrees_map {x y : Action α} (g : α → β) (hxy : Agrees S x y) :
    Agrees S (g <$> x) (g <$> y) := by
  rw [map_eq_pure_bind, map_eq_pure_bind]
  exact agrees_bind hxy fun a => agrees_pure (g a)

lemma agrees_tryCatch {x y : Action α} {f g : Fault → Action α} (hxy : Agrees S x y)
    (hfg : ∀ e, Agrees S (f e) (g e)) : Agrees S (tryCatch x f) (tryCatch y g) := by
  intro w v h
  obtain ⟨hresult, hafter⟩ := hxy w v h
  rw [AgreesAt, exec_tryCatch, exec_tryCatch]
  cases hx : x.exec w with
  | mk r w' =>
    cases hy : y.exec v with
    | mk r' v' =>
      rw [hx, hy] at hresult hafter
      obtain rfl : r = r' := hresult
      cases r with
      | ok a => exact ⟨rfl, hafter⟩
      | error e => exact hfg e w' v' hafter

lemma agrees_forM {xs : List α} {f g : α → Action Unit} (hfg : ∀ x ∈ xs, Agrees S (f x) (g x)) :
    Agrees S (xs.forM f) (xs.forM g) := by
  induction xs with
  | nil => exact agrees_pure ()
  | cons x xs ih =>
    have hcons : ∀ f : α → Action Unit, (x :: xs).forM f = f x >>= fun _ => xs.forM f :=
      fun _ => rfl
    rw [hcons, hcons]
    exact agrees_bind (hfg x List.mem_cons_self) fun _ =>
      ih fun y hy => hfg y (List.mem_cons_of_mem x hy)

end Agrees

/-! ## Moves -/

/-- The controller has not read more edits than there were, and while its alarm is set there is one
that it has not read. -/
structure Controller.IsTimed (k : Controller) : Prop where
  /-- It has not read more edits than there were. -/
  counted : k.parsedGeneration ≤ k.editGeneration
  /-- While the alarm is set there is an edit to read. -/
  unread : k.debouncer.pending = true → k.parsedGeneration < k.editGeneration

/-- A change from elsewhere settles a controller. -/
lemma isTimed_rewrite (es : List Entity) {k : Controller} (hk : k.IsTimed) :
    (k.rewrite es).IsTimed := by
  refine ⟨?_, fun hpending => ?_⟩
  · rw [Controller.rewrite]
    split_ifs
    · exact Nat.le_refl k.editGeneration
    · exact hk.counted
  · rw [pending_rewrite] at hpending
    exact absurd hpending Bool.false_ne_true

/-- The moves of a session in which only requests of a certain kind are asked for, and in which only
certain controllers are `active`: the others may be told to stop, or be listened to, but nothing
else happens to them. -/
inductive World.Move (Q : Request → Prop) (Active : Nat → Prop) (w : World) :
    (World → World) → Prop
  /-- Something is noted. -/
  | note (e : Event) : Move Q Active w fun v => { v with events := v.events ++ [e] }
  /-- What was noted is forgotten. -/
  | forget : Move Q Active w fun v => { v with events := [] }
  /-- Ids are drawn. -/
  | draw (supply : Supply) : Move Q Active w fun v => { v with supply }
  /-- The store takes an edit. -/
  | takes (edit : Edit) (store : Store) (supply : Supply) :
      Move Q Active w (World.taking edit store supply)
  /-- Time goes by. -/
  | tick (clock : Clock) : Move Q Active w fun v => { v with clock }
  /-- Something happens to an active controller. -/
  | control {c : Nat} (active : Active c) {g : Controller → Controller}
      (timed : ∀ k, k.IsTimed → (g k).IsTimed) : Move Q Active w (World.modifyController c g)
  /-- A controller gives up its pending edit. -/
  | stop (c : Nat) :
      Move Q Active w (World.modifyController c fun k => { k with debouncer := k.debouncer.cancel })
  /-- The listeners for the text of a controller are others. -/
  | relisten (c : Nat) (g : List Nat → List Nat) :
      Move Q Active w (World.modifyController c fun k => { k with textListeners := g k.textListeners })
  /-- A controller is opened. -/
  | opens {k : Controller} (timed : k.IsTimed) : Move Q Active w fun v => { v with
      controllers := v.controllers ++ [k]
      subscribers := v.subscribers ++ [.controller w.controllers.length] }
  /-- Somebody is no longer told of changes. -/
  | leave (s : Subscriber) :
      Move Q Active w fun v => { v with subscribers := v.subscribers.filter (· ≠ s) }
  /-- A listener comes. -/
  | enlist {l : Listener} (asks : Request.AllWithin Q l.script) :
      Move Q Active w fun v => { v with listeners := v.listeners ++ [l] }
  /-- A listener comes who is told of changes. -/
  | subscribe {l : Listener} (asks : Request.AllWithin Q l.script) :
      Move Q Active w fun v => { v with
        listeners := v.listeners ++ [l]
        subscribers := v.subscribers ++ [.listener w.listeners.length] }
  /-- A listener is called. -/
  | call (number : Nat) :
      Move Q Active w fun v => { v with listeners := v.listeners.modify number Listener.called }

/-- No move makes a listener ask for something else. -/
lemma asksWithin_move {Q : Request → Prop} {Active : Nat → Prop} {w : World} {g : World → World}
    (h : w.AsksWithin Q) (hmove : w.Move Q Active g) : (g w).AsksWithin Q := by
  cases hmove with
  | enlist asks => exact h.concat asks
  | subscribe asks => exact h.concat asks
  | call number => exact h.called number
  | _ => exact h

/-- The alarm that goes first depends on the alarms only. -/
lemma firstDue?_of_alarms {w v : World}
    (h : v.controllers.map (·.debouncer.alarm) = w.controllers.map (·.debouncer.alarm))
    (time : Nat) : v.firstDue? time = w.firstDue? time := by
  have hdue : ∀ u : World, (u.controllers.zipIdx.filterMap fun kc =>
      (kc.1.debouncer.due? time).map fun a => (kc.2, a))
      = (u.controllers.map (·.debouncer.alarm)).zipIdx.filterMap fun ac =>
        (ac.1.filter fun a => a.due ≤ time).map fun a => (ac.2, a) := by
    intro u
    rw [List.zipIdx_map, List.filterMap_map]
    rfl
  have hsame := hdue v
  rw [h, ← hdue w] at hsame
  exact congrArg (List.foldl _ none) hsame

/-- Sessions that are related are the same but for their controllers, the active controllers are the
same, and every move leaves them related.  Only active controllers are told of changes, have an
alarm set, or are spoken to. -/
structure IsLockstep (Q : Request → Prop) (Active : Nat → Prop) (S : World → World → Prop) :
    Prop where
  /-- The sessions are the same but for their controllers. -/
  rest : ∀ {w v}, S w v → ∃ ks, v = { w with controllers := ks }
  /-- The active controllers are the same. -/
  same : ∀ {w v c}, S w v → Active c → v.controllers[c]? = w.controllers[c]?
  /-- The alarms are the same. -/
  alarms : ∀ {w v}, S w v →
    v.controllers.map (·.debouncer.alarm) = w.controllers.map (·.debouncer.alarm)
  /-- Active controllers are told of changes. -/
  told : ∀ {w v c}, S w v → Subscriber.controller c ∈ w.subscribers → Active c
  /-- Active controllers have an alarm set. -/
  rings : ∀ {w v c k}, S w v → w.controllers[c]? = some k → k.debouncer.pending = true → Active c
  /-- Somebody types into active controllers. -/
  typed : ∀ {c text replacement addition inLoop},
    Q (.typeText c text replacement addition inLoop) → Active c
  /-- Active controllers are made to read an edit out of time, and then anything may happen to
  them. -/
  applied : ∀ {c generation}, Q (.applyEdit c generation) →
    Active c ∧ ∀ {w v} (g : Controller → Controller), S w v →
      S (w.modifyController c g) (v.modifyController c g)
  /-- Listeners ask for requests of that kind. -/
  asks : ∀ {w v}, S w v → w.AsksWithin Q
  /-- A move leaves them related. -/
  move : ∀ {w v g}, S w v → w.Move Q Active g → S (g w) (g v)

/-- Among those surroundings, things go in one session as they go among these in the other. -/
structure Surroundings.Agree (Q : Request → Prop) (Active : Nat → Prop)
    (S : World → World → Prop) (s t : Surroundings) : Prop where
  /-- Scripts go alike. -/
  react : ∀ script, Request.AllWithin Q script → Action.Agrees S (s.react script) (t.react script)
  /-- Users do alike. -/
  heed : ∀ c error, Active c → Action.Agrees S (s.heed c error) (t.heed c error)
  /-- Alarms may go off as often. -/
  rounds : ∀ {w v}, S w v → t.rounds v = s.rounds w
  /-- Edits are left alone alike, unless none ever is. -/
  skip : (∀ c, Active c → Action.Agrees S (s.skip c) (t.skip c)) ∨
    (∀ {w v : World} {c : Nat} {k : Controller}, S w v → w.controllers[c]? = some k → k.IsTimed) ∧
      ∀ c generation, ¬ Q (.applyEdit c generation)

/-- Who asks for an edit is served as always. -/
lemma Surroundings.perform_asking (s : Surroundings) {r : Request} {q : Asking}
    (h : r.asking? = some q) : s.perform r
      = Answer.ofEdited <$> requestedEdit s.react q.ownSource q.terms q.edit := by
  rw [← DiagramSync.perform_asking s.react h]
  cases r <;> first | (cases h; done) | rfl

section Lockstep

open DiagramSync.Action

variable {Q : Request → Prop} {Active : Nat → Prop} {S : World → World → Prop}
  (hS : IsLockstep Q Active S)
include hS

/-! ## Small actions -/

lemma agrees_note (e : Event) : Agrees S (note e) (note e) :=
  agrees_modify fun _ _ h => hS.move h (.note e)

lemma agrees_control {c : Nat} (hc : Active c) {g : Controller → Controller}
    (hg : ∀ k, k.IsTimed → (g k).IsTimed) :
    Agrees S (Action.modifyController c g) (Action.modifyController c g) :=
  agrees_modify fun _ _ h => hS.move h (.control hc hg)

/-- A computation with the supply of ids. -/
lemma agrees_editing {α : Type} (x : Editing α) : Agrees S (editing x) (editing x) := by
  intro w v h
  obtain ⟨ks, rfl⟩ := hS.rest h
  rw [AgreesAt, exec_editing, exec_editing]
  cases hx : x w.supply with
  | error f => exact ⟨rfl, h⟩
  | ok p => exact ⟨rfl, hS.move h (.draw p.2)⟩

lemma agrees_clearError {c : Nat} (hc : Active c) : Agrees S (clearError c) (clearError c) :=
  agrees_control hS hc fun _ hk => ⟨hk.counted, hk.unread⟩

/-- A controller tells its user why an edit was rejected. -/
lemma agrees_reject {c : Nat} (hc : Active c) (error : ParseError) :
    Agrees S (reject c error) (reject c error) := by
  refine agrees_bind (agrees_control hS hc fun _ hk => ⟨hk.counted, hk.unread⟩) fun _ => ?_
  intro w v h
  refine agreesAt_get_bind ?_
  rw [hS.same h hc]
  cases w.controllers[c]? with
  | none => exact agrees_pure () w v h
  | some k =>
    dsimp only
    split_ifs
    · exact agrees_note hS _ w v h
    · exact agrees_pure () w v h

lemma agrees_openController (delay : Option Int) (resolver : Option Resolver) (notifies : Bool) :
    Agrees S (openController delay resolver notifies)
      (openController delay resolver notifies) := by
  intro w v h
  have hlength : v.controllers.length = w.controllers.length := by
    simpa using congrArg List.length (hS.alarms h)
  obtain ⟨ks, rfl⟩ := hS.rest h
  refine agreesAt_get_bind ?_
  rw [AgreesAt, exec_bind, exec_bind]
  cases hdelay : Debouncer.ofDelay (delay.getD w.delay) with
  | error f => exact ⟨rfl, h⟩
  | ok d =>
    have hidle : d.pending = false := by
      rw [Debouncer.ofDelay] at hdelay
      split_ifs at hdelay
      obtain rfl := Except.ok.inj hdelay
      rfl
    have hmove := hS.move h (.opens (k := {
      text := generate w.store.entities, resolver := resolver.getD .byLabel, debouncer := d
      notifies }) ⟨Nat.le_refl 0, fun hpending => absurd (hidle.symm.trans hpending)
        Bool.false_ne_true⟩)
    refine ⟨congrArg Except.ok hlength.symm, ?_⟩
    change S _ { w with
      controllers := ks ++ [_], subscribers := w.subscribers ++ [Subscriber.controller ks.length] }
    rw [hlength]
    exact hmove

/-- Somebody types into a controller. -/
lemma agrees_typeText {c : Nat} (hc : Active c) (text : Option String)
    (replacement : Option (String × String)) (addition : Option String) (inLoop : Bool) :
    Agrees S (typeText c text replacement addition inLoop)
      (typeText c text replacement addition inLoop) := by
  intro w v h
  have hsame := hS.same h hc
  cases hk : w.controllers[c]? with
  | none =>
    rw [hk] at hsame
    rw [AgreesAt, typeText, exec_bind_ok (exec_get w), exec_bind_ok (exec_get v)]
    simp only [hk, hsame]
    exact ⟨rfl, h⟩
  | some k =>
    rw [hk] at hsame
    obtain ⟨ks, rfl⟩ := hS.rest h
    rw [AgreesAt]
    cases inLoop with
    | true =>
      rw [exec_typeText hk, exec_typeText hsame]
      refine ⟨rfl, hS.move (hS.move h (.tick _)) (.control hc fun k hk => ?_)⟩
      exact ⟨Nat.le_succ_of_le hk.counted, fun _ => Nat.lt_succ_of_le hk.counted⟩
    | false =>
      rw [exec_typeText_outside hk, exec_typeText_outside hsame]
      refine ⟨rfl, hS.move h (.control hc fun k hk => ?_)⟩
      exact ⟨Nat.le_succ_of_le hk.counted, fun _ => Nat.lt_succ_of_le hk.counted⟩

lemma agrees_register {l : Listener} (hl : Request.AllWithin Q l.script) :
    Agrees S (register l) (register l) := by
  intro w v h
  obtain ⟨ks, rfl⟩ := hS.rest h
  refine ⟨rfl, ?_⟩
  rw [register, exec_modify, exec_modify]
  dsimp only
  cases l.station with
  | store => exact hS.move h (.subscribe hl)
  | controller c => exact hS.move (hS.move h (.enlist hl)) (.relisten c (· ++ [w.listeners.length]))

lemma agrees_unregister (tag : String) : Agrees S (unregister tag) (unregister tag) := by
  intro w v h
  obtain ⟨ks, rfl⟩ := hS.rest h
  refine ⟨rfl, ?_⟩
  rw [unregister, exec_modify, exec_modify]
  dsimp only
  cases latest? tag w.listeners with
  | none => exact h
  | some p =>
    obtain ⟨number, station⟩ := p
    cases station with
    | store => exact hS.move h (.leave _)
    | controller c => exact hS.move h (.relisten c (·.filter (· ≠ number)))

lemma agrees_closeController (c : Nat) : Agrees S (closeController c) (closeController c) :=
  agrees_bind (agrees_modify fun _ _ h => hS.move h (.stop c)) fun _ =>
    agrees_modify fun _ _ h => hS.move h (.leave _)

/-! ## Edits -/

section Telling

variable {react react' : React}
  (hreact : ∀ script, Request.AllWithin Q script → Agrees S (react script) (react' script))
include hreact

lemma agrees_callListener (number : Nat) (event : String → Event) :
    Agrees S (callListener react number event) (callListener react' number event) := by
  intro w v h
  have hasks := hS.asks h
  obtain ⟨ks, rfl⟩ := hS.rest h
  refine agreesAt_get_bind ?_
  dsimp only
  cases hl : w.listeners[number]? with
  | none => exact agrees_pure () _ _ h
  | some l =>
    refine agreesAt_bind (agrees_note hS (event l.tag) _ _ h) fun _ => ?_
    split_ifs
    · exact agrees_throw _
    · exact agrees_bind (agrees_modify fun _ _ h => hS.move h (.call number)) fun _ =>
        hreact _ (hasks l (List.mem_of_getElem? hl)).beforePause

/-- The listeners for the text of a controller are called. -/
lemma agrees_callTextListeners {c : Nat} (hc : Active c) (numbers : List Nat) :
    Agrees S (numbers.forM fun number => do
        let text ← textOf c
        callListener react number fun tag => .text tag text : Action Unit)
      (numbers.forM fun number => do
        let text ← textOf c
        callListener react' number fun tag => .text tag text : Action Unit) := by
  refine agrees_forM fun number _ => agrees_bind ?_ fun text => ?_
  · intro w v h
    refine agreesAt_get_bind ?_
    rw [hS.same h hc]
    exact agrees_pure _ w v h
  · exact agrees_callListener hS hreact number _

lemma agrees_follow {c : Nat} (hc : Active c) (change : Change) :
    Agrees S (follow react c change) (follow react' c change) := by
  by_cases htext : change.source = .text
  · rw [follow, follow, if_pos htext, if_pos htext]
    exact agrees_pure ()
  · intro w v h
    rw [AgreesAt, exec_follow_elsewhere react c htext, exec_follow_elsewhere react' c htext]
    have hstore : v.store = w.store := by
      obtain ⟨ks, rfl⟩ := hS.rest h
      rfl
    rw [hstore]
    have hheard := hS.move h
      (.control hc (g := Controller.rewrite w.store.entities) fun _ => isTimed_rewrite _)
    dsimp only
    rw [hS.same hheard hc]
    exact agrees_callTextListeners hS hreact hc _ _ _ hheard

/-- Everybody in a list of subscribers is told of a change. -/
lemma agrees_tellAll (change : Change) {subscribers : List Subscriber}
    (hactive : ∀ c, Subscriber.controller c ∈ subscribers → change.source ≠ .text → Active c) :
    Agrees S (subscribers.forM (tell react change)) (subscribers.forM (tell react' change)) := by
  refine agrees_forM fun subscriber hmem => ?_
  cases subscriber with
  | listener number =>
    rw [tell, tell]
    exact agrees_callListener hS hreact number _
  | controller c =>
    rw [tell, tell]
    by_cases htext : change.source = .text
    · rw [follow, follow, if_pos htext, if_pos htext]
      exact agrees_pure ()
    · exact agrees_follow hS hreact (hactive c hmem htext) change

omit hreact in
/-- The store takes an edit in both sessions, or it refuses the edit in both. -/
lemma agrees_make (expected : Option Int) (edit : Edit) :
    Agrees S (make expected edit) (make expected edit) := by
  intro w v h
  obtain ⟨ks, rfl⟩ := hS.rest h
  rw [AgreesAt]
  cases hrun : w.store.apply w.unlinked expected edit w.supply with
  | error f =>
    rw [exec_make_refused hrun, exec_make_refused (w := { w with controllers := ks }) hrun]
    exact ⟨rfl, h⟩
  | ok p =>
    obtain ⟨⟨store, edited⟩, supply⟩ := p
    rw [exec_make_taken hrun, exec_make_taken (w := { w with controllers := ks }) hrun]
    exact ⟨rfl, hS.move h (.takes edit store supply)⟩

lemma agrees_commit (source : ChangeSource) (expected : Option Int) (edit : Edit) :
    Agrees S (commit react source expected edit) (commit react' source expected edit) := by
  refine agrees_bind (agrees_make hS expected edit) fun p => ?_
  intro w v h
  have htold := fun {c} => hS.told (c := c) h
  obtain ⟨ks, rfl⟩ := hS.rest h
  have htell := agrees_bind (agrees_tellAll hS hreact
    { version := p.1.version, source, operation := edit.operation } fun c hc _ => htold hc)
    fun _ => agrees_pure p.2
  exact agreesAt_get_bind (htell _ _ h)

omit hreact in
lemma agrees_commitUntold (other : Value) (expected : Option Int) (edit : Edit) :
    Agrees S (commitUntold other expected edit) (commitUntold other expected edit) :=
  agrees_bind (agrees_make hS expected edit) fun _ => agrees_throw _

lemma agrees_commitAndHandBack (source : ChangeSource) (expected : Option Int) (edit : Edit) :
    Agrees S (commitAndHandBack react source expected edit)
      (commitAndHandBack react' source expected edit) := by
  intro w v h
  have hcommit := agrees_commit hS hreact source expected edit w v h
  obtain ⟨ks, rfl⟩ := hS.rest h
  refine agreesAt_get_bind (agreesAt_bind hcommit fun edited => ?_)
  intro w' v' h'
  obtain ⟨ks', rfl⟩ := hS.rest h'
  exact agreesAt_get_bind (agrees_pure _ _ _ h')

lemma agrees_requestedEdit (ownSource : ChangeSource) (terms : Terms) {edit : Action Edit}
    (hedit : Agrees S edit edit) : Agrees S (requestedEdit react ownSource terms edit)
      (requestedEdit react' ownSource terms edit) := by
  have hexpected : Agrees S (expectedOf terms) (expectedOf terms) := by
    rw [expectedOf]
    split
    · exact agrees_pure _
    · exact agrees_pure _
    · intro w v h
      obtain ⟨ks, rfl⟩ := hS.rest h
      refine agreesAt_get_bind ?_
      dsimp only
      split_ifs
      · exact agrees_pure _ _ _ h
      · exact agrees_throw _ _ _ h
  refine agrees_bind (agrees_ofExcept _) fun given => agrees_bind hedit fun edit =>
    agrees_bind hexpected fun expected => ?_
  cases given with
  | ok source => exact agrees_commitAndHandBack hS hreact source expected edit
  | error other => exact agrees_commitUntold hS other expected edit

end Telling

/-! ## Controllers -/

section Surroundings

variable {s t : Surroundings} (hst : s.Agree Q Active S t)
include hst

lemma agrees_rejectAmong {c : Nat} (hc : Active c) (error : ParseError) :
    Agrees S (s.reject c error) (t.reject c error) :=
  agrees_bind (agrees_reject hS hc error) fun _ => hst.heed c error hc

lemma agrees_applyEntities {c : Nat} (hc : Active c) (parsed : List Entity) :
    Agrees S (s.applyEntities c parsed) (t.applyEntities c parsed) := by
  have hclear := agrees_clearError hS hc
  intro w v h
  obtain ⟨ks, rfl⟩ := hS.rest h
  refine agreesAt_get_bind ?_
  dsimp only
  split_ifs
  · exact hclear _ _ h
  · have hcommit := agrees_commit hS hst.react .text none
      (.setEntities (reconcile w.store.entities parsed))
    refine agrees_tryCatch (agrees_bind hcommit fun _ => hclear) (fun f => ?_) _ _ h
    split_ifs
    · exact agrees_rejectAmong hS hst hc _
    · exact agrees_throw f

lemma agrees_conclude {c : Nat} (hc : Active c) (outcome : ParseOutcome) :
    Agrees S (s.conclude c outcome) (t.conclude c outcome) := by
  cases outcome with
  | rejected error _ => exact agrees_rejectAmong hS hst hc error
  | accepted es _ _ => exact agrees_applyEntities hS hst hc es

/-- A controller reads an edit, and is told beforehand what may happen to it. -/
lemma agrees_readEdit {c : Nat} {generation : Int} (hQ : Q (.applyEdit c generation)) :
    Agrees S (s.readEdit c generation) (t.readEdit c generation) := by
  obtain ⟨hc, hfree⟩ := hS.applied hQ
  intro w v h
  have hsame := hS.same h hc
  cases hk : w.controllers[c]? with
  | none =>
    rw [hk] at hsame
    rw [AgreesAt, Surroundings.readEdit, Surroundings.readEdit, exec_bind_ok (exec_get w),
      exec_bind_ok (exec_get v)]
    simp only [hk, hsame]
    exact ⟨rfl, h⟩
  | some k =>
    rw [hk] at hsame
    obtain ⟨ks, rfl⟩ := hS.rest h
    rw [AgreesAt]
    by_cases hdone : generation ≠ k.editGeneration ∨ generation ≤ k.parsedGeneration
    · rw [s.exec_readEdit_done hk hdone, t.exec_readEdit_done hsame hdone]
      exact (hst.skip.resolve_right fun hnone => hnone.2 c generation hQ) c hc _ _ h
    · cases hparse : parse k.resolver w.unlinked w.supply k.text with
      | mk outcome supply =>
        -- The alarm stays set although nothing is left to read, so no move covers this.
        rw [s.exec_readEdit_unread hk hdone hparse, t.exec_readEdit_unread hsame hdone hparse]
        exact agrees_conclude hS hst hc outcome _ _ (hfree _ (hS.move h (.draw supply)))

/-- The delay of a controller ends for which an alarm was set. -/
lemma agreesAt_wake {w v : World} (h : S w v) {c : Nat} {k : Controller}
    (hk : w.controllers[c]? = some k) (hpending : k.debouncer.pending = true) :
    AgreesAt S (s.wake c) (t.wake c) w v := by
  have hc := hS.rings h hk hpending
  have hsame := (hS.same h hc).trans hk
  obtain ⟨ks, rfl⟩ := hS.rest h
  rw [AgreesAt]
  by_cases hunread : k.parsedGeneration < k.editGeneration
  · cases hparse : parse k.resolver w.unlinked w.supply k.text with
    | mk outcome supply =>
      rw [s.exec_wake_unread hk hunread hparse, t.exec_wake_unread hsame hunread hparse]
      have hdrawn := hS.move h (.draw supply)
      have hnoted := hS.move hdrawn (.control hc (g := fun k => { k with
        debouncer := k.debouncer.cancel, parsedGeneration := k.editGeneration
        lastResult := some outcome }) fun k _ =>
          ⟨Nat.le_refl k.editGeneration, fun hpending => absurd hpending Bool.false_ne_true⟩)
      exact agrees_conclude hS hst hc outcome _ _ hnoted
  · -- An edit is left alone, which does not happen to a controller in time.
    rw [s.exec_wake_done hk hunread, t.exec_wake_done hsame hunread]
    refine (hst.skip.resolve_right fun hnone => ?_) c hc _ _ (hS.move h (.stop c))
    exact hunread ((hnone.1 h hk).unread hpending)

lemma agrees_flush (c : Nat) : Agrees S (s.flush c) (t.flush c) := by
  intro w v h
  have halarm : (v.controllers[c]?.map (·.debouncer.alarm))
      = w.controllers[c]?.map (·.debouncer.alarm) := by
    rw [← List.getElem?_map, ← List.getElem?_map, hS.alarms h]
  refine agreesAt_get_bind ?_
  cases hk : w.controllers[c]? with
  | none =>
    rw [hk, Option.map_none, Option.map_eq_none_iff] at halarm
    rw [halarm]
    exact agrees_pure none w v h
  | some k =>
    rw [hk, Option.map_some, Option.map_eq_some_iff] at halarm
    obtain ⟨k', hk', hsame⟩ := halarm
    have hpending : k'.debouncer.pending = k.debouncer.pending := congrArg Option.isSome hsame
    rw [hk']
    dsimp only
    rw [hpending]
    split_ifs with hp
    · have hc := hS.rings h hk hp
      refine agreesAt_bind (agreesAt_wake hS hst h hk hp) fun _ => ?_
      intro w v h
      refine agreesAt_get_bind ?_
      rw [hS.same h hc]
      exact agrees_pure _ w v h
    · exact agrees_pure none w v h

lemma agrees_ring (time rounds : Nat) : Agrees S (s.ring time rounds) (t.ring time rounds) := by
  induction rounds with
  | zero => exact agrees_pure ()
  | succ rounds ih =>
    intro w v h
    refine agreesAt_get_bind ?_
    rw [firstDue?_of_alarms (hS.alarms h) time]
    rcases firstDue?_cases w time with ⟨hnone, -⟩ | ⟨c, k, a, hfirst, hk, hdue⟩
    · rw [hnone]
      exact agrees_pure () w v h
    · rw [hfirst]
      dsimp only
      have hpending : k.debouncer.pending = true := by
        rw [Debouncer.due?, Option.filter_eq_some_iff] at hdue
        rw [Debouncer.pending, hdue.1]
        rfl
      obtain ⟨ks, rfl⟩ := hS.rest h
      have hlater := hS.move h
        (.tick { w.clock with now := max w.clock.now a.due })
      rw [AgreesAt, exec_bind_ok (exec_modify _ _), exec_bind_ok (exec_modify _ _)]
      exact agreesAt_bind (agreesAt_wake hS hst hlater hk hpending) fun _ => ih

lemma agrees_goOn (ms : Nat) : Agrees S (s.goOn ms) (t.goOn ms) := by
  intro w v h
  have hrounds := hst.rounds h
  obtain ⟨ks, rfl⟩ := hS.rest h
  refine agreesAt_get_bind ?_
  dsimp only
  rw [hrounds]
  refine agreesAt_bind (agrees_ring hS hst _ _ _ _ h) fun _ => ?_
  intro w v h
  obtain ⟨ks, rfl⟩ := hS.rest h
  exact ⟨rfl, hS.move h (.tick _)⟩

/-! ## Requests -/

omit hst in
/-- Reading what a request asks for is the same in both. -/
lemma agrees_asking {r : Request} {q : Asking} (hasking : r.asking? = some q) :
    Agrees S q.edit q.edit := by
  cases r <;> simp only [Request.asking?, Option.some.injEq, reduceCtorEq] at hasking <;>
    subst hasking
  case change edit terms => exact agrees_pure edit
  case addPointing entity attributes reference terms =>
    refine agrees_bind ?_ fun _ => agrees_pure _
    unfold readReference
    split
    · exact agrees_pure none
    · exact agrees_map _ (agrees_editing hS _)
  case replaceAll values terms =>
    exact agrees_bind (agrees_editing hS _) fun _ => agrees_pure _

omit hst in
/-- What is read off the store is the same in both. -/
lemma agrees_get_store {α : Type} (x : Store → Action α) (hx : ∀ store, Agrees S (x store) (x store)) :
    Agrees S (get >>= fun w => x w.store) (get >>= fun w => x w.store) := by
  intro w v h
  obtain ⟨ks, rfl⟩ := hS.rest h
  exact agreesAt_get_bind (hx w.store _ _ h)

/-- **What is asked of two sessions that are related has the same result in both and leaves them
related.** -/
theorem agrees_perform {r : Request} (hQ : r.Within Q) :
    Agrees S (s.perform r) (t.perform r) := by
  cases hasking : r.asking? with
  | some q =>
    rw [s.perform_asking hasking, t.perform_asking hasking]
    exact agrees_map _ (agrees_requestedEdit hS hst.react _ _ (agrees_asking hS hasking))
  | none =>
    cases r with
    | getEntity entity =>
      exact agrees_get_store hS (fun store => do
        return Answer.entity (← editing (demandEntity store.entities entity))) fun _ =>
          agrees_bind (agrees_editing hS _) fun _ => agrees_pure _
    | findEntity name =>
      simp only [Surroundings.perform, DiagramSync.perform]
      cases name.nameText with
      | error shape => exact agrees_throw _
      | ok name =>
        exact agrees_get_store hS (fun store => pure
          ((store.findNamed? name).elim Answer.nothing Answer.entity)) fun _ => agrees_pure _
    | diagram =>
      exact agrees_get_store hS (fun store => pure (Answer.text (generate store.entities)))
        fun _ => agrees_pure _
    | count =>
      exact agrees_get_store hS (fun store => pure (Answer.number store.entities.length))
        fun _ => agrees_pure _
    | subscribe tag script fails =>
      exact agrees_bind (agrees_register hS hQ.2) fun _ => agrees_pure _
    | watchText tag c script fails =>
      exact agrees_bind (agrees_register hS hQ.2) fun _ => agrees_pure _
    | unsubscribe tag => exact agrees_bind (agrees_unregister hS tag) fun _ => agrees_pure _
    | openController delay resolver notifies =>
      exact agrees_bind (agrees_openController hS delay resolver notifies) fun _ => agrees_pure _
    | typeText c text replacement addition inLoop =>
      exact agrees_bind (agrees_typeText hS (hS.typed hQ) text replacement addition inLoop)
        fun _ => agrees_pure _
    | flush c => exact agrees_bind (agrees_flush hS hst c) fun _ => agrees_pure _
    | applyEdit c generation =>
      exact agrees_bind (agrees_readEdit hS hst hQ) fun _ => agrees_pure _
    | close c => exact agrees_bind (agrees_closeController hS c) fun _ => agrees_pure _
    | advance ms => exact agrees_bind (agrees_goOn hS hst ms) fun _ => agrees_pure _
    | pause => exact agrees_pure _
    | change edit terms => cases hasking
    | addPointing entity attributes reference terms => cases hasking
    | replaceAll entities terms => cases hasking

/-- Scripts go side by side. -/
lemma agrees_script {script : List Request} (hQ : Request.AllWithin Q script) :
    Agrees S (script.forM fun r => do let _ ← s.perform r : Action Unit)
      (script.forM fun r => do let _ ← t.perform r : Action Unit) :=
  agrees_forM fun _ hr => agrees_bind (agrees_perform hS hst (hQ.mem hr)) fun _ => agrees_pure ()

end Surroundings

/-! ## The session itself -/

/-- Where scripts go side by side, all that is done does. -/
lemma agree_of_react {react : React}
    (hreact : ∀ script, Request.AllWithin Q script → Agrees S (react script) (react script)) :
    (Surroundings.plain react).Agree Q Active S (.plain react) where
  react := hreact
  heed _ _ _ := agrees_pure ()
  rounds {w v} h := by
    have harmed : ∀ u : World,
        u.armed = (u.controllers.map (·.debouncer.alarm)).countP Option.isSome := fun u => by
      rw [List.countP_map]
      rfl
    change v.armed + v.weight = w.armed + w.weight
    rw [harmed v, harmed w, hS.alarms h]
    obtain ⟨ks, rfl⟩ := hS.rest h
    rfl
  skip := Or.inl fun _ _ => agrees_pure ()

/-- Scripts go side by side, however deep the listeners call each other. -/
lemma agrees_runScript (depth : Nat) (script : List Request)
    (hscript : Request.AllWithin Q script) :
    Agrees S (runScript depth script) (runScript depth script) := by
  induction depth generalizing script with
  | zero => exact agrees_pure ()
  | succ depth ih =>
    have hall := agrees_script hS (agree_of_react hS ih) hscript
    simp only [Surroundings.perform_plain] at hall
    exact hall

/-- However deep the listeners call each other, a session goes on alongside another one. -/
lemma agree_plain (depth : Nat) : (Surroundings.plain (runScript depth)).Agree Q Active S
    (.plain (runScript depth)) :=
  agree_of_react hS (agrees_runScript hS depth)

/-- What is asked of both sessions is answered alike. -/
lemma lockstep_answer {w v : World} (h : S w v) {r : Request} (hQ : r.Within Q) :
    (answer r w).1 = (answer r v).1 ∧ S (answer r w).2 (answer r v).2 := by
  have hperform := agrees_perform hS (agree_plain hS (w.weight + r.weight)) hQ
  rw [Surroundings.perform_plain] at hperform
  have hrun := hperform _ _ (hS.move h .forget)
  obtain ⟨ks, rfl⟩ := hS.rest h
  exact hrun

/-- **Whatever is asked of both sessions, they go on side by side.** -/
theorem lockstep_after {w v : World} (h : S w v) {rs : List Request} (hQ : ∀ r ∈ rs, r.Within Q) :
    S (w.after rs) (v.after rs) := by
  induction rs generalizing w v with
  | nil => exact h
  | cons r rs ih =>
    exact ih (lockstep_answer hS h (hQ r List.mem_cons_self)).2 fun r' hr' =>
      hQ r' (List.mem_cons_of_mem r hr')

end Lockstep

end DiagramSync
