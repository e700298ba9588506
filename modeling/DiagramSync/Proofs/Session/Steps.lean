import DiagramSync.Proofs.Diagram.Accepted
import DiagramSync.Proofs.Session.Requested
import DiagramSync.Proofs.Store.OwnIds

/-!
# What a session does, step by step

Whatever is asked of a session, by its user, by a listener or by an alarm, it goes on by small
steps: something is noted, a controller is changed, a listener is called, and so on, and now and
then the store is edited.  A property that every step keeps is kept by every request and every run.

Listeners bring scripts, and what can happen depends on what these ask for.  So the steps are those
of a session in which only certain requests are asked for.

* `Request.Within` — a request, and all that its script brings, are of a certain kind
* `World.Shift` — the steps that leave the store alone
* `IsKeptByShifts`, `IsKeptBySteps` — the properties that those steps keep, and edits as well
* `keeps_perform_quiet` — most requests leave the store alone
* `keeps_commit`, `keeps_readEdit`, `keeps_perform` — whatever is done is done in steps
* **`keeps_after`** — what every step keeps, every run keeps
-/

namespace DiagramSync

/-! ## Requests of a kind -/

mutual

/-- The request, and all that its script brings, are of that kind. -/
def Request.Within (Q : Request → Prop) : Request → Prop
  | .subscribe tag script fails => Q (.subscribe tag script fails) ∧ Request.AllWithin Q script
  | .watchText tag c script fails => Q (.watchText tag c script fails) ∧ Request.AllWithin Q script
  | r => Q r

/-- The requests of the script, and all that they bring, are of that kind. -/
def Request.AllWithin (Q : Request → Prop) : List Request → Prop
  | [] => True
  | r :: rs => r.Within Q ∧ Request.AllWithin Q rs

end

/-- Any request. -/
def Request.any : Request → Prop :=
  fun _ => True

section Within

variable {Q : Request → Prop}

lemma Request.Within.kind {r : Request} (h : r.Within Q) : Q r := by
  cases r with
  | subscribe tag script fails => exact h.1
  | watchText tag c script fails => exact h.1
  | _ => exact h

lemma Request.AllWithin.mem {script : List Request} (h : Request.AllWithin Q script) {r : Request}
    (hr : r ∈ script) : r.Within Q := by
  induction script with
  | nil => exact absurd hr List.not_mem_nil
  | cons r' script ih =>
    rcases List.mem_cons.mp hr with rfl | hr
    · exact h.1
    · exact ih h.2 hr

lemma Request.allWithin_of_forall {script : List Request} (h : ∀ r ∈ script, r.Within Q) :
    Request.AllWithin Q script := by
  induction script with
  | nil => trivial
  | cons r script ih =>
    exact ⟨h r List.mem_cons_self, ih fun r' hr' => h r' (List.mem_cons_of_mem r hr')⟩

lemma Request.AllWithin.beforePause {script : List Request} (h : Request.AllWithin Q script) :
    Request.AllWithin Q (Request.beforePause script) :=
  allWithin_of_forall fun _ hr => h.mem (List.takeWhile_subset _ hr)

lemma Request.AllWithin.afterPause {script : List Request} (h : Request.AllWithin Q script) :
    Request.AllWithin Q (Request.afterPause script) :=
  allWithin_of_forall fun _ hr =>
    h.mem ((List.dropWhile_suffix _).subset (List.mem_of_mem_tail hr))

mutual

/-- There is no request that is of no kind. -/
lemma Request.within_any : ∀ r : Request, r.Within Request.any
  | .subscribe _ script _ => ⟨trivial, Request.allWithin_any script⟩
  | .watchText _ _ script _ => ⟨trivial, Request.allWithin_any script⟩
  | .change .. | .addPointing .. | .replaceAll .. | .getEntity _ | .findEntity _ | .diagram
  | .count | .unsubscribe _ | .openController .. | .typeText .. | .flush _ | .applyEdit ..
  | .close _ | .advance _ | .pause => trivial

lemma Request.allWithin_any : ∀ script : List Request, Request.AllWithin Request.any script
  | [] => trivial
  | r :: rs => ⟨Request.within_any r, Request.allWithin_any rs⟩

end

end Within

/-! ## Steps -/

/-- The controller has not read more edits than there were. -/
def Controller.IsCounted (k : Controller) : Prop :=
  k.parsedGeneration ≤ k.editGeneration

/-- Only requests of that kind are still to come from listeners. -/
def World.AsksWithin (Q : Request → Prop) (w : World) : Prop :=
  ∀ l ∈ w.listeners, Request.AllWithin Q l.script

/-- A listener comes that asks for requests of that kind. -/
lemma World.AsksWithin.concat {Q : Request → Prop} {w : World} (h : w.AsksWithin Q) {l : Listener}
    (hl : Request.AllWithin Q l.script) :
    ∀ l' ∈ w.listeners ++ [l], Request.AllWithin Q l'.script := by
  intro l' hl'
  rcases List.mem_append.mp hl' with hl' | hl'
  · exact h l' hl'
  · rw [List.mem_singleton.mp hl']
    exact hl

/-- A listener is called, and what it asks for then is behind it. -/
lemma World.AsksWithin.called {Q : Request → Prop} {w : World} (h : w.AsksWithin Q) (number : Nat) :
    ∀ l ∈ w.listeners.modify number Listener.called, Request.AllWithin Q l.script := by
  intro l hl
  obtain ⟨m, hm⟩ := List.mem_iff_getElem?.mp hl
  rw [List.getElem?_modify] at hm
  obtain ⟨l', hget, rfl⟩ := Option.map_eq_some_iff.mp hm
  have hl' := h l' (List.mem_of_getElem? hget)
  split_ifs
  · exact hl'.afterPause
  · exact hl'

/-- What can happen to a session without an edit of the store, if only requests of that kind are
asked for. -/
inductive World.Shift (Q : Request → Prop) (w : World) : World → Prop
  /-- Something is noted. -/
  | note (e : Event) : Shift Q w { w with events := w.events ++ [e] }
  /-- What was noted is forgotten. -/
  | forget : Shift Q w { w with events := [] }
  /-- Ids are drawn. -/
  | draw {supply : Supply} (later : w.supply.IsFresh → w.supply.Extends supply) :
      Shift Q w { w with supply }
  /-- Time goes by. -/
  | tick (clock : Clock) : Shift Q w { w with clock }
  /-- Something happens to a controller. -/
  | control (c : Nat) {g : Controller → Controller} (resolver : ∀ k, (g k).resolver = k.resolver)
      (counted : ∀ k, k.IsCounted → (g k).IsCounted) : Shift Q w (w.modifyController c g)
  /-- A controller is opened. -/
  | opens {delay : Option Int} {resolver : Option Resolver} {notifies : Bool}
      (asked : Q (.openController delay resolver notifies)) (debouncer : Debouncer) :
      Shift Q w { w with
        controllers := w.controllers ++ [{
          text := generate w.store.entities, resolver := resolver.getD .byLabel, debouncer
          notifies }]
        subscribers := w.subscribers ++ [.controller w.controllers.length] }
  /-- Somebody is no longer told of changes. -/
  | leave (s : Subscriber) :
      Shift Q w { w with subscribers := w.subscribers.filter (· ≠ s) }
  /-- A listener comes. -/
  | enlist {l : Listener} (asks : Request.AllWithin Q l.script) :
      Shift Q w { w with listeners := w.listeners ++ [l] }
  /-- A listener comes who is told of changes. -/
  | subscribe {l : Listener} (asks : Request.AllWithin Q l.script) :
      Shift Q w { w with
        listeners := w.listeners ++ [l]
        subscribers := w.subscribers ++ [.listener w.listeners.length] }
  /-- A listener is called. -/
  | call (number : Nat) :
      Shift Q w { w with listeners := w.listeners.modify number Listener.called }

/-- A property that all steps keep which leave the store alone, if only requests of that kind are
asked for. -/
structure IsKeptByShifts (Q : Request → Prop) (P : World → Prop) : Prop where
  /-- Listeners ask for requests of that kind. -/
  asks : ∀ {w : World}, P w → w.AsksWithin Q
  /-- A step keeps the property. -/
  shift : ∀ {w w' : World}, P w → w.Shift Q w' → P w'

/-- A property that all steps keep, if only requests of that kind are asked for. -/
structure IsKeptBySteps (Q : Request → Prop) (P : World → Prop) : Prop extends
    IsKeptByShifts Q P where
  /-- An edit keeps the property. -/
  edit : ∀ {w : World} {expected : Option Int} {edit : Edit} {store : Store} {edited : Edited}
    {supply : Supply}, P w →
    w.store.apply w.unlinked expected edit w.supply = .ok ((store, edited), supply) →
    P { w with store, supply, commits := ⟨edit, store.entities⟩ :: w.commits }

/-- Listeners ask for requests of a kind only, if all requests that come in are of it. -/
lemma isKeptBySteps_asksWithin (Q : Request → Prop) : IsKeptBySteps Q (World.AsksWithin Q) where
  asks h := h
  edit h _ := h
  shift h hstep := by
    cases hstep with
    | enlist asks => exact h.concat asks
    | subscribe asks => exact h.concat asks
    | call number => exact h.called number
    | _ => exact h

/-! ## Requests that leave the store alone -/

section Quiet

variable {Q : Request → Prop} {P : World → Prop} (hP : IsKeptByShifts Q P)
include hP

lemma keeps_note (e : Event) : (Action.note e).Keeps P :=
  keeps_modify fun _ h => hP.shift h (.note e)

lemma keeps_modifyController (c : Nat) {g : Controller → Controller}
    (hresolver : ∀ k, (g k).resolver = k.resolver) (hg : ∀ k, k.IsCounted → (g k).IsCounted) :
    (Action.modifyController c g).Keeps P :=
  keeps_modify fun _ h => hP.shift h (.control c hresolver hg)

lemma keeps_editing {α : Type} {x : Editing α} (hx : ∀ {s a s'}, x s = .ok (a, s') → s.Extends s') :
    (Action.editing x).Keeps P := by
  intro w hw
  rw [exec_editing]
  cases hrun : x w.supply with
  | error f => exact hw
  | ok p => exact hP.shift hw (.draw fun _ => hx hrun)

lemma keeps_reject (c : Nat) (error : ParseError) : (reject c error).Keeps P := by
  refine keeps_bind (keeps_modifyController hP c (fun _ => rfl) fun _ => id) fun _ => ?_
  refine keeps_bind keeps_get fun w => ?_
  split
  · split_ifs
    · exact keeps_note hP _
    · exact keeps_pure ()
  · exact keeps_pure ()

lemma keeps_openController {delay : Option Int} {resolver : Option Resolver} {notifies : Bool}
    (hQ : Q (.openController delay resolver notifies)) :
    (openController delay resolver notifies).Keeps P := by
  refine keeps_get_bind fun w hw => ?_
  rw [exec_bind]
  cases Debouncer.ofDelay (delay.getD w.delay) with
  | error f => exact hw
  | ok d => exact hP.shift hw (.opens hQ d)

lemma keeps_typeText (c : Nat) (text : Option String) (replacement : Option (String × String))
    (addition : Option String) (inLoop : Bool) :
    (typeText c text replacement addition inLoop).Keeps P := by
  refine keeps_bind keeps_get fun w => ?_
  cases w.controllers[c]? with
  | none => exact keeps_pure ()
  | some k =>
    refine keeps_bind (keeps_modifyController hP c (fun _ => rfl) fun _ hk =>
      Nat.le_succ_of_le hk) fun _ => ?_
    refine keeps_bind keeps_ofExcept fun p => ?_
    refine keeps_bind (keeps_modify fun _ h => hP.shift h (.tick _)) fun _ => ?_
    exact keeps_modifyController hP c (fun _ => rfl) fun _ => id

lemma keeps_register {l : Listener} (hl : Request.AllWithin Q l.script) : (register l).Keeps P := by
  refine keeps_modify fun w hw => ?_
  cases l.station with
  | store => exact hP.shift hw (.subscribe hl)
  | controller c =>
    exact hP.shift (hP.shift hw (.enlist hl)) (.control c (fun _ => rfl) fun _ => id)

lemma keeps_unregister (tag : String) : (unregister tag).Keeps P := by
  refine keeps_modify fun w hw => ?_
  split
  · exact hw
  · exact hP.shift hw (.leave _)
  · exact hP.shift hw (.control _ (fun _ => rfl) fun _ => id)

/-- The request neither asks for an edit nor makes a controller read its text. -/
def Request.isQuiet : Request → Bool
  | .change .. | .addPointing .. | .replaceAll .. | .flush _ | .applyEdit .. | .advance _ => false
  | _ => true

/-- Such a request keeps whatever those steps keep that leave the store alone. -/
lemma keeps_perform_quiet (react : React) {r : Request} (hr : r.isQuiet = true) (hQ : r.Within Q) :
    (perform react r).Keeps P := by
  cases r with
  | getEntity entity =>
    refine keeps_bind keeps_get fun w =>
      keeps_bind (keeps_editing hP fun h => ?_) fun _ => keeps_pure _
    obtain ⟨-, rfl⟩ := demandEntity_eq_ok.mp h
    exact Supply.Extends.refl _
  | findEntity name =>
    rw [perform]
    split
    · exact keeps_throw _
    · exact keeps_bind keeps_get fun _ => keeps_pure _
  | diagram => exact keeps_bind keeps_get fun _ => keeps_pure _
  | count => exact keeps_bind keeps_get fun _ => keeps_pure _
  | subscribe tag script fails => exact keeps_bind (keeps_register hP hQ.2) fun _ => keeps_pure _
  | watchText tag c script fails => exact keeps_bind (keeps_register hP hQ.2) fun _ => keeps_pure _
  | unsubscribe tag => exact keeps_bind (keeps_unregister hP tag) fun _ => keeps_pure _
  | openController delay resolver notifies =>
    exact keeps_bind (keeps_openController hP hQ) fun _ => keeps_pure _
  | typeText c text replacement addition inLoop =>
    exact keeps_bind (keeps_typeText hP c text replacement addition inLoop) fun _ => keeps_pure _
  | close c =>
    have hstop := keeps_modifyController hP c (g := fun k => { k with
      debouncer := k.debouncer.cancel }) (fun _ => rfl) fun _ => id
    refine keeps_bind (keeps_bind hstop fun _ => ?_) fun _ => keeps_pure _
    exact keeps_modify fun _ h => hP.shift h (.leave _)
  | pause => exact keeps_pure _
  | _ => exact absurd hr Bool.false_ne_true

end Quiet

/-! ## Requests that edit the store -/

section Keeps

variable {Q : Request → Prop} {P : World → Prop} (hP : IsKeptBySteps Q P)
include hP

/-! ### Telling -/

variable {react : React} (hreact : ∀ script, Request.AllWithin Q script → (react script).Keeps P)
include hreact

lemma keeps_callListener (number : Nat) (event : String → Event) :
    (callListener react number event).Keeps P := by
  refine keeps_get_bind fun w hw => ?_
  cases hl : w.listeners[number]? with
  | none => exact hw
  | some l =>
    have hasks := hP.asks hw l (List.mem_of_getElem? hl)
    refine keeps_bind (keeps_note hP.toIsKeptByShifts (event l.tag)) (fun _ => ?_) w hw
    split_ifs
    · exact keeps_throw _
    · exact keeps_bind (keeps_modify fun _ h => hP.shift h (.call number)) fun _ =>
        hreact _ hasks.beforePause

lemma keeps_follow (c : Nat) (change : Change) : (follow react c change).Keeps P := by
  rw [follow]
  split_ifs
  · exact keeps_pure ()
  · refine keeps_bind keeps_get fun w => ?_
    refine keeps_bind (keeps_modifyController hP.toIsKeptByShifts c (fun k => ?_) fun k hk => ?_)
      fun _ => ?_
    · dsimp only
      split_ifs <;> rfl
    · dsimp only
      split_ifs
      · exact Nat.le_refl k.editGeneration
      · exact hk
    refine keeps_bind keeps_get fun w' => ?_
    refine keeps_forM fun number _ => ?_
    refine keeps_bind (keeps_bind keeps_get fun _ => keeps_pure _) fun text => ?_
    exact keeps_callListener hP hreact number _

lemma keeps_tell (change : Change) (s : Subscriber) : (tell react change s).Keeps P := by
  cases s with
  | controller c =>
    rw [tell]
    exact keeps_follow hP hreact c change
  | listener number =>
    rw [tell]
    exact keeps_callListener hP hreact number _

lemma keeps_tellAll (change : Change) (subscribers : List Subscriber) :
    (subscribers.forM (tell react change)).Keeps P :=
  keeps_forM fun s _ => keeps_tell hP hreact change s

omit hreact in
lemma keeps_make (expected : Option Int) (edit : Edit) : (make expected edit).Keeps P := by
  intro w hw
  cases hrun : w.store.apply w.unlinked expected edit w.supply with
  | error f =>
    rw [exec_make_refused hrun]
    exact hw
  | ok p =>
    obtain ⟨⟨store, edited⟩, supply⟩ := p
    rw [exec_make_taken hrun]
    exact hP.edit hw hrun

lemma keeps_commit (source : ChangeSource) (expected : Option Int) (edit : Edit) :
    (commit react source expected edit).Keeps P :=
  keeps_bind (keeps_make hP expected edit) fun _ => keeps_bind keeps_get fun w =>
    keeps_bind (keeps_tellAll hP hreact _ w.subscribers) fun _ => keeps_pure _

omit hreact in
lemma keeps_commitUntold (other : Value) (expected : Option Int) (edit : Edit) :
    (commitUntold other expected edit).Keeps P :=
  keeps_bind (keeps_make hP expected edit) fun _ => keeps_throw _

lemma keeps_requestedEdit (ownSource : ChangeSource) (terms : Terms) {edit : Action Edit}
    (hedit : edit.Keeps P) : (requestedEdit react ownSource terms edit).Keeps P := by
  intro w hw
  have hread := hedit w hw
  have hrequested := requested_requestedEdit react ownSource terms edit w
  generalize (requestedEdit react ownSource terms edit).exec w = p at hrequested
  cases hrequested with
  | unknown unknown => exact hw
  | unread => exact hread
  | @tried source e expected w' known read depends =>
    rw [read] at hread
    obtain ⟨handBack, hcommit⟩ := exec_commitAndHandBack react source expected e w'
    rw [hcommit]
    exact keeps_commit hP hreact source expected e w' hread
  | @untold other e expected w' loose read depends =>
    rw [read] at hread
    exact keeps_commitUntold hP other expected e w' hread

/-! ### Controllers -/

lemma keeps_applyEntities (c : Nat) (parsed : List Entity) :
    (applyEntities react c parsed).Keeps P := by
  have hclear : (clearError c).Keeps P :=
    keeps_modifyController hP.toIsKeptByShifts c (fun _ => rfl) fun _ => id
  refine keeps_bind keeps_get fun w => ?_
  dsimp only
  split_ifs
  · exact hclear
  · refine keeps_tryCatch (keeps_bind (keeps_commit hP hreact _ _ _) fun _ => hclear) fun f => ?_
    split_ifs
    · exact keeps_reject hP.toIsKeptByShifts c _
    · exact keeps_throw f

lemma keeps_readEdit (c : Nat) (generation : Int) : (readEdit react c generation).Keeps P := by
  refine keeps_get_bind fun w hw => ?_
  cases hk : w.controllers[c]? with
  | none => exact hw
  | some k =>
    dsimp only
    split_ifs with hdue
    · exact hw
    · have hlatest : generation.toNat = k.editGeneration := by omega
      cases hparse : parse k.resolver w.unlinked w.supply k.text with
      | mk outcome supply =>
        -- the edit that is read is the latest one, so the count is right afterwards
        have hread : ({ w with supply } : World).modifyController c (fun k' => { k' with
              lastResult := some outcome, parsedGeneration := generation.toNat })
            = ({ w with supply } : World).modifyController c fun k' => { k' with
              lastResult := some outcome, parsedGeneration := k'.editGeneration } := by
          refine modifyController_congr (w := { w with supply }) hk ?_
          rw [hlatest]
        have hdrawn : P { w with supply } := hP.shift hw (.draw fun h => extends_parse h hparse)
        have hcounted : P (({ w with supply } : World).modifyController c fun k' => { k' with
            lastResult := some outcome, parsedGeneration := k'.editGeneration }) :=
          hP.shift hdrawn (.control c (fun _ => rfl) fun k' _ => Nat.le_refl k'.editGeneration)
        rw [exec_bind_ok (exec_set _ w), exec_bind_ok (exec_modifyController c _ _), hread]
        cases outcome with
        | rejected error _ => exact keeps_reject hP.toIsKeptByShifts c error _ hcounted
        | accepted entities _ _ => exact keeps_applyEntities hP hreact c entities _ hcounted

lemma keeps_wake (c : Nat) : (wake react c).Keeps P := by
  refine keeps_bind (keeps_modifyController hP.toIsKeptByShifts c (fun _ => rfl) fun _ => id)
    fun _ => ?_
  refine keeps_bind keeps_get fun w => ?_
  cases w.controllers[c]? with
  | none => exact keeps_pure ()
  | some k => exact keeps_readEdit hP hreact c _

lemma keeps_ring (time rounds : Nat) : (ring react time rounds).Keeps P := by
  induction rounds with
  | zero => exact keeps_pure ()
  | succ rounds ih =>
    refine keeps_bind keeps_get fun w => ?_
    cases w.firstDue? time with
    | none => exact keeps_pure ()
    | some p =>
      refine keeps_bind (keeps_modify fun _ h => hP.shift h (.tick _)) fun _ => ?_
      exact keeps_bind (keeps_wake hP hreact p.1) fun _ => ih

/-! ### Requests -/

omit hreact in
/-- Reading what a request asks for draws ids at most. -/
lemma keeps_asking {r : Request} {q : Asking} (hasking : r.asking? = some q) : q.edit.Keeps P := by
  have hreader : ∀ {α : Type} {x : Reader α},
      (∀ {s a s'}, x s = .ok (a, s') → s.Extends s') →
        (Action.editing (Editing.ofReader x)).Keeps P :=
    fun hx => keeps_editing hP.toIsKeptByShifts fun h => hx (ofReader_eq_ok.mp h)
  cases r <;> simp only [Request.asking?, Option.some.injEq, reduceCtorEq] at hasking <;>
    subst hasking
  case change edit terms => exact keeps_pure edit
  case addPointing entity attributes reference terms =>
    refine keeps_bind ?_ fun _ => keeps_pure _
    unfold readReference
    split
    · exact keeps_pure none
    · refine keeps_map (hreader fun h => ?_)
      obtain ⟨-, rfl⟩ := ofChecked_eq_ok.mp h
      exact Supply.Extends.refl _
  case replaceAll values terms =>
    exact keeps_bind (hreader extends_readAll) fun _ => keeps_pure _

/-- Every request keeps what every step keeps, if the scripts of listeners do. -/
theorem keeps_perform {r : Request} (hQ : r.Within Q) : (perform react r).Keeps P := by
  cases hasking : r.asking? with
  | some q =>
    rw [perform_asking react hasking]
    exact keeps_map (keeps_requestedEdit hP hreact _ _ (keeps_asking hP hasking))
  | none =>
    cases r with
    | flush c =>
      refine keeps_bind (keeps_bind keeps_get fun w => ?_) fun _ => keeps_pure _
      cases w.controllers[c]? with
      | none => exact keeps_pure none
      | some k =>
        dsimp only
        split_ifs
        · exact keeps_bind (keeps_wake hP hreact c) fun _ =>
            keeps_bind keeps_get fun _ => keeps_pure _
        · exact keeps_pure none
    | applyEdit c generation =>
      exact keeps_bind (keeps_readEdit hP hreact c generation) fun _ => keeps_pure _
    | advance ms =>
      refine keeps_bind (keeps_bind keeps_get fun w => ?_) fun _ => keeps_pure _
      exact keeps_bind (keeps_ring hP hreact _ _) fun _ =>
        keeps_modify fun _ h => hP.shift h (.tick _)
    | change edit terms => cases hasking
    | addPointing entity attributes reference terms => cases hasking
    | replaceAll entities terms => cases hasking
    | _ => exact keeps_perform_quiet hP.toIsKeptByShifts react rfl hQ

omit hreact in
/-- The scripts of listeners keep what every step keeps, however deep they call each other. -/
lemma keeps_runScript (depth : Nat) (script : List Request) (hQ : Request.AllWithin Q script) :
    (runScript depth script).Keeps P := by
  induction depth generalizing script with
  | zero => exact keeps_pure ()
  | succ depth ih =>
    rw [runScript]
    exact keeps_forM fun r hr => keeps_bind (keeps_perform hP ih (hQ.mem hr)) fun _ => keeps_pure ()

omit hreact in
lemma keeps_answer {w : World} (hw : P w) {r : Request} (hQ : r.Within Q) : P (answer r w).2 :=
  keeps_perform hP (keeps_runScript hP _) hQ _ (hP.shift hw .forget)

omit hreact in
/-- **What every step keeps, every run of a session keeps.** -/
theorem keeps_after {w : World} (hw : P w) {rs : List Request} (hQ : ∀ r ∈ rs, r.Within Q) :
    P (w.after rs) := by
  induction rs generalizing w with
  | nil => exact hw
  | cons r rs ih =>
    exact ih (keeps_answer hP hw (hQ r List.mem_cons_self)) fun r' hr' =>
      hQ r' (List.mem_cons_of_mem r hr')

end Keeps

end DiagramSync
