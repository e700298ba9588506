import DiagramSync.Proofs.Session.Action

/-!
# Telling passive listeners

A passive listener neither fails nor asks for anything.  Where all listeners are passive, telling
them never fails, and all that comes of it is that events are noted and that controllers write their
texts anew.

* `Listener.IsPassive` — a listener that only looks
* `Controller.hear` — a controller after it has learned of a change
* `heardBy` — the controllers once some subscribers have learned of a change
* `exec_commit_taken`, `exec_commit_refused` — an edit that the store takes, or refuses
* `World.told` — what is noted when a subscriber is told
* `exec_callListener`, `exec_follow_elsewhere`, `exec_follow` — telling one of them
* **`exec_tellAll`** — telling everybody who is subscribed
* `exec_commit`, `exec_commit_one` — what an edit does, and where there is one controller only
* `exec_reject` — a controller rejects an edit
-/

namespace DiagramSync

/-- The listener neither fails nor asks for anything. -/
structure Listener.IsPassive (l : Listener) : Prop where
  /-- There is nothing that it asks for. -/
  script : l.script = []
  /-- It does not fail. -/
  succeeds : l.fails = false

/-- Being called makes no difference to such a listener. -/
lemma Listener.IsPassive.called {l : Listener} (hl : l.IsPassive) : l.called = l := by
  have hscript : Request.afterPause l.script = l.script := by
    rw [hl.script]
    rfl
  exact congrArg (fun script => { l with script }) hscript

/-- The controller with the text of those entities in place of any edit that is pending. -/
def Controller.rewrite (es : List Entity) (k : Controller) : Controller :=
  let settled :=
    if k.debouncer.pending then
      { k with debouncer := k.debouncer.cancel, parsedGeneration := k.editGeneration }
    else k
  { settled with text := generate es }

/-- The controller after it has learned of a change that led to those entities. -/
def Controller.hear (source : ChangeSource) (es : List Entity) (k : Controller) : Controller :=
  if source = .text then k else k.rewrite es

lemma rewrite_of_pending {k : Controller} (h : k.debouncer.pending = true) (es : List Entity) :
    k.rewrite es = { k with
      debouncer := k.debouncer.cancel, parsedGeneration := k.editGeneration, text := generate es } := by
  rw [Controller.rewrite, if_pos h]

lemma rewrite_of_idle {k : Controller} (h : k.debouncer.pending = false) (es : List Entity) :
    k.rewrite es = { k with text := generate es } := by
  rw [Controller.rewrite, h, if_neg Bool.false_ne_true]

lemma text_rewrite (es : List Entity) (k : Controller) : (k.rewrite es).text = generate es := rfl

lemma pending_rewrite (es : List Entity) (k : Controller) :
    (k.rewrite es).debouncer.pending = false := by
  cases h : k.debouncer.pending with
  | true =>
    rw [rewrite_of_pending h]
    rfl
  | false =>
    rw [rewrite_of_idle h]
    exact h

lemma lastResult_rewrite (es : List Entity) (k : Controller) :
    (k.rewrite es).lastResult = k.lastResult := by
  rw [Controller.rewrite]
  split_ifs <;> rfl

lemma editGeneration_rewrite (es : List Entity) (k : Controller) :
    (k.rewrite es).editGeneration = k.editGeneration := by
  rw [Controller.rewrite]
  split_ifs <;> rfl

lemma textListeners_rewrite (es : List Entity) (k : Controller) :
    (k.rewrite es).textListeners = k.textListeners := by
  rw [Controller.rewrite]
  split_ifs <;> rfl

lemma rewrite_rewrite (es : List Entity) (k : Controller) :
    (k.rewrite es).rewrite es = k.rewrite es := by
  rw [rewrite_of_idle (pending_rewrite es k), ← text_rewrite es k]

/-- Learning of a change once more changes nothing. -/
lemma hear_hear (source : ChangeSource) (es : List Entity) (k : Controller) :
    (k.hear source es).hear source es = k.hear source es := by
  rw [Controller.hear, Controller.hear]
  split_ifs
  · rfl
  · exact rewrite_rewrite es k

lemma textListeners_hear (source : ChangeSource) (es : List Entity) (k : Controller) :
    (k.hear source es).textListeners = k.textListeners := by
  rw [Controller.hear]
  split_ifs
  · rfl
  · exact textListeners_rewrite es k

/-- The controllers once those among the subscribers have learned of a change that led to those
entities. -/
def heardBy (source : ChangeSource) (es : List Entity) (subscribers : List Subscriber)
    (ks : List Controller) : List Controller :=
  ks.mapIdx fun c k => if Subscriber.controller c ∈ subscribers then k.hear source es else k

section HeardBy

variable {source : ChangeSource} {es : List Entity} {subscribers : List Subscriber}
  {ks : List Controller}

lemma getElem?_heardBy (c : Nat) : (heardBy source es subscribers ks)[c]?
    = ks[c]?.map fun k => if Subscriber.controller c ∈ subscribers then k.hear source es else k :=
  List.getElem?_mapIdx

lemma heardBy_nil : heardBy source es [] ks = ks := by
  refine List.ext_getElem? fun c => ?_
  rw [getElem?_heardBy]
  simp only [List.not_mem_nil, if_false, Option.map_id_fun', id]

/-- Of a change that came from a text no controller wants to hear. -/
lemma heardBy_text : heardBy .text es subscribers ks = ks := by
  refine List.ext_getElem? fun c => ?_
  simp only [getElem?_heardBy, Controller.hear, if_true, ite_self, Option.map_id_fun', id]

/-- A controller learns of a change before the other subscribers do. -/
lemma heardBy_modify (c : Nat) :
    heardBy source es subscribers (ks.modify c (Controller.hear source es))
      = heardBy source es (.controller c :: subscribers) ks := by
  refine List.ext_getElem? fun d => ?_
  rw [getElem?_heardBy, getElem?_heardBy, List.getElem?_modify]
  by_cases hd : c = d
  · subst hd
    cases ks[c]? <;> simp [hear_hear]
  · cases ks[d]? <;> simp [hd, Ne.symm hd]

lemma heardBy_listener (number : Nat) :
    heardBy source es (.listener number :: subscribers) ks = heardBy source es subscribers ks := by
  refine List.ext_getElem? fun c => ?_
  simp only [getElem?_heardBy, List.mem_cons, reduceCtorEq, false_or]

lemma heardBy_one {k : Controller} (h : Subscriber.controller 0 ∈ subscribers) :
    heardBy source es subscribers [k] = [k.hear source es] := by
  simp [heardBy, h]

end HeardBy

/-- Where there is one controller, it is the one with the number zero that is replaced. -/
lemma modifyController_one {w : World} {k : Controller} (h : w.controllers = [k]) (c : Nat)
    (g : Controller → Controller) :
    w.modifyController c g = { w with controllers := [if c = 0 then g k else k] } := by
  rw [World.modifyController, h]
  cases c with
  | zero => rfl
  | succ c => simp

lemma exec_textOf (c : Nat) (w : World) :
    (textOf c).exec w = (.ok ((w.controllers[c]?.map (·.text)).getD ""), w) := rfl

/-- What is noted when a subscriber is told of a change, in a session whose listeners are passive: a
listener is called with the change, and the listeners of a controller are called with its new
text. -/
def World.told (change : Change) (w : World) : Subscriber → List Event
  | .listener number => (w.listeners[number]?.map fun l => Event.change l.tag change).toList
  | .controller c =>
    if change.source = .text then
      []
    else
      ((w.controllers[c]?.map (·.textListeners)).getD []).filterMap fun number =>
        w.listeners[number]?.map fun l => .text l.tag (generate w.store.entities)

/-- What is noted does not depend on what was noted before, or on who has heard already. -/
lemma told_hear (change : Change) (w : World) (events : List Event) (c : Nat) :
    ({ w with
        controllers := w.controllers.modify c (Controller.hear change.source w.store.entities)
        events } : World).told change = w.told change := by
  funext s
  cases s with
  | listener number => rfl
  | controller d =>
    have hlisteners : ((w.controllers.modify c
        (Controller.hear change.source w.store.entities))[d]?.map (·.textListeners))
        = w.controllers[d]?.map (·.textListeners) := by
      rw [List.getElem?_modify]
      cases w.controllers[d]? with
      | none => rfl
      | some k =>
        split_ifs
        · exact congrArg some (textListeners_hear _ _ k)
        · rfl
    simp only [World.told, hlisteners]

/-! ## Edits that are taken or refused -/

/-- Of an edit that the store takes everybody is told who was subscribed. -/
lemma exec_commit_taken (react : React) {w : World} (source : ChangeSource) {expected : Option Int}
    {edit : Edit} {store : Store} {edited : Edited} {supply : Supply}
    (h : w.store.apply w.unlinked expected edit w.supply = .ok ((store, edited), supply)) :
    (commit react source expected edit).exec w =
      ((w.subscribers.forM (tell react
        { version := store.version, source, operation := edit.operation })) >>= fun _ =>
          (pure edited : Action Edited)).exec (w.taking edit store supply) := by
  rw [commit, exec_bind_ok (exec_make_taken h)]
  exact exec_bind_ok (exec_get _) _

/-- An edit that is refused changes nothing. -/
lemma exec_commit_refused {react : React} {w : World} {source : ChangeSource}
    {expected : Option Int} {edit : Edit} {f : Fault}
    (h : w.store.apply w.unlinked expected edit w.supply = .error f) :
    (commit react source expected edit).exec w = (.error f, w) := by
  rw [commit, exec_bind_error (exec_make_refused h)]

/-! ## Telling -/

/-- A controller that is told of a change from elsewhere writes its text anew, and then calls its
listeners. -/
lemma exec_follow_elsewhere (react : React) (c : Nat) {change : Change}
    (helsewhere : change.source ≠ .text) (w : World) :
    (follow react c change).exec w =
      let heard := w.modifyController c (Controller.rewrite w.store.entities)
      (((heard.controllers[c]?.map (·.textListeners)).getD []).forM fun number => do
        let text ← textOf c
        callListener react number fun tag => .text tag text : Action Unit).exec heard := by
  have hmodify := exec_modifyController c (Controller.rewrite w.store.entities) w
  rw [follow, if_neg helsewhere, exec_bind_ok (exec_get w)]
  exact (exec_bind_ok hmodify _).trans (exec_bind_ok (exec_get _) _)

section Telling

variable {react : React} (hreact : ∀ w, (react []).exec w = (.ok (), w))
include hreact

/-- A passive listener that is called notes what it was told. -/
lemma exec_callListener {w : World} (hw : ∀ l ∈ w.listeners, l.IsPassive) (number : Nat)
    (event : String → Event) : (callListener react number event).exec w = (.ok (), { w with
      events := w.events ++ (w.listeners[number]?.map fun l => event l.tag).toList }) := by
  rw [callListener, exec_bind_ok (exec_get w)]
  cases hnumber : w.listeners[number]? with
  | none =>
    rw [Option.map_none, Option.toList_none, List.append_nil]
    rfl
  | some l =>
    have hl := hw l (List.mem_of_getElem? hnumber)
    -- it asks for nothing, so it has nothing less to ask for afterwards
    have hsilent : w.listeners.modify number Listener.called = w.listeners := by
      refine List.ext_getElem? fun n => ?_
      rw [List.getElem?_modify]
      split_ifs with hn
      · subst hn
        rw [hnumber]
        exact congrArg some hl.called
      · exact Option.map_id'
    have hbefore : Request.beforePause l.script = [] := congrArg Request.beforePause hl.script
    dsimp only
    rw [exec_bind_ok (exec_note _ w), hl.succeeds, if_neg Bool.false_ne_true,
      exec_bind_ok (exec_modify _ _), hbefore, hreact, hsilent]
    rfl

/-- The listeners of a controller note its text one after the other. -/
lemma exec_callTextListeners {w : World} (hw : ∀ l ∈ w.listeners, l.IsPassive) (c : Nat)
    (numbers : List Nat) : (numbers.forM fun number => do
        let text ← textOf c
        callListener react number fun tag => .text tag text : Action Unit).exec w = (.ok (), { w with
      events := w.events ++ numbers.filterMap fun number =>
        w.listeners[number]?.map fun l =>
          .text l.tag ((w.controllers[c]?.map (·.text)).getD "") }) := by
  induction numbers generalizing w with
  | nil =>
    rw [List.filterMap_nil, List.append_nil]
    rfl
  | cons number numbers ih =>
    have hcall := exec_callListener hreact hw number
      fun tag => .text tag ((w.controllers[c]?.map (·.text)).getD "")
    have hone := (exec_bind_ok (exec_textOf c w) fun text =>
      callListener react number fun tag => .text tag text).trans hcall
    have hrest := ih (w := { w with events := w.events ++ (w.listeners[number]?.map fun l =>
      Event.text l.tag ((w.controllers[c]?.map (·.text)).getD "")).toList }) hw
    refine (exec_bind_ok hone _).trans (hrest.trans ?_)
    cases hnumber : w.listeners[number]? with
    | none =>
      rw [List.filterMap_cons_none (by rw [hnumber, Option.map_none]), Option.map_none,
        Option.toList_none, List.append_nil]
    | some l =>
      rw [List.filterMap_cons_some (by rw [hnumber, Option.map_some]), Option.map_some,
        Option.toList_some, List.append_assoc, List.singleton_append]

/-- A controller that is told of a change hears of it, and then its listeners do. -/
lemma exec_follow {w : World} (hw : ∀ l ∈ w.listeners, l.IsPassive) (c : Nat) (change : Change) :
    (follow react c change).exec w = (.ok (), { w with
      controllers := w.controllers.modify c (Controller.hear change.source w.store.entities)
      events := w.events ++ w.told change (.controller c) }) := by
  by_cases htext : change.source = .text
  · have hhear : Controller.hear change.source w.store.entities = id :=
      funext fun _ => if_pos htext
    rw [follow, if_pos htext, hhear, List.modify_id, World.told, if_pos htext, List.append_nil]
    rfl
  · have hhear : Controller.hear change.source w.store.entities
        = Controller.rewrite w.store.entities := funext fun _ => if_neg htext
    rw [exec_follow_elsewhere react c htext, hhear]
    set heard := w.modifyController c (Controller.rewrite w.store.entities) with hheard
    refine (exec_callTextListeners hreact (w := heard) hw c _).trans ?_
    have hget : heard.controllers[c]? = w.controllers[c]?.map (Controller.rewrite w.store.entities) :=
      List.getElem?_modify_eq ..
    rw [World.told, if_neg htext, hget]
    cases w.controllers[c]? with
    | none => rfl
    | some k =>
      simp only [Option.map_some, Option.getD_some, text_rewrite, textListeners_rewrite]
      rfl

/-- **Telling everybody does not fail: one after the other, every subscriber hears of the change.** -/
theorem exec_tellAll {w : World} (hw : ∀ l ∈ w.listeners, l.IsPassive) (change : Change)
    (subscribers : List Subscriber) :
    (subscribers.forM (tell react change)).exec w = (.ok (), { w with
      controllers := heardBy change.source w.store.entities subscribers w.controllers
      events := w.events ++ subscribers.flatMap (w.told change) }) := by
  induction subscribers generalizing w with
  | nil =>
    rw [heardBy_nil, List.flatMap_nil, List.append_nil]
    rfl
  | cons s subscribers ih =>
    rw [List.flatMap_cons, ← List.append_assoc]
    cases s with
    | controller c =>
      have hrest := ih (w := { w with
        controllers := w.controllers.modify c (Controller.hear change.source w.store.entities)
        events := w.events ++ w.told change (.controller c) }) hw
      refine (exec_bind_ok (exec_follow hreact hw c change) _).trans (hrest.trans ?_)
      rw [told_hear, heardBy_modify]
    | listener number =>
      have hcall := exec_callListener hreact hw number fun tag => .change tag change
      have hrest := ih (w := { w with events := w.events ++ w.told change (.listener number) }) hw
      refine (exec_bind_ok hcall _).trans (hrest.trans ?_)
      rw [heardBy_listener]
      rfl

/-- An edit is made, and everybody who is subscribed hears of it. -/
lemma exec_commit {w : World} (hw : ∀ l ∈ w.listeners, l.IsPassive) (source : ChangeSource)
    {expected : Option Int} {edit : Edit} {store : Store} {edited : Edited} {supply : Supply}
    (h : w.store.apply w.unlinked expected edit w.supply = .ok ((store, edited), supply)) :
    (commit react source expected edit).exec w = (.ok edited, { w with
      store, supply, commits := ⟨edit, store.entities⟩ :: w.commits
      controllers := heardBy source store.entities w.subscribers w.controllers
      events := w.events ++ w.subscribers.flatMap (({ w with store } : World).told
        { version := store.version, source, operation := edit.operation }) }) := by
  have htell := exec_tellAll hreact (w := w.taking edit store supply) hw
    { version := store.version, source, operation := edit.operation } w.subscribers
  rw [exec_commit_taken react source h]
  exact (exec_bind_ok htell _).trans (exec_pure edited _)

/-- An edit is made, and the only controller has heard of it. -/
lemma exec_commit_one {w : World} (hw : ∀ l ∈ w.listeners, l.IsPassive) {k : Controller}
    (hone : w.controllers = [k]) (hsubscribed : Subscriber.controller 0 ∈ w.subscribers)
    (source : ChangeSource) {expected : Option Int} {edit : Edit} {store : Store} {edited : Edited}
    {supply : Supply}
    (h : w.store.apply w.unlinked expected edit w.supply = .ok ((store, edited), supply)) :
    ∃ events, (commit react source expected edit).exec w = (.ok edited, { w with
      store, supply, commits := ⟨edit, store.entities⟩ :: w.commits
      controllers := [k.hear source store.entities], events }) := by
  have hcommit := exec_commit hreact hw source h
  rw [hone, heardBy_one hsubscribed] at hcommit
  exact ⟨_, hcommit⟩

end Telling

/-- A controller that rejects an edit keeps the reason; it may tell its user. -/
lemma exec_reject (c : Nat) (error : ParseError) (w : World) : ∃ events,
    (reject c error).exec w
      = (.ok (), { w.modifyController c fun k => { k with lastError := some error } with events }) := by
  set told := w.modifyController c fun k => { k with lastError := some error } with htold
  have hmodify : (Action.modifyController c fun k => { k with lastError := some error }).exec w
      = (.ok (), told) := exec_modifyController c _ w
  rw [reject, exec_bind_ok hmodify, exec_bind_ok (exec_get told)]
  split
  · split_ifs
    · exact ⟨_, exec_note _ told⟩
    · exact ⟨told.events, exec_pure () told⟩
  · exact ⟨told.events, exec_pure () told⟩

end DiagramSync
