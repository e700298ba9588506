import DiagramSync.Proofs.Session.Alongside

/-!
# Controllers that were closed

A controller that was closed is told of nothing any more, and it has no alarm set.  Put any other
such controller in its place, with another text and other listeners: nothing else of the session
goes differently.  So nothing is read of it, and none of its listeners is called.

There are exceptions.  Who is to be told of an edit is settled when the edit is made, so a controller
that is closed while others are being told is told nevertheless.  And a controller that is closed in
the midst of its own work finishes it.

* `Request.Spares` — the request does not speak to the controller itself
* `Controller.closed`, `World.put` — what is left of it, and another controller in its place
* `Beside` — two sessions that differ in a closed controller only
* `isLockstep_beside` — every move leaves it at that
* `Action.Overlooks` — an action that goes on as if the controller were another one
* `beside_closed` — closing a controller
* `Overlooked` — what may be under way when it is closed
* **`closed_stays_silent`** — what overlooks a closed controller, and what does not
-/

namespace DiagramSync

/-- The request neither types into the controller nor makes it read an edit out of turn. -/
def Request.Spares (c : Nat) : Request → Prop
  | .typeText d .. => d ≠ c
  | .applyEdit d _ => d ≠ c
  | _ => True

/-- What is left of a controller that is closed: it has no alarm set. -/
def Controller.closed (k : Controller) : Controller :=
  { k with debouncer := k.debouncer.cancel }

/-- The session with another controller in that place. -/
def World.put (c : Nat) (k : Controller) (w : World) : World :=
  { w with controllers := w.controllers.set c k }

/-- The sessions are the same but for a closed controller: in the first it is `k`, in the second `k'`,
in each with some listeners for its text.  It is told of nothing, and nobody will type into it. -/
structure Beside (c : Nat) (k k' : Controller) (w v : World) : Prop where
  /-- All but the controllers is the same. -/
  rest : ∃ ks, v = { w with controllers := ks }
  /-- The other controllers are the same. -/
  others : ∀ d, d ≠ c → v.controllers[d]? = w.controllers[d]?
  /-- The controller in the first session. -/
  left : ∃ numbers, w.controllers[c]? = some { k with textListeners := numbers }
  /-- The controller in the second session. -/
  right : ∃ numbers, v.controllers[c]? = some { k' with textListeners := numbers }
  /-- It has no alarm set. -/
  idle : k.debouncer.pending = false
  /-- Neither has the other one. -/
  idle' : k'.debouncer.pending = false
  /-- It is not told of changes. -/
  detached : Subscriber.controller c ∉ w.subscribers
  /-- Listeners do not ask for anything of it. -/
  asks : w.AsksWithin (Request.Spares c)

/-- As to a closed controller, the action goes on as if it were any other one. -/
def Action.Overlooks {α : Type} (c : Nat) (x : Action α) : Prop :=
  ∀ k k', Action.Agrees (Beside c k k') x x

/-! ## What every move keeps -/

/-- What is done to the controller concerns the listeners for its text at most. -/
def Controller.KeptBy (g : Controller → Controller) (k : Controller) : Prop :=
  ∀ numbers, ∃ numbers', g { k with textListeners := numbers } = { k with textListeners := numbers' }

section Moves

variable {c : Nat} {k k' : Controller} {w v : World}

lemma cancel_of_idle {d : Debouncer} (h : d.pending = false) : d.cancel = d := by
  rw [Debouncer.pending, Option.isSome_eq_false_iff, Option.isNone_iff_eq_none] at h
  rw [Debouncer.cancel, ← h]

/-- What has no alarm set is kept when it gives up its pending edit. -/
lemma keptBy_cancel (h : k.debouncer.pending = false) :
    k.KeptBy Controller.closed := fun numbers =>
  ⟨numbers, congrArg (fun d => { k with debouncer := d, textListeners := numbers })
    (cancel_of_idle h)⟩

/-- The number of a closed controller is not that of a new one. -/
lemma Beside.ne_length (h : Beside c k k' w v) : c ≠ w.controllers.length := by
  obtain ⟨numbers, hleft⟩ := h.left
  exact Nat.ne_of_lt (List.getElem?_eq_some_iff.mp hleft).1

lemma Beside.alarms (h : Beside c k k' w v) :
    v.controllers.map (·.debouncer.alarm) = w.controllers.map (·.debouncer.alarm) := by
  have hnone : ∀ {k : Controller}, k.debouncer.pending = false → k.debouncer.alarm = none :=
    fun hk => Option.isNone_iff_eq_none.mp (Option.isSome_eq_false_iff.mp hk)
  refine List.ext_getElem? fun d => ?_
  rw [List.getElem?_map, List.getElem?_map]
  by_cases hd : d = c
  · subst hd
    obtain ⟨numbers, hleft⟩ := h.left
    obtain ⟨numbers', hright⟩ := h.right
    rw [hleft, hright]
    exact congrArg some ((hnone h.idle').trans (hnone h.idle).symm)
  · rw [h.others d hd]

/-- A controller that is kept stays where it is. -/
lemma exists_getElem?_modify {d : Nat} {g : Controller → Controller} (hg : d = c → k.KeptBy g)
    (hk : ∃ numbers, w.controllers[c]? = some { k with textListeners := numbers }) :
    ∃ numbers, (w.modifyController d g).controllers[c]?
      = some { k with textListeners := numbers } := by
  obtain ⟨numbers, hget⟩ := hk
  by_cases hd : d = c
  · obtain ⟨numbers', hkept⟩ := hg hd numbers
    subst hd
    exact ⟨numbers', (getElem?_modifyController hget g).trans (congrArg some hkept)⟩
  · exact ⟨numbers, (getElem?_modifyController_ne (Ne.symm hd) g w).trans hget⟩

/-- Something that is done to one controller in both sessions. -/
lemma Beside.modify (h : Beside c k k' w v) (d : Nat) {g : Controller → Controller}
    (hg : d = c → k.KeptBy g ∧ k'.KeptBy g) :
    Beside c k k' (w.modifyController d g) (v.modifyController d g) where
  rest := by
    obtain ⟨ks, rfl⟩ := h.rest
    exact ⟨_, rfl⟩
  others e he := by
    rw [World.modifyController, World.modifyController, List.getElem?_modify, List.getElem?_modify,
      h.others e he]
  left := exists_getElem?_modify (fun hd => (hg hd).1) h.left
  right := exists_getElem?_modify (fun hd => (hg hd).2) h.right
  idle := h.idle
  idle' := h.idle'
  detached := h.detached
  asks := h.asks

/-- A new controller in both sessions. -/
lemma Beside.opens (h : Beside c k k' w v) (new : Controller) : Beside c k k'
    { w with
      controllers := w.controllers ++ [new]
      subscribers := w.subscribers ++ [.controller w.controllers.length] }
    { v with
      controllers := v.controllers ++ [new]
      subscribers := v.subscribers ++ [.controller w.controllers.length] } where
  rest := by
    obtain ⟨ks, rfl⟩ := h.rest
    exact ⟨_, rfl⟩
  others d hd := by
    have hlength : v.controllers.length = w.controllers.length := by
      simpa using congrArg List.length h.alarms
    simp only [List.getElem?_append, hlength, h.others d hd]
  left := by
    obtain ⟨numbers, hleft⟩ := h.left
    exact ⟨numbers, by
      rw [List.getElem?_append_left (List.getElem?_eq_some_iff.mp hleft).1, hleft]⟩
  right := by
    obtain ⟨numbers, hright⟩ := h.right
    exact ⟨numbers, by
      rw [List.getElem?_append_left (List.getElem?_eq_some_iff.mp hright).1, hright]⟩
  idle := h.idle
  idle' := h.idle'
  detached hmem := by
    rcases List.mem_append.mp hmem with hmem | hmem
    · exact h.detached hmem
    · exact h.ne_length (Subscriber.controller.inj (List.mem_singleton.mp hmem))
  asks := h.asks

/-- **Every move leaves it at that.** -/
theorem isLockstep_beside (c : Nat) (k k' : Controller) :
    IsLockstep (Request.Spares c) (· ≠ c) (Beside c k k') where
  rest h := h.rest
  same h := h.others _
  alarms h := h.alarms
  told := by
    rintro w v d h hmem rfl
    exact h.detached hmem
  rings := by
    rintro w v d kd h hk hpending rfl
    obtain ⟨numbers, hleft⟩ := h.left
    obtain rfl := Option.some.inj (hk.symm.trans hleft)
    exact Bool.false_ne_true (h.idle.symm.trans hpending)
  typed h := h
  applied hd := ⟨hd, fun g h => h.modify _ fun heq => absurd heq hd⟩
  asks h := h.asks
  move {w v g} h hmove := by
    have hasks := asksWithin_move h.asks hmove
    cases hmove with
    | control active _ => exact h.modify _ fun heq => absurd heq active
    | stop d =>
      exact h.modify d fun _ => ⟨keptBy_cancel h.idle, keptBy_cancel h.idle'⟩
    | relisten d g => exact h.modify d fun _ => ⟨fun numbers => ⟨_, rfl⟩, fun numbers => ⟨_, rfl⟩⟩
    | opens _ => exact h.opens _
    | leave s =>
      obtain ⟨ks, rfl⟩ := h.rest
      exact ⟨⟨ks, rfl⟩, h.others, h.left, h.right, h.idle, h.idle',
        fun hmem => h.detached (List.mem_of_mem_filter hmem), hasks⟩
    | subscribe _ =>
      obtain ⟨ks, rfl⟩ := h.rest
      refine ⟨⟨ks, rfl⟩, h.others, h.left, h.right, h.idle, h.idle', fun hmem => ?_, hasks⟩
      rcases List.mem_append.mp hmem with hmem | hmem
      · exact h.detached hmem
      · exact Subscriber.noConfusion (List.mem_singleton.mp hmem)
    | _ =>
      obtain ⟨ks, rfl⟩ := h.rest
      exact ⟨⟨ks, rfl⟩, h.others, h.left, h.right, h.idle, h.idle', h.detached, hasks⟩

end Moves

/-! ## Closing -/

/-- Closing a controller takes away its alarm and its subscription, and nothing else; from then on
any other controller without an alarm could be in its place. -/
lemma beside_closed {c : Nat} {k : Controller} {w : World} (hk : w.controllers[c]? = some k)
    (hasks : w.AsksWithin (Request.Spares c)) {k' : Controller}
    (hidle : k'.debouncer.pending = false) :
    Beside c k.closed k' ((closeController c).exec w).2
      (((closeController c).exec w).2.put c k') := by
  have hclosed : ((closeController c).exec w).2 = { w.modifyController c Controller.closed with
        subscribers := w.subscribers.filter (· ≠ Subscriber.controller c) } := rfl
  have hget : ((closeController c).exec w).2.controllers[c]?
      = some k.closed := getElem?_modifyController hk _
  refine ⟨⟨_, rfl⟩, fun d hd => List.getElem?_set_ne hd.symm, ⟨k.textListeners, hget⟩,
    ⟨k'.textListeners, ?_⟩, rfl, hidle, ?_, hasks⟩
  · exact List.getElem?_set_self (List.getElem?_eq_some_iff.mp hget).1
  · rw [hclosed]
    exact fun hmem => by simpa using (List.mem_filter.mp hmem).2

/-! ## What is under way -/

/-- What may be under way, with calls to that depth, when a controller is closed, and goes on as if it
were any other one. -/
structure Overlooked (c depth : Nat) : Prop where
  /-- The requests that are still to come, unless they speak to it. -/
  requests : ∀ r, r.Within (Request.Spares c) → (perform (runScript depth) r).Overlooks c
  /-- The alarms that are still to go off. -/
  alarms : ∀ time rounds, (ring (runScript depth) time rounds).Overlooks c
  /-- The rest of those who are told of an edit, if it does not mind the edit or is not among them. -/
  subscribers : ∀ (change : Change) (rest : List Subscriber),
    change.source = .text ∨ Subscriber.controller c ∉ rest →
      (rest.forM (tell (runScript depth) change)).Overlooks c
  /-- The rest of the listeners for the text of another controller. -/
  listeners : ∀ d, d ≠ c → ∀ numbers : List Nat, Action.Overlooks c <|
    numbers.forM fun number => do
      let text ← textOf d
      callListener (runScript depth) number fun tag => .text tag text
  /-- What another controller makes of the outcome of its edit. -/
  outcomes : ∀ d, d ≠ c → (clearError d).Overlooks c ∧ ∀ error, (reject d error).Overlooks c

lemma overlooked (c depth : Nat) : Overlooked c depth where
  requests r hr k k' := by
    have hlockstep := isLockstep_beside c k k'
    have hperform := agrees_perform hlockstep (agree_plain hlockstep depth) hr
    rwa [Surroundings.perform_plain] at hperform
  alarms time rounds k k' := by
    have hlockstep := isLockstep_beside c k k'
    have hring := agrees_ring hlockstep (agree_plain hlockstep depth) time rounds
    rwa [Surroundings.ring_plain] at hring
  subscribers change rest hrest k k' := by
    have hlockstep := isLockstep_beside c k k'
    refine agrees_tellAll hlockstep (agrees_runScript hlockstep depth) change ?_
    rintro d hmem helsewhere rfl
    exact hrest.elim helsewhere fun hnot => hnot hmem
  listeners d hd numbers k k' := by
    have hlockstep := isLockstep_beside c k k'
    exact agrees_callTextListeners hlockstep (agrees_runScript hlockstep depth) hd numbers
  outcomes d hd := ⟨fun k k' => agrees_clearError (isLockstep_beside c k k') hd,
    fun error k k' => agrees_reject (isLockstep_beside c k k') hd error⟩

/-- **A closed controller stays silent**, unless it is closed while it is still to be told of an edit
or is at work itself.  Closing it takes away its alarm and its subscription; whatever is asked for
afterwards, except that its text be edited, it stays as it is but for the listeners for its text, and
everything else goes as if any other controller without an alarm were in its place: so nothing is
read of it, and none of those listeners is called.  That is so for all requests from then on, and
where it is closed in the midst of something else, for all that may be under way but its own doings.
If it is still to be told of an edit from elsewhere, though, it writes its text anew. -/
theorem closed_stays_silent (c : Nat) :
    (∀ (w : World) (k : Controller) (rs : List Request), w.controllers[c]? = some k →
      w.AsksWithin (Request.Spares c) → (∀ r ∈ rs, r.Within (Request.Spares c)) →
        let closed := ((closeController c).exec w).2
        (∃ numbers, (closed.after rs).controllers[c]?
          = some { k.closed with textListeners := numbers }) ∧
        ∀ k' : Controller, k'.debouncer.pending = false →
          Beside c k.closed k' (closed.after rs) ((closed.put c k').after rs)) ∧
    (∀ depth, Overlooked c depth) ∧
    (∀ k k' w v rs, Beside c k k' w v → (∀ r ∈ rs, r.Within (Request.Spares c)) →
      Beside c k k' (w.after rs) (v.after rs) ∧
        ∀ r, r.Within (Request.Spares c) → (answer r (w.after rs)).1 = (answer r (v.after rs)).1) ∧
    ∀ (react : React) (change : Change) (w : World) (k : Controller), change.source ≠ .text →
      w.controllers[c]? = some k → k.textListeners = [] →
      (tell react change (.controller c)).exec w
        = (.ok (), w.modifyController c (Controller.rewrite w.store.entities)) := by
  refine ⟨fun w k rs hk hasks hrs => ?_, overlooked c, fun k k' w v rs h hrs => ⟨?_, fun r hr => ?_⟩,
    fun react change w k helsewhere hk hnone => ?_⟩
  · have hbeside := fun k' hidle => lockstep_after (isLockstep_beside c _ k')
      (beside_closed hk hasks hidle) hrs
    -- Put in its own place, the controller shows what has become of itself.
    exact ⟨(hbeside k.closed rfl).left, hbeside⟩
  · exact lockstep_after (isLockstep_beside c k k') h hrs
  · have hafter := lockstep_after (isLockstep_beside c k k') h hrs
    exact (lockstep_answer (isLockstep_beside c k k') hafter hr).1
  · rw [tell, exec_follow_elsewhere react c helsewhere]
    have hget : (w.modifyController c (Controller.rewrite w.store.entities)).controllers[c]?
        = some (k.rewrite w.store.entities) := getElem?_modifyController hk _
    dsimp only
    rw [hget, Option.map_some, Option.getD_some, textListeners_rewrite, hnone]
    rfl

/-- A controller in whose text some posts were typed, which are still to be read. -/
def typedPosts : World :=
  ({ supply := .strokes } : World).after [.openController none none false,
    .typeText 0 (some "erDiagram\n  Posts \x7b\n  \x7d\n") none none true]

/-- It is closed, then users are added and the clock goes on: its text is as it was, its posts are
not in the store, and the same would be in the store if any other controller had been closed. -/
theorem closed_stays_silent_typedPosts :
    let requests : List Request := [.change (.addEntity (.text "Users")) {}, .advance 1000]
    let closed := ((closeController 0).exec typedPosts).2
    (closed.after requests).controllers.map (·.text) = ["erDiagram\n  Posts \x7b\n  \x7d\n"] ∧
      (closed.after requests).store.entities.map Entity.name = ["Users"] ∧
      ∀ k' : Controller, k'.debouncer.pending = false →
        ((closed.put 0 k').after requests).store = (closed.after requests).store := by
  intro requests closed
  have hrequests : ∀ r ∈ requests, r.Within (Request.Spares 0) := by
    intro r hr
    simp only [requests, List.mem_cons, List.not_mem_nil, or_false] at hr
    rcases hr with rfl | rfl <;> trivial
  have hlength : 0 < typedPosts.controllers.length := by decide +kernel
  have hsilent := (closed_stays_silent 0).1 typedPosts _ requests
    (List.getElem?_eq_getElem hlength) (fun l hl => absurd hl List.not_mem_nil) hrequests
  refine ⟨by decide +kernel, by decide +kernel, fun k' hidle => ?_⟩
  obtain ⟨ks, hrest⟩ := (hsilent.2 k' hidle).rest
  rw [hrest]

/-- A controller, and a listener before it that closes it when it is told of an edit. -/
def closerFirst : World :=
  ({ supply := .strokes } : World).after
    [.subscribe "closer" [.close 0] false, .openController none none false]

/-- An edit is told to both.  Once the listener has been told, the controller is closed: it has no
alarm set and is not subscribed.  It still has its text then, and loses it when it is told. -/
theorem not_silent_closerFirst : ∃ store edited supply,
    closerFirst.store.apply closerFirst.unlinked none (.addEntity (.text "Users")) closerFirst.supply
      = .ok ((store, edited), supply) ∧
    closerFirst.subscribers = [.listener 0, .controller 0] ∧
    let change : Change := { version := store.version, source := .editor, operation := "add_entity" }
    let told := ((tell (runScript 2) change (.listener 0)).exec
      (closerFirst.taking (.addEntity (.text "Users")) store supply)).2
    (Subscriber.controller 0 ∉ told.subscribers ∧
      told.controllers.map (·.debouncer.pending) = [false] ∧
      told.controllers.map (·.text) = ["erDiagram"]) ∧
    ((tell (runScript 2) change (.controller 0)).exec told).2.controllers.map (·.text)
      = ["erDiagram\n  \"Users\" \x7b\n  \x7d\n"] := by
  refine ⟨_, _, _, rfl, by decide +kernel, ?_⟩
  decide +kernel

end DiagramSync
