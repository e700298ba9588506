import DiagramSync.Proofs.Session.Passive

/-!
# The chronicle of a controller

A text that is edited is read later, when the delay ends or when somebody asks for it.  In between
others may edit the store.  The *chronicle* of a controller tells, in the order in which it
happened, how its text was edited, what it read, and when the store was edited from elsewhere.

The controller is left to itself and to others: nobody closes it, and nobody makes it read what is
not pending.  Then all that happens to it between two edits of its text is of three kinds.  It is
spared, a pending edit is read, or the store is edited from elsewhere; and the chronicle tells of
the last two.  So a property of the chronicle and of the session that these three keep is kept by
every request but an edit of the text.

* `Deed` — what a chronicle tells of
* `ringDeeds`, `Request.deeds`, `World.chronicle` — what happens while alarms go off, during a
  request and during a run
* `Request.IsPeaceful`, `Request.Types` — leaving the controller to itself and to others, and
  editing its text
* `World.AfterTyping`, `afterTyping_answer` — what becomes of a session when the text is edited
* `IsKeptByDeeds` — the properties that are kept whatever happens between two edits of the text
* `kept_ring` — what alarms keep
* **`kept_answer`** — what every request keeps but an edit of the text
* `terms?_of_changed` — what is told as an edit of the store is one
-/

namespace DiagramSync

/-! ## Chronicles -/

/-- What the chronicle of a controller tells of. -/
inductive Deed where
  /-- The text was edited, and this is what it was then. -/
  | typed (text : String)
  /-- The controller read this text, with that outcome. -/
  | read (text : String) (outcome : ParseOutcome)
  /-- Somebody else edited the store. -/
  | changed
  deriving DecidableEq

/-- The text was edited. -/
def Deed.isTyped : Deed → Bool
  | typed _ => true
  | _ => false

/-- What came of it if something was read. -/
def Deed.outcome? : Deed → Option ParseOutcome
  | read _ outcome => some outcome
  | _ => none

/-- What a controller does when it comes to reading. -/
def World.readingDeeds (c : Nat) (w : World) : List Deed :=
  match w.controllers[c]?, w.reading? c with
  | some k, some outcome => [.read k.text outcome]
  | _, _ => []

/-- What a controller does while alarms go off, its own and those of others. -/
def ringDeeds (react : React) (c time : Nat) : Nat → World → List Deed
  | 0, _ => []
  | rounds + 1, w =>
    match w.firstDue? time with
    | none => []
    | some (d, alarm) =>
      let w := { w with clock := { w.clock with now := max w.clock.now alarm.due } }
      (if d = c then w.readingDeeds c else []) ++
        match (wake react d).exec w with
        | (.ok _, w) => ringDeeds react c time rounds w
        | (.error _, _) => []

/-- What is to be told of a controller when the request has been answered. -/
def Request.deeds (c : Nat) (w : World) : Request → List Deed
  | .typeText d text replacement addition _ =>
    if d = c then
      (w.controllers[c]?.map fun k => .typed (typedText k.text text replacement addition)).toList
    else []
  | .flush d =>
    if d = c ∧ w.controllers[c]?.any (·.debouncer.pending) then w.readingDeeds c else []
  | .advance ms =>
    ringDeeds (runScript (w.weight + (Request.advance ms).weight)) c (w.clock.now + ms)
      (w.armed + w.weight) { w with events := [] }
  | r =>
    if r.terms?.isSome ∧ (answer r w).2.store.version ≠ w.store.version then [.changed] else []

/-- What is to be told of a controller after some requests. -/
def World.chronicle (c : Nat) (w : World) : List Request → List Deed
  | [] => []
  | r :: rs => r.deeds c w ++ (answer r w).2.chronicle c rs

lemma World.chronicle_append (c : Nat) (w : World) (rs rs' : List Request) :
    w.chronicle c (rs ++ rs') = w.chronicle c rs ++ (w.after rs).chronicle c rs' := by
  induction rs generalizing w with
  | nil => rfl
  | cons r rs ih => rw [List.cons_append, chronicle, chronicle, ih, List.append_assoc, after_cons]

lemma World.chronicle_concat (c : Nat) (w : World) (rs : List Request) (r : Request) :
    w.chronicle c (rs ++ [r]) = w.chronicle c rs ++ r.deeds c (w.after rs) := by
  rw [chronicle_append, chronicle, chronicle, List.append_nil]

/-! ## Requests -/

/-- A request that leaves the controller with the number `c` to itself and to others: edits of the
store come from elsewhere than a text, the text of the controller is edited in a running loop, new
listeners are passive, and the controller stays open. -/
def Request.IsPeaceful (c : Nat) : Request → Prop
  | .subscribe _ script fails => script = [] ∧ fails = false
  | .watchText _ _ script fails => script = [] ∧ fails = false
  | .typeText d _ _ _ inLoop => d = c → inLoop = true
  | .applyEdit d _ => d ≠ c
  | .close d => d ≠ c
  | r => ∀ terms ∈ r.terms?, terms.IsElsewhere

lemma Request.IsPeaceful.elsewhere {c : Nat} {r : Request} (h : r.IsPeaceful c) {terms : Terms}
    (hterms : r.terms? = some terms) : terms.IsElsewhere := by
  cases r with
  | change edit _ => exact h terms hterms
  | addPointing entity attributes reference _ => exact h terms hterms
  | replaceAll values _ => exact h terms hterms
  | _ => exact absurd hterms nofun

/-- The request edits the text of the controller with the number `c`, in a running loop or not. -/
def Request.Types (c : Nat) (inLoop : Bool) : Request → Prop
  | .typeText d _ _ _ inLoop' => d = c ∧ inLoop' = inLoop
  | _ => False

lemma Request.Types.eq {c : Nat} {inLoop : Bool} {r : Request} (h : r.Types c inLoop) :
    ∃ text replacement addition, r = .typeText c text replacement addition inLoop := by
  cases r with
  | typeText d text replacement addition inLoop' =>
    obtain ⟨rfl, rfl⟩ := h
    exact ⟨text, replacement, addition, rfl⟩
  | _ => exact h.elim

/-! ## Edits of the text -/

/-- The session `w'` is what becomes of `w` when the text of the controller with the number `c` is
edited, in a running loop or not: the edit is noted, but only in a loop it starts the delay. -/
structure World.AfterTyping (c : Nat) (inLoop : Bool) (text : String) (w w' : World) : Prop where
  /-- The same subscribers are told of changes. -/
  subscribers : w'.subscribers = w.subscribers
  /-- The listeners are the same. -/
  listeners : w'.listeners = w.listeners
  /-- The controller has another text and one edit more. -/
  own : ∀ k, w.controllers[c]? = some k → ∃ k', w'.controllers[c]? = some k' ∧ k'.text = text ∧
    k'.editGeneration = k.editGeneration + 1 ∧ k'.parsedGeneration = k.parsedGeneration ∧
    k'.lastResult = k.lastResult ∧ k'.debouncer.pending = (inLoop || k.debouncer.pending)

/-- An edit of the text is told, and it is noted. -/
lemma afterTyping_answer {c : Nat} {w : World} {k : Controller} (hk : w.controllers[c]? = some k)
    {r : Request} {inLoop : Bool} (hr : r.Types c inLoop) :
    ∃ text, r.deeds c w = [.typed text] ∧ w.AfterTyping c inLoop text (answer r w).2 := by
  obtain ⟨text, replacement, addition, rfl⟩ := hr.eq
  refine ⟨typedText k.text text replacement addition, ?_, ?_⟩
  · rw [Request.deeds, if_pos rfl, hk]
    rfl
  · rw [answer_typeText]
    cases inLoop with
    | true =>
      rw [exec_typeText (w := { w with events := [] }) hk]
      refine ⟨rfl, rfl, fun k₀ hk₀ => ?_⟩
      obtain rfl := Option.some.inj (hk.symm.trans hk₀)
      exact ⟨_, getElem?_modifyController hk _, rfl, rfl, rfl, rfl, rfl⟩
    | false =>
      rw [exec_typeText_outside (w := { w with events := [] }) hk]
      refine ⟨rfl, rfl, fun k₀ hk₀ => ?_⟩
      obtain rfl := Option.some.inj (hk.symm.trans hk₀)
      exact ⟨_, getElem?_modifyController hk _, rfl, rfl, rfl, rfl, rfl⟩

/-! ## What is kept between two edits of the text -/

/-- From the session `w` to the session `w'` nothing happened to the controller with the number `c`;
only those who listen for its text may be others. -/
structure World.Spares (c : Nat) (w w' : World) : Prop where
  /-- The listeners are passive. -/
  passive : ∀ l ∈ w'.listeners, l.IsPassive
  /-- The controller hears of changes. -/
  subscribed : Subscriber.controller c ∈ w'.subscribers
  /-- It is as it was. -/
  own : ∀ k, w.controllers[c]? = some k →
    ∃ textListeners, w'.controllers[c]? = some { k with textListeners }

/-- A property of the chronicle so far and of the session that is kept whatever happens, as long as
the text of the controller with the number `c` is not edited. -/
structure IsKeptByDeeds (c : Nat) (P : List Deed → World → Prop) : Prop where
  /-- The listeners are passive. -/
  passive : ∀ {log : List Deed} {w : World}, P log w → ∀ l ∈ w.listeners, l.IsPassive
  /-- The controller hears of changes. -/
  subscribed : ∀ {log : List Deed} {w : World}, P log w → Subscriber.controller c ∈ w.subscribers
  /-- The controller has been opened. -/
  opened : ∀ {log : List Deed} {w : World}, P log w → ∃ k, w.controllers[c]? = some k
  /-- Nothing happens to the controller. -/
  spared : ∀ {log : List Deed} {w w' : World}, P log w → w.Spares c w' → P log w'
  /-- A pending edit is read. -/
  reading : ∀ {log : List Deed} {w w' : World}, P log w → w.AfterReading c w' →
    (∀ k, w.controllers[c]? = some k → k.debouncer.pending = true) →
    P (log ++ w.readingDeeds c) w'
  /-- The store is edited from elsewhere. -/
  edited : ∀ {log : List Deed} {w w' : World}, P log w → w.AfterEdit w' →
    P (log ++ if w'.store.version ≠ w.store.version then [Deed.changed] else []) w'

namespace IsKeptByDeeds

variable {c : Nat} {P : List Deed → World → Prop} (hP : IsKeptByDeeds c P) {log : List Deed}
  {w w' : World} (h : P log w)
include hP h

/-- Nothing happened to the controllers at all. -/
lemma of_controllers (hpassive : ∀ l ∈ w'.listeners, l.IsPassive)
    (hsubscribed : Subscriber.controller c ∈ w'.subscribers)
    (hsame : w'.controllers[c]? = w.controllers[c]?) : P log w' :=
  hP.spared h ⟨hpassive, hsubscribed, fun k hk => ⟨k.textListeners, hsame.trans hk⟩⟩

/-- Nothing happened to anybody. -/
lemma of_same (hlisteners : w'.listeners = w.listeners)
    (hsubscribers : w'.subscribers = w.subscribers)
    (hcontrollers : w'.controllers = w.controllers) : P log w' :=
  hP.of_controllers h (hlisteners ▸ hP.passive h) (hsubscribers ▸ hP.subscribed h)
    (by rw [hcontrollers])

/-- Who listens for the text of a controller does not matter. -/
lemma relisten (d : Nat) (g : List Nat → List Nat) :
    P log (w.modifyController d fun k => { k with textListeners := g k.textListeners }) := by
  have hpassive := hP.passive h
  have hsubscribed := hP.subscribed h
  refine hP.spared h ⟨hpassive, hsubscribed, fun k hk => ?_⟩
  by_cases hd : c = d
  · subst hd
    exact ⟨_, getElem?_modifyController hk _⟩
  · exact ⟨k.textListeners, (getElem?_modifyController_ne hd _ w).trans hk⟩

/-- What is done to another controller does not matter. -/
lemma leavesOthers {d : Nat} (hd : d ≠ c) (hothers : w.LeavesOthers d w') : P log w' :=
  hP.of_controllers h hothers.passive (hothers.subscribers ▸ hP.subscribed h)
    (hothers.others c hd.symm)

end IsKeptByDeeds

/-! ## Alarms -/

section Requests

variable {c : Nat} {w : World}

/-- The alarm that goes off first is that of a pending edit. -/
lemma pending_of_firstDue? {time d : Nat} {alarm : Alarm} (h : w.firstDue? time = some (d, alarm)) :
    ∀ k, w.controllers[d]? = some k → k.debouncer.pending = true := by
  intro k hk
  rcases firstDue?_cases w time with ⟨hnone, -⟩ | ⟨d', k', alarm', hfirst, hk', hdue⟩
  · exact absurd (h.symm.trans hnone) nofun
  · obtain ⟨rfl, rfl⟩ := Prod.mk.inj (Option.some.inj (h.symm.trans hfirst))
    obtain rfl := Option.some.inj (hk.symm.trans hk')
    by_contra hidle
    rw [due?_of_idle (Bool.eq_false_iff.mpr hidle)] at hdue
    exact absurd hdue nofun

/-- An edit of the text of another controller, be it in a loop or not. -/
lemma leavesOthers_typeText (hw : ∀ l ∈ w.listeners, l.IsPassive) (d : Nat) (text : Option String)
    (replacement : Option (String × String)) (addition : Option String) (inLoop : Bool) :
    w.LeavesOthers d ((typeText d text replacement addition inLoop).exec w).2 := by
  have hmodify : ∀ g, (Action.modifyController d g).Keeps (w.LeavesOthers d) := fun g w₁ h₁ =>
    h₁.trans (.modifyController h₁.passive g)
  refine keeps_bind (P := w.LeavesOthers d) keeps_get (fun w₁ => ?_) w (.refl hw)
  cases w₁.controllers[d]? with
  | none => exact keeps_pure ()
  | some k =>
    refine keeps_bind (hmodify _) fun _ => keeps_bind keeps_ofExcept fun p => ?_
    exact keeps_bind (keeps_modify fun _ h => ⟨h.subscribers, h.passive, h.others⟩)
      fun _ => hmodify _

variable {P : List Deed → World → Prop} (hP : IsKeptByDeeds c P) {log : List Deed} (h : P log w)
  {react : React} (hreact : ∀ w, (react []).exec w = (.ok (), w))

include hP h hreact in
/-- Alarms go off, among them perhaps that of the controller. -/
lemma kept_ring (time rounds : Nat) :
    P (log ++ ringDeeds react c time rounds w) ((ring react time rounds).exec w).2 := by
  induction rounds generalizing w log with
  | zero =>
    rw [ringDeeds, List.append_nil]
    exact h
  | succ rounds ih =>
    rw [ring, exec_bind_ok (exec_get w), ringDeeds]
    cases hdue : w.firstDue? time with
    | none =>
      dsimp only
      rw [List.append_nil]
      exact h
    | some p =>
      obtain ⟨d, alarm⟩ := p
      dsimp only
      rw [exec_bind_ok (exec_modify _ w)]
      set later : World := { w with clock := { w.clock with now := max w.clock.now alarm.due } }
      have hlater : P log later := hP.of_same h rfl rfl rfl
      have hread := afterReading_wake hreact (hP.passive hlater) d
      have hwoken : P (log ++ if d = c then later.readingDeeds c else [])
          ((wake react d).exec later).2 := by
        split_ifs with hd
        · subst hd
          exact hP.reading hlater hread (pending_of_firstDue? hdue)
        · rw [List.append_nil]
          exact hP.leavesOthers hlater hd hread.toLeavesOthers
      rw [exec_bind, ← List.append_assoc]
      cases hwake : (wake react d).exec later with
      | mk r w' =>
        rw [hwake] at hwoken
        cases r with
        | ok _ => exact ih hwoken
        | error f =>
          rw [List.append_nil]
          exact hwoken

/-! ## Each request -/

include hP h

lemma kept_register {l : Listener} (hl : l.IsPassive) : P log ((register l).exec w).2 := by
  have hpassive : ∀ l' ∈ w.listeners ++ [l], l'.IsPassive := by
    intro l' hl'
    rcases List.mem_append.mp hl' with hl' | hl'
    · exact hP.passive h l' hl'
    · rw [List.mem_singleton.mp hl']
      exact hl
  have hsubscribed := hP.subscribed h
  rw [register, exec_modify]
  cases l.station with
  | store => exact hP.of_controllers h hpassive (List.mem_append_left _ hsubscribed) rfl
  | controller d =>
    have hlater : P log { w with listeners := w.listeners ++ [l] } :=
      hP.of_controllers h hpassive hsubscribed rfl
    exact hP.relisten hlater d (· ++ [w.listeners.length])

lemma kept_unregister (tag : String) : P log ((unregister tag).exec w).2 := by
  have hpassive := hP.passive h
  rw [unregister, exec_modify]
  dsimp only
  split
  · exact h
  · rename_i number _
    exact hP.of_controllers h hpassive (List.mem_filter.mpr ⟨hP.subscribed h, by simp⟩) rfl
  · rename_i number d _
    exact hP.relisten h d (·.filter (· ≠ number))

/-- A controller that is opened comes after the others. -/
lemma kept_openController (delay : Option Int) (resolver : Option Resolver) (notifies : Bool) :
    P log ((openController delay resolver notifies).exec w).2 := by
  rw [exec_openController]
  cases Debouncer.ofDelay (delay.getD w.delay) with
  | error f => exact h
  | ok debouncer =>
    obtain ⟨k, hk⟩ := hP.opened h
    obtain ⟨hlt, -⟩ := List.getElem?_eq_some_iff.mp hk
    have hpassive := hP.passive h
    exact hP.of_controllers h hpassive (List.mem_append_left _ (hP.subscribed h))
      (List.getElem?_append_left hlt)

/-- Another controller gives up. -/
lemma kept_closeController {d : Nat} (hd : d ≠ c) : P log ((closeController d).exec w).2 := by
  have hclosed := hP.leavesOthers h hd (.modifyController (hP.passive h) fun k =>
    { k with debouncer := k.debouncer.cancel })
  have hcancel := exec_modifyController d (fun k => { k with debouncer := k.debouncer.cancel }) w
  have hpassive := hP.passive hclosed
  rw [closeController, exec_bind_ok hcancel, exec_modify]
  exact hP.of_controllers hclosed hpassive
    (List.mem_filter.mpr ⟨hP.subscribed hclosed, by simpa using hd.symm⟩) rfl

section Performing

include hreact

/-- What is pending is read at once. -/
lemma kept_flush (d : Nat) :
    P (log ++ (Request.flush d).deeds c w) ((flushController react d).exec w).2 := by
  rw [Request.deeds]
  by_cases hflush : ∃ k, w.controllers[d]? = some k ∧ k.debouncer.pending = true
  · obtain ⟨k, hk, hpending⟩ := hflush
    have hread := afterReading_wake hreact (hP.passive h) d
    rw [exec_flushController_pending react hk hpending]
    by_cases hd : d = c
    · subst hd
      rw [if_pos ⟨rfl, by rw [hk, Option.any_some, hpending]⟩]
      exact hP.reading h hread fun k' hk' => Option.some.inj (hk.symm.trans hk') ▸ hpending
    · rw [if_neg fun hsame => hd hsame.1, List.append_nil]
      exact hP.leavesOthers h hd hread.toLeavesOthers
  · have hnone : ¬ (d = c ∧ (w.controllers[c]?.any fun k => k.debouncer.pending) = true) := by
      rintro ⟨rfl, hany⟩
      exact hflush ((Option.any_eq_true _ _).mp hany)
    rw [exec_flushController_idle react hflush, if_neg hnone, List.append_nil]
    exact h

lemma kept_goOn (ms : Nat) :
    P (log ++ ringDeeds react c (w.clock.now + ms) (w.armed + w.weight) w)
      ((goOn react ms).exec w).2 := by
  have hring := kept_ring hP h hreact (w.clock.now + ms) (w.armed + w.weight)
  rw [goOn, exec_bind_ok (exec_get w)]
  refine after_bind (fun e w' hrung => ?_) fun _ w' hrung => ?_
  · rwa [hrung] at hring
  · rw [hrung] at hring
    exact hP.of_same hring rfl rfl rfl

end Performing

/-- **What is kept between two edits of the text is kept by every request but an edit of the
text.** -/
theorem kept_answer {r : Request} (hr : r.IsPeaceful c) (hother : ¬ r.Types c true) :
    P (log ++ r.deeds c w) (answer r w).2 := by
  set depth := w.weight + r.weight with hdepth
  have hanswer : answer r w = (perform (runScript depth) r).exec { w with events := [] } := rfl
  have hreact := exec_runScript_nil depth
  have hquiet : P log { w with events := [] } := hP.of_same h rfl rfl rfl
  have hedit : ∀ {terms}, r.terms? = some terms → terms.IsElsewhere →
      P (log ++ if (answer r w).2.store.version ≠ w.store.version then [Deed.changed] else [])
        (answer r w).2 :=
    fun hterms helsewhere => hP.edited h (afterEdit_answer (hP.passive h) hterms helsewhere)
  have hsilent : r.deeds c w = [] → P log (answer r w).2 →
      P (log ++ r.deeds c w) (answer r w).2 := by
    intro hnone hsame
    rwa [hnone, List.append_nil]
  cases r with
  | change edit terms =>
    simpa [Request.deeds, Request.terms?] using hedit rfl (hr terms rfl)
  | addPointing entity attributes reference terms =>
    simpa [Request.deeds, Request.terms?] using hedit rfl (hr terms rfl)
  | replaceAll values terms =>
    simpa [Request.deeds, Request.terms?] using hedit rfl (hr terms rfl)
  | getEntity entity =>
    obtain ⟨r, hfound⟩ := exec_editing_same (w := { w with events := [] })
      (x := demandEntity w.store.entities entity) fun e s h => (demandEntity_eq_ok.mp h).2
    have hsame : (answer (.getEntity entity) w).2 = { w with events := [] } := by
      rw [hanswer, perform, exec_bind_ok (exec_get _), after_bind_pure, hfound]
    exact hsilent (by simp [Request.deeds, Request.terms?]) (hsame ▸ hquiet)
  | findEntity name =>
    have hsame : (answer (.findEntity name) w).2 = { w with events := [] } := by
      rw [hanswer, perform]
      cases name.nameText <;> rfl
    exact hsilent (by simp [Request.deeds, Request.terms?]) (hsame ▸ hquiet)
  | diagram => exact hsilent (by simp [Request.deeds, Request.terms?]) hquiet
  | count => exact hsilent (by simp [Request.deeds, Request.terms?]) hquiet
  | pause => exact hsilent (by simp [Request.deeds, Request.terms?]) hquiet
  | subscribe tag script fails =>
    exact hsilent (by simp [Request.deeds, Request.terms?])
      (kept_register (l := ⟨tag, .store, script, fails⟩) hP hquiet ⟨hr.1, hr.2⟩)
  | watchText tag d script fails =>
    exact hsilent (by simp [Request.deeds, Request.terms?])
      (kept_register (l := ⟨tag, .controller d, script, fails⟩) hP hquiet ⟨hr.1, hr.2⟩)
  | unsubscribe tag =>
    exact hsilent (by simp [Request.deeds, Request.terms?]) (kept_unregister hP hquiet tag)
  | openController delay resolver notifies =>
    refine hsilent (by simp [Request.deeds, Request.terms?]) ?_
    rw [hanswer, perform, after_bind_pure]
    exact kept_openController hP hquiet delay resolver notifies
  | typeText d text replacement addition inLoop =>
    have hd : d ≠ c := fun hd => hother ⟨hd, hr hd⟩
    rw [hanswer, perform, after_bind_pure, Request.deeds, if_neg hd, List.append_nil]
    exact hP.leavesOthers hquiet hd
      (leavesOthers_typeText (hP.passive hquiet) d text replacement addition inLoop)
  | flush d =>
    rw [hanswer, perform, after_bind_pure]
    exact kept_flush hP hquiet hreact d
  | applyEdit d generation =>
    refine hsilent (by simp [Request.deeds, Request.terms?]) ?_
    rw [hanswer, perform, after_bind_pure]
    exact hP.leavesOthers hquiet hr (leavesOthers_readEdit hreact (hP.passive hquiet) d generation)
  | close d =>
    refine hsilent (by simp [Request.deeds, Request.terms?]) ?_
    rw [hanswer, perform, after_bind_pure]
    exact kept_closeController hP hquiet hr
  | advance ms =>
    rw [hanswer, perform, after_bind_pure]
    exact kept_goOn hP hquiet hreact ms

end Requests

/-! ## Edits of the store -/

section Changed

variable {c : Nat} {w : World}

/-- Reading is no edit of the store from elsewhere. -/
lemma changed_not_mem_readingDeeds (c : Nat) (w : World) : Deed.changed ∉ w.readingDeeds c := by
  rw [World.readingDeeds]
  split <;> simp

lemma changed_not_mem_ringDeeds (react : React) (c time rounds : Nat) (w : World) :
    Deed.changed ∉ ringDeeds react c time rounds w := by
  induction rounds generalizing w with
  | zero => exact List.not_mem_nil
  | succ rounds ih =>
    rw [ringDeeds]
    cases w.firstDue? time with
    | none => exact List.not_mem_nil
    | some p =>
      dsimp only
      rw [List.mem_append, not_or]
      constructor
      · split_ifs
        · exact changed_not_mem_readingDeeds c _
        · exact List.not_mem_nil
      · split
        · exact ih _
        · exact List.not_mem_nil

/-- Only a request for an edit of the store is told as one, and only if the edit was made. -/
lemma terms?_of_changed {r : Request} (h : Deed.changed ∈ r.deeds c w) :
    r.terms?.isSome ∧ (answer r w).2.store.version ≠ w.store.version := by
  have hedit : ∀ {P : Prop} [Decidable P],
      Deed.changed ∈ (if P then [Deed.changed] else []) → P := by
    intro P _ hmem
    by_contra hP
    rw [if_neg hP] at hmem
    exact List.not_mem_nil hmem
  cases r with
  | typeText d text replacement addition inLoop =>
    rw [Request.deeds] at h
    split_ifs at h
    · cases hk : w.controllers[c]? <;> simp [hk] at h
    · exact absurd h List.not_mem_nil
  | flush d =>
    rw [Request.deeds] at h
    split_ifs at h
    · exact absurd h (changed_not_mem_readingDeeds c w)
    · exact absurd h List.not_mem_nil
  | advance ms => exact absurd h (changed_not_mem_ringDeeds _ c _ _ _)
  | _ => exact hedit h

end Changed

end DiagramSync
