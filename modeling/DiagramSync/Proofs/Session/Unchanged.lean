import DiagramSync.Proofs.Session.History
import DiagramSync.Proofs.Session.Reading
import DiagramSync.Proofs.Store.Reread

/-!
# Edits of a text that change nothing

Whoever changes the layout of a diagram says nothing new.  If the diagram shows everything that
there is to the model, then the store is left alone when such a text is read: nothing is written,
and nobody is told.

* `World.retyped`, `World.reread` — the session before and after a controller has read a new text
* `exec_wake_relaid` — reading a text that says what the model says
* `firstDue?_alone`, `exec_goOn_alone` — the alarm of a controller when nothing else is pending
* **`reread_of_relaid`** — a text that says what the model says leaves the store alone
-/

namespace DiagramSync

/-! ## Controllers that have read their text -/

/-- The controller once it has read its latest text without any problem. -/
def Controller.settle (outcome : ParseOutcome) (k : Controller) : Controller :=
  { k with
    debouncer := k.debouncer.cancel, parsedGeneration := k.editGeneration
    lastResult := some outcome, lastError := none }

/-- The session once a controller has been given a text and has read it.  Ids have been drawn for
what was read; the store, its history, the other controllers and the listeners are as they were, and
no event has been noted. -/
def World.reread (c : Nat) (text : String) (clock : Clock) (w : World) : World :=
  let read := parse .byLabel w.unlinked w.supply text
  ({ w with supply := read.2, clock, events := [] } : World).modifyController c fun k => { k with
    text, editGeneration := k.editGeneration + 1, parsedGeneration := k.editGeneration + 1
    debouncer := k.debouncer.cancel, lastResult := some read.1, lastError := none }

/-- The session once a controller has been given a text that it has not read yet, at that time. -/
def World.retyped (c : Nat) (text : String) (clock : Clock) (w : World) : World :=
  ({ w with clock, events := [] } : World).modifyController c (Controller.retype w.clock text)

/-! ## Reading a text that says what the model says -/

section Reading

variable {w : World} {c : Nat} {k : Controller}

variable (hfresh : w.supply.IsFresh) (hne : w.store.entities ≠ [])
  (hshown : FullyShown w.unlinked w.store.entities)
include hfresh hne hshown

/-- Such a text is read, and the model that comes of it is the one that is there. -/
lemma reconcile_parse_relaid {text : String}
    (htext : IsRelaid text.toList (generate w.store.entities).toList) : ∃ es rs supply,
    parse .byLabel w.unlinked w.supply text = (.accepted es rs [], supply) ∧
      reconcile w.store.entities es = w.store.entities := by
  obtain ⟨ν, rs, supply, hparse, hids, hgiven⟩ :=
    parse_relaid hshown.toRecoverable hne hfresh w.unlinked htext
  exact ⟨_, rs, supply, hparse,
    reconcile_rebuilt hshown hids fun id hid => (hgiven id hid).ne_unresolved hfresh⟩

/-- Reading such a text leaves the store alone, whatever listeners would ask for. -/
lemma exec_wake_relaid (react : React) (hk : w.controllers[c]? = some k)
    (hresolver : k.resolver = .byLabel) (hunread : k.parsedGeneration < k.editGeneration)
    (htext : IsRelaid k.text.toList (generate w.store.entities).toList) :
    (wake react c).exec w = (.ok (),
      ({ w with supply := (parse .byLabel w.unlinked w.supply k.text).2 } : World).modifyController c
        (Controller.settle (parse .byLabel w.unlinked w.supply k.text).1)) := by
  obtain ⟨es, rs, supply, hparse, hsame⟩ := reconcile_parse_relaid hfresh hne hshown htext
  have hread : parse k.resolver w.unlinked w.supply k.text = (.accepted es rs [], supply) := by
    rw [hresolver, hparse]
  rw [exec_wake_unread react hk hunread hread, hparse]
  refine (exec_applyEntities_same react c (w := w.noting c (.accepted es rs []) supply) hsame).trans
    (congrArg (Prod.mk (Except.ok ())) ?_)
  exact modifyController_modifyController _ _ { w with supply }

end Reading

/-! ## Alarms -/

section Alarms

variable {w : World} {c : Nat} {k : Controller} {time : Nat}

/-- As long as no edit is pending, nothing happens while time goes by. -/
lemma exec_ring_idle (react : React) (hidle : ∀ k ∈ w.controllers, k.debouncer.pending = false)
    (rounds : Nat) : (ring react time rounds).exec w = (.ok (), w) := by
  cases rounds with
  | zero => rfl
  | succ rounds =>
    rcases firstDue?_cases w time with ⟨hnone, -⟩ | ⟨c, k, a, -, hk, hdue⟩
    · rw [ring, exec_bind_ok (exec_get w), hnone]
      rfl
    · rw [due?_of_idle (hidle k (List.mem_of_getElem? hk))] at hdue
      exact absurd hdue nofun

/-- An alarm that is due goes off if no other one is set. -/
lemma firstDue?_alone (hk : w.controllers[c]? = some k) {a : Alarm}
    (halarm : k.debouncer.due? time = some a)
    (halone : ∀ d k', w.controllers[d]? = some k' → d ≠ c → k'.debouncer.pending = false) :
    w.firstDue? time = some (c, a) := by
  rcases firstDue?_cases w time with ⟨-, hnone⟩ | ⟨d, k', a', hfirst, hk', hdue⟩
  · rw [hnone k (List.mem_of_getElem? hk)] at halarm
    exact absurd halarm nofun
  · by_cases hd : d = c
    · subst hd
      obtain rfl := Option.some.inj (hk.symm.trans hk')
      obtain rfl := Option.some.inj (halarm.symm.trans hdue)
      exact hfirst
    · rw [due?_of_idle (halone d k' hk' hd)] at hdue
      exact absurd hdue nofun

end Alarms

/-! ## Sessions -/

section Sessions

variable {w : World} {c : Nat} {k : Controller}

lemma exec_goOn_alone {react : React} (hk : w.controllers[c]? = some k) {a : Alarm} {ms : Nat}
    (halarm : k.debouncer.due? (w.clock.now + ms) = some a) (hnow : w.clock.now ≤ a.due)
    (halone : ∀ d k', w.controllers[d]? = some k' → d ≠ c → k'.debouncer.pending = false) {w' : World}
    (hwake : (wake react c).exec { w with clock := { w.clock with now := a.due } } = (.ok (), w'))
    (hidle : ∀ k ∈ w'.controllers, k.debouncer.pending = false) :
    (goOn react ms).exec w = (.ok (), { w' with
      clock := { w'.clock with now := max w'.clock.now (w.clock.now + ms) } }) := by
  have hpending : k.debouncer.pending = true := by
    by_contra h
    rw [due?_of_idle (Bool.eq_false_iff.mpr h)] at halarm
    exact absurd halarm nofun
  have harmed : 0 < w.armed := List.countP_pos_iff.mpr ⟨k, List.mem_of_getElem? hk, hpending⟩
  obtain ⟨rounds, hrounds⟩ : ∃ rounds, w.armed + w.weight = rounds + 1 :=
    ⟨w.armed + w.weight - 1, by omega⟩
  have hring : (ring react (w.clock.now + ms) (rounds + 1)).exec w = (.ok (), w') := by
    rw [ring, exec_bind_ok (exec_get w), firstDue?_alone hk halarm halone]
    dsimp only
    rw [exec_bind_ok (exec_modify _ w), Nat.max_eq_right hnow, exec_bind_ok hwake,
      exec_ring_idle react hidle]
  rw [goOn, exec_bind_ok (exec_get w)]
  dsimp only
  rw [hrounds, exec_bind_ok hring, exec_modify]

/-! ### A text that was typed -/

lemma getElem?_retyped (hk : w.controllers[c]? = some k) (text : String) (clock : Clock) :
    (w.retyped c text clock).controllers[c]? = some (k.retype w.clock text) :=
  getElem?_modifyController (w := { w with clock, events := [] }) hk _

lemma lastResult_reread (hk : w.controllers[c]? = some k) (text : String) (clock : Clock) :
    (w.reread c text clock).controllers[c]?.bind (·.lastResult)
      = some (parse .byLabel w.unlinked w.supply text).1 := by
  have hget : (w.reread c text clock).controllers[c]? = some _ :=
    getElem?_modifyController (w := { w with
      supply := (parse .byLabel w.unlinked w.supply text).2, clock, events := [] }) hk _
  rw [hget]
  rfl

section Alone

variable (halone : ∀ d k', w.controllers[d]? = some k' → d ≠ c → k'.debouncer.pending = false)
include halone

/-- The other controllers are left alone. -/
lemma alone_retyped (text : String) (clock : Clock) :
    ∀ d k', (w.retyped c text clock).controllers[d]? = some k' → d ≠ c →
      k'.debouncer.pending = false := by
  intro d k' hk' hd
  refine halone d k' ?_ hd
  simpa [World.retyped, World.modifyController, List.getElem?_modify, Ne.symm hd] using hk'

/-- Nothing is pending once the text has been read. -/
lemma idle_reread (text : String) (clock : Clock) :
    ∀ k' ∈ (w.reread c text clock).controllers, k'.debouncer.pending = false := by
  intro k' hk'
  obtain ⟨d, hd⟩ := List.mem_iff_getElem?.mp hk'
  rw [World.reread, World.modifyController, List.getElem?_modify] at hd
  obtain ⟨k₀, hk₀, rfl⟩ := Option.map_eq_some_iff.mp hd
  split_ifs with hc
  · rfl
  · exact halone d k₀ hk₀ (Ne.symm hc)

end Alone

/-- The alarm that typing sets is due once the delay has passed. -/
lemma due?_retype {clock : Clock} {time : Nat} (htime : clock.now + k.debouncer.delay ≤ time)
    (text : String) : (k.retype clock text).debouncer.due? time
      = some { due := clock.now + k.debouncer.delay, order := clock.alarms } := by
  rw [Debouncer.due?]
  exact Option.filter_eq_some_iff.mpr ⟨rfl, decide_eq_true htime⟩

/-- At whatever time the text is read, nothing comes of it. -/
lemma exec_wake_retyped (react : React) (hcounted : k.IsCounted) (hfresh : w.supply.IsFresh)
    (hne : w.store.entities ≠ []) (hshown : FullyShown w.unlinked w.store.entities)
    (hk : w.controllers[c]? = some k) (hresolver : k.resolver = .byLabel) {typed : String}
    (htyped : IsRelaid typed.toList (generate w.store.entities).toList) (clock : Clock) :
    (wake react c).exec (w.retyped c typed clock) = (.ok (), w.reread c typed clock) := by
  have hunread : k.parsedGeneration < k.editGeneration + 1 := Nat.lt_succ_of_le hcounted
  refine (exec_wake_relaid (w := w.retyped c typed clock) hfresh hne hshown react
    (getElem?_retyped hk typed clock) hresolver hunread htyped).trans ?_
  exact congrArg (Prod.mk (Except.ok ())) (modifyController_modifyController
    (Controller.retype w.clock typed)
    (Controller.settle (parse .byLabel w.unlinked w.supply typed).1)
    { w with supply := (parse .byLabel w.unlinked w.supply typed).2, clock, events := [] })

/-- **A text that says what the model says leaves the store alone.**  Whatever has happened in a
session before, if its model is one that the diagram shows in full, and if the text of a controller
is edited so that it differs from the diagram in its layout alone, then reading it, be it at once or
after the delay, neither writes anything nor tells anybody. -/
theorem reread_of_relaid (hw : w.IsReachable) (hfresh : w.supply.IsFresh)
    (hne : w.store.entities ≠ []) (hshown : FullyShown w.unlinked w.store.entities)
    (hk : w.controllers[c]? = some k) (hresolver : k.resolver = .byLabel) {text : Option String}
    {replacement : Option (String × String)} {addition : Option String} {typed : String}
    (htyped : typedText k.text text replacement addition = typed)
    (hrelaid : IsRelaid typed.toList (generate w.store.entities).toList) :
    ∃ w', answer (.typeText c text replacement addition true) w = (.ok .nothing, w') ∧
      answer (.flush c) w' = (.ok (.outcome (parse .byLabel w.unlinked w.supply typed).1),
        w.reread c typed { w.clock with alarms := w.clock.alarms + 1 }) ∧
      ((∀ d k', w.controllers[d]? = some k' → d ≠ c → k'.debouncer.pending = false) →
        ∀ ms, k.debouncer.delay ≤ ms → answer (.advance ms) w' = (.ok .nothing,
          w.reread c typed { now := w.clock.now + ms, alarms := w.clock.alarms + 1 })) := by
  have hcounted : k.IsCounted := isCounted_of_isReachable hw k (List.mem_of_getElem? hk)
  have hwake := fun react => exec_wake_retyped react hcounted hfresh hne hshown hk hresolver hrelaid
  set later : Clock := { w.clock with alarms := w.clock.alarms + 1 } with hlater
  have hget := getElem?_retyped hk typed later
  refine ⟨w.retyped c typed later, ?_, ?_, fun halone ms hms => ?_⟩
  · have htype := exec_typeText (w := { w with events := [] }) hk text replacement addition
    rw [htyped] at htype
    exact exec_bind_ok htype _
  · have hflush := exec_flushController hget rfl
      (hwake (runScript ((w.retyped c typed later).weight + (Request.flush c).weight)) later)
    rw [lastResult_reread hk] at hflush
    exact exec_bind_ok hflush _
  · have htime : w.clock.now + k.debouncer.delay ≤ w.clock.now + ms :=
      Nat.add_le_add_left hms w.clock.now
    set due := w.clock.now + k.debouncer.delay
    have hadvance := exec_goOn_alone hget (due?_retype htime typed) (Nat.le_add_right _ _)
      (alone_retyped halone typed later)
      (hwake (runScript ((w.retyped c typed later).weight + (Request.advance ms).weight))
        { later with now := due })
      (idle_reread halone typed _)
    rw [← Nat.max_eq_right htime]
    exact exec_bind_ok hadvance _

end Sessions

/-- A session with the model of a blog, in which one reference has never been linked, and with a
controller for its diagram. -/
def blogSession : World :=
  World.after { supply := .strokes }
    [.change (.setEntities
      [{ id := ⟨"users"⟩, name := "Users"
         fields := [{ id := ⟨"users.id"⟩, name := "id", type := .int, isPrimary := true }] },
       { id := ⟨"posts"⟩, name := "Posts"
         fields :=
          [{ id := ⟨"posts.user_id"⟩, name := "user_id", type := .int, isForeign := true
             reference := some
               { target := ⟨"users"⟩, targetField := ⟨"users.id"⟩, label := some "written by" } },
           { id := ⟨"posts.site_id"⟩, name := "site_id", type := .uuid, isForeign := true
             reference := some {} }] }]) {},
      .openController none none true]

/-- A comment that is added to its diagram leaves the blog alone. -/
theorem reread_blogSession :
    let typed := generate blogSession.store.entities ++ "\n%% A blog"
    ∃ w', answer (.typeText 0 none none (some "\n%% A blog") true) blogSession = (.ok .nothing, w') ∧
      (answer (.flush 0) w').2 = blogSession.reread 0 typed { alarms := 1 } ∧
      (answer (.advance 500) w').2 = blogSession.reread 0 typed { now := 500, alarms := 1 } := by
  intro typed
  obtain ⟨k, hk, htext, hresolver, hdelay⟩ : ∃ k, blogSession.controllers[0]? = some k ∧
      k.text = generate blogSession.store.entities ∧ k.resolver = .byLabel ∧
      k.debouncer.delay ≤ 500 := ⟨_, rfl, rfl, rfl, by decide⟩
  have hreachable : blogSession.IsReachable := ⟨_, _, rfl, rfl⟩
  have hne : blogSession.store.entities ≠ [] := by
    decide +kernel
  have hshown : FullyShown blogSession.unlinked blogSession.store.entities := by
    decide +kernel
  have halone : ∀ d k', blogSession.controllers[d]? = some k' → d ≠ 0 →
      k'.debouncer.pending = false := by
    intro d k' hk' hd
    obtain ⟨d, rfl⟩ := Nat.exists_eq_succ_of_ne_zero hd
    exact absurd hk' nofun
  have htyped : typedText k.text none none (some "\n%% A blog") = typed := by
    simp [typedText, htext, typed]
  have hrelaid : IsRelaid typed.toList (generate blogSession.store.entities).toList := by
    have hcomment := isRelaid_append hne hshown.writable (l := "%% A blog".toList) (by decide)
      (by decide)
    rwa [String.toList_append]
  obtain ⟨w', htype, hflush, hadvance⟩ := reread_of_relaid hreachable Supply.isFresh_strokes hne
    hshown hk hresolver htyped hrelaid
  exact ⟨w', htype, congrArg Prod.snd hflush, congrArg Prod.snd (hadvance halone 500 hdelay)⟩

end DiagramSync
