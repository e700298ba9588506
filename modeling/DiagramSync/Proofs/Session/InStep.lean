import DiagramSync.Proofs.Session.Agreement
import DiagramSync.Proofs.Session.Requested

/-!
# A text stays in step with its model

In a session with one controller and passive listeners every request leaves the text and the store
in step: an edit of the store writes the text anew and supersedes whatever was typed, an edit of the
text is pending until it is read, and reading it makes both agree.

* `Request.IsOrdinary` — the requests of such a session
* `inStep_ring` — letting time go by
* `inStep_commit`, `inStep_perform` — what edits and what all ordinary requests keep
* `IsOrdinaryRun` — requests of which each is ordinary when it is made
* **`agrees_after`** — text and store agree whenever nothing is pending
-/

namespace DiagramSync

/-! ## Ordinary requests -/

/-- The edit is not said to come from a text, and what is said is looked up. -/
def Terms.IsElsewhere (t : Terms) : Prop :=
  match t.source with
  | .own => True
  | .named name => name.text? ≠ some ChangeSource.text.word
  | .loose _ => False

/-- What may be asked of a session with one controller.  Edits of the store come from elsewhere than
a text and bring in ids of their own, the text is edited in a running loop, and new listeners are
passive. -/
def Request.IsOrdinary (supply : Supply) : Request → Prop
  | .change edit terms => terms.IsElsewhere ∧ HasOwnIds supply edit.given
  | .addPointing _ _ _ terms => terms.IsElsewhere
  | .replaceAll values terms => terms.IsElsewhere ∧
    ∀ es supply', Entity.readAll values supply = .ok (es, supply') → HasOwnIds supply' es
  | .subscribe _ script fails => script = [] ∧ fails = false
  | .watchText _ _ script fails => script = [] ∧ fails = false
  | .typeText _ _ _ _ inLoop => inLoop = true
  | .openController .. => False
  | .applyEdit .. => False
  | .close _ => False
  | _ => True

/-- The session has one controller, and its text agrees with the store unless an edit is pending. -/
def World.IsInStep (unlinked : Cardinality) (w : World) : Prop :=
  w.unlinked = unlinked ∧ ∃ k, w.InStep k

/-! ## Reading what is pending -/

section Waking

variable {react : React} (hreact : ∀ w, (react []).exec w = (.ok (), w)) {unlinked : Cardinality}
include hreact

omit hreact in
/-- Only a pending edit is due. -/
lemma firstDue?_one {w : World} {k : Controller} (hone : w.controllers = [k]) {time c : Nat}
    {a : Alarm}
    (h : w.firstDue? time = some (c, a)) : c = 0 ∧ k.debouncer.pending = true := by
  rcases firstDue?_cases w time with ⟨hnone, -⟩ | ⟨c', k', a', hfirst, hk', hdue⟩
  · rw [h] at hnone
    exact absurd hnone nofun
  · obtain ⟨rfl, rfl⟩ := Prod.mk.inj (Option.some.inj (h.symm.trans hfirst))
    rw [hone, List.getElem?_singleton] at hk'
    split_ifs at hk' with hc
    obtain rfl := Option.some.inj hk'
    refine ⟨hc, ?_⟩
    by_contra hidle
    rw [due?_of_idle (Bool.eq_false_iff.mpr hidle)] at hdue
    exact absurd hdue nofun

/-- Text and store stay in step while alarms go off. -/
lemma inStep_ring (time rounds : Nat) : (ring react time rounds).Keeps (World.IsInStep unlinked) := by
  induction rounds with
  | zero => exact keeps_pure ()
  | succ rounds ih =>
    rintro w ⟨hunlinked, k, hk⟩
    rw [ring, exec_bind_ok (exec_get w)]
    cases hdue : w.firstDue? time with
    | none => exact ⟨hunlinked, k, hk⟩
    | some p =>
      obtain ⟨c, alarm⟩ := p
      obtain ⟨rfl, hpending⟩ := firstDue?_one hk.one hdue
      dsimp only
      rw [exec_bind_ok (exec_modify _ w)]
      have hcalm : ({ w with
          clock := { w.clock with now := max w.clock.now alarm.due } } : World).IsCalm k :=
        ⟨hk.one, hk.subscribed, hk.passive, hk.orderly, hk.fresh, hk.ids⟩
      obtain ⟨w', k', hwake, hk', hsame⟩ := exec_wake hreact hcalm hpending
      rw [exec_bind_ok hwake]
      exact ih w' ⟨hsame.trans hunlinked, k', hk'⟩

end Waking

/-! ## Edits of the store -/

section Editing

variable {react : React} (hreact : ∀ w, (react []).exec w = (.ok (), w)) {unlinked : Cardinality}
include hreact

/-- An edit from elsewhere leaves the text written for the entities. -/
lemma inStep_commit {w : World} (hw : w.IsInStep unlinked) {source : ChangeSource}
    (hsource : source ≠ .text) (expected : Option Int) {edit : Edit}
    (hgiven : HasOwnIds w.supply edit.given) :
    ((commit react source expected edit).exec w).2.IsInStep unlinked := by
  obtain ⟨hunlinked, k, hk⟩ := hw
  cases happly : w.store.apply w.unlinked expected edit w.supply with
  | error f =>
    rw [exec_commit_refused happly]
    exact ⟨hunlinked, k, hk⟩
  | ok p =>
    obtain ⟨⟨store, edited⟩, supply⟩ := p
    obtain ⟨hlater, hids⟩ := hk.ids.of_made hk.fresh (made_of_run (apply_eq_ok happly).1) hgiven
    obtain ⟨events, hcommit⟩ :=
      exec_commit_one hreact hk.passive hk.one hk.subscribed source happly
    have hhear : k.hear source store.entities = k.rewrite store.entities := if_neg hsource
    rw [hhear] at hcommit
    rw [hcommit]
    exact ⟨hunlinked, k.rewrite store.entities, ⟨⟨rfl, hk.subscribed, hk.passive, hk.orderly.rewrite _,
      hk.fresh.of_extends hlater, hids⟩, fun _ => .written (text_rewrite _ k)⟩⟩

omit hreact in
/-- An edit from elsewhere has a source, which is no text. -/
lemma given_isElsewhere {ownSource : ChangeSource} (hown : ownSource ≠ .text) {terms : Terms}
    (hterms : terms.IsElsewhere) {given : Except Value ChangeSource}
    (h : terms.given ownSource = .ok given) : ∃ source, given = .ok source ∧ source ≠ .text := by
  rw [Terms.given] at h
  rw [Terms.IsElsewhere] at hterms
  cases hsource : terms.source with
  | own =>
    rw [hsource] at h
    exact ⟨ownSource, (Except.ok.inj h).symm, hown⟩
  | named name =>
    rw [hsource] at h hterms
    dsimp only at h hterms
    split at h
    · rename_i source hname
      refine ⟨source, (Except.ok.inj h).symm, ?_⟩
      rintro rfl
      obtain ⟨word, htext, hfound⟩ := Option.bind_eq_some_iff.mp hname
      have hsame := List.find?_some hfound
      exact hterms (htext.trans (congrArg some (beq_iff_eq.mp hsame).symm))
    · cases h
  | loose other =>
    rw [hsource] at hterms
    exact hterms.elim

omit hreact in
/-- An edit that somebody asks for may fail before it is made; otherwise it is made, and its source
is no text. -/
lemma requestedEdit_cases (react : React) {ownSource : ChangeSource} (hown : ownSource ≠ .text)
    {terms : Terms} (hterms : terms.IsElsewhere) (x : Action Edit) (w : World) :
    ((requestedEdit react ownSource terms x).exec w).2 = w ∨
      ((requestedEdit react ownSource terms x).exec w).2 = (x.exec w).2 ∨
      ∃ source edit expected w', source ≠ .text ∧ x.exec w = (.ok edit, w') ∧
        ((requestedEdit react ownSource terms x).exec w).2
          = ((commit react source expected edit).exec w').2 := by
  have hrequested := requested_requestedEdit react ownSource terms x w
  generalize (requestedEdit react ownSource terms x).exec w = p at hrequested
  cases hrequested with
  | unknown unknown => exact Or.inl rfl
  | unread => exact Or.inr (Or.inl rfl)
  | @tried source edit expected w' known read depends =>
    obtain ⟨source', hsame, hsource⟩ := given_isElsewhere hown hterms known
    obtain rfl := Except.ok.inj hsame
    obtain ⟨handBack, hcommit⟩ := exec_commitAndHandBack react source expected edit w'
    refine Or.inr (Or.inr ⟨source, edit, expected, w', hsource, read, ?_⟩)
    rw [hcommit]
  | untold loose read depends =>
    obtain ⟨source, hsame, -⟩ := given_isElsewhere hown hterms loose
    cases hsame

/-- An edit that somebody asks for keeps text and store in step. -/
lemma inStep_requestedEdit {ownSource : ChangeSource} (hown : ownSource ≠ .text) {terms : Terms}
    (hterms : terms.IsElsewhere) {x : Action Edit} {w : World} (hw : w.IsInStep unlinked)
    (hx : (x.exec w).2.IsInStep unlinked ∧
      ∀ edit w', x.exec w = (.ok edit, w') → HasOwnIds w'.supply edit.given) :
    ((requestedEdit react ownSource terms x).exec w).2.IsInStep unlinked := by
  rcases requestedEdit_cases react hown hterms x w with
    hsame | hsame | ⟨source, edit, expected, w', hsource, hedit, hcommit⟩
  · rw [hsame]
    exact hw
  · rw [hsame]
    exact hx.1
  · have hgiven := hx.2 edit w' hedit
    rw [hedit] at hx
    rw [hcommit]
    exact inStep_commit hreact hx.1 hsource expected hgiven

end Editing

/-! ## Requests -/

section Requests

variable {unlinked : Cardinality} {w : World}

/-- What is listened to does not matter. -/
lemma World.InStep.relisten {k : Controller} (h : w.InStep k) {subscribers : List Subscriber}
    {listeners : List Listener} (hsubscribed : Subscriber.controller 0 ∈ subscribers)
    (hpassive : ∀ l ∈ listeners, l.IsPassive) (textListeners : List Nat) :
    ({ w with subscribers, listeners, controllers := [{ k with textListeners }] } : World).InStep
      { k with textListeners } := by
  refine ⟨⟨rfl, hsubscribed, hpassive, ?_, h.fresh, h.ids⟩, fun hidle => ?_⟩
  · exact ⟨h.orderly.resolver, h.orderly.generations, h.orderly.pending⟩
  · cases h.agrees hidle with
    | written text => exact .written text
    | refused told unusable => exact .refused told unusable
    | read same => exact .read same

lemma World.InStep.modifyListeners {k : Controller} (h : w.InStep k) {subscribers : List Subscriber}
    {listeners : List Listener} (hsubscribed : Subscriber.controller 0 ∈ subscribers)
    (hpassive : ∀ l ∈ listeners, l.IsPassive) (c : Nat) (g : List Nat → List Nat) :
    (({ w with subscribers, listeners } : World).modifyController c fun k =>
        { k with textListeners := g k.textListeners }).InStep
      { k with textListeners := if c = 0 then g k.textListeners else k.textListeners } := by
  have hrelisten := h.relisten hsubscribed hpassive
    (if c = 0 then g k.textListeners else k.textListeners)
  rw [modifyController_one (w := { w with subscribers, listeners }) h.one]
  split_ifs with hc
  · rwa [if_pos hc] at hrelisten
  · rwa [if_neg hc] at hrelisten

/-- A supply from which more has been drawn does as well. -/
lemma World.InStep.of_extends {k : Controller} (h : w.InStep k) {supply : Supply}
    (hlater : w.supply.Extends supply) : ({ w with supply } : World).InStep k :=
  ⟨⟨h.one, h.subscribed, h.passive, h.orderly, h.fresh.of_extends hlater, h.ids.of_extends hlater⟩,
    h.agrees⟩

lemma inStep_register (hw : w.IsInStep unlinked) {l : Listener} (hl : l.IsPassive) :
    ((register l).exec w).2.IsInStep unlinked := by
  obtain ⟨hunlinked, k, hk⟩ := hw
  have hpassive : ∀ l' ∈ w.listeners ++ [l], l'.IsPassive := by
    intro l' hl'
    rcases List.mem_append.mp hl' with hl' | hl'
    · exact hk.passive l' hl'
    · rw [List.mem_singleton.mp hl']
      exact hl
  rw [register, exec_modify]
  cases l.station with
  | store =>
    refine ⟨hunlinked, k, ?_⟩
    have h := hk.relisten (List.mem_append_left [.listener w.listeners.length] hk.subscribed) hpassive
      k.textListeners
    rwa [← hk.one] at h
  | controller c =>
    exact ⟨hunlinked, _, hk.modifyListeners hk.subscribed hpassive c (· ++ [w.listeners.length])⟩

lemma inStep_unregister (hw : w.IsInStep unlinked) (tag : String) :
    ((unregister tag).exec w).2.IsInStep unlinked := by
  obtain ⟨hunlinked, k, hk⟩ := hw
  rw [unregister, exec_modify]
  dsimp only
  split
  · exact ⟨hunlinked, k, hk⟩
  · rename_i number _
    have hsubscribed : Subscriber.controller 0 ∈ w.subscribers.filter (· ≠ .listener number) :=
      List.mem_filter.mpr ⟨hk.subscribed, by simp⟩
    have h := hk.relisten hsubscribed hk.passive k.textListeners
    rw [← hk.one] at h
    exact ⟨hunlinked, k, h⟩
  · rename_i number c _
    exact ⟨hunlinked, _, hk.modifyListeners hk.subscribed hk.passive c (·.filter (· ≠ number))⟩

/-- An edit of the text is pending from then on. -/
lemma inStep_typeText (hw : w.IsInStep unlinked) (c : Nat) (text : Option String)
    (replacement : Option (String × String)) (addition : Option String) :
    ((typeText c text replacement addition true).exec w).2.IsInStep unlinked := by
  obtain ⟨hunlinked, k, hk⟩ := hw
  cases c with
  | succ c =>
    rw [typeText, exec_bind_ok (exec_get w), hk.one]
    exact ⟨hunlinked, k, hk⟩
  | zero =>
    have hget : w.controllers[0]? = some k := by
      rw [hk.one]
      rfl
    rw [exec_typeText hget]
    refine ⟨hunlinked, k.retype w.clock (typedText k.text text replacement addition),
      ⟨⟨?_, hk.subscribed, hk.passive, ?_, hk.fresh, hk.ids⟩,
        fun hidle => absurd hidle.symm Bool.false_ne_true⟩⟩
    · rw [World.modifyController, hk.one]
      rfl
    · have hlater := Nat.lt_succ_of_le hk.orderly.generations
      exact ⟨hk.orderly.resolver, Nat.le_of_lt hlater, fun _ => hlater⟩

/-- A pending edit that is read at once makes text and store agree. -/
lemma inStep_flush {react : React} (hreact : ∀ w, (react []).exec w = (.ok (), w))
    (hw : w.IsInStep unlinked) (c : Nat) :
    ((flushController react c).exec w).2.IsInStep unlinked := by
  obtain ⟨hunlinked, k, hk⟩ := hw
  rw [flushController, exec_bind_ok (exec_get w), hk.one]
  cases c with
  | succ c => exact ⟨hunlinked, k, hk⟩
  | zero =>
    simp only [List.getElem?_cons_zero]
    split_ifs with hpending
    · obtain ⟨w', k', hwake, hk', hsame⟩ := exec_wake hreact hk.toIsCalm hpending
      rw [exec_bind_ok hwake]
      exact ⟨hsame.trans hunlinked, k', hk'⟩
    · exact ⟨hunlinked, k, hk⟩

section Performing

variable {react : React} (hreact : ∀ w, (react []).exec w = (.ok (), w))
include hreact

/-- A field that is added brings in no ids, whatever its reference is. -/
lemma inStep_addPointing (hw : w.IsInStep unlinked) (entity : Option Id) (attributes : NewField)
    (reference : Value) {terms : Terms} (hterms : terms.IsElsewhere) :
    ((perform react (.addPointing entity attributes reference terms)).exec w).2.IsInStep unlinked := by
  obtain ⟨r, hread⟩ := exec_readReference reference w
  rw [perform, exec_map]
  refine inStep_requestedEdit hreact (by decide) hterms hw ⟨?_, fun edit w' h => ?_⟩
  · rw [after_bind_pure, hread]
    exact hw
  · rw [exec_bind, hread] at h
    cases r with
    | error f => cases (Prod.mk.inj h).1
    | ok r =>
      obtain ⟨hedit, -⟩ := Prod.mk.inj h
      rw [← Except.ok.inj hedit]
      exact ⟨List.nodup_nil, by simp [Edit.given]⟩

/-- Entities that are read take ids from the supply, even where they are not put into the store. -/
lemma inStep_replaceAll (hw : w.IsInStep unlinked) {values : List Value} {terms : Terms}
    (hterms : terms.IsElsewhere)
    (hids : ∀ es supply', Entity.readAll values w.supply = .ok (es, supply') → HasOwnIds supply' es) :
    ((perform react (.replaceAll values terms)).exec w).2.IsInStep unlinked := by
  rw [perform, exec_map]
  refine inStep_requestedEdit hreact (by decide) hterms hw ⟨?_, fun edit w' h => ?_⟩
  · rw [after_bind_pure, exec_editing]
    cases hread : Editing.ofReader (Entity.readAll values) w.supply with
    | error f => exact hw
    | ok p =>
      obtain ⟨hunlinked, k, hk⟩ := hw
      exact ⟨hunlinked, k, hk.of_extends (extends_readAll (ofReader_eq_ok.mp hread))⟩
  · rw [exec_bind, exec_editing] at h
    cases hread : Editing.ofReader (Entity.readAll values) w.supply with
    | error f =>
      rw [hread] at h
      cases (Prod.mk.inj h).1
    | ok p =>
      rw [hread] at h
      obtain ⟨hedit, rfl⟩ := Prod.mk.inj h
      rw [← Except.ok.inj hedit]
      exact hids p.1 p.2 (ofReader_eq_ok.mp hread)

lemma inStep_goOn (hw : w.IsInStep unlinked) (ms : Nat) :
    ((goOn react ms).exec w).2.IsInStep unlinked := by
  rw [goOn, exec_bind_ok (exec_get w)]
  have hring := inStep_ring hreact (w.clock.now + ms) (w.armed + w.weight) w hw
  refine after_bind (fun e w' h => ?_) fun a w' h => ?_
  · rw [h] at hring
    exact hring
  · rw [h] at hring
    obtain ⟨hunlinked, k, hk⟩ := hring
    exact ⟨hunlinked, k, ⟨⟨hk.one, hk.subscribed, hk.passive, hk.orderly, hk.fresh, hk.ids⟩,
      hk.agrees⟩⟩

/-- Every ordinary request keeps text and store in step. -/
theorem inStep_perform (hw : w.IsInStep unlinked) {r : Request} (hr : r.IsOrdinary w.supply) :
    ((perform react r).exec w).2.IsInStep unlinked := by
  cases r with
  | change edit terms =>
    rw [perform, exec_map]
    refine inStep_requestedEdit hreact (ownSource_ne_text edit) hr.1 hw ⟨hw, fun edit' w' h => ?_⟩
    obtain ⟨hedit, rfl⟩ := Prod.mk.inj h
    exact Except.ok.inj hedit ▸ hr.2
  | addPointing entity attributes reference terms =>
    exact inStep_addPointing hreact hw entity attributes reference hr
  | replaceAll values terms => exact inStep_replaceAll hreact hw hr.1 hr.2
  | getEntity entity =>
    obtain ⟨r, hfound⟩ := exec_editing_same (w := w) (x := demandEntity w.store.entities entity)
      fun e s h => (demandEntity_eq_ok.mp h).2
    rw [perform, exec_bind_ok (exec_get w), after_bind_pure, hfound]
    exact hw
  | findEntity name =>
    rw [perform]
    split
    · exact hw
    · exact hw
  | diagram => exact hw
  | count => exact hw
  | subscribe tag script fails =>
    rw [perform, after_bind_pure]
    exact inStep_register hw ⟨hr.1, hr.2⟩
  | watchText tag c script fails =>
    rw [perform, after_bind_pure]
    exact inStep_register hw ⟨hr.1, hr.2⟩
  | unsubscribe tag =>
    rw [perform, after_bind_pure]
    exact inStep_unregister hw tag
  | openController delay resolver notifies => exact hr.elim
  | typeText c text replacement addition inLoop =>
    obtain rfl : inLoop = true := hr
    rw [perform, after_bind_pure]
    exact inStep_typeText hw c text replacement addition
  | flush c =>
    rw [perform, after_bind_pure]
    exact inStep_flush hreact hw c
  | applyEdit c generation => exact hr.elim
  | close c => exact hr.elim
  | advance ms =>
    rw [perform, after_bind_pure]
    exact inStep_goOn hreact hw ms
  | pause => exact hw

end Performing

end Requests

/-! ## Runs -/

/-- Requests of which each is ordinary when it is made. -/
def IsOrdinaryRun (w : World) : List Request → Prop
  | [] => True
  | r :: rs => r.IsOrdinary w.supply ∧ IsOrdinaryRun (answer r w).2 rs

/-- A run of ordinary requests keeps text and store in step. -/
theorem inStep_after {unlinked : Cardinality} {w : World} (hw : w.IsInStep unlinked)
    {rs : List Request}
    (hrs : IsOrdinaryRun w rs) : (w.after rs).IsInStep unlinked := by
  induction rs generalizing w with
  | nil => exact hw
  | cons r rs ih =>
    rw [World.after_cons]
    refine ih ?_ hrs.2
    obtain ⟨hunlinked, k, hk⟩ := hw
    have hquiet : ({ w with events := [] } : World).IsInStep unlinked :=
      ⟨hunlinked, k, ⟨⟨hk.one, hk.subscribed, hk.passive, hk.orderly, hk.fresh, hk.ids⟩, hk.agrees⟩⟩
    exact inStep_perform (exec_runScript_nil _) hquiet hrs.1

lemma exec_openController (delay : Option Int) (resolver : Option Resolver) (notifies : Bool)
    (w : World) :
    (openController delay resolver notifies).exec w = match Debouncer.ofDelay (delay.getD w.delay) with
      | .error f => (.error f, w)
      | .ok debouncer => (.ok w.controllers.length, { w with
          controllers := w.controllers ++ [{ text := generate w.store.entities,
                                             resolver := resolver.getD .byLabel, debouncer, notifies }]
          subscribers := w.subscribers ++ [.controller w.controllers.length] }) := by
  rw [openController, exec_bind_ok (exec_get w)]
  cases Debouncer.ofDelay (delay.getD w.delay) with
  | error f => rfl
  | ok debouncer => rfl

/-- A controller that is opened is in step with the store. -/
lemma inStep_openController {w w' : World} (hnone : w.controllers = [])
    (hpassive : ∀ l ∈ w.listeners, l.IsPassive) (hfresh : w.supply.IsFresh)
    (hids : HasOwnIds w.supply w.store.entities) {delay : Option Int} {notifies : Bool} {a : Answer}
    (hopen : answer (.openController delay none notifies) w = (.ok a, w')) :
    w'.IsInStep w.unlinked := by
  have hanswer : answer (.openController delay none notifies) w
      = (openController delay none notifies >>= fun number =>
          pure (Answer.number number)).exec { w with events := [] } := rfl
  have hexec := exec_openController delay none notifies { w with events := [] }
  rw [hanswer] at hopen
  cases hdelay : Debouncer.ofDelay (delay.getD w.delay) with
  | error f =>
    rw [hdelay] at hexec
    rw [exec_bind_error hexec] at hopen
    exact absurd (Prod.mk.inj hopen).1 nofun
  | ok debouncer =>
    have hidle : debouncer.pending = false := by
      rw [Debouncer.ofDelay] at hdelay
      split_ifs at hdelay
      rw [← Except.ok.inj hdelay]
      rfl
    rw [hdelay] at hexec
    rw [exec_bind_ok hexec, exec_pure] at hopen
    obtain ⟨-, rfl⟩ := Prod.mk.inj hopen
    refine ⟨rfl, { text := generate w.store.entities, resolver := .byLabel, debouncer, notifies },
      ⟨⟨?_, ?_, hpassive, ?_, hfresh, hids⟩, fun _ => .written rfl⟩⟩
    · simp [hnone]
    · simp [hnone]
    · exact ⟨rfl, Nat.le_refl _, fun hp => absurd (hidle.symm.trans hp) Bool.false_ne_true⟩

/-- **Text and model agree** in every session with one controller and passive listeners, whenever no
edit of the text is pending: the text is the one that is written for the entities of the store; or
it was refused, and whatever new ids it is read under, it is rejected or two of its entities have
the same name but for case; or it says, apart from ids, what the entities of the store say. -/
theorem agrees_after {w w' : World} (hnone : w.controllers = [])
    (hpassive : ∀ l ∈ w.listeners, l.IsPassive) (hfresh : w.supply.IsFresh)
    (hids : HasOwnIds w.supply w.store.entities) {delay : Option Int} {notifies : Bool} {a : Answer}
    (hopen : answer (.openController delay none notifies) w = (.ok a, w')) {rs : List Request}
    (hrs : IsOrdinaryRun w' rs) :
    ∃ k, (w'.after rs).controllers = [k] ∧ (k.debouncer.pending = false →
      k.Agrees w.unlinked (w'.after rs).store.entities) := by
  obtain ⟨hunlinked, k, hk⟩ := inStep_after (inStep_openController hnone hpassive hfresh hids hopen) hrs
  exact ⟨k, hk.one, hunlinked ▸ hk.agrees⟩

/-- A session with a controller that has just been opened. -/
def openedWorld : World :=
  (answer (.openController none none true) { supply := .strokes }).2

/-- An entity is added while a listener looks on, the text that tells of it is replaced, and the new
text is read when the delay ends. -/
def typedRequests : List Request :=
  [.subscribe "listener" [] false,
    .change (.addEntity (.text "Users")) {},
    .typeText 0
      (some "erDiagram\n    Posts \x7b\n        int id PK\n        int users_id FK\n    \x7d\n") none
      (some "    Users \x7b\n        int id PK\n    \x7d\n    Users ||--o\x7b Posts : users_id\n")
      true,
    .advance 400]

/-- Nothing is pending at the end, and text and model agree. -/
theorem agrees_after_typedRequests : ∃ k, (openedWorld.after typedRequests).controllers = [k] ∧
    k.Agrees .manyToOne (openedWorld.after typedRequests).store.entities := by
  have hids : HasOwnIds .strokes [] := ⟨List.nodup_nil, by simp⟩
  have hordinary : IsOrdinaryRun openedWorld typedRequests := by
    refine ⟨⟨rfl, rfl⟩, ⟨trivial, List.nodup_nil, ?_⟩, rfl, trivial, trivial⟩
    simp [Edit.given]
  have hopen : answer (.openController none none true) { supply := .strokes }
      = (.ok (.number 0), openedWorld) := rfl
  obtain ⟨k, hone, hagrees⟩ := agrees_after (w := { supply := .strokes }) rfl (by simp)
    Supply.isFresh_strokes hids hopen hordinary
  have hidle : (openedWorld.after typedRequests).controllers.map (·.debouncer.pending)
      = [false] := by
    decide +kernel
  rw [hone] at hidle
  exact ⟨k, hone, hagrees (List.cons.inj hidle).1⟩

end DiagramSync
