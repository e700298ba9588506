import DiagramSync.Proofs.Session.InStep
import DiagramSync.Proofs.Session.Unchanged

/-!
# Edits of a text that are rejected

An edit of a text is rejected if nothing can be read of the text, or if the store refuses what was
read.  Then nothing has happened to the store, and the text is as it was typed.

It is rejected in a third case as well, for the refusal of a name is not only looked for where the
store takes what was read, but also while the subscribers are told of it.  If one of them fails with
such a refusal of his own, then the edit counts as rejected although the store has taken it.

* `World.taken?` — the store once it has taken what a controller reads
* `Applied`, `applied_applyEntities` — what can become of a model that was read
* `isKeptByEdits_version` — versions only grow
* **`rejected_cases`** — whether anything has happened when an edit is rejected
* `taken_though_rejected` — an edit that is rejected although the store has taken it
-/

namespace DiagramSync

/-! ## What comes of reading -/

/-- The session when a controller has noted why its edit was rejected, or that it was not; its user
may have been told. -/
def World.judged (c : Nat) (error : Option ParseError) (events : List Event) (w : World) : World :=
  { w.modifyController c fun k => { k with lastError := error } with events }

/-- The store once it has taken what a controller reads of its text.  There is none if nothing can
be read, if what is read is there already, or if it is refused. -/
def World.taken? (c : Nat) (w : World) : Option Store := do
  let k ← w.controllers[c]?
  match parse k.resolver w.unlinked w.supply k.text with
  | (.rejected .., _) => none
  | (.accepted es _ _, supply) =>
    let merged := reconcile w.store.entities es
    if merged = w.store.entities then
      none
    else
      match w.store.apply w.unlinked none (.setEntities merged) supply with
      | .ok ((store, _), _) => some store
      | .error _ => none

section Reading

variable {react : React} {w w' : World} {c : Nat} {k : Controller}

/-- Reading at once is what the end of the delay does. -/
lemma exec_wake_of_flush (hk : w.controllers[c]? = some k) (hpending : k.debouncer.pending = true)
    {read : Option ParseOutcome} (h : (flushController react c).exec w = (.ok read, w')) :
    (wake react c).exec w = (.ok (), w') := by
  rw [exec_flushController_pending react hk hpending] at h
  cases hwake : (wake react c).exec w with
  | mk r w₁ =>
    rw [hwake] at h
    cases r with
    | error f => cases h
    | ok _ =>
      cases h
      rfl

/-- What a controller that has read a model makes of a session, if there is no fault. -/
inductive Applied (react : React) (c : Nat) (es : List Entity) (w : World) : World → Prop
  /-- The model is there already. -/
  | known (same : reconcile w.store.entities es = w.store.entities) :
      Applied react c es w (w.judged c none w.events)
  /-- The store refuses the model because of its names. -/
  | refused {f : Fault} {events : List Event}
      (new : reconcile w.store.entities es ≠ w.store.entities)
      (refusal : w.store.apply w.unlinked none (.setEntities (reconcile w.store.entities es)) w.supply
        = .error f)
      (name : f.isDuplicateName = true) :
      Applied react c es w (w.judged c (some ⟨.duplicateEntity, f.message⟩) events)
  /-- The store takes the model, and everybody is told. -/
  | told {store : Store} {edited : Edited} {supply : Supply} {w₁ : World}
      (new : reconcile w.store.entities es ≠ w.store.entities)
      (taken : w.store.apply w.unlinked none (.setEntities (reconcile w.store.entities es)) w.supply
        = .ok ((store, edited), supply))
      (telling : (w.subscribers.forM
        (tell react { version := store.version, source := .text, operation := "set_entities" })).exec
          (w.taking (.setEntities (reconcile w.store.entities es)) store supply) = (.ok (), w₁)) :
      Applied react c es w (w₁.judged c none w₁.events)
  /-- The store takes the model, and somebody who is told fails because of a name. -/
  | brokenOff {store : Store} {edited : Edited} {supply : Supply} {w₁ : World} {f : Fault}
      {events : List Event} (new : reconcile w.store.entities es ≠ w.store.entities)
      (taken : w.store.apply w.unlinked none (.setEntities (reconcile w.store.entities es)) w.supply
        = .ok ((store, edited), supply))
      (telling : (w.subscribers.forM
        (tell react { version := store.version, source := .text, operation := "set_entities" })).exec
          (w.taking (.setEntities (reconcile w.store.entities es)) store supply) = (.error f, w₁))
      (name : f.isDuplicateName = true) :
      Applied react c es w (w₁.judged c (some ⟨.duplicateEntity, f.message⟩) events)

/-- There is no other way. -/
lemma applied_applyEntities {es : List Entity}
    (h : (applyEntities react c es).exec w = (.ok (), w')) : Applied react c es w w' := by
  by_cases hsame : reconcile w.store.entities es = w.store.entities
  · rw [exec_applyEntities_same react c hsame] at h
    rw [← (Prod.mk.inj h).2]
    exact .known hsame
  rw [exec_applyEntities_changed react c hsame] at h
  cases happly : w.store.apply w.unlinked none (.setEntities (reconcile w.store.entities es))
      w.supply with
  | error f =>
    rw [exec_commit_refused happly] at h
    dsimp only at h
    split_ifs at h with hname
    · obtain ⟨events, hreject⟩ := exec_reject c ⟨.duplicateEntity, f.message⟩ w
      rw [hreject] at h
      rw [← (Prod.mk.inj h).2]
      exact .refused hsame happly hname
    · cases (Prod.mk.inj h).1
  | ok p =>
    obtain ⟨⟨store, edited⟩, supply⟩ := p
    have hcommit := exec_commit_taken react .text happly
    cases htell : (w.subscribers.forM (tell react
        { version := store.version, source := .text, operation := "set_entities" })).exec
          (w.taking (.setEntities (reconcile w.store.entities es)) store supply) with
    | mk r w₁ =>
      cases r with
      | ok _ =>
        rw [hcommit.trans (exec_bind_ok htell _)] at h
        rw [← (Prod.mk.inj h).2]
        exact .told hsame happly htell
      | error f =>
        rw [hcommit.trans (exec_bind_error htell _)] at h
        dsimp only at h
        split_ifs at h with hname
        · obtain ⟨events, hreject⟩ := exec_reject c ⟨.duplicateEntity, f.message⟩ w₁
          rw [hreject] at h
          rw [← (Prod.mk.inj h).2]
          exact .brokenOff hsame happly htell hname
        · cases (Prod.mk.inj h).1

end Reading

/-! ## Versions -/

/-- Versions only grow. -/
lemma isKeptByEdits_version (n : Nat) : IsKeptByEdits fun w => n ≤ w.store.version where
  congr h hstore _ _ _ := hstore ▸ h
  edit h happly := by
    rw [(apply_eq_ok happly).2]
    exact Nat.le_succ_of_le h

/-! ## Edits that are rejected -/

section Rejected

variable {w w' : World} {c depth : Nat} {k k' : Controller}

lemma lastError_judged {error : Option ParseError} {events : List Event}
    (hk' : (w.judged c error events).controllers[c]? = some k') : k'.lastError = error := by
  rw [World.judged, World.modifyController, List.getElem?_modify_eq] at hk'
  obtain ⟨k₀, -, rfl⟩ := Option.map_eq_some_iff.mp hk'
  rfl

/-- A controller that notes what it read, and what came of it, keeps its text. -/
lemma text_judged_noting (hk : w.controllers[c]? = some k) {outcome : ParseOutcome}
    {supply : Supply} {error : Option ParseError} {events : List Event}
    (hk' : ((w.noting c outcome supply).judged c error events).controllers[c]? = some k') :
    k'.text = k.text := by
  have hjudged := getElem?_modifyController (getElem?_noting hk outcome supply) fun k => { k with
    lastError := error }
  rw [← Option.some.inj (hjudged.symm.trans hk')]

/-- **An edit of a text that is rejected leaves the store and the text as they were, unless the
store has taken what was read.**  Whatever the resolver, and whatever the listeners ask for or fail
with: a pending edit is read, at once or because its delay has ended, and the controller has noted
an error then.  Either the store takes nothing, is as it was, and the text is as it was typed; or
the store has taken what was read and is of a later version, and a subscriber has failed with the
refusal of a name, which is what the controller has noted. -/
theorem rejected_cases (hk : w.controllers[c]? = some k) (hpending : k.debouncer.pending = true)
    (hunread : k.parsedGeneration < k.editGeneration)
    (hrun : (wake (runScript depth) c).exec w = (.ok (), w') ∨
      ∃ read, (flushController (runScript depth) c).exec w = (.ok read, w'))
    (hk' : w'.controllers[c]? = some k') (hrejected : k'.lastError ≠ none) :
    (w.taken? c = none ∧ w'.store = w.store ∧ k'.text = k.text) ∨
      ∃ store, w.taken? c = some store ∧ store.version ≤ w'.store.version ∧
        w.store.version < w'.store.version ∧
        ∃ f w₁, w₁.store = store ∧ f.isDuplicateName = true ∧
          ((w.subscribers.forM (tell (runScript depth)
            { version := store.version, source := .text, operation := "set_entities" })).exec w₁).1
              = .error f ∧
          k'.lastError = some ⟨.duplicateEntity, f.message⟩ := by
  have hwake : (wake (runScript depth) c).exec w = (.ok (), w') :=
    hrun.elim id fun ⟨_, hflush⟩ => exec_wake_of_flush hk hpending hflush
  obtain ⟨outcome, supply, hparse⟩ : ∃ outcome supply,
    parse k.resolver w.unlinked w.supply k.text = (outcome, supply) := ⟨_, _, rfl⟩
  rw [exec_wake_unread _ hk hunread hparse] at hwake
  cases outcome with
  | rejected error ws =>
    obtain ⟨events, hreject⟩ := exec_reject c error (w.noting c (.rejected error ws) supply)
    obtain rfl := (Prod.mk.inj (hreject.symm.trans hwake)).2
    refine Or.inl ⟨?_, rfl, text_judged_noting hk hk'⟩
    simp only [World.taken?, hk, hparse, Option.bind_eq_bind, Option.bind_some]
  | accepted es rs ws =>
    cases applied_applyEntities hwake with
    | known same => exact absurd (lastError_judged hk') hrejected
    | told new taken telling => exact absurd (lastError_judged hk') hrejected
    | @refused f events new refusal name =>
      have hrefused : w.store.apply w.unlinked none (.setEntities (reconcile w.store.entities es))
          supply = .error f := refusal
      have hnew : reconcile w.store.entities es ≠ w.store.entities := new
      refine Or.inl ⟨?_, rfl, text_judged_noting hk hk'⟩
      simp only [World.taken?, hk, hparse, Option.bind_eq_bind, Option.bind_some, if_neg hnew,
        hrefused]
    | @brokenOff store edited supply' w₁ f events new taken telling name =>
      have htaken : w.store.apply w.unlinked none (.setEntities (reconcile w.store.entities es))
          supply = .ok ((store, edited), supply') := taken
      have hnew : reconcile w.store.entities es ≠ w.store.entities := new
      have hlater : store.version ≤ w₁.store.version := by
        have hkept := isKeptByEdits_version store.version
        have hkeeps : (w.subscribers.forM (tell (runScript depth)
            { version := store.version, source := .text, operation := "set_entities" })).Keeps
              fun w => store.version ≤ w.store.version :=
          keeps_tellAll hkept.toSteps (keeps_runScript hkept.toSteps depth) _ w.subscribers
        have hend := hkeeps ((w.noting c (.accepted es rs ws) supply).taking
          (.setEntities (reconcile w.store.entities es)) store supply') (Nat.le_refl store.version)
        exact (congrArg (fun p => store.version ≤ p.2.store.version) telling).mp hend
      have hversion := (apply_eq_ok htaken).2
      refine Or.inr ⟨store, ?_, hlater, ?_, f, _, rfl, name, congrArg Prod.fst telling,
        lastError_judged hk'⟩
      · simp only [World.taken?, hk, hparse, Option.bind_eq_bind, Option.bind_some, if_neg hnew,
          htaken]
      · exact Nat.lt_of_lt_of_le (Nat.lt_of_lt_of_eq (Nat.lt_succ_self _) hversion.symm) hlater

end Rejected

/-- A session whose diagram declares the same entity twice, but for case. -/
def usersTwice : World :=
  openedWorld.after [.typeText 0 (some "erDiagram\n  Users \x7b\n  \x7d\n  USERS \x7b\n  \x7d\n")
    none none true]

/-- The text is rejected, and the store is as it was. -/
theorem rejected_cases_usersTwice :
    ((flushController (runScript 1) 0).exec usersTwice).2.store = usersTwice.store ∧
      ((flushController (runScript 1) 0).exec usersTwice).2.controllers[0]?.map (·.text)
        = usersTwice.controllers[0]?.map (·.text) := by
  have hrun : ((flushController (runScript 1) 0).exec usersTwice).1.toBool = true ∧
      (((flushController (runScript 1) 0).exec usersTwice).2.controllers[0]?.map
        (·.lastError.isSome)) = some true ∧ (usersTwice.taken? 0).isNone = true := by
    decide +kernel
  obtain ⟨k, hk, hpending, hunread⟩ : ∃ k, usersTwice.controllers[0]? = some k ∧
      k.debouncer.pending = true ∧ k.parsedGeneration < k.editGeneration :=
    ⟨_, rfl, rfl, by decide⟩
  obtain ⟨hok, herror, hnone⟩ := hrun
  obtain ⟨k', hk', herror⟩ := Option.map_eq_some_iff.mp herror
  cases hflush : (flushController (runScript 1) 0).exec usersTwice with
  | mk r w' =>
    rw [hflush] at hok hk'
    cases r with
    | error f => exact absurd hok Bool.false_ne_true
    | ok read =>
      rcases rejected_cases hk hpending hunread (Or.inr ⟨read, hflush⟩) hk'
        (Option.isSome_iff_ne_none.mp herror) with ⟨-, hstore, htext⟩ | ⟨store, htaken, -⟩
      · refine ⟨hstore, ?_⟩
        rw [hk', hk, Option.map_some, Option.map_some, htext]
      · rw [htaken] at hnone
        exact absurd hnone Bool.false_ne_true

/-- A session in which a listener answers every change by adding an entity of its own, which the
diagram is about to declare. -/
def eagerListener : World :=
  World.after { supply := .strokes }
    [.subscribe "listener" [.change (.addEntity (.text "Users")) {}] false,
      .openController none none true,
      .typeText 0 (some "erDiagram\n  Users \x7b\n  \x7d\n") none none true]

/-- The text is rejected because of the name that the listener asks for; but the store, which was
empty, has taken what was read. -/
theorem taken_though_rejected :
    eagerListener.store.version = 0 ∧ eagerListener.store.entities = [] ∧
      (answer (.flush 0) eagerListener).2.controllers.map (·.lastError)
        = [some ⟨.duplicateEntity, "An entity named 'Users' already exists"⟩] ∧
      (answer (.flush 0) eagerListener).2.store.version = 1 ∧
      (answer (.flush 0) eagerListener).2.store.entities.map Entity.name = ["Users"] := by
  decide +kernel

end DiagramSync
