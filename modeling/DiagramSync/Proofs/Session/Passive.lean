import DiagramSync.Proofs.Session.InStep
import DiagramSync.Proofs.Session.Unchanged

/-!
# Sessions with passive listeners

There may be any number of controllers, each with a resolver of its own.  As long as all listeners
are passive, only two things happen to a controller that is not asked for anything: it hears of an
edit from elsewhere if it is subscribed, and then it writes its text anew; and nothing comes of it
that another controller reads its text.

* `World.LeavesOthers` — nothing was done to the other controllers
* `World.reading?` — what a controller would read of its text
* `World.AfterReading` — what becomes of a session in which a controller reads
* `leavesOthers_readEdit`, **`afterReading_wake`** — reading does no more than that
* `Request.terms?` — the terms of a request that asks for an edit
* `World.AfterEdit`, **`afterEdit_answer`** — what becomes of a session when somebody asks for one
-/

namespace DiagramSync

/-! ## Other controllers -/

/-- From the session `w` to the session `w'` nothing was done to any controller but the one with the
number `c`. -/
structure World.LeavesOthers (c : Nat) (w w' : World) : Prop where
  /-- The same subscribers are told of changes. -/
  subscribers : w'.subscribers = w.subscribers
  /-- The listeners are still passive. -/
  passive : ∀ l ∈ w'.listeners, l.IsPassive
  /-- The other controllers are as they were. -/
  others : ∀ d, d ≠ c → w'.controllers[d]? = w.controllers[d]?

namespace World.LeavesOthers

variable {c : Nat} {w w₁ w₂ : World}

lemma refl (hw : ∀ l ∈ w.listeners, l.IsPassive) : w.LeavesOthers c w :=
  ⟨rfl, hw, fun _ _ => rfl⟩

lemma trans (h₁ : w.LeavesOthers c w₁) (h₂ : w₁.LeavesOthers c w₂) : w.LeavesOthers c w₂ :=
  ⟨h₂.subscribers.trans h₁.subscribers, h₂.passive,
    fun d hd => (h₂.others d hd).trans (h₁.others d hd)⟩

/-- Ids may have been drawn for what a controller notes. -/
lemma noting (hw : ∀ l ∈ w.listeners, l.IsPassive) (supply : Supply)
    (g : Controller → Controller) :
    w.LeavesOthers c (({ w with supply } : World).modifyController c g) :=
  ⟨rfl, hw, fun _ hd => getElem?_modifyController_ne hd g { w with supply }⟩

lemma modifyController (hw : ∀ l ∈ w.listeners, l.IsPassive) (g : Controller → Controller) :
    w.LeavesOthers c (w.modifyController c g) :=
  noting hw w.supply g

end World.LeavesOthers

/-! ## Reading -/

/-- What a controller would read of its text now, if there is an edit that it has not read. -/
def World.reading? (c : Nat) (w : World) : Option ParseOutcome := do
  let k ← w.controllers[c]?
  if k.parsedGeneration < k.editGeneration then
    some (parse k.resolver w.unlinked w.supply k.text).1
  else
    none

section Reads

variable {w : World} {c : Nat} {k : Controller} (hk : w.controllers[c]? = some k)
include hk

lemma reading?_of_unread (h : k.parsedGeneration < k.editGeneration) :
    w.reading? c = some (parse k.resolver w.unlinked w.supply k.text).1 := by
  simp only [World.reading?, hk, Option.bind_eq_bind, Option.bind_some, if_pos h]

lemma reading?_of_read (h : ¬ k.parsedGeneration < k.editGeneration) : w.reading? c = none := by
  simp only [World.reading?, hk, Option.bind_eq_bind, Option.bind_some, if_neg h]

end Reads

/-- The session `w'` is what becomes of `w` when the delay of the controller with the number `c`
ends: nothing is pending any more, and if there was something to read, then it has noted what it
read. -/
structure World.AfterReading (c : Nat) (w w' : World) : Prop extends World.LeavesOthers c w w' where
  /-- The controller keeps its text and has noted what it read. -/
  own : ∀ k, w.controllers[c]? = some k → ∃ k', w'.controllers[c]? = some k' ∧ k'.text = k.text ∧
    k'.editGeneration = k.editGeneration ∧ k'.debouncer.pending = false ∧
    k'.lastResult = (w.reading? c).or k.lastResult

section Reading

variable {react : React} (hreact : ∀ w, (react []).exec w = (.ok (), w)) {w : World}

/-- A controller that rejects an edit notes an error, and nothing else. -/
lemma leavesOthers_reject (hw : ∀ l ∈ w.listeners, l.IsPassive) (c : Nat) (error : ParseError) :
    w.LeavesOthers c ((reject c error).exec w).2 ∧ ∀ k, w.controllers[c]? = some k →
      ((reject c error).exec w).2.controllers[c]? = some { k with lastError := some error } := by
  obtain ⟨events, hreject⟩ := exec_reject c error w
  rw [hreject]
  obtain ⟨hsubscribers, hpassive, hothers⟩ := World.LeavesOthers.modifyController hw
    (c := c) fun k => { k with lastError := some error }
  exact ⟨⟨hsubscribers, hpassive, hothers⟩, fun k hk => getElem?_modifyController hk _⟩

include hreact

/-- Whatever comes of a model that was read, the controller notes an error at most. -/
lemma leavesOthers_applyEntities (hw : ∀ l ∈ w.listeners, l.IsPassive) (c : Nat)
    (es : List Entity) : w.LeavesOthers c ((applyEntities react c es).exec w).2 ∧
      ∀ k, w.controllers[c]? = some k → ∃ lastError,
        ((applyEntities react c es).exec w).2.controllers[c]? = some { k with lastError } := by
  by_cases hsame : reconcile w.store.entities es = w.store.entities
  · rw [exec_applyEntities_same react c hsame]
    exact ⟨.modifyController hw _, fun k hk => ⟨none, getElem?_modifyController hk _⟩⟩
  rw [exec_applyEntities_changed react c hsame]
  cases happly : w.store.apply w.unlinked none (.setEntities (reconcile w.store.entities es))
      w.supply with
  | error f =>
    rw [exec_commit_refused happly]
    dsimp only
    split_ifs
    · obtain ⟨hreject, hown⟩ := leavesOthers_reject hw c ⟨.duplicateEntity, f.message⟩
      exact ⟨hreject, fun k hk => ⟨_, hown k hk⟩⟩
    · exact ⟨.refl hw, fun k hk => ⟨k.lastError, hk⟩⟩
  | ok p =>
    obtain ⟨⟨store, edited⟩, supply⟩ := p
    have hcommit := exec_commit hreact hw .text happly
    rw [heardBy_text] at hcommit
    rw [hcommit]
    refine ⟨⟨rfl, hw, fun d hd => ?_⟩, fun k hk => ⟨none, ?_⟩⟩
    · exact getElem?_modifyController_ne hd _ _
    · exact getElem?_modifyController (w := { w with
        store, supply, commits := _, events := _ }) hk _

lemma leavesOthers_conclude (hw : ∀ l ∈ w.listeners, l.IsPassive) (c : Nat)
    (outcome : ParseOutcome) : w.LeavesOthers c ((conclude react c outcome).exec w).2 ∧
      ∀ k, w.controllers[c]? = some k → ∃ lastError,
        ((conclude react c outcome).exec w).2.controllers[c]? = some { k with lastError } := by
  cases outcome with
  | rejected error ws =>
    obtain ⟨hreject, hown⟩ := leavesOthers_reject hw c error
    exact ⟨hreject, fun k hk => ⟨_, hown k hk⟩⟩
  | accepted es rs ws => exact leavesOthers_applyEntities hreact hw c es

/-- A controller that reads its text, whatever the number of the edit, leaves the others alone. -/
lemma leavesOthers_readEdit (hw : ∀ l ∈ w.listeners, l.IsPassive) (c : Nat) (generation : Int) :
    w.LeavesOthers c ((readEdit react c generation).exec w).2 := by
  cases hk : w.controllers[c]? with
  | none =>
    rw [readEdit, exec_bind_ok (exec_get w), hk]
    exact .refl hw
  | some k =>
    by_cases hdone : generation ≠ k.editGeneration ∨ generation ≤ k.parsedGeneration
    · rw [exec_readEdit_done react hk hdone]
      exact .refl hw
    · obtain rfl : generation = k.editGeneration := by omega
      have hunread : k.parsedGeneration < k.editGeneration := by omega
      cases hparse : parse k.resolver w.unlinked w.supply k.text with
      | mk outcome supply =>
        rw [exec_readEdit_unread react hk hunread hparse]
        have hnote := World.LeavesOthers.noting (c := c) hw supply fun k => { k with
          lastResult := some outcome, parsedGeneration := k.editGeneration }
        exact hnote.trans (leavesOthers_conclude hreact hnote.passive c outcome).1

/-- **When the delay of a controller ends, it reads its text and does nothing to the others.** -/
theorem afterReading_wake (hw : ∀ l ∈ w.listeners, l.IsPassive) (c : Nat) :
    w.AfterReading c ((wake react c).exec w).2 := by
  cases hk : w.controllers[c]? with
  | none =>
    rw [exec_wake_none react hk]
    exact ⟨.modifyController hw _, fun k hk' => absurd (hk'.symm.trans hk) (Option.some_ne_none k)⟩
  | some k =>
    by_cases hunread : k.parsedGeneration < k.editGeneration
    · cases hparse : parse k.resolver w.unlinked w.supply k.text with
      | mk outcome supply =>
        rw [exec_wake_unread react hk hunread hparse]
        have hnote : w.LeavesOthers c (w.noting c outcome supply) := .noting hw supply _
        obtain ⟨hconclude, hown⟩ := leavesOthers_conclude hreact hnote.passive c outcome
        refine ⟨hnote.trans hconclude, fun k₀ hk₀ => ?_⟩
        obtain rfl := Option.some.inj (hk.symm.trans hk₀)
        obtain ⟨lastError, herror⟩ :=
          hown _ (getElem?_modifyController (w := { w with supply }) hk _)
        refine ⟨_, herror, rfl, rfl, rfl, ?_⟩
        rw [reading?_of_unread hk hunread, hparse]
        rfl
    · rw [exec_wake_done react hk hunread]
      refine ⟨.modifyController hw _, fun k₀ hk₀ => ?_⟩
      obtain rfl := Option.some.inj (hk.symm.trans hk₀)
      refine ⟨_, getElem?_modifyController hk _, rfl, rfl, rfl, ?_⟩
      rw [reading?_of_read hk hunread]
      rfl

end Reading

/-! ## Edits of the store -/

/-- The terms of a request that asks for an edit of the store. -/
def Request.terms? : Request → Option Terms
  | .change _ terms => some terms
  | .addPointing _ _ _ terms => some terms
  | .replaceAll _ terms => some terms
  | _ => none

/-- The session `w'` is what becomes of `w` when somebody has asked for an edit from elsewhere: the
edit was refused, and nothing was done to the store and the controllers; or it was made, and all
controllers that are subscribed have written their texts anew. -/
structure World.AfterEdit (w w' : World) : Prop where
  /-- The same subscribers are told of changes. -/
  subscribers : w'.subscribers = w.subscribers
  /-- The listeners are still passive. -/
  passive : ∀ l ∈ w'.listeners, l.IsPassive
  /-- The edit was refused or made. -/
  outcome : (w'.store = w.store ∧ w'.controllers = w.controllers) ∨
    (w'.store.version = w.store.version + 1 ∧ ∀ c, w'.controllers[c]? = w.controllers[c]?.map fun k =>
      if Subscriber.controller c ∈ w.subscribers then k.rewrite w'.store.entities else k)

section Edits

variable {react : React} (hreact : ∀ w, (react []).exec w = (.ok (), w)) {w : World}

include hreact in
lemma afterEdit_commit (hw : ∀ l ∈ w.listeners, l.IsPassive) {source : ChangeSource}
    (hsource : source ≠ .text) (expected : Option Int) (edit : Edit) :
    w.AfterEdit ((commit react source expected edit).exec w).2 := by
  cases happly : w.store.apply w.unlinked expected edit w.supply with
  | error f =>
    rw [exec_commit_refused happly]
    exact ⟨rfl, hw, Or.inl ⟨rfl, rfl⟩⟩
  | ok p =>
    obtain ⟨⟨store, edited⟩, supply⟩ := p
    have hcommit := exec_commit hreact hw source happly
    rw [hcommit]
    refine ⟨rfl, hw, Or.inr ⟨(apply_eq_ok happly).2, fun c => ?_⟩⟩
    have hhear : Controller.hear source store.entities = Controller.rewrite store.entities :=
      funext fun _ => if_neg hsource
    rw [getElem?_heardBy, hhear]

include hreact in
lemma afterEdit_requestedEdit (hw : ∀ l ∈ w.listeners, l.IsPassive) {ownSource : ChangeSource}
    (hown : ownSource ≠ .text) {terms : Terms} (hterms : terms.IsElsewhere) {x : Action Edit}
    (hx : ∃ supply, (x.exec w).2 = { w with supply }) :
    w.AfterEdit ((requestedEdit react ownSource terms x).exec w).2 := by
  obtain ⟨supply, hx⟩ := hx
  rcases requestedEdit_cases react hown hterms x w with
    hsame | hsame | ⟨source, edit, expected, w', hsource, hedit, hcommit⟩
  · rw [hsame]
    exact ⟨rfl, hw, Or.inl ⟨rfl, rfl⟩⟩
  · rw [hsame, hx]
    exact ⟨rfl, hw, Or.inl ⟨rfl, rfl⟩⟩
  · rw [hedit] at hx
    obtain rfl : w' = { w with supply } := hx
    rw [hcommit]
    obtain ⟨hsubscribers, hpassive, houtcome⟩ :=
      afterEdit_commit hreact (w := { w with supply }) hw hsource expected edit
    exact ⟨hsubscribers, hpassive, houtcome⟩

/-- Terms come with an edit that is asked for. -/
lemma terms?_eq_some {r : Request} {terms : Terms} (h : r.terms? = some terms) :
    ∃ q, r.asking? = some q ∧ q.terms = terms := by
  cases r <;> simp only [Request.terms?, Option.some.injEq, reduceCtorEq] at h <;> subst h <;>
    exact ⟨_, rfl, rfl⟩

include hreact in
lemma afterEdit_perform (hw : ∀ l ∈ w.listeners, l.IsPassive) {r : Request} {terms : Terms}
    (hr : r.terms? = some terms) (hterms : terms.IsElsewhere) :
    w.AfterEdit ((perform react r).exec w).2 := by
  obtain ⟨q, hq, rfl⟩ := terms?_eq_some hr
  rw [perform_asking react hq, exec_map]
  exact afterEdit_requestedEdit hreact hw (ownSource_asking hq) hterms (exec_asking hq w).1

/-- **An edit that somebody asks for is made and heard of, or it is refused.** -/
theorem afterEdit_answer (hw : ∀ l ∈ w.listeners, l.IsPassive) {r : Request} {terms : Terms}
    (hr : r.terms? = some terms) (hterms : terms.IsElsewhere) : w.AfterEdit (answer r w).2 := by
  obtain ⟨hsubscribers, hpassive, houtcome⟩ := afterEdit_perform
    (exec_runScript_nil (w.weight + r.weight)) (w := { w with events := [] }) hw hr hterms
  exact ⟨hsubscribers, hpassive, houtcome⟩

end Edits

end DiagramSync
