import DiagramSync.Proofs.Session.Chronicle
import DiagramSync.Proofs.Session.History

/-!
# Which edits of a text come to be read

An edit of the text is noted before its delay is started, and outside a running loop the delay
cannot be started.  The edit is then refused, but it stays noted: the text is the new one, and the
edit has been counted.  If an older delay still runs, the text is read when that one ends.  If none
does, then nothing is pending, and the text is not read until it is edited once more, in a loop.

* `World.IsScheduled` — a delay has been started, and nothing but editing has happened since
* `World.Settles` — what a request does to a controller whose text it does not edit
* `isKeptByDeeds_settles` — whatever happens, it does no more than that
* `World.IsTracked`, `World.IsTracked.concat` — the invariant of a run, and one more request
* **`pending_iff_scheduled`** — what is pending is what has been scheduled
* `forgotten_strayEdit` — an edit outside a loop is noted, and it is not read
-/

namespace DiagramSync

/-- Among the requests is an edit of the text of the controller with the number `c` that was made in
a running loop, and nothing has been told of since but further edits, in a loop or not. -/
def World.IsScheduled (c : Nat) (w : World) (rs : List Request) : Prop :=
  ∃ before r later, rs = before ++ r :: later ∧ r.Types c true ∧
    ∀ deed ∈ (w.after (before ++ [r])).chronicle c later, deed.isTyped = true

section Scheduled

variable {c : Nat} {w : World}

lemma not_isScheduled_nil : ¬ w.IsScheduled c [] := by
  rintro ⟨before, r, later, hnil, -⟩
  exact List.append_ne_nil_of_right_ne_nil before (List.cons_ne_nil r later) hnil.symm

/-- An edit in a loop schedules, an edit outside a loop leaves what is scheduled, and so does
whatever is not told of. -/
lemma isScheduled_concat {rs : List Request} {r : Request} :
    w.IsScheduled c (rs ++ [r]) ↔ r.Types c true ∨
      (w.IsScheduled c rs ∧ ∀ deed ∈ r.deeds c (w.after rs), deed.isTyped = true) := by
  have hchronicle : ∀ before r' later, (w.after (before ++ [r'])).chronicle c (later ++ [r])
      = (w.after (before ++ [r'])).chronicle c later
        ++ r.deeds c (w.after (before ++ r' :: later)) := by
    intro before r' later
    rw [World.chronicle_concat, ← World.after_append, List.append_assoc, List.singleton_append]
  constructor
  · rintro ⟨before, r', later, hrs, htypes, hlater⟩
    rcases List.eq_nil_or_concat later with rfl | ⟨later, last, rfl⟩
    · obtain ⟨rfl, hlast⟩ := List.append_inj' hrs rfl
      obtain rfl := (List.cons.inj hlast).1
      exact Or.inl htypes
    · rw [List.concat_eq_append, ← List.cons_append, ← List.append_assoc] at hrs
      obtain ⟨rfl, hlast⟩ := List.append_inj' hrs rfl
      obtain rfl := (List.cons.inj hlast).1
      rw [List.concat_eq_append, hchronicle, List.forall_mem_append] at hlater
      exact Or.inr ⟨⟨before, r', later, rfl, htypes, hlater.1⟩, hlater.2⟩
  · rintro (htypes | ⟨⟨before, r', later, rfl, htypes, hlater⟩, hlast⟩)
    · exact ⟨rs, r, [], rfl, htypes, List.forall_mem_nil _⟩
    · refine ⟨before, r', later ++ [r], by simp, htypes, ?_⟩
      rw [hchronicle, List.forall_mem_append]
      exact ⟨hlater, hlast⟩

end Scheduled

/-! ## Requests that do not edit the text -/

/-- The session is what a request that does not edit the text of the controller with the number `c`
has made of one in which it was `k`.  If nothing is told of it, then it is as it was; otherwise
nothing is pending, and no edit of the text is told. -/
structure World.Settles (c : Nat) (k : Controller) (log : List Deed) (w : World) : Prop where
  /-- The listeners are passive. -/
  passive : ∀ l ∈ w.listeners, l.IsPassive
  /-- The controller hears of changes. -/
  subscribed : Subscriber.controller c ∈ w.subscribers
  /-- The controller is as it was, or nothing is pending. -/
  outcome : (log = [] ∧ ∃ textListeners, w.controllers[c]? = some { k with textListeners }) ∨
    (log ≠ [] ∧ (∀ deed ∈ log, deed.isTyped = false) ∧
      ∃ k', w.controllers[c]? = some k' ∧ k'.debouncer.pending = false)

namespace World.Settles

variable {c : Nat} {k : Controller} {log : List Deed} {w w' : World}

lemma exists_controller (h : w.Settles c k log) : ∃ k', w.controllers[c]? = some k' := by
  rcases h.outcome with ⟨-, _, hk⟩ | ⟨-, -, k', hk, -⟩
  · exact ⟨_, hk⟩
  · exact ⟨k', hk⟩

lemma spared (h : w.Settles c k log) (hspared : w.Spares c w') : w'.Settles c k log := by
  refine ⟨hspared.passive, hspared.subscribed, ?_⟩
  rcases h.outcome with ⟨hlog, _, hk⟩ | ⟨hlog, huntyped, k', hk, hidle⟩
  · obtain ⟨textListeners, hk'⟩ := hspared.own _ hk
    exact Or.inl ⟨hlog, textListeners, hk'⟩
  · obtain ⟨_, hk'⟩ := hspared.own _ hk
    exact Or.inr ⟨hlog, huntyped, _, hk', hidle⟩

/-- A deed after which nothing is pending is told. -/
lemma concat (h : w.Settles c k log) (hpassive : ∀ l ∈ w'.listeners, l.IsPassive)
    (hsubscribed : Subscriber.controller c ∈ w'.subscribers) {deed : Deed}
    (hdeed : deed.isTyped = false) {k' : Controller} (hk' : w'.controllers[c]? = some k')
    (hidle : k'.debouncer.pending = false) : w'.Settles c k (log ++ [deed]) := by
  have huntyped : ∀ deed ∈ log, deed.isTyped = false := by
    rcases h.outcome with ⟨rfl, -⟩ | ⟨-, huntyped, -⟩
    · exact List.forall_mem_nil _
    · exact huntyped
  refine ⟨hpassive, hsubscribed, Or.inr ⟨by simp, ?_, k', hk', hidle⟩⟩
  exact List.forall_mem_append.mpr ⟨huntyped, List.forall_mem_singleton.mpr hdeed⟩

/-- A pending edit is read, for it has not been read before. -/
lemma reading (h : w.Settles c k log)
    (hunread : k.debouncer.pending = true → k.parsedGeneration < k.editGeneration)
    (hread : w.AfterReading c w')
    (hpending : ∀ k, w.controllers[c]? = some k → k.debouncer.pending = true) :
    w'.Settles c k (log ++ w.readingDeeds c) := by
  have hsubscribed : Subscriber.controller c ∈ w'.subscribers := hread.subscribers ▸ h.subscribed
  rcases h.outcome with ⟨-, textListeners, hk⟩ | ⟨-, -, k', hk, hidle⟩
  · obtain ⟨k', hk', -, -, hidle, -⟩ := hread.own _ hk
    have hp := hpending _ hk
    have hreading := reading?_of_unread hk (hunread hp)
    rw [readingDeeds, hk, hreading]
    exact h.concat hread.passive hsubscribed rfl hk' hidle
  · exact absurd (hidle.symm.trans (hpending k' hk)) Bool.false_ne_true

/-- An edit of the store from elsewhere supersedes what was pending. -/
lemma edited (h : w.Settles c k log) (hedit : w.AfterEdit w') : w'.Settles c k
    (log ++ if w'.store.version ≠ w.store.version then [Deed.changed] else []) := by
  have hsubscribed : Subscriber.controller c ∈ w'.subscribers := hedit.subscribers ▸ h.subscribed
  rcases hedit.outcome with ⟨hstore, hcontrollers⟩ | ⟨hversion, hcontrollers⟩
  · rw [hstore, if_neg (not_not_intro rfl), List.append_nil]
    exact h.spared ⟨hedit.passive, hsubscribed, fun k hk => ⟨_, by rw [hcontrollers, hk]⟩⟩
  · rw [if_pos (by omega)]
    obtain ⟨k', hk⟩ := h.exists_controller
    have hk' := hcontrollers c
    rw [hk, Option.map_some, if_pos h.subscribed] at hk'
    exact h.concat hedit.passive hsubscribed rfl hk' (pending_rewrite _ k')

end World.Settles

/-- Whatever happens between two edits of the text, it leaves the controller as it was, or with
nothing pending. -/
lemma isKeptByDeeds_settles (c : Nat) {k : Controller}
    (hunread : k.debouncer.pending = true → k.parsedGeneration < k.editGeneration) :
    IsKeptByDeeds c fun log w => w.Settles c k log where
  passive h := h.passive
  subscribed h := h.subscribed
  opened h := h.exists_controller
  spared := World.Settles.spared
  reading h hread := h.reading hunread hread
  edited := World.Settles.edited

/-! ## Runs -/

section Runs

variable {c : Nat} {w : World} {k : Controller}

/-- What is known of the controller with the number `c` after some requests: an edit is pending if
and only if one is scheduled, what is pending is the latest edit, and where nothing has happened
since the latest edit, the text is what was typed then and it has not been read. -/
structure World.IsTracked (c : Nat) (w : World) (rs : List Request) : Prop where
  /-- The listeners are passive. -/
  passive : ∀ l ∈ (w.after rs).listeners, l.IsPassive
  /-- The controller hears of changes. -/
  subscribed : Subscriber.controller c ∈ (w.after rs).subscribers
  /-- No controller has read more edits than there were. -/
  counted : (w.after rs).IsCounted
  /-- What is pending is what has been scheduled. -/
  controller : ∃ k, (w.after rs).controllers[c]? = some k ∧
    (k.debouncer.pending = true ↔ w.IsScheduled c rs) ∧
    (k.debouncer.pending = true → (w.chronicle c rs).getLast? = some (.typed k.text)) ∧
    ∀ text, (w.chronicle c rs).getLast? = some (.typed text) →
      k.text = text ∧ k.parsedGeneration < k.editGeneration

namespace World.IsTracked

variable {rs : List Request} {r : Request}

lemma counted_concat (h : w.IsTracked c rs) (r : Request) : (w.after (rs ++ [r])).IsCounted := by
  rw [World.after_concat]
  exact keeps_answer isKeptByEdits_isCounted.toSteps h.counted r.within_any

/-- The text is edited once more. -/
lemma typed (h : w.IsTracked c rs) {inLoop : Bool} (hr : r.Types c inLoop) :
    w.IsTracked c (rs ++ [r]) := by
  obtain ⟨k, hk, hscheduled, -, -⟩ := h.controller
  obtain ⟨text, hdeeds, htyped⟩ := afterTyping_answer hk hr
  obtain ⟨k', hk', rfl, hedits, hparsed, -, hpending⟩ := htyped.own k hk
  have hcount : k.parsedGeneration ≤ k.editGeneration := h.counted k (List.mem_of_getElem? hk)
  have hloop : r.Types c true ↔ inLoop = true := by
    obtain ⟨text, replacement, addition, rfl⟩ := hr.eq
    exact ⟨fun h => h.2, fun h => ⟨rfl, h⟩⟩
  have hlast : (w.chronicle c (rs ++ [r])).getLast? = some (.typed k'.text) := by
    rw [World.chronicle_concat, hdeeds, List.getLast?_concat]
  refine ⟨?_, ?_, h.counted_concat r, k', ?_, ?_, fun _ => hlast, fun text htext => ?_⟩
  · rw [World.after_concat, htyped.listeners]
    exact h.passive
  · rw [World.after_concat, htyped.subscribers]
    exact h.subscribed
  · rw [World.after_concat]
    exact hk'
  · rw [hpending, Bool.or_eq_true, hscheduled, isScheduled_concat, hloop, hdeeds]
    simp [Deed.isTyped]
  · rw [hlast] at htext
    refine ⟨Deed.typed.inj (Option.some.inj htext), ?_⟩
    omega

/-- Something else is asked for. -/
lemma untyped (h : w.IsTracked c rs) (hr : r.IsPeaceful c) (hother : ¬ r.Types c true) :
    w.IsTracked c (rs ++ [r]) := by
  obtain ⟨k, hk, hscheduled, hlatest, hunread⟩ := h.controller
  have hpending : k.debouncer.pending = true → k.parsedGeneration < k.editGeneration :=
    fun hp => (hunread k.text (hlatest hp)).2
  have hstart : (w.after rs).Settles c k [] :=
    ⟨h.passive, h.subscribed, Or.inl ⟨rfl, k.textListeners, hk⟩⟩
  have hsettles := kept_answer (isKeptByDeeds_settles c hpending) hstart hr hother
  have hchronicle := World.chronicle_concat c w rs r
  rw [List.nil_append, ← World.after_concat] at hsettles
  refine ⟨hsettles.passive, hsettles.subscribed, h.counted_concat r, ?_⟩
  rcases hsettles.outcome with ⟨hnone, _, hk'⟩ | ⟨hsome, huntyped, k', hk', hidle⟩
  · -- nothing is told, so that the chronicle ends as before
    rw [hnone, List.append_nil] at hchronicle
    refine ⟨_, hk', ?_, ?_, ?_⟩
    · rw [isScheduled_concat, hnone]
      simpa [hother] using hscheduled
    · rw [hchronicle]
      exact hlatest
    · rw [hchronicle]
      exact hunread
  · -- the chronicle ends with a deed that is no edit of the text
    obtain ⟨earlier, last, hdeeds⟩ := (List.eq_nil_or_concat _).resolve_left hsome
    rw [List.concat_eq_append] at hdeeds
    have hlast : last.isTyped = false := huntyped last (by simp [hdeeds])
    refine ⟨k', hk', ?_, fun hp => absurd (hidle.symm.trans hp) Bool.false_ne_true, ?_⟩
    · rw [hidle, isScheduled_concat, hdeeds]
      simp [hother, hlast]
    · intro text htext
      rw [hchronicle, hdeeds, ← List.append_assoc, List.getLast?_concat] at htext
      obtain rfl := Option.some.inj htext
      exact absurd hlast.symm Bool.false_ne_true

/-- One more request is answered. -/
lemma concat (h : w.IsTracked c rs) (hr : r.IsPeaceful c ∨ r.Types c false) :
    w.IsTracked c (rs ++ [r]) := by
  by_cases htypes : ∃ inLoop, r.Types c inLoop
  · obtain ⟨_, htypes⟩ := htypes
    exact h.typed htypes
  · have hother := not_exists.mp htypes
    exact h.untyped (hr.resolve_right (hother false)) (hother true)

end World.IsTracked

/-- **An edit of the text is pending exactly if it has been scheduled.**  In a session with passive
listeners, in which others edit the store and their own texts as they like and in which the text of
the controller is edited in a running loop or outside, a reading is pending if and only if the
delay was started by an edit in a loop since the last reading and the last edit of the store from
elsewhere.  What is pending is the latest edit.  As long as the latest edit has neither been read
nor superseded, it is the text of the controller and counts as unread, be it pending or not. -/
theorem pending_iff_scheduled (hpassive : ∀ l ∈ w.listeners, l.IsPassive)
    (hk : w.controllers[c]? = some k) (hsubscribed : Subscriber.controller c ∈ w.subscribers)
    (hidle : k.debouncer.pending = false) (hcounted : w.IsCounted) {rs : List Request}
    (hrs : ∀ r ∈ rs, r.IsPeaceful c ∨ r.Types c false) :
    ∃ k', (w.after rs).controllers[c]? = some k' ∧
      (k'.debouncer.pending = true ↔ w.IsScheduled c rs) ∧
      (k'.debouncer.pending = true → (w.chronicle c rs).getLast? = some (.typed k'.text)) ∧
      ∀ text, (w.chronicle c rs).getLast? = some (.typed text) →
        k'.text = text ∧ k'.parsedGeneration < k'.editGeneration := by
  have htracked : w.IsTracked c rs := by
    induction rs using List.reverseRecOn with
    | nil =>
      have hnothing : k.debouncer.pending = true → False := fun hp =>
        Bool.false_ne_true (hidle.symm.trans hp)
      exact ⟨hpassive, hsubscribed, hcounted, k, hk,
        ⟨fun hp => (hnothing hp).elim, fun hs => (not_isScheduled_nil hs).elim⟩,
        fun hp => (hnothing hp).elim, nofun⟩
    | append_singleton rs r ih =>
      rw [List.forall_mem_append] at hrs
      exact (ih hrs.1).concat (hrs.2 r List.mem_cons_self)
  exact htracked.controller

end Runs

/-- The text is edited in a loop and then outside; when the delay has ended, it is edited outside a
loop once more. -/
def strayRequests : List Request :=
  [.typeText 0 (some "erDiagram\n  Users \x7b\n  \x7d\n") none none true,
    .typeText 0 none none (some "\n  Posts \x7b\n  \x7d\n") false,
    .advance 500,
    .typeText 0 none none (some "\n  Sites \x7b\n  \x7d\n") false]

/-- The second edit is pending, for the delay of the first one runs; the last one is noted but not
scheduled. -/
theorem pending_iff_scheduled_strayRequests :
    openedWorld.IsScheduled 0 (strayRequests.take 2) ∧
      ¬ openedWorld.IsScheduled 0 strayRequests ∧
      ∃ k, (openedWorld.after strayRequests).controllers[0]? = some k ∧
        (openedWorld.chronicle 0 strayRequests).getLast? = some (.typed k.text) ∧
        k.parsedGeneration < k.editGeneration := by
  have hordinary : ∀ r ∈ strayRequests, r.IsPeaceful 0 ∨ r.Types 0 false := by
    simp [strayRequests, Request.IsPeaceful, Request.Types, Request.terms?]
  have hcounted : openedWorld.IsCounted := by
    intro k hk
    rw [List.mem_singleton.mp hk]
    exact Nat.le_refl 0
  have hscheduled := fun (rs : List Request) (hrs : ∀ r ∈ rs, r.IsPeaceful 0 ∨ r.Types 0 false) =>
    pending_iff_scheduled (w := openedWorld) (c := 0) (k := {
        text := generate [], resolver := .byLabel, debouncer := ⟨400, none⟩, notifies := true })
      (fun _ hl => absurd hl List.not_mem_nil) rfl List.mem_cons_self rfl hcounted hrs
  have hrun : ((openedWorld.after (strayRequests.take 2)).controllers[0]?.map
        fun k => k.debouncer.pending) = some true ∧
      ((openedWorld.after strayRequests).controllers[0]?.map
        fun k => k.debouncer.pending) = some false ∧
      ((openedWorld.after strayRequests).controllers[0]?.map fun k => Deed.typed k.text)
        = (openedWorld.chronicle 0 strayRequests).getLast? := by
    decide +kernel
  obtain ⟨hfirst, hlast, htyped⟩ := hrun
  refine ⟨?_, ?_, ?_⟩
  · obtain ⟨k, hk, hiff, -⟩ := hscheduled (strayRequests.take 2)
      fun r hr => hordinary r (List.mem_of_mem_take hr)
    rw [hk] at hfirst
    exact hiff.mp (Option.some.inj hfirst)
  · obtain ⟨k, hk, hiff, -⟩ := hscheduled strayRequests hordinary
    rw [hk] at hlast
    exact fun h => Bool.false_ne_true ((Option.some.inj hlast).symm.trans (hiff.mpr h))
  · obtain ⟨k, hk, -, -, hunread⟩ := hscheduled strayRequests hordinary
    rw [hk] at htyped
    exact ⟨k, hk, htyped.symm, (hunread k.text htyped.symm).2⟩

/-- An edit of the text outside a loop. -/
def strayEdit : Request :=
  .typeText 0 (some "erDiagram\n  Users \x7b\n  \x7d\n") none none false

/-- The edit is refused, but the text is the new one, and the edit counts as unread.  Nothing is
pending: the controller does not read it when it is told to, nor when time goes by, and the store
stays empty while the text declares an entity. -/
theorem forgotten_strayEdit :
    (answer strayEdit openedWorld).1 = .error .noEventLoop ∧
      (openedWorld.chronicle 0 [strayEdit]).getLast?
        = some (.typed "erDiagram\n  Users \x7b\n  \x7d\n") ∧
      ((openedWorld.after [strayEdit]).controllers[0]?.map fun k =>
        (k.text, k.debouncer.pending, k.editGeneration, k.parsedGeneration))
        = some ("erDiagram\n  Users \x7b\n  \x7d\n", false, 1, 0) ∧
      openedWorld.chronicle 0 [strayEdit, .flush 0, .advance 10000]
        = openedWorld.chronicle 0 [strayEdit] ∧
      (openedWorld.after [strayEdit, .flush 0, .advance 10000]).store.entities = [] :=
  ⟨rfl, by decide +kernel⟩

end DiagramSync
