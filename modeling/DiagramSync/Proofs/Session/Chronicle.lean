import DiagramSync.Proofs.Session.Deeds

/-!
# What a controller reads is what was typed last

From the chronicle of a controller one can tell whether an edit of its text ever came to be read
after the store had been changed.

* `ReadsFollowTyping` — nothing happened between the reading of a text and the edit that led to it
* `World.Chronicled` — the invariant of a session and its chronicle so far
* `World.Chronicled.afterTyping`, `isKeptByDeeds_chronicled` — it is kept with an edit of the text,
  and between two of them
* `chronicled_answer` — what a request does
* **`reads_follow_typing`** — what is read is the latest edit, and the store is as it was then
-/

namespace DiagramSync

/-! ## Chronicles -/

/-- Whatever was read had been typed just before, and nothing had happened since. -/
def ReadsFollowTyping (log : List Deed) : Prop :=
  ∀ earlier text outcome later, log = earlier ++ .read text outcome :: later →
    earlier.getLast? = some (.typed text)

/-- The outcome of the last reading. -/
def lastOutcome (first : Option ParseOutcome) (log : List Deed) : Option ParseOutcome :=
  log.foldl (fun last deed => deed.outcome?.or last) first

section Logs

variable {log : List Deed}

lemma readsFollowTyping_nil : ReadsFollowTyping [] := by
  intro earlier text outcome later h
  exact absurd h.symm (List.append_ne_nil_of_right_ne_nil _ (List.cons_ne_nil _ _))

/-- A chronicle goes on with one more deed. -/
lemma ReadsFollowTyping.concat (h : ReadsFollowTyping log) {deed : Deed}
    (hdeed : ∀ text outcome, deed = .read text outcome → log.getLast? = some (.typed text)) :
    ReadsFollowTyping (log ++ [deed]) := by
  intro earlier text outcome later hlog
  rcases List.eq_nil_or_concat later with rfl | ⟨later, last, rfl⟩
  · obtain ⟨rfl, hlast⟩ := List.append_inj' hlog rfl
    exact hdeed text outcome (List.cons.inj hlast).1
  · rw [List.concat_eq_append, ← List.cons_append, ← List.append_assoc] at hlog
    exact h earlier text outcome later (List.append_inj' hlog rfl).1

lemma lastOutcome_concat (first : Option ParseOutcome) (log : List Deed) (deed : Deed) :
    lastOutcome first (log ++ [deed]) = deed.outcome?.or (lastOutcome first log) := by
  rw [lastOutcome, List.foldl_append]
  rfl

end Logs

/-! ## The invariant -/

/-- The chronicle of the controller with the number `c` tells what has become of it since it was as
the controller `start`. -/
structure World.Chronicled (c : Nat) (start : Controller) (log : List Deed) (w : World) : Prop where
  /-- The listeners are passive. -/
  passive : ∀ l ∈ w.listeners, l.IsPassive
  /-- The controller hears of changes. -/
  subscribed : Subscriber.controller c ∈ w.subscribers
  /-- An edit that is pending is the last thing that happened, and the controller has noted the
  outcome of the last reading. -/
  controller : ∃ k, w.controllers[c]? = some k ∧
    (k.debouncer.pending = true → log.getLast? = some (.typed k.text)) ∧
    k.lastResult = lastOutcome start.lastResult log ∧
    k.editGeneration = start.editGeneration + log.countP (·.isTyped)
  /-- Whatever was read had been typed just before. -/
  answered : ReadsFollowTyping log

namespace World.Chronicled

variable {c : Nat} {start : Controller} {log : List Deed} {w w' : World}

/-- Nothing happened that the chronicle tells of. -/
lemma spared (h : w.Chronicled c start log) (hspared : w.Spares c w') :
    w'.Chronicled c start log := by
  obtain ⟨k, hk, hown⟩ := h.controller
  obtain ⟨_, hk'⟩ := hspared.own k hk
  exact ⟨hspared.passive, hspared.subscribed, ⟨_, hk', hown⟩, h.answered⟩

/-- A pending edit is read. -/
lemma afterReading (h : w.Chronicled c start log) (hread : w.AfterReading c w')
    (hpending : ∀ k, w.controllers[c]? = some k → k.debouncer.pending = true) :
    w'.Chronicled c start (log ++ w.readingDeeds c) := by
  obtain ⟨k, hk, hlast, hresult, hedits⟩ := h.controller
  obtain ⟨k', hk', htext, hedits', hidle, hresult'⟩ := hread.own k hk
  have hsubscribed : Subscriber.controller c ∈ w'.subscribers := hread.subscribers ▸ h.subscribed
  have hnothing : k'.debouncer.pending = true → False := fun hp => by
    rw [hidle] at hp
    exact Bool.false_ne_true hp
  rw [World.readingDeeds, hk]
  cases hreading : w.reading? c with
  | none =>
    rw [hreading] at hresult'
    rw [List.append_nil]
    exact ⟨hread.passive, hsubscribed, ⟨k', hk', fun hp => (hnothing hp).elim,
      hresult'.trans hresult, hedits'.trans hedits⟩, h.answered⟩
  | some outcome =>
    rw [hreading] at hresult'
    refine ⟨hread.passive, hsubscribed, ⟨k', hk', fun hp => (hnothing hp).elim, ?_, ?_⟩, ?_⟩
    · rw [lastOutcome_concat, hresult']
      rfl
    · rw [hedits', hedits, List.countP_append]
      rfl
    · refine h.answered.concat fun text outcome' hdeed => ?_
      obtain ⟨rfl, -⟩ := Deed.read.inj hdeed
      exact hlast (hpending k hk)

/-- The store is edited from elsewhere. -/
lemma afterEdit (h : w.Chronicled c start log) (hedit : w.AfterEdit w') :
    w'.Chronicled c start
      (log ++ if w'.store.version ≠ w.store.version then [Deed.changed] else []) := by
  have hsubscribed : Subscriber.controller c ∈ w'.subscribers := hedit.subscribers ▸ h.subscribed
  rcases hedit.outcome with ⟨hstore, hcontrollers⟩ | ⟨hversion, hcontrollers⟩
  · rw [hstore, if_neg (not_not_intro rfl), List.append_nil]
    exact h.spared ⟨hedit.passive, hsubscribed, fun k hk => ⟨_, by rw [hcontrollers, hk]⟩⟩
  · rw [if_pos (by omega)]
    obtain ⟨k, hk, -, hresult, hedits⟩ := h.controller
    have hk' := hcontrollers c
    rw [hk, Option.map_some, if_pos h.subscribed] at hk'
    refine ⟨hedit.passive, hsubscribed, ⟨_, hk', fun hp => ?_, ?_, ?_⟩, ?_⟩
    · rw [pending_rewrite] at hp
      exact absurd hp Bool.false_ne_true
    · rw [lastOutcome_concat, lastResult_rewrite]
      exact hresult
    · rw [editGeneration_rewrite, hedits, List.countP_append]
      rfl
    · exact h.answered.concat nofun

/-- The text is edited, and the edit is pending from then on. -/
lemma afterTyping (h : w.Chronicled c start log) {text : String}
    (htyped : w.AfterTyping c true text w') : w'.Chronicled c start (log ++ [.typed text]) := by
  obtain ⟨k, hk, -, hresult, hedits⟩ := h.controller
  obtain ⟨k', hk', rfl, hedits', -, hresult', -⟩ := htyped.own k hk
  refine ⟨htyped.listeners ▸ h.passive, htyped.subscribers ▸ h.subscribed,
    ⟨k', hk', fun _ => List.getLast?_concat, ?_, ?_⟩, h.answered.concat nofun⟩
  · rw [lastOutcome_concat, hresult']
    exact hresult
  · rw [List.countP_append, ← Nat.add_assoc, ← hedits]
    exact hedits'

end World.Chronicled

/-- The chronicle goes on whatever happens between two edits of the text. -/
lemma isKeptByDeeds_chronicled (c : Nat) (start : Controller) :
    IsKeptByDeeds c fun log w => w.Chronicled c start log where
  passive h := h.passive
  subscribed h := h.subscribed
  opened h := h.controller.imp fun _ hk => hk.1
  spared := World.Chronicled.spared
  reading := World.Chronicled.afterReading
  edited := World.Chronicled.afterEdit

/-! ## Requests -/

section Requests

variable {c : Nat} {start : Controller} {log : List Deed} {w : World}

/-- **The chronicle goes on with every request.** -/
theorem chronicled_answer (h : w.Chronicled c start log) {r : Request} (hr : r.IsPeaceful c) :
    (answer r w).2.Chronicled c start (log ++ r.deeds c w) := by
  by_cases htypes : r.Types c true
  · obtain ⟨k, hk, -⟩ := h.controller
    obtain ⟨text, hdeeds, htyped⟩ := afterTyping_answer hk htypes
    rw [hdeeds]
    exact h.afterTyping htyped
  · exact kept_answer (isKeptByDeeds_chronicled c start) h hr htypes

/-- The chronicle goes on with every run. -/
lemma chronicled_after (h : w.Chronicled c start log) {rs : List Request}
    (hrs : ∀ r ∈ rs, r.IsPeaceful c) :
    (w.after rs).Chronicled c start (log ++ w.chronicle c rs) := by
  induction rs generalizing w log with
  | nil =>
    rw [World.chronicle, List.append_nil]
    exact h
  | cons r rs ih =>
    rw [World.after_cons, World.chronicle, ← List.append_assoc]
    exact ih (chronicled_answer h (hrs r List.mem_cons_self))
      fun r' hr' => hrs r' (List.mem_cons_of_mem r hr')

/-- **What a controller reads is the latest edit of its text, and nothing has happened to the store
since.**  In a session with passive listeners, in which others edit the store and their own texts as
they like, the controller reads no text but the one that was typed last, reads it at most once, and
reads it only if no edit of the store from elsewhere has been made in between.  When such an edit is
made, the text is written for the new entities, and nothing is pending.  The chronicle leaves out
nothing: its last outcome is the one that the controller has noted, and it tells of as many edits of
the text as the controller has counted. -/
theorem reads_follow_typing {k : Controller} (hpassive : ∀ l ∈ w.listeners, l.IsPassive)
    (hk : w.controllers[c]? = some k) (hsubscribed : Subscriber.controller c ∈ w.subscribers)
    (hidle : k.debouncer.pending = false) {rs : List Request} (hrs : ∀ r ∈ rs, r.IsPeaceful c) :
    ReadsFollowTyping (w.chronicle c rs) ∧
      (∃ k', (w.after rs).controllers[c]? = some k' ∧
        k'.lastResult = lastOutcome k.lastResult (w.chronicle c rs) ∧
        k'.editGeneration = k.editGeneration + (w.chronicle c rs).countP (·.isTyped)) ∧
      ∀ r : Request, r.IsPeaceful c → Deed.changed ∈ r.deeds c (w.after rs) →
        ∃ k', (answer r (w.after rs)).2.controllers[c]? = some k' ∧
          k'.text = generate (answer r (w.after rs)).2.store.entities ∧
          k'.debouncer.pending = false := by
  have hstart : w.Chronicled c k [] := by
    refine ⟨hpassive, hsubscribed, ⟨k, hk, fun hp => ?_, rfl, rfl⟩, readsFollowTyping_nil⟩
    exact absurd (hidle.symm.trans hp) Bool.false_ne_true
  have hend := chronicled_after hstart hrs
  rw [List.nil_append] at hend
  refine ⟨hend.answered, ?_, fun r hr hchanged => ?_⟩
  · obtain ⟨k', hk', -, hresult, hedits⟩ := hend.controller
    exact ⟨k', hk', hresult, hedits⟩
  · obtain ⟨hterms, hversion⟩ := terms?_of_changed hchanged
    obtain ⟨terms, hterms⟩ := Option.isSome_iff_exists.mp hterms
    have hedit := afterEdit_answer hend.passive hterms (hr.elsewhere hterms)
    obtain ⟨k', hk', -⟩ := hend.controller
    rcases hedit.outcome with ⟨hstore, -⟩ | ⟨-, hcontrollers⟩
    · exact absurd (congrArg Store.version hstore) hversion
    · have hrewritten := hcontrollers c
      rw [hk', Option.map_some, if_pos hend.subscribed] at hrewritten
      exact ⟨_, hrewritten, text_rewrite _ k', pending_rewrite _ k'⟩

end Requests

/-- The text is edited, but before the delay ends somebody else adds an entity; it is edited once
more, and this time it is read. -/
def contestedRequests : List Request :=
  [.typeText 0 (some "erDiagram\n    Posts \x7b\n    \x7d\n") none none true,
    .change (.addEntity (.text "Users")) {},
    .advance 500,
    .typeText 0 none none (some "\n    Posts \x7b\n    \x7d\n") true,
    .flush 0]

/-- Of the two edits of the text only the second one is read. -/
theorem reads_follow_typing_contestedRequests :
    ReadsFollowTyping (openedWorld.chronicle 0 contestedRequests) ∧
      (openedWorld.chronicle 0 contestedRequests).map Deed.isTyped = [true, false, true, false] ∧
      ∃ k, (openedWorld.after contestedRequests).controllers[0]? = some k ∧
        k.lastResult = lastOutcome none (openedWorld.chronicle 0 contestedRequests) ∧
        k.editGeneration = 2 := by
  have hpeaceful : ∀ r ∈ contestedRequests, r.IsPeaceful 0 := by
    simp [contestedRequests, Request.IsPeaceful, Request.terms?, Terms.IsElsewhere, Value.text?]
  have hlog : (openedWorld.chronicle 0 contestedRequests).map Deed.isTyped
      = [true, false, true, false] ∧
        (openedWorld.chronicle 0 contestedRequests).countP (·.isTyped) = 2 := by
    decide +kernel
  obtain ⟨hfollow, ⟨k, hk, hresult, hedits⟩, -⟩ := reads_follow_typing (w := openedWorld) (c := 0)
    (k := { text := generate [], resolver := .byLabel, debouncer := ⟨400, none⟩, notifies := true })
    (fun _ hl => absurd hl List.not_mem_nil) rfl List.mem_cons_self rfl hpeaceful
  rw [hlog.2] at hedits
  exact ⟨hfollow, hlog.1, k, hk, hresult, hedits⟩

end DiagramSync
