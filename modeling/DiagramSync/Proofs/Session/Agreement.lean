import DiagramSync.Proofs.Diagram.Renaming
import DiagramSync.Proofs.Session.Reading
import DiagramSync.Proofs.Session.Telling
import DiagramSync.Proofs.Store.Merge

/-!
# A text and a model that agree

A controller keeps its text in step with the store.  Whenever nothing is pending, the text is the
one that was written for the entities of the store, or it was read and says what they say, or it
cannot be read and the controller has said so.

* `IsUnusable`, `ReadsAs` — texts that no model can be made of, and texts that say what a model says
* `Controller.Agrees` — the three ways in which a text and the entities of a store agree
* `World.IsCalm` — a session with one controller and with passive listeners
* `exec_wake` — when the delay of a pending edit ends, text and store agree
* `World.InStep` — they agree unless an edit is pending
-/

namespace DiagramSync

open Text

/-! ## Texts and models -/

/-- Whatever supply it is read with, the text is rejected, or two of its entities have the same name
but for case. -/
def IsUnusable (unlinked : Cardinality) (text : String) : Prop :=
  ∀ supply : Supply, supply.IsFresh →
    (∃ error ws, (parse .byLabel unlinked supply text).1 = .rejected error ws) ∨
      ∃ es rs ws, (parse .byLabel unlinked supply text).1 = .accepted es rs ws ∧
        ¬ (es.map fun e => foldName e.name).Nodup

/-- Whatever supply it is read with, the text says what the entities say. -/
def ReadsAs (unlinked : Cardinality) (text : String) (es : List Entity) : Prop :=
  ∀ supply : Supply, supply.IsFresh → ∃ es' rs ws,
    (parse .byLabel unlinked supply text).1 = .accepted es' rs ws ∧ sketch es' = sketch es

/-- The text of the controller agrees with the entities. -/
inductive Controller.Agrees (unlinked : Cardinality) (es : List Entity) (k : Controller) : Prop
  /-- The text was written for them. -/
  | written (text : k.text = generate es)
  /-- The text was refused, and no model can be made of it. -/
  | refused (told : k.lastError ≠ none) (unusable : IsUnusable unlinked k.text)
  /-- The text was read and says what they say. -/
  | read (same : ReadsAs unlinked k.text es)

section Texts

variable {unlinked : Cardinality} {supply supply' : Supply} {text : String}

lemma names_of_sketch {es es' : List Entity} (h : sketch es' = sketch es) :
    es'.map Entity.name = es.map Entity.name := by
  have hnames := congrArg (List.map EntitySketch.name) h
  rw [sketch, sketch, List.map_map, List.map_map] at hnames
  exact hnames

lemma isUnusable_of_rejected (hfresh : supply.IsFresh) {error : ParseError} {ws : List Warning}
    (h : parse .byLabel unlinked supply text = (.rejected error ws, supply')) :
    IsUnusable unlinked text := by
  intro s hs
  rcases sketch_parse (fun g hg => ignoresIds_byLabel hg) picksForeign_byLabel hfresh hs text with
    ⟨error', ws', -, hrejected⟩ | ⟨es, es', rs, ws', haccepted, -⟩
  · exact Or.inl ⟨error', ws', hrejected⟩
  · rw [h] at haccepted
    exact absurd haccepted ParseOutcome.noConfusion

section Accepted

variable {es : List Entity} {rs : List Relationship} {ws : List Warning}

lemma readsAs_of_accepted (hfresh : supply.IsFresh)
    (h : parse .byLabel unlinked supply text = (.accepted es rs ws, supply')) :
    ReadsAs unlinked text es := by
  intro s hs
  rcases sketch_parse (fun g hg => ignoresIds_byLabel hg) picksForeign_byLabel hfresh hs text with
    ⟨error, ws', hrejected, -⟩ | ⟨es₁, es', rs', ws', haccepted, haccepted', hsketch⟩
  · rw [h] at hrejected
    exact absurd hrejected ParseOutcome.noConfusion
  · rw [h] at haccepted
    obtain ⟨rfl, -, -⟩ := ParseOutcome.accepted.inj haccepted
    exact ⟨es', rs', ws', haccepted', hsketch⟩

lemma isUnusable_of_names (hfresh : supply.IsFresh)
    (h : parse .byLabel unlinked supply text = (.accepted es rs ws, supply'))
    (hnames : ¬ (es.map fun e => foldName e.name).Nodup) : IsUnusable unlinked text := by
  intro s hs
  obtain ⟨es', rs', ws', haccepted, hsketch⟩ := readsAs_of_accepted hfresh h s hs
  refine Or.inr ⟨es', rs', ws', haccepted, fun hnodup => hnames ?_⟩
  have hmap := congrArg (List.map foldName) (names_of_sketch hsketch)
  rw [List.map_map, List.map_map] at hmap
  exact hmap ▸ hnodup

end Accepted

end Texts

/-! ## Sessions with one controller -/

/-- The controller reads with the resolver that is the default, and an edit that is pending has not
been read. -/
structure Controller.IsOrderly (k : Controller) : Prop where
  /-- The resolver is the default one. -/
  resolver : k.resolver = .byLabel
  /-- No edit has been read before it was made. -/
  generations : k.parsedGeneration ≤ k.editGeneration
  /-- An edit that is pending has not been read. -/
  pending : k.debouncer.pending = true → k.parsedGeneration < k.editGeneration

lemma Controller.IsOrderly.rewrite {k : Controller} (h : k.IsOrderly) (es : List Entity) :
    (k.rewrite es).IsOrderly := by
  refine ⟨?_, ?_, fun hpending => ?_⟩
  · cases hp : k.debouncer.pending with
    | true =>
      rw [rewrite_of_pending hp]
      exact h.resolver
    | false =>
      rw [rewrite_of_idle hp]
      exact h.resolver
  · cases hp : k.debouncer.pending with
    | true => simp only [rewrite_of_pending hp, Nat.le_refl]
    | false =>
      rw [rewrite_of_idle hp]
      exact h.generations
  · rw [pending_rewrite] at hpending
    exact absurd hpending Bool.false_ne_true

/-- A session with one controller, which hears of every change, and with passive listeners. -/
structure World.IsCalm (w : World) (k : Controller) : Prop where
  /-- There is one controller. -/
  one : w.controllers = [k]
  /-- It hears of changes. -/
  subscribed : Subscriber.controller 0 ∈ w.subscribers
  /-- The listeners are passive. -/
  passive : ∀ l ∈ w.listeners, l.IsPassive
  /-- The controller is in order. -/
  orderly : k.IsOrderly
  /-- The ids to come are distinct. -/
  fresh : w.supply.IsFresh
  /-- The ids of the entities are distinct, and none is still to come. -/
  ids : HasOwnIds w.supply w.store.entities

/-- A session with one controller whose text agrees with the store unless an edit is pending. -/
structure World.InStep (w : World) (k : Controller) : Prop extends World.IsCalm w k where
  /-- The text agrees with the entities. -/
  agrees : k.debouncer.pending = false → k.Agrees w.unlinked w.store.entities

/-! ## Reading an edit -/

/-- The only controller rejects an edit. -/
lemma exec_reject_one {w : World} {k : Controller} (hone : w.controllers = [k]) (error : ParseError) :
    ∃ events, (reject 0 error).exec w = (.ok (), { w with
      controllers := [{ k with lastError := some error }], events }) := by
  obtain ⟨events, hreject⟩ := exec_reject 0 error w
  rw [modifyController_one hone] at hreject
  exact ⟨events, hreject⟩

section Reading

variable {react : React} (hreact : ∀ w, (react []).exec w = (.ok (), w))
include hreact

/-- A model that was read makes the text agree with the store, or it is rejected. -/
lemma exec_applyEntities {w : World} {k : Controller} (h : w.IsCalm k) {supply : Supply}
    (hfresh : supply.IsFresh)
    {es : List Entity} {rs : List Relationship} {ws : List Warning}
    (hparse : parse .byLabel w.unlinked supply k.text = (.accepted es rs ws, w.supply))
    (hmerged : IsMerged w.supply es (reconcile w.store.entities es)) : ∃ w' k',
    (applyEntities react 0 es).exec w = (.ok (), w') ∧ w'.InStep k' ∧ w'.unlinked = w.unlinked := by
  have hsame := readsAs_of_accepted hfresh hparse
  by_cases hunchanged : reconcile w.store.entities es = w.store.entities
  · rw [exec_applyEntities_same react 0 hunchanged, modifyController_one h.one, if_pos rfl]
    refine ⟨_, { k with lastError := none }, rfl, ⟨⟨rfl, h.subscribed, h.passive, ?_, h.fresh,
      h.ids⟩, ?_⟩, rfl⟩
    · exact ⟨h.orderly.resolver, h.orderly.generations, h.orderly.pending⟩
    · refine fun _ => .read fun s hs => ?_
      obtain ⟨es', rs', ws', haccepted, hsketch⟩ := hsame s hs
      refine ⟨es', rs', ws', haccepted, hsketch.trans ?_⟩
      rw [← hmerged.sketch, hunchanged]
  · rw [exec_applyEntities_changed react 0 hunchanged]
    rcases hmerged.run_setEntities w.unlinked w.store.entities with hrun | ⟨first, second, hrun, hnames⟩
    · obtain ⟨events, hcommit⟩ :=
        exec_commit_one hreact h.passive h.one h.subscribed .text (apply_of_run hrun)
      have hhear : k.hear .text (reconcile w.store.entities es) = k := if_pos rfl
      rw [hhear] at hcommit
      rw [hcommit]
      dsimp only
      rw [modifyController_one rfl, if_pos rfl]
      refine ⟨_, { k with lastError := none }, rfl,
        ⟨⟨rfl, h.subscribed, h.passive, ?_, h.fresh, hmerged.ids⟩, ?_⟩, rfl⟩
      · exact ⟨h.orderly.resolver, h.orderly.generations, h.orderly.pending⟩
      · refine fun _ => .read fun s hs => ?_
        obtain ⟨es', rs', ws', haccepted, hsketch⟩ := hsame s hs
        exact ⟨es', rs', ws', haccepted, hsketch.trans hmerged.sketch.symm⟩
    · rw [exec_commit_refused (apply_of_run_error hrun)]
      dsimp only
      obtain ⟨events, hreject⟩ := exec_reject_one h.one
        ⟨.duplicateEntity, (Fault.sameButForCase first second).message⟩
      rw [Fault.isDuplicateName, if_pos rfl, hreject]
      refine ⟨_, _, rfl, ⟨⟨rfl, h.subscribed, h.passive, ?_, h.fresh, h.ids⟩, ?_⟩, rfl⟩
      · exact ⟨h.orderly.resolver, h.orderly.generations, h.orderly.pending⟩
      · exact fun _ => .refused (Option.some_ne_none _) (isUnusable_of_names hfresh hparse hnames)

/-- When the delay of a pending edit ends, text and store agree. -/
lemma exec_wake {w : World} {k : Controller} (h : w.IsCalm k)
    (hpending : k.debouncer.pending = true) :
    ∃ w' k', (wake react 0).exec w = (.ok (), w') ∧ w'.InStep k' ∧ w'.unlinked = w.unlinked := by
  have hk : w.controllers[0]? = some k := by
    rw [h.one]
    rfl
  cases hparse : parse k.resolver w.unlinked w.supply k.text with
  | mk outcome supply =>
    rw [exec_wake_unread react hk (h.orderly.pending hpending) hparse]
    rw [h.orderly.resolver] at hparse
    have hlater := extends_parse h.fresh hparse
    set k₁ : Controller := { k with
      debouncer := k.debouncer.cancel, parsedGeneration := k.editGeneration
      lastResult := some outcome }
    have hnoting : w.noting 0 outcome supply = { w with supply, controllers := [k₁] } :=
      modifyController_one (w := { w with supply }) h.one 0 _
    have horderly : k₁.IsOrderly :=
      ⟨h.orderly.resolver, Nat.le_refl _, fun hp => absurd hp Bool.false_ne_true⟩
    have hcalm : ({ w with supply, controllers := [k₁] } : World).IsCalm k₁ :=
      ⟨rfl, h.subscribed, h.passive, horderly, h.fresh.of_extends hlater, h.ids.of_extends hlater⟩
    rw [hnoting]
    cases outcome with
    | rejected error ws =>
      obtain ⟨events, hreject⟩ := exec_reject_one hcalm.one error
      refine ⟨_, _, hreject, ⟨⟨rfl, h.subscribed, h.passive, ?_, hcalm.fresh, hcalm.ids⟩, ?_⟩, rfl⟩
      · exact ⟨horderly.resolver, horderly.generations, horderly.pending⟩
      · exact fun _ => .refused (Option.some_ne_none _) (isUnusable_of_rejected h.fresh hparse)
    | accepted es rs ws =>
      exact exec_applyEntities hreact hcalm h.fresh hparse
        (isMerged_reconcile picksForeign_byLabel h.fresh h.ids hparse)

end Reading

end DiagramSync
