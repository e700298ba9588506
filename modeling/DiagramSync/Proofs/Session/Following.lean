import DiagramSync.Proofs.Session.Passive

/-!
# Which edits controllers follow

Controllers that share a store learn of an edit by its source, not by who made it.  An edit that
does not come from a text is followed by all of them: each writes its text anew and drops what was
pending.  An edit that comes from the text of one controller is followed by no other: each keeps its
text, and what is pending there is read later, however old it is by then.

* `Controller.Follows` — the text is that of the entities, and nothing is pending
* `follows_of_edit` — all follow an edit from elsewhere
* `reading?_after_wake` — what another controller has read does not keep one from reading
* **`follows_unless_text`** — which edits the other controllers follow
* `not_follows_twoEditors` — of two texts that are edited at once, the older one wins
-/

namespace DiagramSync

/-- The text of the controller is the one that is written for the entities, and no edit is
pending. -/
def Controller.Follows (es : List Entity) (k : Controller) : Prop :=
  k.text = generate es ∧ k.debouncer.pending = false

instance (es : List Entity) (k : Controller) : Decidable (k.Follows es) :=
  inferInstanceAs (Decidable (_ ∧ _))

section Following

variable {w w' : World} (hw : ∀ l ∈ w.listeners, l.IsPassive)
include hw

/-- All controllers that are subscribed follow an edit from elsewhere. -/
lemma follows_of_edit {r : Request} {terms : Terms} (hr : r.terms? = some terms)
    (hterms : terms.IsElsewhere) (hanswer : (answer r w).2 = w')
    (hmade : w'.store.version ≠ w.store.version) {c : Nat} {k : Controller}
    (hsubscribed : Subscriber.controller c ∈ w.subscribers) (hk : w'.controllers[c]? = some k) :
    k.Follows w'.store.entities := by
  have hedit := afterEdit_answer hw hr hterms
  rw [hanswer] at hedit
  rcases hedit.outcome with ⟨hstore, -⟩ | ⟨-, hcontrollers⟩
  · exact absurd (congrArg Store.version hstore) hmade
  · rw [hcontrollers c] at hk
    obtain ⟨k₀, -, hrewritten⟩ := Option.map_eq_some_iff.mp hk
    rw [if_pos hsubscribed] at hrewritten
    exact hrewritten ▸ ⟨text_rewrite _ k₀, pending_rewrite _ k₀⟩

/-- When one controller reads its text, another one is left as it was, and what it has not read it
still reads as it was typed. -/
lemma unmoved_by_wake {depth a : Nat} (hwake : ((wake (runScript depth) a).exec w).2 = w') {b : Nat}
    (hb : b ≠ a) : w'.controllers[b]? = w.controllers[b]? ∧
      ∀ k, w.controllers[b]? = some k → k.parsedGeneration < k.editGeneration →
        w'.reading? b = some (parse k.resolver w'.unlinked w'.supply k.text).1 := by
  have hread := afterReading_wake (exec_runScript_nil depth) hw a
  rw [hwake] at hread
  exact ⟨hread.others b hb, fun k hk hunread =>
    reading?_of_unread ((hread.others b hb).trans hk) hunread⟩

/-- **Controllers follow the edits that come from no text, and they follow no edit that comes from
the text of another one.**  In any session with passive listeners, an edit of the first kind leaves
every controller that is subscribed with the text of the new entities and with nothing pending.
When a controller reads its text, whatever comes of it, every other controller is left exactly as it
was, with its text and with what is pending, and an edit of its text that is unread will be read as
it was typed. -/
theorem follows_unless_text :
    (∀ (r : Request) (terms : Terms) (w' : World), r.terms? = some terms → terms.IsElsewhere →
      (answer r w).2 = w' → w'.store.version ≠ w.store.version →
        ∀ c k, Subscriber.controller c ∈ w.subscribers → w'.controllers[c]? = some k →
          k.Follows w'.store.entities) ∧
      ∀ (depth a : Nat) (w' : World), ((wake (runScript depth) a).exec w).2 = w' → ∀ b, b ≠ a →
        w'.controllers[b]? = w.controllers[b]? ∧
          ∀ k, w.controllers[b]? = some k → k.parsedGeneration < k.editGeneration →
            w'.reading? b = some (parse k.resolver w'.unlinked w'.supply k.text).1 := by
  constructor
  · intro r terms w' hr hterms hanswer hmade c k hsubscribed hk
    exact follows_of_edit hw hr hterms hanswer hmade hsubscribed hk
  · intro depth a w' hwake b hb
    exact unmoved_by_wake hw hwake hb

end Following

/-- Two controllers share a store, and the texts of both have been edited. -/
def twoEditors : World :=
  World.after { supply := .strokes }
    [.openController none none true, .openController none none true,
      .typeText 1 (some "erDiagram\n  Posts \x7b\n  \x7d\n") none none true,
      .typeText 0 (some "erDiagram\n  Users \x7b\n  \x7d\n") none none true]

/-- Both follow when an entity is added; but when the first one reads its text, then the second one
keeps its own, which is still to be read. -/
theorem follows_unless_text_twoEditors :
    (∀ k ∈ (answer (.change (.addEntity (.text "Sites")) {}) twoEditors).2.controllers,
      k.Follows (answer (.change (.addEntity (.text "Sites")) {}) twoEditors).2.store.entities) ∧
      (answer (.flush 0) twoEditors).2.controllers[1]? = twoEditors.controllers[1]? := by
  have hpassive : ∀ l ∈ twoEditors.listeners, l.IsPassive := fun l hl =>
    absurd hl List.not_mem_nil
  obtain ⟨hedit, -⟩ := follows_unless_text hpassive
  have hadded : (answer (.change (.addEntity (.text "Sites")) {}) twoEditors).2.store.version
        ≠ twoEditors.store.version ∧
      (answer (.change (.addEntity (.text "Sites")) {}) twoEditors).2.controllers.length = 2 := by
    decide +kernel
  refine ⟨fun k hk => ?_, ?_⟩
  · obtain ⟨c, hc⟩ := List.mem_iff_getElem?.mp hk
    have hlt := (List.getElem?_eq_some_iff.mp hc).1
    rw [hadded.2] at hlt
    refine hedit _ {} _ rfl ?_ rfl hadded.1 c k ?_ hc
    · trivial
    · obtain rfl | rfl : c = 0 ∨ c = 1 := by omega
      · exact List.mem_cons_self
      · exact List.mem_cons_of_mem _ List.mem_cons_self
  · have hread := (follows_unless_text (w := { twoEditors with events := [] }) hpassive).2
      (twoEditors.weight + (Request.flush 0).weight) 0 _ rfl 1 (by decide)
    obtain ⟨k, hk, hpending⟩ : ∃ k, twoEditors.controllers[0]? = some k ∧
        k.debouncer.pending = true := ⟨_, rfl, rfl⟩
    have hflush := exec_flushController_pending
      (runScript (twoEditors.weight + (Request.flush 0).weight))
      (w := { twoEditors with events := [] }) hk hpending
    have hanswer : (answer (.flush 0) twoEditors).2
        = ((wake (runScript (twoEditors.weight + (Request.flush 0).weight)) 0).exec
            { twoEditors with events := [] }).2 :=
      (after_bind_pure _ _ _).trans (congrArg Prod.snd hflush)
    rw [hanswer]
    exact hread.1

/-- When the first of them has read its text, the store holds what it says; the second one does not
follow, and when it comes to reading, its text, which is older, takes the place of the other. -/
theorem not_follows_twoEditors :
    (answer (.flush 0) twoEditors).2.store.version = twoEditors.store.version + 1 ∧
      (∃ k, (answer (.flush 0) twoEditors).2.controllers[1]? = some k ∧
        ¬ k.Follows (answer (.flush 0) twoEditors).2.store.entities) ∧
      (answer (.flush 0) twoEditors).2.store.entities.map Entity.name = ["Users"] ∧
      (answer (.flush 1) (answer (.flush 0) twoEditors).2).2.store.entities.map Entity.name
        = ["Posts"] := by
  refine ⟨by decide +kernel, ?_, by decide +kernel, by decide +kernel⟩
  have hpending : ((answer (.flush 0) twoEditors).2.controllers[1]?.map fun k =>
      k.debouncer.pending) = some true := by
    decide +kernel
  obtain ⟨k, hk, hpending⟩ := Option.map_eq_some_iff.mp hpending
  refine ⟨k, hk, fun hfollows => ?_⟩
  rw [hfollows.2] at hpending
  exact Bool.false_ne_true hpending

end DiagramSync
