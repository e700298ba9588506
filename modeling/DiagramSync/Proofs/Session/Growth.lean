import DiagramSync.Proofs.Session.Steps
import DiagramSync.Proofs.Store.Versions

/-!
# What a session cannot take back

A session only goes on: the store stays as it is or gets a later version, ids that were drawn stay
drawn, controllers and listeners stay who they are, and a listener that is no longer told of changes
is not told of them again.

* `World.Grows` — a later state of a session
* `isKeptBySteps_grows`, **`grows_after`** — every step leads to a later state, and every run does
* `World.IsNumbered` — listeners are told of changes under numbers of their own
* `isNumbered_after` — every run keeps this
-/

namespace DiagramSync

/-! ## Later states -/

/-- The second session may be a later state of the first one. -/
structure World.Grows (w w' : World) : Prop where
  /-- The store is the same or of a later version. -/
  store : w.store.Precedes w'.store
  /-- The settings stay. -/
  unlinked : w'.unlinked = w.unlinked
  /-- Ids that were drawn stay drawn. -/
  supply : w.supply.IsFresh → w.supply.Extends w'.supply
  /-- Controllers stay, and resolve relationship lines as before. -/
  controller : ∀ (c : Nat) (k : Controller), w.controllers[c]? = some k →
    ∃ k' : Controller, w'.controllers[c]? = some k' ∧ k'.resolver = k.resolver
  /-- Listeners stay, with their tags, and those that ask for nothing will ask for nothing. -/
  listener : ∀ (n : Nat) (l : Listener), w.listeners[n]? = some l →
    ∃ l' : Listener, w'.listeners[n]? = some l' ∧ l'.tag = l.tag ∧ (l.script = [] → l'.script = [])
  /-- Whoever of them is told of changes has been told of them before. -/
  staying : ∀ n < w.listeners.length, Subscriber.listener n ∈ w'.subscribers →
    Subscriber.listener n ∈ w.subscribers

namespace World.Grows

variable {w w' w'' : World}

lemma refl (w : World) : w.Grows w where
  store := .refl _
  unlinked := rfl
  supply _ := Supply.Extends.refl _
  controller _ k hk := ⟨k, hk, rfl⟩
  listener _ l hl := ⟨l, hl, rfl, id⟩
  staying _ _ := id

/-- The version does not go down. -/
lemma version (h : w.Grows w') : w.store.version ≤ w'.store.version := by
  rcases h.store with heq | hlt
  · exact Nat.le_of_eq (congrArg Store.version heq)
  · exact Nat.le_of_lt hlt

/-- As long as the version is the same, the store is. -/
lemma store_eq (h : w.Grows w') (hversion : w'.store.version ≤ w.store.version) :
    w'.store = w.store :=
  (h.store.resolve_right (Nat.not_lt_of_le hversion)).symm

lemma length_listeners (h : w.Grows w') {n : Nat} (hn : n < w.listeners.length) :
    n < w'.listeners.length := by
  obtain ⟨l', hl', -⟩ := h.listener n w.listeners[n] (List.getElem?_eq_getElem hn)
  exact (List.getElem?_eq_some_iff.mp hl').1

lemma trans (h : w.Grows w') (h' : w'.Grows w'') : w.Grows w'' where
  store := h.store.trans h'.store
  unlinked := h'.unlinked.trans h.unlinked
  supply hfresh := (h.supply hfresh).trans (h'.supply (hfresh.of_extends (h.supply hfresh)))
  controller c k hk := by
    obtain ⟨k', hk', hresolver⟩ := h.controller c k hk
    obtain ⟨k'', hk'', hresolver'⟩ := h'.controller c k' hk'
    exact ⟨k'', hk'', hresolver'.trans hresolver⟩
  listener n l hl := by
    obtain ⟨l', hl', htag, hscript⟩ := h.listener n l hl
    obtain ⟨l'', hl'', htag', hscript'⟩ := h'.listener n l' hl'
    exact ⟨l'', hl'', htag'.trans htag, fun hnone => hscript' (hscript hnone)⟩
  staying n hn hmem := h.staying n hn (h'.staying n (h.length_listeners hn) hmem)

/-- Where the listeners and those who are told of changes are the same. -/
lemma of_same (hstore : w.store.Precedes w'.store) (hunlinked : w'.unlinked = w.unlinked)
    (hsupply : w.supply.IsFresh → w.supply.Extends w'.supply)
    (hcontrollers : w'.controllers = w.controllers) (hlisteners : w'.listeners = w.listeners)
    (hsubscribers : w'.subscribers = w.subscribers) : w.Grows w' where
  store := hstore
  unlinked := hunlinked
  supply := hsupply
  controller _ k hk := ⟨k, by rw [hcontrollers, hk], rfl⟩
  listener _ l hl := ⟨l, by rw [hlisteners, hl], rfl, id⟩
  staying _ _ hmem := hsubscribers ▸ hmem

/-- Every step that leaves the store alone leads to a later state. -/
lemma of_shift {Q : Request → Prop} (h : w.Shift Q w') : w.Grows w' := by
  have hsame := refl w
  cases h with
  | draw later => exact { hsame with supply := later }
  | control c resolver _ =>
    refine { hsame with controller := fun d k hk => ?_ }
    rw [World.modifyController, List.getElem?_modify, hk]
    refine ⟨_, rfl, ?_⟩
    dsimp only
    split_ifs
    · exact resolver k
    · rfl
  | opens _ _ =>
    refine { hsame with
      controller := fun d k hk => ⟨k, ?_, rfl⟩, staying := fun n hn hmem => ?_ }
    · exact (List.getElem?_append_left (List.getElem?_eq_some_iff.mp hk).1).trans hk
    · exact (List.mem_append.mp hmem).resolve_right (by simp)
  | leave s => exact { hsame with staying := fun _ _ hmem => (List.mem_filter.mp hmem).1 }
  | enlist _ =>
    refine { hsame with listener := fun n l hl => ⟨l, ?_, rfl, id⟩ }
    exact (List.getElem?_append_left (List.getElem?_eq_some_iff.mp hl).1).trans hl
  | subscribe _ =>
    refine { hsame with
      listener := fun n l hl => ⟨l, ?_, rfl, id⟩, staying := fun n hn hmem => ?_ }
    · exact (List.getElem?_append_left (List.getElem?_eq_some_iff.mp hl).1).trans hl
    · refine (List.mem_append.mp hmem).resolve_right fun hnew => ?_
      exact Nat.ne_of_lt hn (Subscriber.listener.inj (List.mem_singleton.mp hnew))
  | call number =>
    refine { hsame with listener := fun n l hl => ?_ }
    rw [List.getElem?_modify, hl]
    refine ⟨_, rfl, ?_⟩
    dsimp only
    split_ifs
    · exact ⟨rfl, fun hnone => congrArg Request.afterPause hnone⟩
    · exact ⟨rfl, id⟩
  | _ => exact of_same (.refl _) rfl (fun _ => Supply.Extends.refl _) rfl rfl rfl

end World.Grows

/-- Every step leads to a later state. -/
lemma isKeptBySteps_grows (Q : Request → Prop) (w : World) :
    IsKeptBySteps Q fun w' => w.Grows w' ∧ w'.AsksWithin Q where
  asks h := h.2
  shift h hstep := ⟨h.1.trans (.of_shift hstep), (isKeptBySteps_asksWithin Q).shift h.2 hstep⟩
  edit h happly := by
    exact ⟨h.1.trans (.of_same (Store.precedes_of_apply happly) rfl
      (fun _ => extends_apply happly) rfl rfl rfl), h.2⟩

/-- **Every run leads to a later state.** -/
theorem grows_after (w : World) (rs : List Request) : w.Grows (w.after rs) :=
  (keeps_after (isKeptBySteps_grows Request.any w)
    ⟨.refl w, fun l _ => Request.allWithin_any l.script⟩ fun r _ => r.within_any).1

/-! ## Numbers -/

/-- Whoever is told of changes as a listener is one, and is told of them once. -/
structure World.IsNumbered (w : World) : Prop where
  /-- The numbers are those of listeners. -/
  known : ∀ n, Subscriber.listener n ∈ w.subscribers → n < w.listeners.length
  /-- No number comes twice. -/
  once : ∀ n, w.subscribers.count (.listener n) ≤ 1

lemma isKeptBySteps_isNumbered (Q : Request → Prop) :
    IsKeptBySteps Q fun w => w.IsNumbered ∧ w.AsksWithin Q where
  asks h := h.2
  edit h _ := ⟨⟨h.1.known, h.1.once⟩, h.2⟩
  shift := by
    rintro w w' ⟨h, hasks⟩ hstep
    refine ⟨?_, (isKeptBySteps_asksWithin Q).shift hasks hstep⟩
    cases hstep with
    | opens _ _ =>
      refine ⟨fun n hn => h.known n ((List.mem_append.mp hn).resolve_right (by simp)), fun n => ?_⟩
      rw [List.count_append, List.count_singleton]
      exact h.once n
    | leave s =>
      refine ⟨fun n hn => h.known n (List.mem_filter.mp hn).1, fun n => ?_⟩
      exact Nat.le_trans (List.filter_sublist.count_le _) (h.once n)
    | enlist _ =>
      refine ⟨fun n hn => ?_, h.once⟩
      rw [List.length_append]
      exact Nat.lt_add_right _ (h.known n hn)
    | subscribe _ =>
      refine ⟨fun n hn => ?_, fun n => ?_⟩
      · rw [List.length_append]
        rcases List.mem_append.mp hn with hn | hn
        · exact Nat.lt_add_right _ (h.known n hn)
        · rw [Subscriber.listener.inj (List.mem_singleton.mp hn)]
          exact Nat.lt_succ_self _
      · rw [List.count_append, List.count_singleton]
        split_ifs with hnew
        · have hnone : Subscriber.listener n ∉ w.subscribers := fun hmem => by
            have hlt := h.known n hmem
            have heq := Subscriber.listener.inj (beq_iff_eq.mp hnew)
            omega
          exact Nat.le_of_eq (congrArg (· + 1) (List.count_eq_zero_of_not_mem hnone))
        · exact h.once n
    | call number =>
      refine ⟨fun n hn => ?_, h.once⟩
      rw [List.length_modify]
      exact h.known n hn
    | _ => exact ⟨h.known, h.once⟩

/-- Listeners keep numbers of their own, whatever is asked for. -/
lemma isNumbered_after {w : World} (hw : w.IsNumbered) (rs : List Request) :
    (w.after rs).IsNumbered :=
  (keeps_after (isKeptBySteps_isNumbered Request.any)
    ⟨hw, fun l _ => Request.allWithin_any l.script⟩ fun r _ => r.within_any).1

end DiagramSync
