import DiagramSync.Proofs.Store.Edits

/-!
# What a version stands for

Every edit raises the version, and nothing else changes the entities.  So whoever remembers the
version of a store knows, as long as the version is the same, what the entities are: an edit that
depends on a version is made on the entities that were there when the version was read, or it is
refused.

* `Moment` — the store is looked at, or an edit is made
* `Store.Passes` — the moments that a store passes through
* `Store.Precedes` — a store is the same as another one, or of an earlier version
* **`Store.Passes.pairwise_precedes`**, `Store.Passes.eq_of_version` — equal versions, equal stores
* `Store.Passes.made` — every edit among the moments was made
* **`Store.Passes.countP_dependsOn_le_one`** — of the edits that depend on one version at most one is
  made
-/

namespace DiagramSync

/-! ## Moments -/

/-- What can be noticed of a store. -/
inductive Moment where
  /-- Somebody looks at the store. -/
  | look (store : Store)
  /-- An edit is made, which may depend on a version; the store before and after it. -/
  | edit (expected : Option Int) (edit : Edit) (before after : Store)

/-- The stores that are seen. -/
def Moment.stores : Moment → List Store
  | look store => [store]
  | edit _ _ before after => [before, after]

/-- An edit is made that depends on that version. -/
def Moment.dependsOn (v : Int) : Moment → Bool
  | look _ => false
  | edit expected _ _ _ => expected == some v

/-- The moments that a store passes through, each edit being made on what the one before it left. -/
inductive Store.Passes (unlinked : Cardinality) : Store → List Moment → Store → Prop
  | nil (s : Store) : Passes unlinked s [] s
  | look {s t : Store} {ms : List Moment} (rest : Passes unlinked s ms t) :
      Passes unlinked s (.look s :: ms) t
  | edit {s s' t : Store} {expected : Option Int} {edit : Edit} {edited : Edited}
      {supply supply' : Supply} {ms : List Moment}
      (made : s.apply unlinked expected edit supply = .ok ((s', edited), supply'))
      (rest : Passes unlinked s' ms t) : Passes unlinked s (.edit expected edit s s' :: ms) t

/-- The store is the other one, or it is of an earlier version. -/
def Store.Precedes (s t : Store) : Prop :=
  s = t ∨ s.version < t.version

namespace Store

variable {unlinked : Cardinality} {s s' t u : Store} {ms ms' : List Moment} {v : Int}

lemma Precedes.refl (s : Store) : s.Precedes s := Or.inl rfl

lemma Precedes.trans (h : s.Precedes t) (h' : t.Precedes u) : s.Precedes u := by
  rcases h with rfl | h
  · exact h'
  · rcases h' with rfl | h'
    · exact Or.inr h
    · exact Or.inr (Nat.lt_trans h h')

/-- An edit leads to a later version. -/
lemma precedes_of_apply {expected : Option Int} {edit : Edit} {edited : Edited}
    {supply supply' : Supply}
    (h : s.apply unlinked expected edit supply = .ok ((s', edited), supply')) : s.Precedes s' := by
  right
  rw [(apply_eq_ok h).2]
  exact Nat.lt_succ_self s.version

/-- An edit that depends on a version is made on a store of this version. -/
lemma version_of_apply {edit : Edit} {edited : Edited} {supply supply' : Supply}
    (h : s.apply unlinked (some v) edit supply = .ok ((s', edited), supply')) : v = s.version := by
  by_contra hv
  simp only [Store.apply, ne_eq, hv, not_false_eq_true, if_true] at h
  obtain ⟨_, _, hthrow, -⟩ := supply_bind_eq_ok.mp h
  exact editing_throw_eq_ok.mp hthrow

namespace Passes

lemma append (h : Passes unlinked s ms t) (h' : Passes unlinked t ms' u) :
    Passes unlinked s (ms ++ ms') u := by
  induction h with
  | nil s => exact h'
  | look rest ih => exact .look (ih h')
  | edit made rest ih => exact .edit made (ih h')

/-! ## Equal versions -/

/-- Every store that is seen later is the present one or of a later version. -/
lemma precedes (h : Passes unlinked s ms t) : ∀ x ∈ ms.flatMap Moment.stores, s.Precedes x := by
  induction h with
  | nil s => simp
  | @look s t ms rest ih =>
    rw [List.flatMap_cons]
    intro x hx
    rcases List.mem_append.mp hx with hx | hx
    · rw [List.mem_singleton.mp hx]
      exact Precedes.refl s
    · exact ih x hx
  | @edit s s' t expected edit edited supply supply' ms made rest ih =>
    have hlater := precedes_of_apply made
    rw [List.flatMap_cons]
    intro x hx
    rcases List.mem_append.mp hx with hx | hx
    · obtain rfl | rfl : x = s ∨ x = s' := by simpa [Moment.stores] using hx
      · exact Precedes.refl x
      · exact hlater
    · exact hlater.trans (ih x hx)

/-- **Of two stores that are seen, the one that is seen later is the same or of a later version.** -/
theorem pairwise_precedes (h : Passes unlinked s ms t) :
    (ms.flatMap Moment.stores).Pairwise Precedes := by
  induction h with
  | nil s => exact List.Pairwise.nil
  | @look s t ms rest ih => exact List.Pairwise.cons rest.precedes ih
  | @edit s s' t expected edit edited supply supply' ms made rest ih =>
    have hlater := precedes_of_apply made
    rw [List.flatMap_cons, Moment.stores, List.cons_append, List.singleton_append]
    refine List.Pairwise.cons (fun x hx => ?_) (List.Pairwise.cons rest.precedes ih)
    rcases List.mem_cons.mp hx with rfl | hx
    · exact hlater
    · exact hlater.trans (rest.precedes x hx)

/-- Two stores of one version are the same. -/
lemma eq_of_version (h : Passes unlinked s ms t) {x y : Store}
    (hx : x ∈ ms.flatMap Moment.stores) (hy : y ∈ ms.flatMap Moment.stores)
    (hversion : x.version = y.version) : x = y := by
  have heq : ∀ {x y : Store}, x.Precedes y → x.version = y.version → x = y := by
    rintro x y (heq | hlt) hversion
    · exact heq
    · exact absurd hversion (Nat.ne_of_lt hlt)
  have hforth : (ms.flatMap Moment.stores).Pairwise fun x y => x.version = y.version → x = y :=
    h.pairwise_precedes.imp heq
  have hback : (ms.flatMap Moment.stores).Pairwise
      (flip fun x y => x.version = y.version → x = y) := by
    refine h.pairwise_precedes.imp fun {x y} hxy => ?_
    show y.version = x.version → y = x
    exact fun hversion => (heq hxy hversion.symm).symm
  exact List.Pairwise.forall_of_forall_of_flip (fun _ _ _ => rfl) hforth hback hx hy hversion

/-! ## Edits that depend on a version -/

/-- Every edit among the moments was made. -/
lemma made (h : Passes unlinked s ms t) {expected : Option Int} {edit : Edit} {before after : Store}
    (hedit : Moment.edit expected edit before after ∈ ms) : ∃ edited supply supply',
    before.apply unlinked expected edit supply = .ok ((after, edited), supply') := by
  induction h with
  | nil s => exact absurd hedit List.not_mem_nil
  | look rest ih =>
    rcases List.mem_cons.mp hedit with heq | hedit
    · exact absurd heq nofun
    · exact ih hedit
  | @edit s s' t expected' edit' edited supply supply' ms made rest ih =>
    rcases List.mem_cons.mp hedit with heq | hedit
    · obtain ⟨rfl, rfl, rfl, rfl⟩ := Moment.edit.inj heq
      exact ⟨edited, supply, supply', made⟩
    · exact ih hedit

/-- No edit depends on a version that is gone. -/
lemma not_dependsOn (h : Passes unlinked s ms t) (hv : v < s.version) :
    ∀ m ∈ ms, m.dependsOn v = false := by
  induction h with
  | nil s => simp
  | look rest ih => exact List.forall_mem_cons.mpr ⟨rfl, ih hv⟩
  | @edit s s' t expected edit edited supply supply' ms made rest ih =>
    have hversion := (apply_eq_ok made).2
    refine List.forall_mem_cons.mpr ⟨?_, ih (by omega)⟩
    rw [Moment.dependsOn, beq_eq_false_iff_ne]
    rintro rfl
    have hsame := version_of_apply made
    omega

/-- **Of the edits that depend on one version at most one is made.** -/
theorem countP_dependsOn_le_one (h : Passes unlinked s ms t) (v : Int) :
    ms.countP (Moment.dependsOn v) ≤ 1 := by
  induction h with
  | nil s => simp
  | look rest ih =>
    rw [List.countP_cons_of_neg (by simp [Moment.dependsOn])]
    exact ih
  | @edit s s' t expected edit edited supply supply' ms made rest ih =>
    by_cases hv : expected = some v
    · subst hv
      have hversion := (apply_eq_ok made).2
      have hsame := version_of_apply made
      have hrest := rest.not_dependsOn (v := v) (by omega)
      have hnone : ms.countP (Moment.dependsOn v) = 0 :=
        List.countP_eq_zero.mpr fun m hm => by simp [hrest m hm]
      rw [List.countP_cons_of_pos (by simp [Moment.dependsOn])]
      omega
    · rw [List.countP_cons_of_neg (by simpa [Moment.dependsOn] using hv)]
      exact ih

end Passes

end Store

end DiagramSync
