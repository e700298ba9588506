import DiagramSync.Proofs.Diagram.Declared
import Mathlib.Data.List.Forall2

/-!
# Links are spread before any is overwritten

The resolver by names prefers a candidate that is not linked yet.  So a line overwrites a link only
where every candidate of its source has one, and then that of the first candidate.  Candidates for
different targets overlap, and each choice depends on all lines before; but where the lines of one
source have one target they take its candidates in order, and once all are taken, every further line
goes to the first.

* `SpreadsTo`, `LineSpreads` — what a line does to the fields of its source, and to a model
* `lineSpreads_of_resolveLine` — every line does that
* `SpreadOver` — which lines hold the candidates after some lines of one source with one target
* `SpreadOver.step`, `SpreadOver.isLinked_iff` — one line more, and how many candidates are linked
* `exists_isSpreadOver` — all lines of one source with one target, whatever the others do in between
* **`spreads_byName`** — both laws, for the lines of any model in which nothing is linked at first
-/

namespace DiagramSync

/-! ## One line -/

/-- What a line does to the fields of its source: nothing if there is no candidate; if a candidate
is not linked yet, it links the first such one; and only if all are linked it overwrites the link of
the first. -/
inductive SpreadsTo (t : Entity) (r : Relationship) : List Field → List Field → Prop
  /-- There is no candidate. -/
  | nothing {fs : List Field} (none : ∀ f ∈ fs, isCandidate t f = false) : SpreadsTo t r fs fs
  /-- The first candidate without a link is linked. -/
  | links {pre post : List Field} {f : Field} (candidate : isCandidate t f = true)
      (unlinked : f.isLinked = false) (first : ∀ g ∈ pre, isCandidate t g = true → g.isLinked = true) :
      SpreadsTo t r (pre ++ f :: post) (pre ++ f.link t r :: post)
  /-- All candidates are linked, and the first one is linked anew. -/
  | overwrites {pre post : List Field} {f : Field} (candidate : isCandidate t f = true)
      (first : ∀ g ∈ pre, isCandidate t g = false)
      (full : ∀ g ∈ pre ++ f :: post, isCandidate t g = true → g.isLinked = true) :
      SpreadsTo t r (pre ++ f :: post) (pre ++ f.link t r :: post)

/-- What a line does to a model: nothing if one of its names is unknown, and otherwise it spreads
over the fields of its source. -/
inductive LineSpreads (r : Relationship) : List Entity → List Entity → Prop
  /-- One of the names is that of no entity. -/
  | unknown {es : List Entity}
      (none : entityNamed? es r.source = none ∨ entityNamed? es r.target = none) :
      LineSpreads r es es
  /-- The fields of the source change, and nothing else. -/
  | known {pre post : List Entity} {s t : Entity} {fs : List Field} (source : s.name = r.source)
      (target : entityNamed? (pre ++ s :: post) r.target = some t)
      (spreads : SpreadsTo t r s.fields fs) :
      LineSpreads r (pre ++ s :: post) (pre ++ { s with fields := fs } :: post)

section Line

variable {es es' : List Entity} {s t t' : Entity} {r : Relationship} {fs fs' : List Field}

/-- What is found at a position stands between what comes before and behind it. -/
lemma findIdx?_eq_some_split {α : Type} {p : α → Bool} {xs : List α} {i : Nat}
    (h : xs.findIdx? p = some i) :
    ∃ pre x post, xs = pre ++ x :: post ∧ pre.length = i ∧ p x = true ∧ ∀ y ∈ pre, p y = false := by
  obtain ⟨hi, hx, hpre⟩ := List.findIdx?_eq_some_iff_getElem.mp h
  refine ⟨xs.take i, xs[i], xs.drop (i + 1), ?_, ?_, hx, fun y hy => ?_⟩
  · rw [← List.drop_eq_getElem_cons hi, List.take_append_drop]
  · exact List.length_take_of_le (Nat.le_of_lt hi)
  · obtain ⟨j, hj, rfl⟩ := List.getElem_of_mem hy
    rw [List.length_take] at hj
    rw [List.getElem_take]
    simpa using hpre j (by omega)

/-- Linking by name finds no candidate, or spreads over the fields. -/
lemma link_byName_cases (s t : Entity) (r : Relationship) :
    (Resolver.byName.link s t r = .ok none ∧ SpreadsTo t r s.fields s.fields) ∨
      ∃ fs g, Resolver.byName.link s t r = .ok (some ({ s with fields := fs }, g)) ∧
        SpreadsTo t r s.fields fs := by
  have hlink : ∀ {pre post : List Field} {f : Field}, s.fields = pre ++ f :: post →
      selectByName s t = some pre.length → Resolver.byName.link s t r
        = .ok (some ({ s with fields := pre ++ f.link t r :: post }, f.link t r)) := by
    intro pre post f hfields hselect
    have hget : s.fields[pre.length]? = some f := by rw [hfields, getElem?_length_append]
    have hset : s.fields.set pre.length (f.link t r) = pre ++ f.link t r :: post := by
      rw [hfields, set_length_append]
    simp only [Resolver.link, Resolver.byName, hselect, bind, Except.bind, hget, hset]
    rfl
  cases hunlinked : s.fields.findIdx? fun f => isCandidate t f && !f.isLinked with
  | some i =>
    obtain ⟨pre, f, post, hfields, rfl, hf, hpre⟩ := findIdx?_eq_some_split hunlinked
    rw [Bool.and_eq_true, Bool.not_eq_true'] at hf
    have hselect : selectByName s t = some pre.length := by
      rw [selectByName, hunlinked]
      rfl
    refine Or.inr ⟨_, _, hlink hfields hselect, ?_⟩
    rw [hfields]
    refine .links hf.1 hf.2 fun g hg hcandidate => ?_
    simpa [hcandidate] using hpre g hg
  | none =>
    have hfull : ∀ g ∈ s.fields, isCandidate t g = true → g.isLinked = true := by
      intro g hg hcandidate
      simpa [hcandidate] using List.findIdx?_eq_none_iff.mp hunlinked g hg
    cases hfirst : s.fields.findIdx? (isCandidate t) with
    | some i =>
      obtain ⟨pre, f, post, hfields, rfl, hf, hpre⟩ := findIdx?_eq_some_split hfirst
      have hselect : selectByName s t = some pre.length := by
        rw [selectByName, hunlinked, hfirst]
        rfl
      refine Or.inr ⟨_, _, hlink hfields hselect, ?_⟩
      rw [hfields] at hfull ⊢
      exact .overwrites hf hpre hfull
    | none =>
      have hselect : selectByName s t = none := by
        rw [selectByName, hunlinked, hfirst]
        rfl
      refine Or.inl ⟨?_, .nothing (List.findIdx?_eq_none_iff.mp hfirst)⟩
      simp only [Resolver.link, Resolver.byName, hselect, bind, Except.bind]
      rfl

/-- Among distinct names one entity is replaced, and the others stay. -/
lemma replaceNamed_append {pre post : List Entity} (h : ((pre ++ s :: post).map Entity.name).Nodup)
    (s' : Entity) : replaceNamed s.name s' (pre ++ s :: post) = pre ++ s' :: post := by
  rw [List.map_append, List.map_cons, List.nodup_middle, List.nodup_cons, ← List.map_append] at h
  have hother : ∀ e ∈ pre ++ post, (if (e.name == s.name) = true then s' else e) = e := by
    intro e he
    refine if_neg fun heq => h.1 (List.mem_map.mpr ⟨e, he, beq_iff_eq.mp heq⟩)
  rw [replaceNamed, List.map_append, List.map_cons, if_pos (beq_self_eq_true s.name),
    List.map_congr_left fun e he => hother e (List.mem_append_left _ he),
    List.map_congr_left fun e he => hother e (List.mem_append_right _ he), List.map_id', List.map_id']

/-- Every line that is resolved by names spreads over its source. -/
lemma lineSpreads_of_resolveLine (hnames : (es.map Entity.name).Nodup) {n : Nat} {ws : List Warning}
    (h : resolveLine .byName es n r = .ok (es', ws)) : LineSpreads r es es' := by
  rw [resolveLine] at h
  cases hsource : entityNamed? es r.source with
  | none =>
    rw [hsource] at h
    obtain ⟨rfl, -⟩ := Prod.mk.inj (Except.ok.inj h)
    exact .unknown (Or.inl hsource)
  | some s =>
    cases htarget : entityNamed? es r.target with
    | none =>
      rw [hsource, htarget] at h
      obtain ⟨rfl, -⟩ := Prod.mk.inj (Except.ok.inj h)
      exact .unknown (Or.inr htarget)
    | some t =>
      obtain ⟨hs, hname⟩ := (find?_key_eq_some hnames).mp hsource
      obtain ⟨pre, post, rfl⟩ := List.append_of_mem hs
      rw [hsource, htarget] at h
      rcases link_byName_cases s t r with ⟨hlink, hspreads⟩ | ⟨fs, g, hlink, hspreads⟩
      · simp only [hlink, bind, Except.bind, pure, Except.pure, Except.ok.injEq, Prod.mk.injEq] at h
        obtain ⟨rfl, -⟩ := h
        exact .known hname htarget hspreads
      · simp only [hlink, bind, Except.bind, pure, Except.pure, Except.ok.injEq, Prod.mk.injEq,
          replaceNamed_append hnames] at h
        obtain ⟨rfl, -⟩ := h
        exact .known hname htarget hspreads

/-- A field that is linked to an entity with an id points somewhere. -/
lemma isLinked_link (ht : t.id ≠ .unresolved) (r : Relationship) (f : Field) :
    (f.link t r).isLinked = true :=
  bne_iff_ne.mpr ht

/-- No line takes a link away. -/
lemma SpreadsTo.keepsLinks (h : SpreadsTo t r fs fs') (ht : t.id ≠ .unresolved) :
    List.Forall₂ (fun f f' => f.isLinked = true → f'.isLinked = true) fs fs' := by
  have hsame : ∀ gs : List Field,
      List.Forall₂ (fun f f' : Field => f.isLinked = true → f'.isLinked = true) gs gs :=
    fun gs => List.forall₂_same.mpr fun _ _ => id
  cases h with
  | nothing none => exact hsame fs
  | links => exact List.rel_append (hsame _) (.cons (fun _ => isLinked_link ht r _) (hsame _))
  | overwrites => exact List.rel_append (hsame _) (.cons (fun _ => isLinked_link ht r _) (hsame _))

/-- No line takes a link away anywhere in a model. -/
lemma LineSpreads.keepsLinks (h : LineSpreads r es es') (hids : ∀ e ∈ es, e.id ≠ .unresolved) :
    List.Forall₂ (fun e e' : Entity => List.Forall₂
      (fun f f' => f.isLinked = true → f'.isLinked = true) e.fields e'.fields) es es' := by
  have hsame : ∀ xs : List Entity, List.Forall₂ (fun e e' : Entity => List.Forall₂
      (fun f f' => f.isLinked = true → f'.isLinked = true) e.fields e'.fields) xs xs :=
    fun xs => List.forall₂_same.mpr fun _ _ => List.forall₂_same.mpr fun _ _ => id
  cases h with
  | unknown => exact hsame es
  | known source target spreads =>
    have ht := hids _ (List.mem_of_find?_eq_some target)
    exact List.rel_append (hsame _) (.cons (spreads.keepsLinks ht) (hsame _))

end Line

/-! ## Lines of one source with one target -/

/-- How the candidates `cs` have changed to `cs'` after the lines `own`: they are held in order by
one line each, and where there are more lines than candidates the last line holds the first. -/
structure SpreadOver (t : Entity) (own : List Relationship) (cs cs' : List Field) : Prop where
  /-- There are as many candidates as before. -/
  length : cs'.length = cs.length
  /-- Each line holds the candidate at its place, unless it is the first of too many. -/
  bound : ∀ i f r, 0 < i ∨ own.length ≤ cs.length → cs[i]? = some f → own[i]? = some r →
    cs'[i]? = some (f.link t r)
  /-- The last of too many lines holds the first candidate. -/
  last : ∀ f r, cs.length < own.length → cs[0]? = some f → own.getLast? = some r →
    cs'[0]? = some (f.link t r)
  /-- Candidates for which there is no line are as before. -/
  rest : ∀ i f, own.length ≤ i → cs[i]? = some f → cs'[i]? = some f

section Run

variable {es es' : List Entity} {s s' t t' : Entity} {r : Relationship}
  {own : List Relationship} {fs fs' cs cs' cs'' : List Field}

/-- Linking anew is as if the field had not been linked before. -/
lemma link_link (r r' : Relationship) (f : Field) : (f.link t r).link t r' = f.link t r' := rfl

lemma spreadOver_nil (t : Entity) (cs : List Field) : SpreadOver t [] cs cs where
  length := rfl
  bound i f r _ _ h := by simp at h
  last f r h := absurd h (Nat.not_lt_zero _)
  rest i f _ h := h

/-- After the lines some line holds the first candidate. -/
lemma SpreadOver.exists_first (h : SpreadOver t own cs cs') (hown : own ≠ []) {f : Field}
    (hf : cs[0]? = some f) : ∃ r, cs'[0]? = some (f.link t r) := by
  by_cases hmany : cs.length < own.length
  · exact ⟨own.getLast hown, h.last f _ hmany hf (List.getLast?_eq_some_getLast hown)⟩
  · obtain ⟨r, rest, rfl⟩ := List.exists_cons_of_ne_nil hown
    exact ⟨r, h.bound 0 f r (Or.inr (Nat.not_lt.mp hmany)) hf rfl⟩

/-- Exactly as many candidates are linked as there are lines, from the first on. -/
lemma SpreadOver.isLinked_iff (h : SpreadOver t own cs cs') (ht : t.id ≠ .unresolved)
    (hstart : ∀ f ∈ cs, f.isLinked = false) {i : Nat} {g : Field} (hg : cs'[i]? = some g) :
    g.isLinked = true ↔ i < own.length := by
  have hi : i < cs.length := h.length ▸ (List.getElem?_eq_some_iff.mp hg).1
  have hf : cs[i]? = some cs[i] := List.getElem?_eq_getElem hi
  by_cases hline : i < own.length
  · refine iff_of_true ?_ hline
    have hlink : ∃ r, cs'[i]? = some (cs[i].link t r) := by
      cases i with
      | zero => exact h.exists_first (List.ne_nil_of_length_pos hline) hf
      | succ i =>
        exact ⟨own[i + 1], h.bound _ _ _ (Or.inl i.succ_pos) hf (List.getElem?_eq_getElem hline)⟩
    obtain ⟨r, hr⟩ := hlink
    rw [hg] at hr
    rw [Option.some.inj hr]
    exact isLinked_link ht r _
  · refine iff_of_false ?_ hline
    rw [h.rest i _ (Nat.not_lt.mp hline) hf] at hg
    rw [← Option.some.inj hg, hstart _ (List.getElem_mem hi)]
    exact Bool.false_ne_true

/-- One line more links the first candidate for which there was no line. -/
lemma SpreadOver.link_next (h : SpreadOver t own cs cs') {f : Field}
    (hf : cs[own.length]? = some f) (r : Relationship) :
    SpreadOver t (own ++ [r]) cs (cs'.set own.length (f.link t r)) := by
  have hlength : own.length < cs.length := (List.getElem?_eq_some_iff.mp hf).1
  constructor
  · rw [List.length_set, h.length]
  · intro i g r' hi hg hr
    rw [List.length_append, List.length_singleton] at hi
    rcases Nat.lt_trichotomy i own.length with hlt | rfl | hgt
    · rw [List.getElem?_append_left hlt] at hr
      rw [List.getElem?_set_ne (Nat.ne_of_gt hlt)]
      exact h.bound i g r' (hi.imp_right fun _ => Nat.le_of_lt hlength) hg hr
    · rw [List.getElem?_concat_length] at hr
      rw [hf] at hg
      rw [← Option.some.inj hr, ← Option.some.inj hg, List.getElem?_set_self]
      exact h.length ▸ hlength
    · rw [List.getElem?_eq_none (by rw [List.length_append, List.length_singleton]; omega)] at hr
      exact absurd hr (by simp)
  · intro g r' hmany
    rw [List.length_append, List.length_singleton] at hmany
    omega
  · intro i g hi hg
    rw [List.length_append, List.length_singleton] at hi
    rw [List.getElem?_set_ne (by omega)]
    exact h.rest i g (by omega) hg

/-- Where there is a line for each candidate, one line more links the first candidate anew. -/
lemma SpreadOver.link_first {c g : Field} (h : SpreadOver t own (c :: cs) (g :: cs'))
    (hmany : (c :: cs).length ≤ own.length) (r : Relationship) :
    SpreadOver t (own ++ [r]) (c :: cs) (g.link t r :: cs') := by
  have hown : own ≠ [] := List.ne_nil_of_length_pos (Nat.lt_of_lt_of_le (Nat.succ_pos _) hmany)
  obtain ⟨r₀, hfirst⟩ := h.exists_first hown (f := c) rfl
  obtain rfl : g = c.link t r₀ := Option.some.inj hfirst
  constructor
  · exact h.length
  · intro i f r' hi hf hr
    rw [List.length_append, List.length_singleton] at hi
    have hlt := (List.getElem?_eq_some_iff.mp hf).1
    have hpos : 0 < i := hi.resolve_right (by omega)
    rw [List.getElem?_append_left (by omega)] at hr
    have hbound := h.bound i f r' (Or.inl hpos) hf hr
    obtain ⟨j, rfl⟩ := Nat.exists_eq_succ_of_ne_zero (Nat.ne_of_gt hpos)
    exact hbound
  · intro f r' _ hf hr
    rw [List.getLast?_concat] at hr
    rw [← Option.some.inj hr, ← Option.some.inj hf, List.getElem?_cons_zero, link_link]
  · intro i f hi hf
    rw [List.length_append, List.length_singleton] at hi
    have hlt := (List.getElem?_eq_some_iff.mp hf).1
    omega

/-- One line more takes the first candidate that is free, or else the first of all. -/
lemma SpreadOver.step (h : SpreadOver t own cs cs') (ht : t.id ≠ .unresolved)
    (hstart : ∀ f ∈ cs, f.isLinked = false) (hne : cs ≠ [])
    (hcandidates : ∀ f ∈ cs', isCandidate t f = true) (hline : SpreadsTo t r cs' cs'') :
    SpreadOver t (own ++ [r]) cs cs'' := by
  have hlinked := fun {i : Nat} {g : Field} => h.isLinked_iff ht hstart (i := i) (g := g)
  have hlength := h.length
  cases hline with
  | nothing none =>
    obtain ⟨f, hf⟩ := List.exists_mem_of_length_pos (hlength ▸ List.length_pos_iff.mpr hne)
    exact absurd (hcandidates f hf) (by simp [none f hf])
  | @links pre post f candidate unlinked first =>
    have hf := getElem?_length_append pre post f
    have hfree : ¬ pre.length < own.length := fun hlt => by simp [(hlinked hf).mpr hlt] at unlinked
    -- All before the free candidate are linked, so there are as many as there are lines.
    have hposition : own.length = pre.length := by
      by_contra hne
      have hlt : own.length < pre.length := by omega
      have hg : (pre ++ f :: post)[own.length]? = some pre[own.length] := by
        rw [List.getElem?_append_left hlt, List.getElem?_eq_getElem hlt]
      have hfirst := first _ (List.getElem_mem hlt) (hcandidates _ (List.mem_of_getElem? hg))
      exact Nat.lt_irrefl _ ((hlinked hg).mp hfirst)
    have hlt : own.length < cs.length := by
      rw [← hlength, hposition, List.length_append, List.length_cons]
      omega
    have hold : cs[own.length]? = some f := by
      have hrest := h.rest _ _ (Nat.le_refl _) (List.getElem?_eq_getElem hlt)
      rw [← hposition, hrest] at hf
      rw [List.getElem?_eq_getElem hlt, hf]
    have hnext := h.link_next hold r
    rwa [hposition, set_length_append] at hnext
  | @overwrites pre post f candidate first full =>
    obtain rfl : pre = [] := by
      refine List.eq_nil_iff_forall_not_mem.mpr fun g hg => ?_
      have hcandidate := hcandidates g (List.mem_append_left _ hg)
      exact absurd hcandidate (by simp [first g hg])
    rw [List.nil_append] at h hlinked hlength hcandidates full ⊢
    -- No candidate is free, so there is a line for each of them at least.
    have hmany : cs.length ≤ own.length := by
      by_contra hlt
      have hg := List.getElem?_eq_getElem (hlength ▸ Nat.not_le.mp hlt : own.length < (f :: post).length)
      have hmem := List.mem_of_getElem? hg
      exact Nat.lt_irrefl _ ((hlinked hg).mp (full _ hmem (hcandidates _ hmem)))
    obtain ⟨c, cs, rfl⟩ := List.exists_cons_of_ne_nil hne
    exact h.link_first hmany r

end Run

/-! ## Many lines -/

/-- What has become of an entity after the lines `own`, all of them with the target `t`: they are
spread over its candidates, and there is nothing else to it that has changed. -/
structure Entity.IsSpreadOver (t : Entity) (own : List Relationship) (s s' : Entity) : Prop where
  /-- All but references is the same. -/
  bare : s'.bare = s.bare
  /-- The lines are spread over the candidates. -/
  candidates : SpreadOver t own (s.fields.filter (isCandidate t)) (s'.fields.filter (isCandidate t))
  /-- Any other field is as before. -/
  others : ∀ (i : Nat) (f : Field), s.fields[i]? = some f → isCandidate t f = false →
    s'.fields[i]? = some f

/-- The lines whose source has that name. -/
def linesFrom (source : String) (lines : List (Nat × Relationship)) : List Relationship :=
  (lines.map Prod.snd).filter fun r => r.source == source

section Lines

variable {es es' : List Entity} {s s' t t' : Entity} {r : Relationship} {own : List Relationship}
  {fs fs' : List Field} {lines : List (Nat × Relationship)} {ws : List Warning}

/-- Spreading does not depend on what the target refers to. -/
lemma SpreadsTo.of_bare (h : SpreadsTo t' r fs fs') (hbare : t'.bare = t.bare) :
    SpreadsTo t r fs fs' := by
  obtain ⟨hid, hname, -, -, hkey⟩ := bare_eq_bare hbare
  have hcandidate : isCandidate t' = isCandidate t := by
    funext f
    rw [isCandidate, isCandidate, hname]
  have hlink : ∀ f : Field, f.link t' r = f.link t r := by
    intro f
    rw [Field.link, Field.link, linkedReference, linkedReference, hid, hkey]
  cases h with
  | nothing none => exact .nothing (hcandidate ▸ none)
  | links candidate unlinked first =>
    rw [hlink]
    rw [hcandidate] at candidate first
    exact .links candidate unlinked first
  | overwrites candidate first full =>
    rw [hlink]
    rw [hcandidate] at candidate first full
    exact .overwrites candidate first full

/-- A line does to the candidates what it does to the fields. -/
lemma SpreadsTo.filter (h : SpreadsTo t r fs fs') :
    SpreadsTo t r (fs.filter (isCandidate t)) (fs'.filter (isCandidate t)) := by
  have hmem : ∀ {gs : List Field} {g : Field}, g ∈ gs.filter (isCandidate t) → g ∈ gs :=
    fun hg => (List.mem_filter.mp hg).1
  have hsplit : ∀ {pre post : List Field} {f : Field}, isCandidate t f = true →
      (pre ++ f :: post).filter (isCandidate t)
        = pre.filter (isCandidate t) ++ f :: post.filter (isCandidate t) := by
    intro pre post f hf
    rw [List.filter_append, List.filter_cons_of_pos hf]
  cases h with
  | nothing none => exact .nothing fun f hf => none f (hmem hf)
  | @links pre post f candidate unlinked first =>
    have hlink : isCandidate t (f.link t r) = true := candidate
    rw [hsplit candidate, hsplit hlink]
    exact .links candidate unlinked fun g hg => first g (hmem hg)
  | @overwrites pre post f candidate first full =>
    have hlink : isCandidate t (f.link t r) = true := candidate
    rw [hsplit candidate, hsplit hlink]
    refine .overwrites candidate (fun g hg => first g (hmem hg)) fun g hg => full g ?_
    rw [← hsplit candidate] at hg
    exact hmem hg

/-- A line leaves what is no candidate. -/
lemma SpreadsTo.others (h : SpreadsTo t r fs fs') {i : Nat} {g : Field} (hg : fs[i]? = some g)
    (hother : isCandidate t g = false) : fs'[i]? = some g := by
  have hset : ∀ {pre post : List Field} {f : Field}, isCandidate t f = true →
      (pre ++ f :: post)[i]? = some g → (pre ++ f.link t r :: post)[i]? = some g := by
    intro pre post f hf hget
    rw [← set_length_append pre post f (f.link t r), List.getElem?_set_ne, hget]
    rintro rfl
    rw [getElem?_length_append] at hget
    rw [Option.some.inj hget, hother] at hf
    exact absurd hf (by decide)
  cases h with
  | nothing none => exact hg
  | links candidate unlinked first => exact hset candidate hg
  | overwrites candidate first full => exact hset candidate hg

/-- A line keeps what there is to its source besides references. -/
lemma SpreadsTo.bare (h : SpreadsTo t r fs fs') : fs'.map Field.bare = fs.map Field.bare := by
  have hlink : ∀ f : Field, (f.link t r).bare = f.bare := fun _ => rfl
  cases h with
  | nothing none => rfl
  | links candidate unlinked first => simp only [List.map_append, List.map_cons, hlink]
  | overwrites candidate first full => simp only [List.map_append, List.map_cons, hlink]

/-- One line more of the same source and target. -/
lemma Entity.IsSpreadOver.step (h : Entity.IsSpreadOver t own s s') (ht : t.id ≠ .unresolved)
    (hstart : ∀ f ∈ s.fields, isCandidate t f = true → f.isLinked = false)
    (hcandidate : ∃ f ∈ s.fields, isCandidate t f = true) (hline : SpreadsTo t r s'.fields fs) :
    Entity.IsSpreadOver t (own ++ [r]) s { s' with fields := fs } where
  bare := by
    rw [← h.bare]
    exact congrArg (fun gs => (⟨s'.id, s'.name, gs⟩ : Entity)) hline.bare
  candidates := by
    obtain ⟨f, hf, hcandidate⟩ := hcandidate
    refine h.candidates.step ht (fun g hg => ?_)
      (List.ne_nil_of_mem (List.mem_filter.mpr ⟨hf, hcandidate⟩))
      (fun g hg => (List.mem_filter.mp hg).2) hline.filter
    obtain ⟨hg, hcandidate⟩ := List.mem_filter.mp hg
    exact hstart g hg hcandidate
  others i f hf hother := hline.others (h.others i f hf hother) hother

lemma linesFrom_concat (source : String) (lines : List (Nat × Relationship)) (n : Nat)
    (r : Relationship) : linesFrom source (lines ++ [(n, r)])
      = linesFrom source lines ++ if r.source = source then [r] else [] := by
  rw [linesFrom, List.map_append, List.filter_append, ← linesFrom]
  by_cases hr : r.source = source <;> simp [hr]

/-- Lines that are resolved were resolved in two runs. -/
lemma resolveLines_append_eq_ok {resolver : Resolver} {first rest : List (Nat × Relationship)}
    (h : resolveLines resolver es (first ++ rest) = .ok (es', ws)) :
    ∃ es₁ ws₁ ws₂, resolveLines resolver es first = .ok (es₁, ws₁) ∧
      resolveLines resolver es₁ rest = .ok (es', ws₂) := by
  induction first generalizing es ws with
  | nil => exact ⟨es, [], ws, rfl, h⟩
  | cons line first ih =>
    obtain ⟨n, r⟩ := line
    obtain ⟨es₁, ws₁, ws₂, hline, hrest, -⟩ := resolveLines_cons_eq_ok h
    obtain ⟨es₂, ws₃, ws₄, hfirst, hlast⟩ := ih hrest
    refine ⟨es₂, ws₁ ++ ws₃, ws₄, ?_, hlast⟩
    simp only [resolveLines, hline, hfirst, bind, Except.bind]
    rfl

/-- The lines of one source with one target are spread over its candidates, whatever the lines of
other sources do in between. -/
lemma exists_isSpreadOver (hnames : (es.map Entity.name).Nodup) (hs : s ∈ es) (ht : t ∈ es)
    (hid : t.id ≠ .unresolved) (hstart : ∀ f ∈ s.fields, isCandidate t f = true → f.isLinked = false)
    (hcandidate : ∃ f ∈ s.fields, isCandidate t f = true)
    (htarget : ∀ r ∈ linesFrom s.name lines, r.target = t.name)
    (h : resolveLines .byName es lines = .ok (es', ws)) :
    ∃ s' ∈ es', Entity.IsSpreadOver t (linesFrom s.name lines) s s' := by
  induction lines using List.reverseRecOn generalizing es' ws with
  | nil =>
    obtain rfl := (Prod.mk.inj (Except.ok.inj h)).1
    exact ⟨s, hs, rfl, spreadOver_nil t _, fun _ _ hf _ => hf⟩
  | append_singleton lines line ih =>
    obtain ⟨n, r⟩ := line
    obtain ⟨es₁, ws₁, ws₂, hlines, hlast⟩ := resolveLines_append_eq_ok h
    obtain ⟨es₂, ws₃, ws₄, hline, hend, -⟩ := resolveLines_cons_eq_ok hlast
    obtain rfl := (Prod.mk.inj (Except.ok.inj hend)).1
    rw [linesFrom_concat] at htarget ⊢
    obtain ⟨s₁, hs₁, hspread⟩ := ih (fun r hr => htarget r (List.mem_append_left _ hr)) hlines
    have hbare := (bare_resolveLines hnames hlines).1
    have hnames₁ : (es₁.map Entity.name).Nodup := by
      rw [map_bare_congr hbare Entity.name fun _ => rfl]
      exact hnames
    have hname : s₁.name = s.name := (bare_eq_bare hspread.bare).2.1
    obtain ⟨t₁, ht₁, htbare⟩ := exists_bare hbare ht
    have htname : t₁.name = t.name := (bare_eq_bare htbare).2.1
    have hfinds : entityNamed? es₁ s.name = some s₁ := (find?_key_eq_some hnames₁).mpr ⟨hs₁, hname⟩
    have hfindt : entityNamed? es₁ t.name = some t₁ := (find?_key_eq_some hnames₁).mpr ⟨ht₁, htname⟩
    have hspreads := lineSpreads_of_resolveLine hnames₁ hline
    by_cases hsource : r.source = s.name
    · have hrtarget : r.target = t.name := htarget r (by simp [hsource])
      rw [if_pos hsource]
      cases hspreads with
      | unknown none => simp [hsource, hrtarget, hfinds, hfindt] at none
      | @known pre post s₂ t₂ fs source target spreads =>
        obtain rfl : s₂ = s₁ := by
          refine List.inj_on_of_nodup_map hnames₁ (by simp) hs₁ ?_
          rw [source, hsource, hname]
        obtain rfl : t₂ = t₁ := by
          rw [hrtarget, hfindt] at target
          exact (Option.some.inj target).symm
        exact ⟨_, by simp, hspread.step hid hstart hcandidate (spreads.of_bare htbare)⟩
    · rw [if_neg hsource, List.append_nil]
      cases hspreads with
      | unknown none => exact ⟨s₁, hs₁, hspread⟩
      | @known pre post s₂ t₂ fs source target spreads =>
        refine ⟨s₁, ?_, hspread⟩
        rcases List.mem_append.mp hs₁ with hmem | hmem
        · exact List.mem_append_left _ hmem
        · rcases List.mem_cons.mp hmem with rfl | hmem
          · exact absurd (source.symm.trans hname) hsource
          · exact List.mem_append_right _ (List.mem_cons_of_mem _ hmem)

end Lines

/-! ## Both laws -/

/-- **Links are spread before any is overwritten.**  In a model in which no foreign key is linked at
first, all lines can be resolved by names, one after the other, and each of them spreads: it
overwrites a link only if every candidate of its source for its target is linked, and then that of
the first; it links the first candidate that is not linked if there is one; with no candidate it
does nothing; it changes no other field and takes no link away.  So if all lines of a source have
the same target, for which it has a candidate, then exactly as many candidates are linked at the end
as there are lines, or else all, from the first on; each line holds the candidate at its place, but
the last of too many lines holds the first. -/
theorem spreads_byName {es : List Entity} (hnames : (es.map Entity.name).Nodup)
    (hids : ∀ e ∈ es, e.id ≠ .unresolved)
    (hstart : ∀ e ∈ es, ∀ f ∈ e.fields, f.isForeign = true → f.isLinked = false)
    (lines : List (Nat × Relationship)) :
    ∃ es' ws, resolveLines .byName es lines = .ok (es', ws) ∧
      (∀ before n r after, lines = before ++ (n, r) :: after →
        ∃ es₁ ws₁ es₂ ws₂ ws₃, resolveLines .byName es before = .ok (es₁, ws₁) ∧
          resolveLine .byName es₁ n r = .ok (es₂, ws₂) ∧
          resolveLines .byName es₂ after = .ok (es', ws₃) ∧
          LineSpreads r es₁ es₂ ∧
          List.Forall₂ (fun e e' : Entity => List.Forall₂
            (fun f f' => f.isLinked = true → f'.isLinked = true) e.fields e'.fields) es₁ es₂) ∧
      ∀ s ∈ es, ∀ t ∈ es, (∀ r ∈ linesFrom s.name lines, r.target = t.name) →
        (∃ f ∈ s.fields, isCandidate t f = true) →
        ∃ s' ∈ es', Entity.IsSpreadOver t (linesFrom s.name lines) s s' ∧
          ∀ i f, (s'.fields.filter (isCandidate t))[i]? = some f →
            (f.isLinked = true ↔ i < (linesFrom s.name lines).length) := by
  obtain ⟨es', ws, hlines⟩ := exists_resolveLines isTotal_byName es lines
  refine ⟨es', ws, hlines, ?_, ?_⟩
  · rintro before n r after rfl
    obtain ⟨es₁, ws₁, ws₂, hbefore, hrest⟩ := resolveLines_append_eq_ok hlines
    obtain ⟨es₂, ws₃, ws₄, hline, hafter, -⟩ := resolveLines_cons_eq_ok hrest
    have hbare := (bare_resolveLines hnames hbefore).1
    have hnames₁ : (es₁.map Entity.name).Nodup := by
      rw [map_bare_congr hbare Entity.name fun _ => rfl]
      exact hnames
    have hids₁ : ∀ e ∈ es₁, e.id ≠ .unresolved := by
      intro e he
      obtain ⟨e₀, he₀, hsame⟩ := exists_bare hbare.symm he
      rw [← (bare_eq_bare hsame).1]
      exact hids e₀ he₀
    have hspreads := lineSpreads_of_resolveLine hnames₁ hline
    exact ⟨es₁, ws₁, es₂, ws₃, ws₄, hbefore, hline, hafter, hspreads, hspreads.keepsLinks hids₁⟩
  · intro s hs t ht htarget hcandidate
    have hfree : ∀ f ∈ s.fields, isCandidate t f = true → f.isLinked = false := fun f hf hc =>
      hstart s hs f hf (Bool.and_eq_true_iff.mp hc).1
    obtain ⟨s', hs', hspread⟩ :=
      exists_isSpreadOver hnames hs ht (hids t ht) hfree hcandidate htarget hlines
    refine ⟨s', hs', hspread, fun i f hf => hspread.candidates.isLinked_iff (hids t ht) ?_ hf⟩
    intro g hg
    obtain ⟨hg, hc⟩ := List.mem_filter.mp hg
    exact hfree g hg hc

/-- An entity with two candidates for buyers. -/
def sales : Entity where
  id := ⟨"s"⟩
  name := "Sales"
  fields :=
    [{ id := ⟨"a"⟩, name := "buyer_id", isForeign := true, reference := some {} },
      { id := ⟨"b"⟩, name := "total", type := .decimal },
      { id := ⟨"c"⟩, name := "payer_id", isForeign := true, reference := some {} }]

/-- The target of its lines. -/
def buyers : Entity where
  id := ⟨"t"⟩
  name := "Buyers"
  fields := [{ id := ⟨"k"⟩, name := "id", isPrimary := true }]

/-- A line that joins the two under that label. -/
def saleLine (label : String) : Relationship where
  source := "Sales"
  target := "Buyers"
  symbol := "\x7do--||"
  cardinality := .manyToOne
  label := some label

/-- The sales after three lines: the last one holds the first candidate. -/
def spreadSales : Entity where
  id := ⟨"s"⟩
  name := "Sales"
  fields :=
    [{ id := ⟨"a"⟩, name := "buyer_id", isForeign := true
       reference := some { target := ⟨"t"⟩, targetField := ⟨"k"⟩, label := some "returned by" } },
      { id := ⟨"b"⟩, name := "total", type := .decimal },
      { id := ⟨"c"⟩, name := "payer_id", isForeign := true
        reference := some { target := ⟨"t"⟩, targetField := ⟨"k"⟩, label := some "paid by" } }]

/-- Three lines are spread over two candidates. -/
theorem spreads_threeLines :
    let lines := [(4, saleLine "sold to"), (5, saleLine "paid by"), (6, saleLine "returned by")]
    resolveLines .byName [sales, buyers] lines = .ok ([spreadSales, buyers], []) ∧
      Entity.IsSpreadOver buyers (linesFrom "Sales" lines) sales spreadSales := by
  intro lines
  have hrun : resolveLines .byName [sales, buyers] lines = .ok ([spreadSales, buyers], []) := by
    rfl
  have hnames : ([sales, buyers].map Entity.name).Nodup := by decide
  obtain ⟨es', ws, hlines, -, hspread⟩ := spreads_byName hnames (by decide) (by decide) lines
  rw [hrun] at hlines
  obtain ⟨rfl, -⟩ := Prod.mk.inj (Except.ok.inj hlines)
  obtain ⟨s', hs', hs, -⟩ := hspread sales (by simp) buyers (by simp) (by decide +kernel)
    (by decide +kernel)
  rcases List.mem_pair.mp hs' with rfl | rfl
  · exact ⟨hrun, hs⟩
  · exact absurd (congrArg Entity.name hs.bare) (by decide)

end DiagramSync
