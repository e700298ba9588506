import DiagramSync.Diagram.Parse
import DiagramSync.Proofs.List.Keyed

/-!
# Which field a labelled line is resolved to

What the resolver by labels does with one relationship line.  A label that names a foreign key picks
it; with any other label the first field is picked whose name speaks of the target and that is not
linked yet.

* `KeepsLooks`, `selectByName_congr`, `selectByLabel_congr` — picking among fields that look the same
* `selectByLabel_eq_some`, `selectByLabel_eq_none` — what a label picks
* `selectByName_eq_some` — what the names of the fields pick
* `link_byLabel` — the source after a line
* `resolveLine_byLabel`, `resolveLines_append` — the model after a line, and after one line and more
* `resolveLines_cons_eq_ok` — how lines came to be resolved
-/

namespace DiagramSync

open Text

variable {s t : Entity} {pre post : List Field} {f : Field} {label : String}

/-! ## Fields that look the same -/

/-- The fields are replaced by others that look the same to whoever picks one of them. -/
structure KeepsLooks (φ : Field → Field) : Prop where
  /-- They keep their names. -/
  name : ∀ f, (φ f).name = f.name
  /-- Foreign keys stay foreign keys. -/
  isForeign : ∀ f, (φ f).isForeign = f.isForeign
  /-- Those that point somewhere point somewhere still. -/
  isLinked : ∀ f, (φ f).isLinked = f.isLinked

section Looks

variable {φ : Field → Field} (hφ : KeepsLooks φ) {s' t' : Entity}
include hφ

/-- The same field is picked by name among fields that look the same. -/
lemma selectByName_congr (hs : s'.fields = s.fields.map φ) (ht : t'.name = t.name) :
    selectByName s' t' = selectByName s t := by
  have hcandidate : ∀ f, isCandidate t' (φ f) = isCandidate t f := by
    intro f
    rw [isCandidate, isCandidate, hφ.isForeign, hφ.name, ht]
  rw [selectByName, selectByName, hs, List.findIdx?_map, List.findIdx?_map]
  refine congrArg₂ Option.or ?_ ?_
  · refine congrArg (List.findIdx? · s.fields) (funext fun f => ?_)
    rw [Function.comp_apply, hcandidate, hφ.isLinked]
  · exact congrArg (List.findIdx? · s.fields) (funext hcandidate)

/-- The same field is picked by label among fields that look the same. -/
lemma selectByLabel_congr (hs : s'.fields = s.fields.map φ) (label : Option String) :
    selectByLabel s' label = selectByLabel s label := by
  have hname : ∀ wanted : String,
      ((fun f : Field => foldName f.name == foldName wanted) ∘ φ)
        = fun f : Field => foldName f.name == foldName wanted := by
    intro wanted
    funext f
    rw [Function.comp_apply, hφ.name]
  rw [selectByLabel, selectByLabel, hs]
  cases label with
  | none => rfl
  | some wanted =>
    simp only [Option.bind_eq_bind, Option.bind_some, List.findIdx?_map, hname, List.getElem?_map]
    split_ifs
    · rfl
    · cases s.fields.findIdx? fun f => foldName f.name == foldName wanted with
      | none => rfl
      | some i =>
        rw [Option.bind_some, Option.bind_some]
        cases s.fields[i]? with
        | none => rfl
        | some f =>
          rw [Option.map_some, Option.bind_some, Option.bind_some, hφ.isForeign]

end Looks

/-! ## Picking a field -/

lemma getElem?_length_append {α : Type} (xs ys : List α) (x : α) :
    (xs ++ x :: ys)[xs.length]? = some x := by
  rw [List.getElem?_append_right (Nat.le_refl _), Nat.sub_self, List.getElem?_cons_zero]

lemma set_length_append {α : Type} (xs ys : List α) (x y : α) :
    (xs ++ x :: ys).set xs.length y = xs ++ y :: ys := by
  rw [List.set_append_right _ _ (Nat.le_refl _), Nat.sub_self, List.set_cons_zero]

/-- A label picks the foreign key that it names. -/
lemma selectByLabel_eq_some (hs : s.fields = pre ++ f :: post)
    (hnames : (s.fields.map (foldName ·.name)).Nodup) (hforeign : f.isForeign = true)
    (hlabel : label ≠ "") (hname : foldName label = foldName f.name) :
    selectByLabel s (some label) = some pre.length := by
  rw [hs] at hnames
  simp only [selectByLabel, Option.bind_eq_bind, Option.bind_some, if_neg hlabel, hname, hs,
    findIdx?_key hnames, getElem?_length_append, hforeign, if_true]

/-- A label that names no foreign key picks nothing. -/
lemma selectByLabel_eq_none
    (h : ∀ g ∈ s.fields, g.isForeign = true → foldName g.name ≠ foldName label) :
    selectByLabel s (some label) = none := by
  simp only [selectByLabel, Option.bind_eq_bind, Option.bind_some]
  split_ifs with hlabel
  · rfl
  · cases hfind : s.fields.findIdx? fun g => foldName g.name == foldName label with
    | none => rfl
    | some i =>
      obtain ⟨hi, hname, -⟩ := List.findIdx?_eq_some_iff_getElem.mp hfind
      have hforeign : s.fields[i].isForeign = false := by
        rw [Bool.eq_false_iff]
        exact fun hf => h _ (List.getElem_mem hi) hf (beq_iff_eq.mp hname)
      simp [List.getElem?_eq_getElem hi, hforeign]

/-- The names of the fields pick the first candidate that is not linked yet. -/
lemma selectByName_eq_some (hs : s.fields = pre ++ f :: post) (hcandidate : isCandidate t f = true)
    (hunlinked : f.isLinked = false)
    (hpre : ∀ g ∈ pre, isCandidate t g = true → g.isLinked = true) :
    selectByName s t = some pre.length := by
  have hnone : pre.findIdx? (fun g => isCandidate t g && !g.isLinked) = none := by
    rw [List.findIdx?_eq_none_iff]
    intro g hg
    cases hc : isCandidate t g with
    | false => rfl
    | true => rw [hpre g hg hc]; rfl
  rw [selectByName, hs, List.findIdx?_append, hnone, List.findIdx?_cons, hcandidate, hunlinked]
  simp

/-! ## One line -/

/-- What it takes for a line with that label to be resolved to the field between `pre` and
`post`. -/
structure Picks (s t : Entity) (pre : List Field) (f : Field) (post : List Field)
    (label : String) : Prop where
  /-- The field stands there. -/
  fields : s.fields = pre ++ f :: post
  /-- The names of the fields are distinct. -/
  names : (s.fields.map (foldName ·.name)).Nodup
  /-- The field is a foreign key. -/
  foreign : f.isForeign = true
  /-- There is something on the label. -/
  labelled : label ≠ ""
  /-- The label names the field, or it names none and the field is the first to come. -/
  found : foldName label = foldName f.name ∨
    (∀ g ∈ s.fields, g.isForeign = true → foldName g.name ≠ foldName label) ∧
      isCandidate t f = true ∧ f.isLinked = false ∧
        ∀ g ∈ pre, isCandidate t g = true → g.isLinked = true

/-- The source after a line that picks a field. -/
lemma link_byLabel {r : Relationship} (h : Picks s t pre f post label)
    (hr : r.label = some label) :
    Resolver.byLabel.link s t r
      = .ok (some ({ s with fields := pre ++ f.link t r :: post }, f.link t r)) := by
  have hselect : (selectByLabel s (some label)).or (selectByName s t) = some pre.length := by
    rcases h.found with hname | ⟨hnone, hcandidate, hunlinked, hpre⟩
    · rw [selectByLabel_eq_some h.fields h.names h.foreign h.labelled hname, Option.some_or]
    · rw [selectByLabel_eq_none hnone, Option.none_or,
        selectByName_eq_some h.fields hcandidate hunlinked hpre]
  have hget : s.fields[pre.length]? = some f := by
    rw [h.fields, getElem?_length_append]
  have hset : s.fields.set pre.length (f.link t r) = pre ++ f.link t r :: post := by
    rw [h.fields, set_length_append]
  simp only [Resolver.link, Resolver.byLabel, hr, hselect, bind, Except.bind, hget, hset]
  rfl

/-- The model after a line that picks a field. -/
lemma resolveLine_byLabel {es : List Entity} {n : Nat} {r : Relationship}
    (hsource : entityNamed? es r.source = some s) (htarget : entityNamed? es r.target = some t)
    (h : Picks s t pre f post label) (hr : r.label = some label) :
    resolveLine .byLabel es n r
      = .ok (replaceNamed s.name { s with fields := pre ++ f.link t r :: post } es, []) := by
  rw [resolveLine, hsource, htarget]
  simp only [link_byLabel h hr, bind, Except.bind]
  rfl

/-! ## Many lines -/

lemma resolveLines_cons {resolver : Resolver} {es es' es'' : List Entity} {n : Nat}
    {r : Relationship} {rest : List (Nat × Relationship)} {ws : List Warning}
    (h : resolveLine resolver es n r = .ok (es', []))
    (hrest : resolveLines resolver es' rest = .ok (es'', ws)) :
    resolveLines resolver es ((n, r) :: rest) = .ok (es'', ws) := by
  simp only [resolveLines, h, bind, Except.bind, hrest]
  rfl

/-- Lines that are resolved were resolved one after the other. -/
lemma resolveLines_cons_eq_ok {resolver : Resolver} {es es' : List Entity} {n : Nat}
    {r : Relationship} {rest : List (Nat × Relationship)} {ws : List Warning}
    (h : resolveLines resolver es ((n, r) :: rest) = .ok (es', ws)) :
    ∃ es₁ ws₁ ws₂, resolveLine resolver es n r = .ok (es₁, ws₁) ∧
      resolveLines resolver es₁ rest = .ok (es', ws₂) ∧ ws = ws₁ ++ ws₂ := by
  rw [resolveLines] at h
  cases hline : resolveLine resolver es n r with
  | error reason => simp [hline, bind, Except.bind] at h
  | ok p =>
    obtain ⟨es₁, ws₁⟩ := p
    cases hlines : resolveLines resolver es₁ rest with
    | error reason => simp [hline, hlines, bind, Except.bind] at h
    | ok q =>
      obtain ⟨es₂, ws₂⟩ := q
      simp only [hline, hlines, bind, Except.bind, pure, Except.pure, Except.ok.injEq,
        Prod.mk.injEq] at h
      exact ⟨es₁, ws₁, ws₂, rfl, by rw [hlines, h.1], h.2.symm⟩

lemma resolveLines_append {resolver : Resolver} {es es' es'' : List Entity}
    {first rest : List (Nat × Relationship)} {ws : List Warning}
    (h : resolveLines resolver es first = .ok (es', []))
    (hrest : resolveLines resolver es' rest = .ok (es'', ws)) :
    resolveLines resolver es (first ++ rest) = .ok (es'', ws) := by
  induction first generalizing es with
  | nil =>
    obtain ⟨rfl, -⟩ := Prod.mk.inj (Except.ok.inj h)
    exact hrest
  | cons x first ih =>
    obtain ⟨n, r⟩ := x
    obtain ⟨es₁, ws₁, ws₂, hline, hfirst, hsilent⟩ := resolveLines_cons_eq_ok h
    obtain ⟨rfl, rfl⟩ := List.append_eq_nil_iff.mp hsilent.symm
    rw [List.cons_append]
    exact resolveLines_cons hline (ih hfirst)

end DiagramSync
