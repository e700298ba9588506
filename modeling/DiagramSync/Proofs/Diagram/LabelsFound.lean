import DiagramSync.Proofs.Diagram.Parts
import DiagramSync.Proofs.Diagram.ReadTexts

/-!
# Where the labels of a model that was read lead

The lines of a text may come in any order, overwrite each other's links, and be bound to a field by
its name alone.  Still every label that a field ends up with leads back to it: the label is the name
of the field in another case of letters, or the field was the first that was free when the line was
resolved.  What stands before it was linked then and is linked still, for no line ever unlinks a
field.

* `FindsField` — a label is resolved to the field at a position
* `findsField_of_selected` — what the resolver by labels picks is found by the label
* `cleanRemark_plain` — a label on one line and without quotes is kept as it is
* `LabelsFound` — every label of a model leads back to its field
* `labelsFound_resolveLine`, **`labelsFound_resolveLines`** — what lines keep
-/

namespace DiagramSync

open Text

/-! ## Labels and positions -/

/-- Among the fields of `e` a line with that label and the target `t` is resolved to the field `f`
at the position `i`: the label is its name but for case, or it names no foreign key and `f` is the
first field that may point at `t` and is not linked. -/
def FindsField (e : Entity) (t : Entity) (i : Nat) (f : Field) (label : String) : Prop :=
  foldName label = foldName f.name ∨
    (∀ g ∈ e.fields, g.isForeign = true → foldName g.name ≠ foldName label) ∧
      isCandidate t f = true ∧
      ∀ j g, j < i → e.fields[j]? = some g → isCandidate t g = true → g.isLinked = true

section Selected

variable {s t : Entity} {i : Nat} {f : Field}

/-- The field that the names pick is a candidate, and all candidates before it are linked. -/
lemma candidate_of_selectByName (h : selectByName s t = some i) (hf : s.fields[i]? = some f) :
    isCandidate t f = true ∧
      ∀ j g, j < i → s.fields[j]? = some g → isCandidate t g = true → g.isLinked = true := by
  have hat : ∀ {p : Field → Bool}, s.fields.findIdx? p = some i →
      p f = true ∧ ∀ j g, j < i → s.fields[j]? = some g → p g = false := by
    intro p hp
    obtain ⟨hi, hpi, hbefore⟩ := List.findIdx?_eq_some_iff_getElem.mp hp
    obtain ⟨-, rfl⟩ := List.getElem?_eq_some_iff.mp hf
    refine ⟨hpi, fun j g hj hg => ?_⟩
    obtain ⟨-, rfl⟩ := List.getElem?_eq_some_iff.mp hg
    exact Bool.eq_false_iff.mpr (hbefore j hj)
  rw [selectByName, Option.or_eq_some_iff] at h
  rcases h with h | ⟨-, h⟩
  · obtain ⟨hcandidate, hbefore⟩ := hat h
    refine ⟨(Bool.and_eq_true_iff.mp hcandidate).1, fun j g hj hg hcand => ?_⟩
    simpa [hcand] using hbefore j g hj hg
  · obtain ⟨hcandidate, hbefore⟩ := hat h
    refine ⟨hcandidate, fun j g hj hg hcand => ?_⟩
    exact absurd (hcand.symm.trans (hbefore j g hj hg)) Bool.noConfusion

/-- The field that a label picks has it as its name but for case. -/
lemma foldName_of_selectByLabel {label : String} (h : selectByLabel s (some label) = some i)
    (hf : s.fields[i]? = some f) : foldName label = foldName f.name := by
  simp only [selectByLabel, Option.bind_eq_bind, Option.bind_some] at h
  split_ifs at h
  simp only [Option.bind_eq_some_iff] at h
  obtain ⟨j, hj, g, -, h⟩ := h
  split_ifs at h
  obtain rfl := Option.some.inj h
  obtain ⟨hlt, hname, -⟩ := List.findIdx?_eq_some_iff_getElem.mp hj
  obtain ⟨-, rfl⟩ := List.getElem?_eq_some_iff.mp hf
  exact (beq_iff_eq.mp hname).symm

/-- The resolver by labels picks the field that the label finds. -/
lemma findsField_of_selected {r : Relationship} {label : String} (hr : r.label = some label)
    (hlabel : label ≠ "") (hnames : (s.fields.map (foldName ·.name)).Nodup)
    (h : Resolver.byLabel.select s t r = .ok (some i)) (hf : s.fields[i]? = some f) :
    FindsField s t i f label := by
  have hselect := Except.ok.inj h
  rw [hr, Option.or_eq_some_iff] at hselect
  rcases hselect with hselect | ⟨hnone, hselect⟩
  · exact Or.inl (foldName_of_selectByLabel hselect hf)
  · refine Or.inr ⟨fun g hg hforeign hname => ?_, candidate_of_selectByName hselect hf⟩
    obtain ⟨pre, post, hfields⟩ := List.append_of_mem hg
    rw [selectByLabel_eq_some hfields hnames hforeign hlabel hname.symm] at hnone
    exact absurd hnone (Option.some_ne_none _)

end Selected

/-! ## Labels without quotes -/

/-- The label of the relationship, if there is one, holds no double quote. -/
def Relationship.HasPlainLabel (r : Relationship) : Prop :=
  ∀ l ∈ r.label, '"' ∉ l.toList

instance (r : Relationship) : Decidable r.HasPlainLabel :=
  inferInstanceAs (Decidable (∀ l ∈ r.label, '"' ∉ l.toList))

/-- Of a label that is on one line and holds no double quote nothing is cleaned away, unless it is
blank. -/
lemma cleanRemark_plain {label kept : String} (hline : IsLineText label) (hplain : '"' ∉ label.toList)
    (h : cleanRemark (some label) = some kept) : kept = label ∧ label ≠ "" := by
  have hquotes : ∀ c ∈ label.toList, c ≠ '"' := fun c hc hquote => hplain (hquote ▸ hc)
  have hsingle : label.toList.map singleQuote = label.toList := by
    refine (List.map_congr_left fun c hc => ?_).trans (List.map_id _)
    exact if_neg (hquotes c hc)
  have hbreaks : ∀ c ∈ label.toList, c ≠ '\r' ∧ c ≠ '\n' := by
    intro c hc
    constructor <;>
    · rintro rfl
      exact absurd (hline _ hc) (by decide)
  have hchars : remarkChars label.toList = some kept.toList := by
    simp only [cleanRemark, Option.bind_some, Option.map_eq_some_iff] at h
    obtain ⟨cs, hcs, rfl⟩ := h
    rw [hcs, String.toList_ofList]
  simp only [remarkChars, joinBreaks_eq_self hbreaks, hsingle] at hchars
  split_ifs at hchars with hblank
  refine ⟨(String.toList_inj.mp (Option.some.inj hchars)).symm, ?_⟩
  rintro rfl
  exact hblank rfl

/-! ## Models all of whose labels are found -/

/-- Every label leads back to its field, once all fields before it have been linked that are. -/
def LabelsFound (es : List Entity) : Prop :=
  ∀ e ∈ es, ∀ i f, e.fields[i]? = some f → ∀ r, f.reference = some r →
    ∀ t ∈ es, t.id = r.target → ∀ l, r.label = some l → l ≠ f.name ∧ FindsField e t i f l

/-- In a model whose references have no labels there is nothing to find. -/
lemma labelsFound_of_no_labels {es : List Entity}
    (h : ∀ e ∈ es, ∀ f ∈ e.fields, ∀ r, f.reference = some r → r.label = none) :
    LabelsFound es := by
  intro e he i f hf r hr t _ _ l hl
  rw [h e he f (List.mem_of_getElem? hf) r hr] at hl
  exact absurd hl nofun

section Lines

variable {unlinked : Cardinality} {es es' : List Entity}

/-- A label that a link keeps is that of its line, and finds the field that was linked. -/
lemma findsField_of_link {s t : Entity} {i : Nat} {f : Field} {r : Relationship}
    (hnames : (s.fields.map (foldName ·.name)).Nodup) (hline : r.StaysOnLine)
    (hplain : r.HasPlainLabel) (h : Resolver.byLabel.select s t r = .ok (some i))
    (hf : s.fields[i]? = some f) {l : String} (hl : (linkedReference t r f).label = some l) :
    l ≠ f.name ∧ FindsField s t i f l := by
  have hkept : (if r.label = some f.name then none else cleanRemark r.label) = some l := hl
  split_ifs at hkept with hdefault
  obtain ⟨label, hlabel, -⟩ := Option.bind_eq_some_iff.mp hkept
  rw [hlabel] at hkept hdefault
  obtain ⟨rfl, hne⟩ := cleanRemark_plain (hline.label label hlabel) (hplain label hlabel) hkept
  exact ⟨fun heq => hdefault (congrArg some heq), findsField_of_selected hlabel hne hnames h hf⟩

/-- Linking a field leaves every label finding what it found: names and flags stay as they are, and
one field more is linked. -/
lemma FindsField.set {s t t' : Entity} {i j : Nat} {f g : Field} {r : Relationship} {l : String}
    (h : FindsField s t' j g l) (hf : s.fields[i]? = some f) (ht : t.id ≠ .unresolved) :
    FindsField { s with fields := s.fields.set i (f.link t r) } t' j g l := by
  refine h.imp id ?_
  rintro ⟨hnone, hcandidate, hbefore⟩
  refine ⟨fun x hx hforeign => ?_, hcandidate, fun k x hk hx hcand => ?_⟩
  · rcases List.mem_or_eq_of_mem_set hx with hx | rfl
    · exact hnone x hx hforeign
    · exact hnone f (List.mem_of_getElem? hf) hforeign
  · rw [List.getElem?_set] at hx
    split_ifs at hx with hik
    · rw [← Option.some.inj hx]
      exact bne_iff_ne.mpr ht
    · exact hbefore k x hk hx hcand

/-- A line keeps that every label is found. -/
lemma labelsFound_resolveLine (h : LabelsFound es) (hnamed : IsNamed es)
    (hids : (es.map Entity.id).Nodup) (hresolved : ∀ e ∈ es, e.id ≠ .unresolved) {n : Nat}
    {r : Relationship} (hline : r.StaysOnLine) (hplain : r.HasPlainLabel) {ws : List Warning}
    (hresolve : resolveLine .byLabel es n r = .ok (es', ws)) : LabelsFound es' := by
  rcases resolveLine_picked hresolve with rfl | ⟨s, hs, t, ht, i, f, hselect, hget, rfl⟩
  · exact h
  set linked : Entity := { s with fields := s.fields.set i (f.link t r) } with hlinked
  -- what the line leaves of an entity has its id and its name
  have hback : ∀ x' ∈ replaceNamed s.name linked es, ∃ x ∈ es, x'.id = x.id ∧ x'.name = x.name ∧
      (x' = x ∨ x' = linked ∧ x = s) := by
    intro x' hx'
    obtain ⟨x, hx, rfl⟩ := List.mem_map.mp hx'
    split_ifs with hname
    · obtain rfl := List.inj_on_of_nodup_map hnamed.names hx hs (beq_iff_eq.mp hname)
      exact ⟨x, hx, rfl, rfl, Or.inr ⟨rfl, rfl⟩⟩
    · exact ⟨x, hx, rfl, rfl, Or.inl rfl⟩
  intro e' he' j g hg q hq t' ht' htarget l hl
  obtain ⟨t₀, ht₀, hid, hname, -⟩ := hback t' ht'
  have hsame : FindsField e' t' j g l = FindsField e' t₀ j g l := by
    simp only [FindsField, isCandidate, hname]
  rw [hsame]
  obtain ⟨e, he, -, -, rfl | ⟨rfl, rfl⟩⟩ := hback e' he'
  · exact h e' he j g hg q hq t₀ ht₀ (hid.symm.trans htarget) l hl
  · rw [hlinked, List.getElem?_set] at hg
    split_ifs at hg with hij
    · -- the field that was linked by the line
      subst hij
      obtain rfl := Option.some.inj hg
      obtain rfl := Option.some.inj hq
      obtain rfl : t₀ = t := List.inj_on_of_nodup_map hids ht₀ ht (hid.symm.trans htarget)
      obtain ⟨hne, hfinds⟩ := findsField_of_link (hnamed.fieldNames e he) hline hplain hselect hget hl
      exact ⟨hne, FindsField.set hfinds hget (hresolved t₀ ht₀)⟩
    · obtain ⟨hne, hfinds⟩ := h e he j g hg q hq t₀ ht₀ (hid.symm.trans htarget) l hl
      exact ⟨hne, hfinds.set hget (hresolved t ht)⟩

/-- **All lines together keep that every label is found.** -/
theorem labelsFound_resolveLines (h : LabelsFound es) (hes : IsRead unlinked es)
    (hids : (es.map Entity.id).Nodup) (hresolved : ∀ e ∈ es, e.id ≠ .unresolved)
    {lines : List (Nat × Relationship)} (hlines : ∀ p ∈ lines, p.2.StaysOnLine)
    (hplain : ∀ p ∈ lines, p.2.HasPlainLabel) {ws : List Warning}
    (hresolve : resolveLines .byLabel es lines = .ok (es', ws)) : LabelsFound es' := by
  induction lines generalizing es ws with
  | nil =>
    obtain rfl := (Prod.mk.inj (Except.ok.inj hresolve)).1
    exact h
  | cons line lines ih =>
    obtain ⟨n, r⟩ := line
    obtain ⟨es₁, ws₁, ws₂, hline, hrest, -⟩ := resolveLines_cons_eq_ok hresolve
    have hbare := bare_resolveLine hes.names hline
    have hsameIds : es₁.map Entity.id = es.map Entity.id := map_bare_congr hbare Entity.id fun _ => rfl
    refine ih ?_ (isRead_resolveLine hes picksForeign_byLabel hline) (hsameIds ▸ hids) (fun e' he' => ?_)
      (fun p hp => hlines p (List.mem_cons_of_mem _ hp))
      (fun p hp => hplain p (List.mem_cons_of_mem _ hp)) hrest
    · exact labelsFound_resolveLine h hes.toIsNamed hids hresolved (hlines _ List.mem_cons_self)
        (hplain _ List.mem_cons_self) hline
    · have hmem : e'.id ∈ es.map Entity.id := hsameIds ▸ List.mem_map_of_mem he'
      obtain ⟨e, he, hid⟩ := List.mem_map.mp hmem
      exact hid ▸ hresolved e he

end Lines

end DiagramSync
