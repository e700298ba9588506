import DiagramSync.Diagram.Hint
import DiagramSync.Proofs.Diagram.LabelsFound
import DiagramSync.Proofs.Diagram.Spread
import Mathlib.Data.List.Find
import Mathlib.Data.List.Perm.Subperm

/-!
# What hints are given for

A hint is found by a phrase that occurs in a message, and a message quotes names of the diagram.  A
quote is in no phrase, so a phrase occurs in what the message says itself or in one of its names.
Hence the hints are those that the diagnosis calls for, unless a name holds a phrase; then the
phrase that is looked for first decides.

* `mem_hints_iff` — no hint of a message is cut off or left out
* `Warning.hint?` — the hint of a warning, with regard to the names that it quotes
* `ofMessage?_message` — it is the hint for what the warning says
* `Relationship.NamesUnknown`, `Relationship.FindsNoField` — what is wrong with a relationship line
* `Hint.IsDue` — what a text has to be like for a hint to be called for
* `isDue_iff` — that is what the error and the warnings are about
* **`suggests_iff`** — which hints are given
-/

namespace DiagramSync

open Text

/-! ## Items without repetition -/

section Items

variable {α : Type} [BEq α] [LawfulBEq α] {seen xs : List α} {x : α}

lemma mem_firstOccurrences : x ∈ firstOccurrences seen xs ↔ x ∈ xs ∧ x ∉ seen := by
  induction xs generalizing seen with
  | nil => simp [firstOccurrences]
  | cons y xs ih =>
    rw [firstOccurrences]
    split_ifs with hseen
    · rw [List.contains_iff_mem] at hseen
      rw [ih, List.mem_cons]
      refine ⟨fun h => ⟨Or.inr h.1, h.2⟩, fun h => ⟨h.1.resolve_left ?_, h.2⟩⟩
      rintro rfl
      exact h.2 hseen
    · rw [List.contains_iff_mem] at hseen
      rw [List.mem_cons, ih, List.mem_cons, List.mem_cons]
      by_cases hxy : x = y
      · subst hxy
        exact iff_of_true (Or.inl rfl) ⟨Or.inl rfl, hseen⟩
      · simp only [hxy, false_or]

lemma nodup_firstOccurrences (seen xs : List α) : (firstOccurrences seen xs).Nodup := by
  induction xs generalizing seen with
  | nil => exact List.nodup_nil
  | cons y xs ih =>
    rw [firstOccurrences]
    split_ifs
    · exact ih seen
    · exact List.nodup_cons.mpr
        ⟨fun h => (mem_firstOccurrences.mp h).2 List.mem_cons_self, ih (y :: seen)⟩

omit [LawfulBEq α] in
/-- What comes later does not change what comes first. -/
lemma firstOccurrences_prefix (seen xs ys : List α) :
    firstOccurrences seen xs <+: firstOccurrences seen (xs ++ ys) := by
  induction xs generalizing seen with
  | nil => exact List.nil_prefix
  | cons x xs ih =>
    rw [List.cons_append, firstOccurrences, firstOccurrences]
    split_ifs
    · exact ih seen
    · exact (List.prefix_cons_inj x).mpr (ih (x :: seen))

end Items

/-- There are five hints besides the one that comes from the braces, so none of them is cut off, and
a hint is given exactly if it is that for a message. -/
lemma mem_hints_iff {text : List Char} {messages : List String} {h : Hint} (hh : h ≠ .matchBraces) :
    h ∈ hints text messages ↔ ∃ m ∈ messages, Hint.ofMessage? m = some h := by
  rw [hints, ← List.mem_filterMap]
  set given := messages.filterMap Hint.ofMessage? with hgiven
  have hbraces : Hint.matchBraces ∉ given := by
    intro hmem
    obtain ⟨m, -, hm⟩ := List.mem_filterMap.mp hmem
    obtain ⟨p, hp, heq⟩ := Option.map_eq_some_iff.mp hm
    have hnone : ∀ p ∈ Hint.phrases, p.2 ≠ Hint.matchBraces := by decide
    exact hnone p (List.mem_of_find?_eq_some hp) heq
  have hfew : (firstOccurrences [] given).length ≤ 5 := by
    have hsub : firstOccurrences [] given ⊆ [.startWithHeader, .declareEntity, .closeBlocks,
        .checkEntityNames, .markForeignKey] := by
      intro x hx
      have hne : x ≠ .matchBraces := fun heq => hbraces (heq ▸ (mem_firstOccurrences.mp hx).1)
      cases x <;> simp at hne ⊢
    exact (List.subperm_of_subset (nodup_firstOccurrences [] given) hsub).length_le
  constructor
  · intro hmem
    rcases List.mem_append.mp (mem_firstOccurrences.mp (List.mem_of_mem_take hmem)).1 with hin | hin
    · exact hin
    · split_ifs at hin
      · exact absurd hin List.not_mem_nil
      · exact absurd (List.mem_singleton.mp hin) hh
  · intro hmem
    obtain ⟨rest, hrest⟩ := firstOccurrences_prefix [] given
      (if bracesMatch text = true then [] else [Hint.matchBraces])
    rw [← hrest, List.take_append]
    refine List.mem_append_left _ ?_
    rw [List.take_of_length_le hfew]
    exact mem_firstOccurrences.mpr ⟨hmem, List.not_mem_nil⟩

/-! ## Phrases in messages -/

/-- The hint that a warning is meant to have. -/
def Warning.ownHint? : Warning → Option Hint
  | neverClosed .. => some .closeBlocks
  | duplicateField .. => none
  | unknownEntity .. => some .checkEntityNames
  | noForeignKey .. => some .markForeignKey

/-- The names that a warning quotes. -/
def Warning.names : Warning → List String
  | neverClosed _ e => [e]
  | duplicateField _ f e => [f, e]
  | unknownEntity _ e => [e]
  | noForeignKey _ s t => [s, t]

/-- The hint that a warning has: that of the first phrase that is its own or that occurs in one of
its names. -/
def Warning.hint? (w : Warning) : Option Hint :=
  (Hint.phrases.find? fun p =>
    w.ownHint? == some p.2 || w.names.any fun name => contains p.1.toList name.toList).map (·.2)

/-- No phrase occurs in a name that the warning quotes. -/
def Warning.IsPlain (w : Warning) : Prop :=
  ∀ name ∈ w.names, ∀ p ∈ Hint.phrases, contains p.1.toList name.toList = false

instance (w : Warning) : Decidable w.IsPlain :=
  inferInstanceAs (Decidable (∀ name ∈ w.names, ∀ p ∈ Hint.phrases,
    contains p.1.toList name.toList = false))

/-- A plain warning has the hint that it is meant to have. -/
lemma Warning.IsPlain.hint?_eq {w : Warning} (hw : w.IsPlain) : w.hint? = w.ownHint? := by
  have hnames : ∀ p ∈ Hint.phrases,
      (w.ownHint? == some p.2 || w.names.any fun name => contains p.1.toList name.toList)
        = (w.ownHint? == some p.2) := by
    intro p hp
    have hnone : (w.names.any fun name => contains p.1.toList name.toList) = false :=
      List.any_eq_false.mpr fun name hname => by simp [hw name hname p hp]
    rw [hnone, Bool.or_false]
  rw [Warning.hint?, List.find?_congr hnames]
  cases w <;> rfl

lemma contains_eq_true_iff {needle cs : List Char} : contains needle cs = true ↔ needle <:+: cs := by
  induction cs with
  | nil => rw [contains, List.isEmpty_iff, List.infix_nil]
  | cons c cs ih => rw [contains, Bool.or_eq_true, ih, List.isPrefixOf_iff_prefix, List.infix_cons_iff]

/-- A text without a certain character does not reach over an occurrence of it. -/
lemma contains_append_cons {needle : List Char} {c : Char} (hc : c ∉ needle) (xs ys : List Char) :
    contains needle (xs ++ c :: ys) = (contains needle xs || contains needle ys) := by
  rw [Bool.eq_iff_iff, Bool.or_eq_true, contains_eq_true_iff, contains_eq_true_iff,
    contains_eq_true_iff]
  constructor
  · rintro ⟨before, after, heq⟩
    rcases List.append_eq_append_iff.mp heq with ⟨mid, rfl, -⟩ | ⟨mid, hbefore, hafter⟩
    · exact Or.inl ⟨before, mid, rfl⟩
    · rcases List.append_eq_append_iff.mp hbefore with ⟨start, rfl, rfl⟩ | ⟨start, rfl, hmid⟩
      · -- What is left of the needle behind `xs` would start with `c`.
        rcases List.cons_eq_append_iff.mp hafter with ⟨rfl, -⟩ | ⟨mid, rfl, -⟩
        · exact Or.inl ⟨before, [], by rw [List.append_nil, List.append_nil]⟩
        · exact absurd (List.mem_append_right start List.mem_cons_self) hc
      · rw [hmid, List.append_assoc] at hafter
        rcases List.cons_eq_append_iff.mp hafter with ⟨rfl, hneedle⟩ | ⟨start, rfl, rfl⟩
        · cases needle with
          | nil => exact Or.inl List.nil_infix
          | cons d needle =>
            obtain ⟨rfl, -⟩ := List.cons.inj hneedle
            exact absurd List.mem_cons_self hc
        · exact Or.inr ⟨start, after, List.append_assoc ..⟩
  · rintro (h | h)
    · exact h.trans (List.prefix_append _ _).isInfix
    · exact h.trans ((List.suffix_cons c ys).trans (List.suffix_append xs (c :: ys))).isInfix

/-- The number of the line that a warning is about. -/
def Warning.line : Warning → Nat
  | neverClosed n _ => n
  | duplicateField n .. => n
  | unknownEntity n _ => n
  | noForeignKey n .. => n

/-- What a warning says behind the number of the line: its wording, and the names in quotes. -/
def Warning.pieces : Warning → List String
  | neverClosed _ e => [" block for ", e, " is never closed"]
  | duplicateField _ f e => [" duplicate field ", f, " in ", e, " skipped"]
  | unknownEntity _ e => [" relationship references unknown entity ", e, ""]
  | noForeignKey _ s t => [" no FK field on ", s, " matches ", t, ""]

/-- What a warning says apart from the number and the names. -/
def Warning.wording : Warning → List String
  | neverClosed .. => [" block for ", " is never closed"]
  | duplicateField .. => [" duplicate field ", " in ", " skipped"]
  | unknownEntity .. => [" relationship references unknown entity ", ""]
  | noForeignKey .. => [" no FK field on ", " matches ", ""]

/-- Pieces with quotes between them. -/
def betweenQuotes : List String → List Char
  | [] => []
  | [s] => s.toList
  | s :: t :: rest => s.toList ++ '\'' :: betweenQuotes (t :: rest)

lemma toList_message (w : Warning) : w.message.toList
    = "Line ".toList ++ Nat.toDigits 10 w.line ++ ':' :: betweenQuotes w.pieces := by
  cases w <;>
    simp only [Warning.message, String.toList_append, Nat.toString_eq_ofList_toDigits,
      String.toList_ofList, List.append_assoc] <;>
    rfl

lemma any_pieces (w : Warning) (p : String → Bool) :
    w.pieces.any p = (w.wording.any p || w.names.any p) := by
  rw [Bool.eq_iff_iff, Bool.or_eq_true]
  cases w <;>
    simp only [Warning.pieces, Warning.wording, Warning.names, List.any_cons, List.any_nil,
      Bool.or_eq_true, Bool.false_eq_true] <;>
    tauto

/-- A text without quotes occurs in one of the pieces. -/
lemma contains_betweenQuotes {needle : List Char} (hquote : '\'' ∉ needle) {pieces : List String}
    (hpieces : pieces ≠ []) : contains needle (betweenQuotes pieces)
      = pieces.any fun piece => contains needle piece.toList := by
  induction pieces using betweenQuotes.induct with
  | case1 => exact absurd rfl hpieces
  | case2 s => rw [betweenQuotes, List.any_cons, List.any_nil, Bool.or_false]
  | case3 s t rest ih =>
    rw [betweenQuotes, contains_append_cons hquote, ih (List.cons_ne_nil t rest)]
    rfl

section Phrases

variable {p : String × Hint} (hp : p ∈ Hint.phrases)

include hp

/-- No phrase is in the wording of a warning but the one that is meant for it. -/
lemma any_contains_wording (w : Warning) :
    (w.wording.any fun piece => contains p.1.toList piece.toList) = (w.ownHint? == some p.2) := by
  have hall : (Hint.phrases.all fun p =>
      (w.wording.any fun piece => contains p.1.toList piece.toList) == (w.ownHint? == some p.2))
        = true := by
    cases w <;> rfl
  exact beq_iff_eq.mp (List.all_eq_true.mp hall p hp)

/-- There is no phrase in the number of a line. -/
lemma contains_lineNumber (n : Nat) :
    contains p.1.toList ("Line ".toList ++ Nat.toDigits 10 n) = false := by
  have hall : (Hint.phrases.all fun p => p.1.toList.any fun c =>
      !"Line ".toList.contains c && !c.isDigit) = true := rfl
  obtain ⟨c, hc, hother⟩ := List.any_eq_true.mp (List.all_eq_true.mp hall p hp)
  rw [Bool.and_eq_true, Bool.not_eq_true', Bool.not_eq_true', List.contains_eq_mem,
    decide_eq_false_iff_not] at hother
  obtain ⟨hline, hdigit⟩ := hother
  rw [← Bool.not_eq_true, contains_eq_true_iff]
  intro hinside
  rcases List.mem_append.mp (hinside.subset hc) with hmem | hmem
  · exact hline hmem
  · rw [Nat.isDigit_of_mem_toDigits (by decide) (by decide) hmem] at hdigit
    exact absurd hdigit.symm Bool.false_ne_true

/-- A phrase occurs in a message if it is the one for the wording or stands in a name. -/
lemma contains_message (w : Warning) : contains p.1.toList w.message.toList
    = (w.ownHint? == some p.2 || w.names.any fun name => contains p.1.toList name.toList) := by
  have hmarks : ∀ p ∈ Hint.phrases, '\'' ∉ p.1.toList ∧ ':' ∉ p.1.toList := by decide +kernel
  obtain ⟨hquote, hcolon⟩ := hmarks p hp
  have hpieces : w.pieces ≠ [] := by cases w <;> exact List.cons_ne_nil _ _
  rw [toList_message, contains_append_cons hcolon, contains_lineNumber hp, Bool.false_or,
    contains_betweenQuotes hquote hpieces, any_pieces, any_contains_wording hp]

end Phrases

/-- The hint for what a warning says is that of its wording or of a name in it. -/
lemma ofMessage?_message (w : Warning) : Hint.ofMessage? w.message = w.hint? := by
  rw [Hint.ofMessage?, Warning.hint?, List.find?_congr fun p hp => contains_message hp w]

/-! ## What is wrong with relationship lines -/

/-- One of the names on the line is that of no entity. -/
def Relationship.NamesUnknown (es : List Entity) (r : Relationship) : Prop :=
  r.source ∉ es.map Entity.name ∨ r.target ∉ es.map Entity.name

/-- The line joins two entities, and no field of the first is a foreign key that may point at the
second. -/
def Relationship.FindsNoField (es : List Entity) (r : Relationship) : Prop :=
  ∃ s ∈ es, ∃ t ∈ es, s.name = r.source ∧ t.name = r.target ∧
    ∀ f ∈ s.fields, isCandidate t f = false

/-- The hint for what is wrong with a line among some entities. -/
def Relationship.hint? (es : List Entity) (r : Relationship) : Option Hint :=
  match entityNamed? es r.source, entityNamed? es r.target with
  | some s, some t => if s.fields.any (isCandidate t) then none else some .markForeignKey
  | _, _ => some .checkEntityNames

section Lines

variable {es es' : List Entity} {r : Relationship}

lemma hint?_eq_checkEntityNames : r.hint? es = some .checkEntityNames ↔ r.NamesUnknown es := by
  rw [Relationship.NamesUnknown, ← find?_key_eq_none, ← find?_key_eq_none]
  change _ ↔ entityNamed? es r.source = none ∨ entityNamed? es r.target = none
  rw [Relationship.hint?]
  cases entityNamed? es r.source <;> cases entityNamed? es r.target <;> simp

lemma hint?_eq_markForeignKey (hnames : (es.map Entity.name).Nodup) :
    r.hint? es = some .markForeignKey ↔ r.FindsNoField es := by
  have hfound : ∀ {name : String} {e : Entity},
      entityNamed? es name = some e ↔ e ∈ es ∧ e.name = name :=
    find?_key_eq_some hnames
  rw [Relationship.hint?]
  constructor
  · intro h
    split at h
    · rename_i s t hsource htarget
      obtain ⟨hs, hsname⟩ := hfound.mp hsource
      obtain ⟨ht, htname⟩ := hfound.mp htarget
      refine ⟨s, hs, t, ht, hsname, htname, ?_⟩
      split_ifs at h with hany
      simpa using hany
    · exact absurd h (by simp)
  · rintro ⟨s, hs, t, ht, hsname, htname, hnone⟩
    rw [hfound.mpr ⟨hs, hsname⟩, hfound.mpr ⟨ht, htname⟩]
    exact if_neg (by simpa using hnone)

/-- What is wrong with lines is one of the two. -/
lemma exists_hint?_iff (hnames : (es.map Entity.name).Nodup) {lines : List (Nat × Relationship)}
    {h : Hint} : (∃ l ∈ lines, l.2.hint? es = some h) ↔
      (h = .checkEntityNames ∧ ∃ l ∈ lines, l.2.NamesUnknown es) ∨
        (h = .markForeignKey ∧ ∃ l ∈ lines, l.2.FindsNoField es) := by
  simp only [← hint?_eq_checkEntityNames, ← hint?_eq_markForeignKey hnames]
  constructor
  · rintro ⟨l, hl, hhint⟩
    have hcases : h = .checkEntityNames ∨ h = .markForeignKey := by
      rw [Relationship.hint?] at hhint
      split at hhint
      · split_ifs at hhint
        exact Or.inr (Option.some.inj hhint).symm
      · exact Or.inl (Option.some.inj hhint).symm
    rcases hcases with rfl | rfl
    · exact Or.inl ⟨rfl, l, hl, hhint⟩
    · exact Or.inr ⟨rfl, l, hl, hhint⟩
  · rintro (⟨rfl, l, hl, hhint⟩ | ⟨rfl, l, hl, hhint⟩) <;> exact ⟨l, hl, hhint⟩

/-- What is wrong with a line does not depend on references. -/
lemma hint?_bare (es : List Entity) (r : Relationship) :
    r.hint? (es.map Entity.bare) = r.hint? es := by
  have hnamed : ∀ name, entityNamed? (es.map Entity.bare) name
      = (entityNamed? es name).map Entity.bare := fun name => List.find?_map
  rw [Relationship.hint?, Relationship.hint?, hnamed, hnamed]
  cases entityNamed? es r.source with
  | none => rfl
  | some s =>
    cases entityNamed? es r.target with
    | none => rfl
    | some t =>
      have hfields : s.bare.fields.any (isCandidate t.bare) = s.fields.any (isCandidate t) :=
        List.any_map
      rw [Option.map_some, Option.map_some]
      dsimp only
      rw [hfields]

/-- What the names pick is there. -/
lemma getElem?_of_selectByName {s t : Entity} {i : Nat} (h : selectByName s t = some i) :
    ∃ f, s.fields[i]? = some f := by
  rw [selectByName, Option.or_eq_some_iff] at h
  obtain ⟨p, hp⟩ : ∃ p, s.fields.findIdx? p = some i := h.elim (⟨_, ·⟩) fun h => ⟨_, h.2⟩
  obtain ⟨hi, -⟩ := List.findIdx?_eq_some_iff_getElem.mp hp
  exact ⟨s.fields[i], List.getElem?_eq_getElem hi⟩

/-- Linking by name picks no field exactly if there is no candidate. -/
lemma link_byName_eq_none_iff {s t : Entity} :
    Resolver.byName.link s t r = .ok none ↔ s.fields.any (isCandidate t) = false := by
  cases hselect : selectByName s t with
  | none =>
    refine iff_of_true ?_ ?_
    · simp only [Resolver.link, Resolver.byName, hselect, bind, Except.bind]
      rfl
    · rw [selectByName, Option.or_eq_none_iff] at hselect
      exact List.any_eq_false.mpr fun f hf => by
        simp [List.findIdx?_eq_none_iff.mp hselect.2 f hf]
  | some i =>
    obtain ⟨f, hf⟩ := getElem?_of_selectByName hselect
    refine iff_of_false ?_ ?_
    · simp [Resolver.link, Resolver.byName, hselect, hf, bind, Except.bind, pure, Except.pure]
    · rw [Bool.not_eq_false]
      exact List.any_eq_true.mpr
        ⟨f, List.mem_of_getElem? hf, (candidate_of_selectByName hselect hf).1⟩

/-- A line that is resolved by names is warned about if something is wrong with it. -/
lemma ownHint?_resolveLine {n : Nat} {ws : List Warning}
    (h : resolveLine .byName es n r = .ok (es', ws)) :
    ws.filterMap Warning.ownHint? = (r.hint? es).toList := by
  rw [resolveLine] at h
  rw [Relationship.hint?]
  cases hsource : entityNamed? es r.source with
  | none =>
    rw [hsource] at h
    obtain ⟨-, rfl⟩ := Prod.mk.inj (Except.ok.inj h)
    rfl
  | some s =>
    cases htarget : entityNamed? es r.target with
    | none =>
      rw [hsource, htarget] at h
      obtain ⟨-, rfl⟩ := Prod.mk.inj (Except.ok.inj h)
      rfl
    | some t =>
      rw [hsource, htarget] at h
      dsimp only at h ⊢
      rcases link_byName_cases s t r with ⟨hlink, -⟩ | ⟨fs, g, hlink, -⟩
      · rw [hlink] at h
        obtain ⟨-, rfl⟩ := Prod.mk.inj (Except.ok.inj h)
        rw [link_byName_eq_none_iff.mp hlink, if_neg Bool.false_ne_true]
        rfl
      · have hany : s.fields.any (isCandidate t) = true := by
          rw [← Bool.not_eq_false, ← link_byName_eq_none_iff (r := r), hlink]
          simp
        rw [hlink] at h
        obtain ⟨-, rfl⟩ := Prod.mk.inj (Except.ok.inj h)
        rw [if_pos hany]
        rfl

/-- What is warned about are the lines with which something is wrong. -/
lemma ownHint?_resolveLines (hnames : (es.map Entity.name).Nodup)
    {lines : List (Nat × Relationship)} {ws : List Warning}
    (h : resolveLines .byName es lines = .ok (es', ws)) :
    ws.filterMap Warning.ownHint? = lines.filterMap fun l => l.2.hint? es := by
  induction lines generalizing es ws with
  | nil =>
    obtain ⟨-, rfl⟩ := Prod.mk.inj (Except.ok.inj h)
    rfl
  | cons line lines ih =>
    obtain ⟨n, r⟩ := line
    obtain ⟨es₁, ws₁, ws₂, hline, hrest, rfl⟩ := resolveLines_cons_eq_ok h
    have hbare := bare_resolveLine hnames hline
    have hnames₁ : (es₁.map Entity.name).Nodup := by
      rw [map_bare_congr hbare Entity.name fun _ => rfl]
      exact hnames
    have hsame : ∀ l : Nat × Relationship, l.2.hint? es₁ = l.2.hint? es := fun l => by
      rw [← hint?_bare es₁, hbare, hint?_bare]
    rw [List.filterMap_append, ownHint?_resolveLine hline, ih hnames₁ hrest, List.filterMap_cons,
      funext hsame]
    cases r.hint? es <;> rfl

end Lines

/-! ## What the scan warns about -/

namespace Scan

variable {unlinked : Cardinality} {s : Scan}

/-- The warnings are about blocks and fields. -/
def WarnsOfBlocks (s : Scan) : Prop :=
  ∀ w ∈ s.warnings, w.ownHint? = none ∨ w.ownHint? = some .closeBlocks

namespace WarnsOfBlocks

lemma warn (h : s.WarnsOfBlocks) {w : Warning}
    (hw : w.ownHint? = none ∨ w.ownHint? = some .closeBlocks) : (s.warn w).WarnsOfBlocks := by
  intro w' hw'
  rcases List.mem_append.mp hw' with hw' | hw'
  · exact h w' hw'
  · exact List.mem_singleton.mp hw' ▸ hw

lemma stepOutside (h : s.WarnsOfBlocks) (n : Nat) (line : List Char) :
    (s.stepOutside n line).WarnsOfBlocks := by
  rw [WarnsOfBlocks, stepOutside_frame.2]
  exact h

lemma stepField (h : s.WarnsOfBlocks) (n : Nat) (b : OpenBlock) (parts : LineForm.FieldParts) :
    (s.stepField unlinked n b parts).WarnsOfBlocks := by
  rw [Scan.stepField]
  split_ifs
  · exact h
  · exact h.warn (Or.inl rfl)
  · exact h

/-- A statement more is warned about for its block or its field. -/
lemma step (h : s.WarnsOfBlocks) (st : Nat × List Char) : (s.step unlinked st).WarnsOfBlocks := by
  rw [Scan.step]
  split_ifs
  · exact h
  · cases s.current with
    | none => exact h.stepOutside st.1 st.2
    | some b =>
      dsimp only
      rw [Scan.stepInside]
      cases insideForm st.2 with
      | closing => exact h
      | opening =>
        have hwarned := h.warn (w := .neverClosed b.line b.entity) (Or.inr rfl)
        exact stepOutside (s := { s.warn (.neverClosed b.line b.entity) with current := none })
          hwarned st.1 st.2
      | field parts => exact h.stepField st.1 b parts
      | other => exact h

end WarnsOfBlocks

lemma warnsOfBlocks_scan (unlinked : Cardinality) (supply : Supply) (text : List Char) :
    (scan unlinked supply text).WarnsOfBlocks := by
  have hfold : ∀ (sts : List (Nat × List Char)) (s : Scan), s.WarnsOfBlocks →
      (sts.foldl (Scan.step unlinked) s).WarnsOfBlocks := by
    intro sts
    induction sts with
    | nil => exact fun _ h => h
    | cons st sts ih => exact fun s h => ih _ (h.step st)
  have hlast := hfold (statements text) { supply } fun _ h => absurd h List.not_mem_nil
  rw [scan, finish]
  split
  · exact hlast.warn (Or.inr rfl)
  · exact hlast

end Scan

/-! ## What hints are due -/

/-- The hint for an error. -/
def ParseErrorKind.hint? : ParseErrorKind → Option Hint
  | missingHeader => some .startWithHeader
  | noEntitiesFound => some .declareEntity
  | _ => none

section Due

variable (unlinked : Cardinality) (supply : Supply) (text : String)

/-- What a text has to be like for a hint to be called for: it is rejected for lack of a header or of
entities; or it has a header, and a block is never closed, or a relationship line names an entity
that there is not, or it joins two without a field for it; or there are too many braces of a kind. -/
def Hint.IsDue : Hint → Prop
  | startWithHeader =>
    (parse .byName unlinked supply text).1.error?.map (·.kind) = some .missingHeader
  | declareEntity =>
    (parse .byName unlinked supply text).1.error?.map (·.kind) = some .noEntitiesFound
  | closeBlocks =>
    hasHeader text.toList = true ∧
      (openedOver (bodyStatements (statements text.toList)) ≠ [] ∨
        openAfter (bodyStatements (statements text.toList)) ≠ none)
  | checkEntityNames =>
    hasHeader text.toList = true ∧ ∃ l ∈ (scan unlinked supply text.toList).relationships,
      l.2.NamesUnknown (scan unlinked supply text.toList).entities
  | markForeignKey =>
    hasHeader text.toList = true ∧ ∃ l ∈ (scan unlinked supply text.toList).relationships,
      l.2.FindsNoField (scan unlinked supply text.toList).entities
  | matchBraces => bracesMatch text.toList = false

/-- Without a header nothing is read; with one, the warnings are those of the scan and those of the
relationship lines. -/
lemma parse_byName_cases :
    (hasHeader text.toList = false ∧
      (parse .byName unlinked supply text).1 = .rejected .missingHeader []) ∨
    (hasHeader text.toList = true ∧ ∃ es ws,
      resolveLines .byName (scan unlinked supply text.toList).entities
        (scan unlinked supply text.toList).relationships = .ok (es, ws) ∧
      (parse .byName unlinked supply text).1.warnings
        = (scan unlinked supply text.toList).warnings ++ ws ∧
      ((parse .byName unlinked supply text).1.error? = none ∨
        (parse .byName unlinked supply text).1.error? = some .noEntities)) := by
  rw [parse]
  split_ifs with hheader
  · obtain ⟨es, ws, hlines⟩ := exists_resolveLines isTotal_byName
      (scan unlinked supply text.toList).entities (scan unlinked supply text.toList).relationships
    refine Or.inr ⟨hheader, es, ws, hlines, ?_⟩
    simp only [hlines]
    cases es with
    | nil => exact ⟨rfl, Or.inr rfl⟩
    | cons e es => exact ⟨rfl, Or.inl rfl⟩
  · exact Or.inl ⟨eq_false_of_ne_true hheader, rfl⟩

/-- The scan warns of blocks exactly if one is never closed, and of nothing that has another hint. -/
lemma exists_ownHint?_scan {h : Hint} :
    (∃ w ∈ (scan unlinked supply text.toList).warnings, w.ownHint? = some h) ↔
      h = .closeBlocks ∧ (openedOver (bodyStatements (statements text.toList)) ≠ [] ∨
        openAfter (bodyStatements (statements text.toList)) ≠ none) := by
  obtain ⟨-, htells⟩ := Scan.tells_foldl unlinked supply (statements text.toList)
  have hunclosed : (scan unlinked supply text.toList).warnings.filter Warning.isUnclosed
      = _ := Scan.unclosed_finish htells
  have hown : ∀ w : Warning, w.isUnclosed = true ↔ w.ownHint? = some .closeBlocks := by
    intro w
    cases w <;> simp [Warning.isUnclosed, Warning.ownHint?]
  have hsome : (∃ w ∈ (scan unlinked supply text.toList).warnings, w.isUnclosed = true) ↔
      openedOver (bodyStatements (statements text.toList)) ≠ [] ∨
        openAfter (bodyStatements (statements text.toList)) ≠ none := by
    rw [← not_iff_not, not_or, not_not, not_not, ← Option.toList_eq_nil_iff,
      ← List.append_eq_nil_iff, ← List.map_eq_nil_iff (f := OpenBlock.unclosed), ← hunclosed,
      List.filter_eq_nil_iff]
    push Not
    rfl
  rw [← hsome]
  constructor
  · rintro ⟨w, hw, heq⟩
    rcases Scan.warnsOfBlocks_scan unlinked supply text.toList w hw with hnone | hclose
    · exact absurd (hnone.symm.trans heq) (Option.some_ne_none h).symm
    · exact ⟨Option.some.inj (heq.symm.trans hclose), w, hw, (hown w).mpr hclose⟩
  · rintro ⟨rfl, w, hw, hunclosed⟩
    exact ⟨w, hw, (hown w).mp hunclosed⟩

/-- The hints that a text calls for are those for its error and those that its warnings are meant to
have. -/
lemma isDue_iff {h : Hint} (hh : h ≠ .matchBraces) : h.IsDue unlinked supply text ↔
    (∃ e, (parse .byName unlinked supply text).1.error? = some e ∧ e.kind.hint? = some h) ∨
      ∃ w ∈ (parse .byName unlinked supply text).1.warnings, w.ownHint? = some h := by
  rcases parse_byName_cases unlinked supply text with
    ⟨hheader, hparse⟩ | ⟨hheader, es, ws, hlines, hwarnings, herror⟩
  · cases h <;>
      simp [Hint.IsDue, hheader, hparse, ParseOutcome.error?, ParseOutcome.warnings,
        ParseErrorKind.hint?, ParseError.missingHeader] at hh ⊢
  · have hnames : ((scan unlinked supply text.toList).entities.map Entity.name).Nodup := by
      obtain ⟨-, htells⟩ := Scan.tells_foldl unlinked supply (statements text.toList)
      rw [scan, Scan.entities_finish, htells.names]
      exact nodup_eraseDups _
    have hrelated : (∃ w ∈ ws, w.ownHint? = some h) ↔
        ∃ l ∈ (scan unlinked supply text.toList).relationships,
          l.2.hint? (scan unlinked supply text.toList).entities = some h := by
      rw [← List.mem_filterMap, ownHint?_resolveLines hnames hlines, List.mem_filterMap]
    have hwarned : (∃ w ∈ (parse .byName unlinked supply text).1.warnings, w.ownHint? = some h) ↔
        (∃ w ∈ (scan unlinked supply text.toList).warnings, w.ownHint? = some h) ∨
          ∃ w ∈ ws, w.ownHint? = some h := by
      simp only [hwarnings, List.mem_append, or_and_right, exists_or]
    rw [hwarned, hrelated, exists_ownHint?_scan, exists_hint?_iff hnames]
    rcases herror with herror | herror <;> cases h <;>
      simp [Hint.IsDue, hheader, herror, ParseErrorKind.hint?, ParseError.noEntities] at hh ⊢

end Due

/-- The hint for an error is found by what the error says. -/
lemma ofMessage?_error {unlinked : Cardinality} {supply : Supply} {text : String} {e : ParseError}
    (h : (parse .byName unlinked supply text).1.error? = some e) :
    Hint.ofMessage? e.message = e.kind.hint? := by
  rcases parse_byName_cases unlinked supply text with
    ⟨-, hparse⟩ | ⟨-, es, ws, -, -, hnone | hsome⟩
  · rw [hparse] at h
    obtain rfl := Option.some.inj h
    decide +kernel
  · exact absurd (hnone.symm.trans h) (Option.some_ne_none e).symm
  · obtain rfl := Option.some.inj (hsome.symm.trans h)
    decide +kernel

/-- **Which hints are given for a text.**  A hint other than that for the braces is given exactly if
it is that for the error, or that of a warning with regard to the names that the warning quotes.  So
if no phrase occurs in a quoted name, the hints are the ones that the text calls for: that for the
header exactly if the text is rejected for lack of one, and so on. -/
theorem suggests_iff (unlinked : Cardinality) (supply : Supply) (text : String) (h : Hint)
    (hh : h ≠ .matchBraces) :
    let outcome := (parse .byName unlinked supply text).1
    (h ∈ (diagnose unlinked supply text).2 ↔
      (∃ e, outcome.error? = some e ∧ e.kind.hint? = some h) ∨
        ∃ w ∈ outcome.warnings, w.hint? = some h) ∧
    ((∀ w ∈ outcome.warnings, w.IsPlain) →
      (h ∈ (diagnose unlinked supply text).2 ↔ h.IsDue unlinked supply text)) := by
  intro outcome
  have hgiven : h ∈ (diagnose unlinked supply text).2 ↔
      (∃ e, outcome.error? = some e ∧ e.kind.hint? = some h) ∨
        ∃ w ∈ outcome.warnings, w.hint? = some h := by
    have hmessages : h ∈ (diagnose unlinked supply text).2 ↔
        ∃ m ∈ outcome.messages, Hint.ofMessage? m = some h := mem_hints_iff hh
    rw [hmessages]
    constructor
    · rintro ⟨m, hm, hhint⟩
      rcases List.mem_append.mp hm with hm | hm
      · obtain ⟨e, he, rfl⟩ := Option.map_eq_some_iff.mp (Option.mem_toList.mp hm)
        exact Or.inl ⟨e, he, (ofMessage?_error he).symm.trans hhint⟩
      · obtain ⟨w, hw, rfl⟩ := List.mem_map.mp hm
        exact Or.inr ⟨w, hw, (ofMessage?_message w).symm.trans hhint⟩
    · rintro (⟨e, he, hhint⟩ | ⟨w, hw, hhint⟩)
      · refine ⟨e.message, List.mem_append_left _ ?_, (ofMessage?_error he).trans hhint⟩
        rw [he]
        exact List.mem_singleton.mpr rfl
      · exact ⟨w.message, List.mem_append_right _ (List.mem_map_of_mem hw),
          (ofMessage?_message w).trans hhint⟩
  refine ⟨hgiven, fun hplain => ?_⟩
  rw [hgiven, isDue_iff unlinked supply text hh]
  refine or_congr_right (exists_congr fun w => and_congr_right fun hw => ?_)
  rw [(hplain w hw).hint?_eq]

/-- A relationship line with an entity that there is not, and a block that is never closed. -/
def danglingText : String :=
  "erDiagram\n  Posts \x7do--|| Users : has\n  Posts \x7b\n    int id PK\n"

/-- Both hints are given, and the one for the header is not. -/
theorem suggests_danglingText :
    Hint.checkEntityNames ∈ (diagnose .manyToOne .strokes danglingText).2 ∧
      Hint.closeBlocks ∈ (diagnose .manyToOne .strokes danglingText).2 ∧
      Hint.startWithHeader ∉ (diagnose .manyToOne .strokes danglingText).2 := by
  have hplain : ∀ w ∈ (parse .byName .manyToOne .strokes danglingText).1.warnings, w.IsPlain := by
    decide +kernel
  have hunknown : hasHeader danglingText.toList = true ∧
      ∃ l ∈ (scan .manyToOne .strokes danglingText.toList).relationships,
        l.2.source ∉ (scan .manyToOne .strokes danglingText.toList).entities.map Entity.name ∨
          l.2.target ∉ (scan .manyToOne .strokes danglingText.toList).entities.map Entity.name := by
    decide +kernel
  have hopen : openAfter (bodyStatements (statements danglingText.toList)) ≠ none := by
    decide +kernel
  have herror : (parse .byName .manyToOne .strokes danglingText).1.error?.map (·.kind)
      ≠ some .missingHeader := by
    decide +kernel
  have hgiven := fun h hh => (suggests_iff .manyToOne .strokes danglingText h hh).2 hplain
  exact ⟨(hgiven .checkEntityNames (by decide)).mpr hunknown,
    (hgiven .closeBlocks (by decide)).mpr ⟨hunknown.1, Or.inr hopen⟩,
    fun hheader => herror ((hgiven .startWithHeader (by decide)).mp hheader)⟩

/-- A block that is never closed, of an entity whose name is the header token. -/
def headerNamed : String :=
  "erDiagram\n  erDiagram \x7b\n"

/-- The name in the warning is taken for a complaint about the header: the text calls for the hint to
close its block, and not for the one about its header, and it is the other way round. -/
theorem not_isDue_headerNamed :
    (Hint.closeBlocks.IsDue .manyToOne .strokes headerNamed ∧
      Hint.closeBlocks ∉ (diagnose .manyToOne .strokes headerNamed).2) ∧
    ¬ Hint.startWithHeader.IsDue .manyToOne .strokes headerNamed ∧
      Hint.startWithHeader ∈ (diagnose .manyToOne .strokes headerNamed).2 := by
  have hopen : hasHeader headerNamed.toList = true ∧
      openAfter (bodyStatements (statements headerNamed.toList)) ≠ none := by
    decide +kernel
  have herror : (parse .byName .manyToOne .strokes headerNamed).1.error?.map (·.kind)
      ≠ some .missingHeader := by
    decide +kernel
  have hgiven : Hint.closeBlocks ∉ (diagnose .manyToOne .strokes headerNamed).2 ∧
      Hint.startWithHeader ∈ (diagnose .manyToOne .strokes headerNamed).2 := by
    decide +kernel
  exact ⟨⟨⟨hopen.1, Or.inr hopen.2⟩, hgiven.1⟩, herror, hgiven.2⟩

end DiagramSync
