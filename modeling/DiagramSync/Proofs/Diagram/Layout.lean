import DiagramSync.Proofs.Diagram.Statements
import Mathlib.Data.List.Forall2

/-!
# Texts that say the same

What is read of a text depends on its statements alone, and of each statement on the form that it
has. So the layout of a text can change, its comments can come and go, and the blanks between the
words of a line can be more or fewer, and still the same is read.

* `ReadAlike` — two lines that have the same form
* `IsRelaid` — a text that says, statement by statement, what another one says
* `isRelaid_insert`, `isRelaid_surround` — a line that says nothing, and blanks around a line
* `hasHeader_append` — a text that begins with the header token
* `exists_readAlike` — reading such a text comes to the same
-/

namespace DiagramSync

open Text

/-! ## The same statements -/

/-- Two lines that say the same, be it as the header, outside a block or inside one. -/
structure ReadAlike (l l' : List Char) : Prop where
  /-- Both start as the header does, or neither. -/
  header : isHeader l = isHeader l'
  /-- They have the same form where no block is open. -/
  outside : outsideForm l = outsideForm l'
  /-- They have the same form inside a block. -/
  inside : insideForm l = insideForm l'

lemma ReadAlike.refl (l : List Char) : ReadAlike l l :=
  ⟨rfl, rfl, rfl⟩

/-- A diagram that says, statement by statement, what the written text says. -/
structure IsRelaid (text written : List Char) : Prop where
  /-- The text starts as a diagram does. -/
  header : hasHeader text = true
  /-- Its statements are read like those that were written. -/
  statements : List.Forall₂ ReadAlike ((statements text).map Prod.snd)
    ((statements written).map Prod.snd)

/-- A diagram with the same statements says the same. -/
lemma isRelaid_of_statements {text written : List Char} (hheader : hasHeader text = true)
    (h : (statements text).map Prod.snd = (statements written).map Prod.snd) :
    IsRelaid text written := by
  refine ⟨hheader, ?_⟩
  rw [h]
  exact List.forall₂_same.mpr fun l _ => ReadAlike.refl l

/-! ## Changes of the layout -/

lemma trimLeft_append_blanks {b : List Char} (hb : ∀ c ∈ b, isBlank c = true) (l : List Char) :
    trimLeft (b ++ l) = trimLeft l :=
  List.dropWhile_append_of_pos hb

/-- Blanks around a text are trimmed. -/
lemma trim_surround {a b : List Char} (ha : ∀ c ∈ a, isBlank c = true)
    (hb : ∀ c ∈ b, isBlank c = true) (l : List Char) : trim (a ++ (l ++ b)) = trim l := by
  have hreverse : ∀ c ∈ b.reverse, isBlank c = true := fun c hc => hb c (List.mem_reverse.mp hc)
  have hright : ∀ cs : List Char, trimRight (cs ++ b) = trimRight cs := by
    intro cs
    rw [trimRight, List.reverse_append, trimLeft_append_blanks hreverse, trimRight]
  rw [trim, trimLeft_append_blanks ha, trim]
  rw [trimLeft, List.dropWhile_append]
  split_ifs with hempty
  · have hnil : l.dropWhile isBlank = [] := List.isEmpty_iff.mp hempty
    have hblank : b.dropWhile isBlank = [] := by
      have hdrop := trimLeft_append_blanks hb []
      rwa [List.append_nil] at hdrop
    rw [trimLeft, hnil, hblank]
  · exact hright _

/-- A line that says nothing can stand anywhere among the lines of a text. -/
lemma isRelaid_insert {pre post : List (List Char)} {l : List Char}
    (hlines : ∀ m ∈ pre ++ post, IsLine m) (hl : IsLine l) (hsilent : lineStatement? l = none)
    (hheader : hasHeader (['\n'].intercalate (pre ++ l :: post)) = true) :
    IsRelaid (['\n'].intercalate (pre ++ l :: post)) (['\n'].intercalate (pre ++ post)) := by
  have hall : ∀ m ∈ pre ++ l :: post, IsLine m := by
    intro m hm
    rcases List.mem_append.mp hm with hm | hm
    · exact hlines m (List.mem_append_left _ hm)
    · rcases List.mem_cons.mp hm with rfl | hm
      · exact hl
      · exact hlines m (List.mem_append_right _ hm)
  refine isRelaid_of_statements hheader ?_
  rw [statements_intercalate hall, statements_intercalate hlines, List.filterMap_append,
    List.filterMap_append, List.filterMap_cons, hsilent]

/-- Any line can have other blanks around it. -/
lemma isRelaid_surround {pre post : List (List Char)} {l a b : List Char}
    (hlines : ∀ m ∈ pre ++ l :: post, IsLine m) (hline : IsLine (a ++ (l ++ b)))
    (ha : ∀ c ∈ a, isBlank c = true) (hb : ∀ c ∈ b, isBlank c = true)
    (hheader : hasHeader (['\n'].intercalate (pre ++ (a ++ (l ++ b)) :: post)) = true) :
    IsRelaid (['\n'].intercalate (pre ++ (a ++ (l ++ b)) :: post))
      (['\n'].intercalate (pre ++ l :: post)) := by
  have hall : ∀ m ∈ pre ++ (a ++ (l ++ b)) :: post, IsLine m := by
    intro m hm
    rcases List.mem_append.mp hm with hm | hm
    · exact hlines m (List.mem_append_left _ hm)
    · rcases List.mem_cons.mp hm with rfl | hm
      · exact hline
      · exact hlines m (List.mem_append_right _ (List.mem_cons_of_mem l hm))
  have hsame : lineStatement? (a ++ (l ++ b)) = lineStatement? l := by
    rw [lineStatement?, lineStatement?, trim_surround ha hb]
  refine isRelaid_of_statements hheader ?_
  rw [statements_intercalate hall, statements_intercalate hlines, List.filterMap_append,
    List.filterMap_append, List.filterMap_cons, List.filterMap_cons, hsame]

/-- A text that begins with the header token starts as a diagram does, whatever follows. -/
lemma hasHeader_append (rest : List Char) : hasHeader (header.toList ++ rest) = true := by
  have hleft : trimLeft (header.toList ++ rest) = header.toList ++ rest := by
    refine trimLeft_eq_self fun c hc => ?_
    obtain rfl : 'e' = c := Option.some.inj hc
    decide
  have hdrop : ∃ r, trimLeft (rest.reverse ++ header.toList.reverse)
      = r ++ header.toList.reverse := by
    rw [trimLeft, List.dropWhile_append]
    split_ifs
    · exact ⟨[], by decide⟩
    · exact ⟨_, rfl⟩
  obtain ⟨r, hr⟩ := hdrop
  rw [hasHeader, trim, hleft, trimRight, List.reverse_append, hr, List.reverse_append,
    List.reverse_reverse, isHeader]
  exact List.isPrefixOf_iff_prefix.mpr (List.prefix_append _ _)

/-! ## Reading -/

/-- Lines that are read alike do the same to a scan. -/
lemma Scan.step_congr (unlinked : Cardinality) (s : Scan) (n : Nat) {l l' : List Char}
    (h : ReadAlike l l') : s.step unlinked (n, l) = s.step unlinked (n, l') := by
  have hside : ∀ t : Scan, t.stepOutside n l = t.stepOutside n l' := by
    intro t
    rw [stepOutside, stepOutside, h.outside]
  have hin : ∀ t : Scan, ∀ block, t.stepInside unlinked n block l
      = t.stepInside unlinked n block l' := by
    intro t block
    rw [stepInside, stepInside, h.inside]
    cases insideForm l' with
    | opening => exact hside _
    | closing => rfl
    | field parts => rfl
    | other => rfl
  simp only [Scan.step, h.header, hside, hin]

/-- Statements that are read like some lines come to the same as these lines, with the numbers
kept. -/
lemma exists_readAlike (unlinked : Cardinality) {sts : List (Nat × List Char)}
    {ls : List (List Char)} (h : List.Forall₂ ReadAlike (sts.map Prod.snd) ls) :
    ∃ sts' : List (Nat × List Char), sts'.map Prod.snd = ls ∧
      ∀ s : Scan, sts.foldl (Scan.step unlinked) s = sts'.foldl (Scan.step unlinked) s := by
  induction sts generalizing ls with
  | nil =>
    obtain rfl := List.forall₂_nil_left_iff.mp h
    exact ⟨[], rfl, fun _ => rfl⟩
  | cons st sts ih =>
    obtain ⟨l, ls, hl, hrest, rfl⟩ := List.forall₂_cons_left_iff.mp h
    obtain ⟨sts', rfl, hfold⟩ := ih hrest
    refine ⟨(st.1, l) :: sts', rfl, fun s => ?_⟩
    rw [List.foldl_cons, List.foldl_cons, hfold, ← Scan.step_congr unlinked s st.1 hl]

end DiagramSync
