import DiagramSync.Proofs.Diagram.Blocks
import DiagramSync.Proofs.Diagram.Layout
import DiagramSync.Proofs.Diagram.LineNumbers
import Mathlib.Data.List.TakeWhile

/-!
# Where a diagram starts

Two places decide where a diagram starts: a text is only read if it starts with the header token
once it has been trimmed, and the scan takes the first statement that starts with the token for the
header.  They agree, because whatever ends a line is blank: the token stands at the start of the
trimmed text exactly if it stands at the start of the first line that is not blank.  That line is no
comment, so it is the first statement, and nothing is read before it.

What follows the header is read line by line.  So two diagrams with the same statements are read
alike, whatever their layout is.

* `prefix_firstLine` — how a text without breaks starts another one
* `hasHeader_iff_find` — the header stands on the first line that is not blank
* `firstLine?` — that line, with its number
* `scan_of_header` — the scan from that line on
* **`layout_irrelevant`** — diagrams with the same statements are read alike, and they start with
  the header
-/

namespace DiagramSync

open Text

/-! ## The start of a text -/

/-- Only the empty text has no lines. -/
lemma eq_nil_of_lines_eq_nil {cs : List Char} (h : lines cs = []) : cs = [] := by
  fun_cases lines cs with
  | case1 => rfl
  | case2 cs => simp [lines] at h
  | case3 c cs _ hc =>
    rw [lines, if_pos hc] at h
    · exact absurd h (List.cons_ne_nil _ _)
    · assumption
  | case4 c cs _ hc hcs =>
    rw [lines_cons (by simpa using hc), hcs] at h
    exact absurd h (List.cons_ne_nil _ _)
  | case5 c cs _ hc l ls hcs =>
    rw [lines_cons (by simpa using hc), hcs] at h
    exact absurd h (List.cons_ne_nil _ _)

/-- A text on one line starts another text exactly if it starts its first line. -/
lemma prefix_firstLine {p cs k : List Char} {ks : List (List Char)} (hp : IsLine p)
    (h : lines cs = k :: ks) : p <+: cs ↔ p <+: k := by
  fun_induction lines cs generalizing p k ks with
  | case1 => exact absurd h.symm (List.cons_ne_nil k ks)
  | case2 cs ih =>
    obtain ⟨rfl, -⟩ := List.cons.inj h
    cases p with
    | nil => simp
    | cons c p =>
      have hc := (isLine_cons.mp hp).1
      refine iff_of_false (fun hprefix => ?_) (by simp)
      rw [(List.cons_prefix_cons.mp hprefix).1] at hc
      exact absurd hc (by decide)
  | case3 c cs _ hbreak ih =>
    obtain ⟨rfl, -⟩ := List.cons.inj h
    cases p with
    | nil => simp
    | cons d p =>
      have hd := (isLine_cons.mp hp).1
      refine iff_of_false (fun hprefix => ?_) (by simp)
      rw [(List.cons_prefix_cons.mp hprefix).1, hbreak] at hd
      exact absurd hd Bool.noConfusion
  | case4 c cs _ hbreak hcs ih =>
    obtain ⟨rfl, -⟩ := List.cons.inj h
    rw [eq_nil_of_lines_eq_nil hcs]
  | case5 c cs _ hbreak l ls hcs ih =>
    obtain ⟨rfl, -⟩ := List.cons.inj h
    cases p with
    | nil => simp
    | cons d p =>
      rw [List.cons_prefix_cons, List.cons_prefix_cons, ih (isLine_cons.mp hp).2 hcs]

/-- A text without blanks starts a trimmed text exactly if it starts the first line of it that is not
blank. -/
lemma prefix_trimLeft_iff {p : List Char} (hne : p ≠ []) (hp : ∀ c ∈ p, isBlank c = false)
    (cs : List Char) :
    p <+: trimLeft cs ↔
      ∃ l, (lines cs).find? (fun l => !isBlankText l) = some l ∧ p <+: trimLeft l := by
  have hline : IsLine p := fun c hc => isLineBreak_of_not_blank (hp c hc)
  have hblank : ∀ c, isLineBreak c = true → isBlank c = true := fun c hc => by
    by_contra hnot
    rw [isLineBreak_of_not_blank (by simpa using hnot)] at hc
    exact absurd hc Bool.noConfusion
  fun_induction lines cs with
  | case1 => simp [hne]
  | case2 cs ih =>
    rw [trimLeft_cons_blank _ (by decide), trimLeft_cons_blank _ (by decide)]
    simpa [isBlankText] using ih
  | case3 c cs _ hbreak ih =>
    rw [trimLeft_cons_blank _ (hblank c hbreak)]
    simpa [isBlankText] using ih
  | case4 c cs _ hbreak hcs ih =>
    obtain rfl := eq_nil_of_lines_eq_nil hcs
    cases hc : isBlank c with
    | true => simp [isBlankText, hc, trimLeft_cons_blank, hne]
    | false => simp [isBlankText, hc, trimLeft_cons]
  | case5 c cs _ hbreak k ks hcs ih =>
    cases hc : isBlank c with
    | true =>
      -- a blank at the start of the first line changes nothing
      have hsame : isBlankText (c :: k) = isBlankText k := by simp [isBlankText, hc]
      rw [trimLeft_cons_blank _ hc]
      refine ih.trans ?_
      rw [hcs, List.find?_cons, List.find?_cons, hsame]
      cases isBlankText k with
      | true => rfl
      | false => simp [trimLeft_cons_blank, hc]
    | false =>
      have hfirst : lines (c :: cs) = (c :: k) :: ks := by
        rw [lines_cons (by simpa using hbreak), hcs]
      rw [trimLeft_cons cs hc, prefix_firstLine hline hfirst]
      simp [isBlankText, hc, trimLeft_cons]

/-! ## The header -/

lemma not_isBlank_header : ∀ c ∈ header.toList, isBlank c = false := by
  have hall : (header.toList.all fun c => !isBlank c) = true := by decide
  simpa using hall

/-- Only the blanks before it have to be trimmed to see the header. -/
lemma hasHeader_iff_starts (cs : List Char) :
    hasHeader cs = true ↔ header.toList <+: trimLeft cs := by
  constructor
  · intro h
    obtain ⟨blanks, hblanks⟩ := exists_trimRight_append (trimLeft cs)
    have hprefix : header.toList <+: trimRight (trimLeft cs) := List.isPrefixOf_iff_prefix.mp h
    exact hprefix.trans ⟨blanks, hblanks⟩
  · rintro ⟨rest, hrest⟩
    have hstart := hasHeader_append rest
    rw [hasHeader, trim, hrest, trimLeft_trimLeft] at hstart
    exact hstart

/-- A text starts as a diagram does exactly if the first line of it does that is not blank. -/
lemma hasHeader_iff_find (cs : List Char) :
    hasHeader cs = true ↔
      ∃ l, (lines cs).find? (fun l => !isBlankText l) = some l ∧ hasHeader l = true := by
  simp only [hasHeader_iff_starts]
  exact prefix_trimLeft_iff (by decide) not_isBlank_header cs

/-- Nothing is left of a blank text, and of no other. -/
lemma isEmpty_trim (cs : List Char) : (trim cs).isEmpty = isBlankText cs := by
  rw [Bool.eq_iff_iff, List.isEmpty_iff, isBlankText, List.all_eq_true, trim, trimRight,
    List.reverse_eq_nil_iff, trimLeft, List.dropWhile_eq_nil_iff]
  constructor
  · intro h
    refine List.dropWhile_eq_nil_iff.mp ?_
    cases htrim : cs.dropWhile isBlank with
    | nil => rfl
    | cons c r =>
      have hc : isBlank c = true := h c (by simp [trimLeft, htrim])
      exact absurd (hc.symm.trans (trimLeft_head htrim)) Bool.noConfusion
  · intro h c hc
    exact h c (mem_of_mem_trimLeft (List.mem_reverse.mp hc))

/-- The first line of a text that is not blank, trimmed and with its number. -/
def firstLine? (text : List Char) : Option (Nat × List Char) :=
  ((lines text).mapIdx fun i l => (i + 1, trim l)).find? fun p => !p.2.isEmpty

/-- A text starts as a diagram does exactly if its first line does that is not blank. -/
lemma hasHeader_iff_firstLine (text : List Char) :
    hasHeader text = true ↔ ∃ p, firstLine? text = some p ∧ isHeader p.2 = true := by
  have hlines : ((lines text).mapIdx fun i l => (i + 1, trim l)).map Prod.snd
      = (lines text).map trim := by
    refine List.ext_getElem? fun i => ?_
    simp [Option.map_map, Function.comp_def]
  have hfirst : (firstLine? text).map Prod.snd
      = ((lines text).find? fun l => !isBlankText l).map trim := by
    have hfind : (firstLine? text).map Prod.snd
        = ((lines text).map trim).find? fun l => !l.isEmpty := by
      rw [← hlines, List.find?_map]
      rfl
    rw [hfind, List.find?_map]
    simp only [Function.comp_def, isEmpty_trim]
  rw [hasHeader_iff_find]
  constructor
  · rintro ⟨l, hl, hheader⟩
    rw [hl] at hfirst
    obtain ⟨p, hp, hsnd⟩ := Option.map_eq_some_iff.mp hfirst
    exact ⟨p, hp, hsnd ▸ hheader⟩
  · rintro ⟨p, hp, hheader⟩
    rw [hp] at hfirst
    obtain ⟨l, hl, htrim⟩ := Option.map_eq_some_iff.mp hfirst.symm
    exact ⟨l, hl, by rw [hasHeader, htrim, hheader]⟩

/-! ## The first statement -/

/-- The statements are the lines that say something, each with its number. -/
lemma numberedStatements_eq_filter (n : Nat) (ls : List (List Char)) :
    numberedStatements n ls = (ls.mapIdx fun i l => (n + i, trim l)).filter
      fun p => !(p.2.isEmpty || isComment p.2) := by
  induction ls generalizing n with
  | nil => rfl
  | cons l ls ih =>
    have hshift : (fun i l => (n + (i + 1), trim l)) = fun i l => (n + 1 + i, trim l) := by
      funext i l
      rw [Nat.add_assoc, Nat.add_comm 1 i]
    rw [numberedStatements, ih, List.mapIdx_cons, List.filter_cons, hshift]
    cases (trim l).isEmpty || isComment (trim l) <;> rfl

/-- A line that starts with the header token is no comment. -/
lemma isComment_of_isHeader {l : List Char} (h : isHeader l = true) : isComment l = false := by
  obtain ⟨rest, rfl⟩ := List.isPrefixOf_iff_prefix.mp h
  rfl

/-- The line with the header is the first statement. -/
lemma statements_of_header {text : List Char} {p : Nat × List Char} (hp : firstLine? text = some p)
    (hheader : isHeader p.2 = true) :
    statements text = p :: bodyStatements (statements text) := by
  have hnumbers : (fun i l => (1 + i, trim l)) = fun i (l : List Char) => (i + 1, trim l) := by
    funext i l
    rw [Nat.add_comm]
  have hhead : (statements text).head? = some p := by
    rw [statements, numberedStatements_eq_filter, List.head?_filter, hnumbers]
    obtain ⟨htells, before, after, hlines, hblank⟩ := List.find?_eq_some_iff_append.mp hp
    refine List.find?_eq_some_iff_append.mpr ⟨?_, before, after, hlines, fun q hq => ?_⟩
    · simpa [isComment_of_isHeader hheader] using htells
    · have hempty := hblank q hq
      simp only [Bool.not_not] at hempty
      simp [hempty]
  obtain ⟨rest, hrest⟩ := List.head?_eq_some_iff.mp hhead
  have hbody : bodyStatements (p :: rest) = rest := by
    rw [bodyStatements, List.eraseP_cons, hheader]
    rfl
  rw [hrest, hbody]

/-- The scan takes that line for the header, and then reads the other statements. -/
lemma scan_of_header {text : List Char} {p : Nat × List Char} (hp : firstLine? text = some p)
    (hheader : isHeader p.2 = true) (unlinked : Cardinality) (supply : Supply) :
    scan unlinked supply text = ((bodyStatements (statements text)).foldl (Scan.step unlinked)
      { headerSeen := true, supply }).finish := by
  have hstep : ({ supply } : Scan).step unlinked p = { headerSeen := true, supply } := by
    simp [Scan.step, hheader]
  conv_lhs => rw [scan, statements_of_header hp hheader, List.foldl_cons, hstep]

/-! ## Layout -/

/-- **Layout does not matter.**  Two texts that start as diagrams do and have the same statements —
the same lines, once these are trimmed and blank lines and comments are left out — are read alike.
A text starts as a diagram does exactly if its first line that is not blank starts with the header
token, and then the scan takes that line for the header and has read nothing before it. -/
theorem layout_irrelevant {resolver : Resolver} (hresolver : resolver.IsBuiltIn)
    (unlinked : Cardinality) {supply supply' : Supply} (hfresh : supply.IsFresh)
    (hfresh' : supply'.IsFresh) :
    (∀ text text' : String, isDiagram (.text text) = true → isDiagram (.text text') = true →
      (lines text.toList).filterMap lineStatement? = (lines text'.toList).filterMap lineStatement? →
      ParseOutcome.Alike (parse resolver unlinked supply text).1
        (parse resolver unlinked supply' text').1) ∧
    ∀ text : String,
      (isDiagram (.text text) = true ↔
        ∃ p, firstLine? text.toList = some p ∧ isHeader p.2 = true) ∧
      ∀ p, firstLine? text.toList = some p → isHeader p.2 = true →
        statements text.toList = p :: bodyStatements (statements text.toList) ∧
        scan unlinked supply text.toList
          = ((bodyStatements (statements text.toList)).foldl (Scan.step unlinked)
              { headerSeen := true, supply }).finish := by
  refine ⟨fun text text' htext htext' hsame => ?_, fun text => ⟨?_, fun p hp hheader => ?_⟩⟩
  · refine alike_parse hresolver hfresh hfresh' htext htext' ?_
    rw [unnumbered_scan, unnumbered_scan, statements, statements, map_snd_numberedStatements,
      map_snd_numberedStatements, hsame]
  · exact hasHeader_iff_firstLine text.toList
  · exact ⟨statements_of_header hp hheader, scan_of_header hp hheader unlinked supply⟩

/-- Users with a name that is given twice, and their posts. -/
def plainText : String :=
  "erDiagram\nUsers \x7b\nint id PK\nint ID\n\x7d\nPosts \x7b\nint user_id FK\n\x7d\n" ++
    "Posts \x7do--|| Users"

/-- The same with other breaks between the lines, indented, and with comments. -/
def airyText : String :=
  "\u2003\n\n\terDiagram \r\n%% who writes what\r\n  Users \x7b\u2028    int id PK\u2028" ++
    "    -- once more\u2028    int ID\n  \x7d\n\n  Posts \x7b\x0b\x0b    int user_id FK\x0b" ++
    "%% \x7d\x0b  \x7d\u0085  Posts \x7do--|| Users\n"

/-- Both texts are read as the same model.  They are warned about the same field, but not on the same
line. -/
theorem layout_irrelevant_airyText :
    ParseOutcome.Alike (parse .byName .oneToOne .strokes plainText).1
        (parse .byName .oneToOne .strokes airyText).1 ∧
      firstLine? airyText.toList = some (3, header.toList) ∧
      (parse .byName .oneToOne .strokes plainText).1.warnings = [.duplicateField 4 "ID" "Users"] ∧
      (parse .byName .oneToOne .strokes airyText).1.warnings = [.duplicateField 8 "ID" "Users"] := by
  obtain ⟨halike, hstart⟩ := layout_irrelevant (Or.inl rfl) .oneToOne Supply.isFresh_strokes
    Supply.isFresh_strokes
  have hfirst : firstLine? airyText.toList = some (3, header.toList) := by decide +kernel
  have hheader := (hstart airyText).1.mpr ⟨_, hfirst, by decide⟩
  refine ⟨halike plainText airyText (by decide +kernel) hheader (by decide +kernel), hfirst, ?_⟩
  decide +kernel

end DiagramSync
