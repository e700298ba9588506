import DiagramSync.Text.LineBreak
import Mathlib.Tactic.Common

/-!
# Trimming, and the lines of a joined text

A text is written by joining its lines with line feeds and read by splitting it again.  The two
differ in one point: an empty line at the very end is lost, because a break there opens no further
line.

* `trim_eq_self`, `trim_cons_blank` — what trimming does to a text with known ends
* `mem_of_mem_trim`, `trim_trim` — trimming adds nothing, and it is done once and for all
* `mem_joinBreaks`, `joinBreaks_eq_self` — what joining at the breaks does to a text
* `isLine_of_mem_lines` — no line of a text can be split further
* **`lines_intercalate`** — the lines of a joined text are the lines that were joined, up to an
  empty one at the end
* `lines_intercalate_iff` — they are these only if each of them is one line
-/

namespace DiagramSync.Text

/-! ## Trimming -/

lemma mem_of_mem_trimLeft {c : Char} {cs : List Char} (h : c ∈ trimLeft cs) : c ∈ cs :=
  (List.dropWhile_sublist _).mem h

lemma mem_of_mem_trimRight {c : Char} {cs : List Char} (h : c ∈ trimRight cs) : c ∈ cs := by
  rw [trimRight, List.mem_reverse] at h
  exact List.mem_reverse.mp (mem_of_mem_trimLeft h)

/-- Trimming adds nothing. -/
lemma mem_of_mem_trim {c : Char} {cs : List Char} (h : c ∈ trim cs) : c ∈ cs :=
  mem_of_mem_trimLeft (mem_of_mem_trimRight h)

/-- A character that is not blank stays. -/
lemma mem_trimLeft {c : Char} {cs : List Char} (hc : c ∈ cs) (hblank : isBlank c = false) :
    c ∈ trimLeft cs := by
  rw [← List.takeWhile_append_dropWhile (p := isBlank) (l := cs)] at hc
  rcases List.mem_append.mp hc with hc | hc
  · have htrue := List.all_eq_true.mp List.all_takeWhile c hc
    rw [hblank] at htrue
    exact absurd htrue Bool.false_ne_true
  · exact hc

lemma trimLeft_eq_self {cs : List Char} (h : ∀ c ∈ cs.head?, isBlank c = false) :
    trimLeft cs = cs := by
  cases cs with
  | nil => rfl
  | cons c r => exact trimLeft_cons r (h c rfl)

lemma trimRight_eq_self {cs : List Char} (h : ∀ c ∈ cs.getLast?, isBlank c = false) :
    trimRight cs = cs := by
  rw [trimRight, trimLeft_eq_self, List.reverse_reverse]
  rwa [List.head?_reverse]

/-- A text without blanks at its ends has nothing to trim. -/
lemma trim_eq_self {cs : List Char} (hl : ∀ c ∈ cs.head?, isBlank c = false)
    (hr : ∀ c ∈ cs.getLast?, isBlank c = false) : trim cs = cs := by
  rw [trim, trimLeft_eq_self hl, trimRight_eq_self hr]

lemma trimLeft_cons_blank {c : Char} (cs : List Char) (h : isBlank c = true) :
    trimLeft (c :: cs) = trimLeft cs := by
  simp [trimLeft, h]

lemma trim_cons_blank {c : Char} (cs : List Char) (h : isBlank c = true) :
    trim (c :: cs) = trim cs := by
  rw [trim, trimLeft_cons_blank cs h, trim]

lemma exists_trimRight_append (cs : List Char) : ∃ blanks, trimRight cs ++ blanks = cs := by
  obtain ⟨blanks, hblanks⟩ : trimLeft cs.reverse <:+ cs.reverse := List.dropWhile_suffix _
  refine ⟨blanks.reverse, ?_⟩
  rw [trimRight, ← List.reverse_append, hblanks, List.reverse_reverse]

/-- A trimmed text does not start with a blank. -/
lemma isBlank_head?_trim {cs : List Char} : ∀ c ∈ (trim cs).head?, isBlank c = false := by
  intro c hc
  obtain ⟨rest, hrest⟩ := exists_trimRight_append (trimLeft cs)
  rw [← trim] at hrest
  cases htrim : trim cs with
  | nil => simp [htrim] at hc
  | cons d ds =>
    rw [htrim, List.head?_cons] at hc
    obtain rfl := Option.some.inj hc
    rw [htrim, List.cons_append] at hrest
    exact trimLeft_head hrest.symm

/-- A trimmed text does not end with a blank. -/
lemma isBlank_getLast?_trim {cs : List Char} : ∀ c ∈ (trim cs).getLast?, isBlank c = false := by
  intro c hc
  rw [trim, trimRight, List.getLast?_reverse] at hc
  cases htrim : trimLeft (trimLeft cs).reverse with
  | nil => simp [htrim] at hc
  | cons d ds =>
    rw [htrim, List.head?_cons] at hc
    obtain rfl := Option.some.inj hc
    exact trimLeft_head htrim

/-- What has been trimmed has nothing to trim. -/
@[simp] lemma trim_trim (cs : List Char) : trim (trim cs) = trim cs :=
  trim_eq_self isBlank_head?_trim isBlank_getLast?_trim

/-! ## Joining at the breaks -/

/-- Joining at the breaks takes out carriage returns and line feeds and puts in spaces. -/
lemma mem_joinBreaks {c : Char} {cs : List Char} (h : c ∈ joinBreaks cs) :
    c = ' ' ∨ c ∈ cs ∧ c ≠ '\r' ∧ c ≠ '\n' := by
  fun_induction joinBreaks cs with
  | case1 => exact absurd h List.not_mem_nil
  | case2 cs ih =>
    rcases List.mem_cons.mp h with rfl | h
    · exact Or.inl rfl
    · exact (ih h).imp_right fun ⟨hc, hbreak⟩ =>
        ⟨List.mem_cons_of_mem _ (List.mem_cons_of_mem _ hc), hbreak⟩
  | case3 d cs _ ih =>
    rcases List.mem_cons.mp h with rfl | h
    · split_ifs with hd
      · exact Or.inl rfl
      · exact Or.inr ⟨List.mem_cons_self, not_or.mp hd⟩
    · exact (ih h).imp_right fun ⟨hc, hbreak⟩ => ⟨List.mem_cons_of_mem _ hc, hbreak⟩

/-- A text without carriage returns and line feeds has no break to join at. -/
lemma joinBreaks_eq_self {cs : List Char} (h : ∀ c ∈ cs, c ≠ '\r' ∧ c ≠ '\n') :
    joinBreaks cs = cs := by
  fun_induction joinBreaks cs with
  | case1 => rfl
  | case2 cs ih => exact absurd rfl (h '\r' List.mem_cons_self).1
  | case3 d cs _ ih =>
    rw [if_neg (not_or.mpr (h d List.mem_cons_self)), ih fun c hc => h c (List.mem_cons_of_mem d hc)]

/-! ## Lines -/

/-- A text of one line: no character of it ends a line. -/
def IsLine (cs : List Char) : Prop :=
  ∀ c ∈ cs, isLineBreak c = false

instance (cs : List Char) : Decidable (IsLine cs) :=
  List.decidableBAll (fun c => isLineBreak c = false) cs

@[simp] lemma isLine_nil : IsLine [] := by
  intro c hc
  cases hc

@[simp] lemma isLine_cons {c : Char} {cs : List Char} :
    IsLine (c :: cs) ↔ isLineBreak c = false ∧ IsLine cs := by
  simp [IsLine]

@[simp] lemma isLine_append {as bs : List Char} :
    IsLine (as ++ bs) ↔ IsLine as ∧ IsLine bs := by
  simp only [IsLine, List.mem_append]
  exact ⟨fun h => ⟨fun c hc => h c (Or.inl hc), fun c hc => h c (Or.inr hc)⟩,
    fun h c hc => hc.elim (h.1 c) (h.2 c)⟩

/-- Whatever ends a line is blank. -/
lemma isLineBreak_of_not_blank {c : Char} (h : isBlank c = false) : isLineBreak c = false := by
  simp only [isBlank, isLineBreak, Bool.or_eq_false_iff, Bool.and_eq_false_iff,
    decide_eq_false_iff_not, beq_eq_false_iff_ne] at h ⊢
  omega

/-- A character that ends no line starts the first line of what follows it. -/
lemma lines_cons {c : Char} (h : isLineBreak c = false) (cs : List Char) :
    lines (c :: cs) = match lines cs with
      | [] => [[c]]
      | l :: ls => (c :: l) :: ls := by
  rw [lines]
  · refine (if_neg (by simp [h])).trans ?_
    cases lines cs <;> rfl
  · intro rest hc
    rw [hc] at h
    exact absurd h (by decide)

/-- No line of a text holds a character that ends a line. -/
lemma isLine_of_mem_lines {cs l : List Char} (h : l ∈ lines cs) : IsLine l := by
  fun_induction lines cs generalizing l with
  | case1 => exact absurd h List.not_mem_nil
  | case2 cs ih =>
    rcases List.mem_cons.mp h with rfl | h
    · exact isLine_nil
    · exact ih h
  | case3 c cs _ hc ih =>
    rcases List.mem_cons.mp h with rfl | h
    · exact isLine_nil
    · exact ih h
  | case4 c cs _ hc hcs ih =>
    rw [List.mem_singleton.mp h, isLine_cons]
    exact ⟨by simpa using hc, isLine_nil⟩
  | case5 c cs _ hc k ks hcs ih =>
    rcases List.mem_cons.mp h with rfl | h
    · exact isLine_cons.mpr ⟨by simpa using hc, ih (hcs ▸ List.mem_cons_self)⟩
    · exact ih (hcs ▸ List.mem_cons_of_mem k h)

/-- A line and the break after it. -/
lemma lines_append_break {l : List Char} (hl : IsLine l) (rest : List Char) :
    lines (l ++ '\n' :: rest) = l :: lines rest := by
  induction l with
  | nil =>
    rw [List.nil_append, lines]
    · rw [if_pos (by decide)]
    · intro _ h
      exact absurd h (by decide)
  | cons c l ih =>
    obtain ⟨hc, hl⟩ := isLine_cons.mp hl
    rw [List.cons_append, lines_cons hc, ih hl]

/-- A line at the end of the text; an empty one there is none. -/
lemma lines_eq_singleton {l : List Char} (hl : IsLine l) (hne : l ≠ []) : lines l = [l] := by
  induction l with
  | nil => exact absurd rfl hne
  | cons c l ih =>
    obtain ⟨hc, hl⟩ := isLine_cons.mp hl
    rw [lines_cons hc]
    cases l with
    | nil => rfl
    | cons d l => rw [ih hl (List.cons_ne_nil d l)]

lemma intercalate_concat {ls : List (List Char)} (hne : ls ≠ []) (l : List Char) :
    ['\n'].intercalate (ls ++ [l]) = ['\n'].intercalate ls ++ '\n' :: l := by
  induction ls with
  | nil => exact absurd rfl hne
  | cons x xs ih =>
    cases xs with
    | nil =>
      rw [List.singleton_append, List.intercalate_cons_cons, List.intercalate_singleton,
        List.intercalate_singleton, List.append_assoc]
      rfl
    | cons y ys =>
      have hrest := ih (List.cons_ne_nil y ys)
      rw [List.cons_append] at hrest
      rw [List.cons_append, List.cons_append, List.intercalate_cons_cons, hrest,
        List.intercalate_cons_cons]
      simp only [List.append_assoc]

/-- **The lines of a joined text** are the lines that were joined, up to an empty one at the end. -/
theorem lines_intercalate {ls : List (List Char)} (h : ∀ l ∈ ls, IsLine l) :
    lines (['\n'].intercalate ls) = if ls.getLast? = some [] then ls.dropLast else ls := by
  induction ls with
  | nil => rfl
  | cons l ls ih =>
    have hl : IsLine l := h l List.mem_cons_self
    cases ls with
    | nil =>
      rw [List.intercalate_singleton]
      by_cases hne : l = []
      · subst hne
        rfl
      · rw [lines_eq_singleton hl hne, List.getLast?_singleton, if_neg (by simpa using hne)]
    | cons l' ls =>
      have hrest := ih fun m hm => h m (List.mem_cons_of_mem l hm)
      rw [List.intercalate_cons_cons, List.append_assoc, List.singleton_append,
        lines_append_break hl, hrest, List.getLast?_cons_cons]
      split_ifs
      · rfl
      · rfl

/-- A joined text has the lines that were joined only if each of them is one line. -/
theorem lines_intercalate_iff {ls : List (List Char)} :
    lines (['\n'].intercalate ls) = (if ls.getLast? = some [] then ls.dropLast else ls) ↔
      ∀ l ∈ ls, IsLine l := by
  refine ⟨fun h l hl => ?_, lines_intercalate⟩
  split_ifs at h with hlast
  · obtain ⟨init, rfl⟩ := List.getLast?_eq_some_iff.mp hlast
    rw [List.dropLast_concat] at h
    rcases List.mem_append.mp hl with hl | hl
    · exact isLine_of_mem_lines (h ▸ hl)
    · rw [List.mem_singleton.mp hl]
      exact isLine_nil
  · exact isLine_of_mem_lines (h ▸ hl)

end DiagramSync.Text
