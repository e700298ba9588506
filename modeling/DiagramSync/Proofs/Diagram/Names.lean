import DiagramSync.Diagram.Scan
import DiagramSync.Proofs.Model.Clean

/-!
# Written names

A name is written between quotes, and may then hold any character but the double quote, or without
them, and then it ends where a blank, a quote or one of the characters of the notation stands.  A
reader takes as many characters as it can, so what follows decides where an unquoted name ends.

* `Blanks` — a run of blanks, as it may stand between the parts of a line
* `IsUnquoted`, `quoted?_quoted` — a text between quotes is read back
* `span_append` — where a run of characters ends
* `WrittenName` — a name as it is written
* `WrittenName.IsClean` — the names that cleaning leaves as they are
* `name?_chars` — a name is read back if what follows cannot belong to it
* `blockOpening?_eq_none` — when a line opens no block
* `numberedStatements_cons` — when a line is a statement
-/

namespace DiagramSync

open Text LineForm

/-! ## Blanks -/

/-- A run of blanks; the empty one is one. -/
structure Blanks where
  /-- The characters. -/
  chars : List Char
  /-- All of them are blank. -/
  blank : ∀ c ∈ chars, isBlank c = true

/-- No blank at all. -/
def Blanks.none : Blanks :=
  ⟨[], by simp⟩

/-- A single space. -/
def Blanks.space : Blanks :=
  ⟨[' '], List.all_eq_true.mp rfl⟩

lemma Blanks.space_ne_nil : Blanks.space.chars ≠ [] :=
  List.cons_ne_nil _ _

lemma Blanks.trimLeft_append (b : Blanks) (cs : List Char) :
    trimLeft (b.chars ++ cs) = trimLeft cs :=
  List.dropWhile_append_of_pos b.blank

lemma Blanks.trimLeft_chars (b : Blanks) : trimLeft b.chars = [] := by
  have h := b.trimLeft_append []
  rwa [List.append_nil] at h

/-! ## Texts between quotes -/

/-- A text without double quotes. -/
def IsUnquoted (cs : List Char) : Prop :=
  ∀ c ∈ cs, c ≠ '"'

instance (cs : List Char) : Decidable (IsUnquoted cs) :=
  List.decidableBAll (fun c => c ≠ '"') cs

lemma IsUnquoted.all {cs : List Char} (h : IsUnquoted cs) : ∀ c ∈ cs, isUnquote c = true :=
  fun c hc => bne_iff_ne.mpr (h c hc)

lemma quoted?_quoted {cs : List Char} (h : IsUnquoted cs) (rest : List Char) :
    quoted? ('"' :: (cs ++ '"' :: rest)) = some (cs, rest) := by
  have htake : (cs ++ '"' :: rest).takeWhile isUnquote = cs := by
    rw [List.takeWhile_append_of_pos h.all, List.takeWhile_cons_of_neg (by decide), List.append_nil]
  have hdrop : (cs ++ '"' :: rest).dropWhile isUnquote = '"' :: rest := by
    rw [List.dropWhile_append_of_pos h.all, List.dropWhile_cons_of_neg (by decide)]
  simp only [quoted?, htake, hdrop]

lemma name?_quoted {cs : List Char} (h : IsUnquoted cs) (hne : cs ≠ []) (rest : List Char) :
    name? ('"' :: (cs ++ '"' :: rest)) = some (cs, rest) := by
  obtain ⟨c, cs, rfl⟩ := List.exists_cons_of_ne_nil hne
  rw [name?, quoted?_quoted h]

/-! ## Names without quotes -/

/-- A character that may stand in a name without quotes. -/
structure IsPlainChar (c : Char) : Prop where
  /-- It is no blank. -/
  blank : isBlank c = false
  /-- It is no double quote. -/
  quote : c ≠ '"'
  /-- It is no opening brace. -/
  opening : c ≠ '{'
  /-- It is no closing brace. -/
  closing : c ≠ '}'
  /-- It is no bar. -/
  bar : c ≠ '|'
  /-- It is no colon. -/
  colon : c ≠ ':'

lemma isNameChar_iff {c : Char} : isNameChar c = true ↔ IsPlainChar c := by
  simp only [isNameChar, Bool.and_eq_true, Bool.not_eq_true', bne_iff_ne, ne_eq]
  constructor
  · rintro ⟨⟨⟨⟨⟨hblank, hquote⟩, hopening⟩, hclosing⟩, hbar⟩, hcolon⟩
    exact ⟨hblank, hquote, hopening, hclosing, hbar, hcolon⟩
  · rintro ⟨hblank, hquote, hopening, hclosing, hbar, hcolon⟩
    exact ⟨⟨⟨⟨⟨hblank, hquote⟩, hopening⟩, hclosing⟩, hbar⟩, hcolon⟩

lemma isNameChar_of_blank {c : Char} (h : isBlank c = true) : isNameChar c = false := by
  simp [isNameChar, h]

/-- A letter without accent or an underscore may stand in a name without quotes. -/
lemma isPlainChar_of_lead {c : Char} (h : isLeadChar c = true) : IsPlainChar c := by
  have hblank : isBlank c = false := by
    have hnat : 65 ≤ c.toNat ∧ c.toNat ≤ 122 := by
      simp only [isLeadChar, Bool.or_eq_true, beq_iff_eq] at h
      rcases h with halpha | rfl
      · rcases (Bool.or_eq_true _ _).mp halpha with hupper | hlower
        · have hrange : 'A'.val ≤ c.val ∧ c.val ≤ 'Z'.val := of_decide_eq_true hupper
          exact ⟨hrange.1, Nat.le_trans hrange.2 (by decide)⟩
        · obtain ⟨hfrom, hto⟩ := (Bool.and_eq_true _ _).mp hlower
          have hrange : 'a'.val ≤ c.val ∧ c.val ≤ 'z'.val :=
            ⟨of_decide_eq_true hfrom, of_decide_eq_true hto⟩
          exact ⟨Nat.le_trans (by decide) hrange.1, hrange.2⟩
      · decide
    simp only [isBlank, Bool.or_eq_false_iff, Bool.and_eq_false_iff, decide_eq_false_iff_not,
      beq_eq_false_iff_ne]
    omega
  constructor
  · exact hblank
  all_goals
    rintro rfl
    exact absurd h (by decide)

/-- A run of characters with a property ends where one without it stands. -/
lemma span_append {p : Char → Bool} {cs rest : List Char} (hcs : ∀ c ∈ cs, p c = true)
    (hrest : ∀ c ∈ rest.head?, p c = false) :
    (cs ++ rest).takeWhile p = cs ∧ (cs ++ rest).dropWhile p = rest := by
  rw [List.takeWhile_append_of_pos hcs, List.dropWhile_append_of_pos hcs]
  cases rest with
  | nil => simp
  | cons d rest => simp [hrest d rfl]

lemma name?_plain {name rest : List Char} (hne : name ≠ []) (hname : ∀ c ∈ name, isNameChar c = true)
    (hrest : ∀ c ∈ rest.head?, isNameChar c = false) : name? (name ++ rest) = some (name, rest) := by
  obtain ⟨c, cs, rfl⟩ := List.exists_cons_of_ne_nil hne
  have hquote : c ≠ '"' := (isNameChar_iff.mp (hname c List.mem_cons_self)).quote
  obtain ⟨htake, hdrop⟩ := span_append hname hrest
  rw [List.cons_append] at htake hdrop ⊢
  rw [name?]
  · rw [htake, hdrop]
  · intro _ h
    exact hquote (List.cons.inj h).1

/-! ## Names -/

/-- A name as it is written, without quotes or between them. -/
inductive WrittenName where
  /-- A run of characters that may stand in a name without quotes. -/
  | plain (name : List Char) (nonempty : name ≠ []) (plain : ∀ c ∈ name, IsPlainChar c)
  /-- A text between quotes. -/
  | quoted (name : List Char) (nonempty : name ≠ []) (unquoted : IsUnquoted name)

namespace WrittenName

/-- The name that is written. -/
def name : WrittenName → List Char
  | plain name .. => name
  | quoted name .. => name

/-- The characters with which it is written. -/
def chars : WrittenName → List Char
  | plain name .. => name
  | quoted name .. => '"' :: (name ++ ['"'])

/-- The name is kept as it is: without quotes every name is, between quotes only a clean one. -/
def IsClean : WrittenName → Prop
  | plain .. => True
  | quoted name .. => entityNameChars name = name

instance : (w : WrittenName) → Decidable w.IsClean
  | plain .. => isTrue trivial
  | quoted name .. => inferInstanceAs (Decidable (entityNameChars name = name))

/-- A written name starts with a character that is no blank. -/
lemma exists_head (w : WrittenName) : ∃ c cs, w.chars = c :: cs ∧ isBlank c = false := by
  cases w with
  | plain name hne hname =>
    obtain ⟨c, cs, rfl⟩ := List.exists_cons_of_ne_nil hne
    exact ⟨c, cs, rfl, (hname c List.mem_cons_self).blank⟩
  | quoted name hne hname => exact ⟨'"', _, rfl, by decide⟩

/-- A name is read back if what follows it cannot belong to it. -/
lemma name?_chars (w : WrittenName) {rest : List Char}
    (hrest : ∀ c ∈ rest.head?, isNameChar c = false) :
    name? (w.chars ++ rest) = some (w.name, rest) := by
  cases w with
  | plain name hne hname => exact name?_plain hne (fun c hc => isNameChar_iff.mpr (hname c hc)) hrest
  | quoted name hne hname =>
    rw [chars, List.cons_append, List.append_assoc, List.singleton_append]
    exact name?_quoted hname hne rest

end WrittenName

/-- A name without quotes has nothing that would have to be cleaned. -/
lemma entityNameChars_plain_eq_self {name : List Char} (h : ∀ c ∈ name, IsPlainChar c) :
    entityNameChars name = name := by
  have hspaces : name.map plainSpace = name := map_plainSpace_eq_self fun c hc => (h c hc).blank
  have hbreaks : joinBreaks name = name := by
    refine joinBreaks_eq_self fun c hc => ⟨?_, ?_⟩
    · rintro rfl
      exact absurd (h _ hc).blank (by decide)
    · rintro rfl
      exact absurd (h _ hc).blank (by decide)
  have htrim : trim name = name :=
    trim_eq_self (fun c hc => (h c (List.mem_of_mem_head? hc)).blank)
      fun c hc => (h c (List.mem_of_mem_getLast? hc)).blank
  have hquotes : name.map singleQuote = name :=
    (List.map_congr_left fun c hc => if_neg (h c hc).quote).trans (List.map_id _)
  have hdelimiters : name.filter (fun c => !isDelimiter c) = name := by
    refine List.filter_eq_self.mpr fun c hc => ?_
    simp [isDelimiter, (h c hc).opening, (h c hc).closing, (h c hc).bar]
  rw [entityNameChars, hspaces, hbreaks, htrim, hquotes, hdelimiters, htrim]

/-- A clean name is what cleaning leaves of it. -/
lemma WrittenName.IsClean.entityNameChars_name {w : WrittenName} (h : w.IsClean) :
    entityNameChars w.name = w.name := by
  cases w with
  | plain name hne hname => exact entityNameChars_plain_eq_self hname
  | quoted name hne hname => exact h

/-! ## Openings -/

/-- A line opens no block if the brace after its first name, if there is one, is not at the end and
not closed there. -/
lemma blockOpening?_eq_none {line name rest : List Char} (hname : name? line = some (name, rest))
    (hrest : ∀ inner, trimLeft rest = '{' :: inner → trimLeft inner ≠ [] ∧ trimLeft inner ≠ ['}']) :
    blockOpening? line = none := by
  rw [blockOpening?, hname]
  simp only [Option.bind_eq_bind, Option.bind_some]
  split
  · rename_i inner heq
    obtain ⟨hne, hbrace⟩ := hrest inner heq
    split
    · rename_i hnil
      exact absurd hnil hne
    · rename_i hclosing
      exact absurd hclosing hbrace
    · rfl
  · rfl

/-! ## Statements -/

/-- A line that says something and is no comment is the first of the statements. -/
lemma numberedStatements_cons {raw line : List Char} (htrim : trim raw = line)
    (hne : line.isEmpty = false) (hcomment : isComment line = false) (n : Nat)
    (rest : List (List Char)) :
    numberedStatements n (raw :: rest) = (n, line) :: numberedStatements (n + 1) rest := by
  rw [numberedStatements, htrim]
  simp only [hne, hcomment, Bool.or_false, Bool.false_eq_true, if_false]

end DiagramSync
