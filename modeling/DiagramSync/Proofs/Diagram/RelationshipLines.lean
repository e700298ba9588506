import DiagramSync.Proofs.Diagram.Names
import DiagramSync.Proofs.Model.Ids

/-!
# The grammar of relationship lines

A relationship line is a name, a symbol and a name, perhaps with a label behind a colon, and blanks
may stand between any of them or not.  Without a blank it is not plain where a name ends and the
symbol begins: a name may hold an `o`, a hyphen or a full stop, and a symbol may begin with an `o`.
Reading takes the longest name that leaves a relationship, and that is the name that was written,
because the next longer one would have to take the `o` away from a symbol.

* `EndMarker`, `LineStyle.dashes` — the pieces of a symbol
* `WrittenLabel` — a label as it is written, or none
* `RelationshipLine` — a relationship line as it is written
* `fromName?_append` — how a name without quotes is told from the symbol after it
* `RelationshipLine.outsideForm_chars` — the form of a relationship line
* **`reads_relationshipLine`** — the relationship that is read is the one that was written
-/

namespace DiagramSync

open Text LineForm

/-! ## Symbols -/

/-- The end markers: two bars, a bar and a ring, or a crow's foot with a bar or a ring. -/
inductive EndMarker where
  | barBar
  | barRing
  | ringBar
  | footBar
  | barFoot
  | footRing
  | ringFoot
  deriving DecidableEq

namespace EndMarker

/-- The two characters of a marker. -/
def chars : EndMarker → List Char
  | barBar => ['|', '|']
  | barRing => ['|', 'o']
  | ringBar => ['o', '|']
  | footBar => ['}', '|']
  | barFoot => ['|', '{']
  | footRing => ['}', 'o']
  | ringFoot => ['o', '{']

/-- The end that a marker stands for. -/
def multiplicity : EndMarker → Multiplicity
  | barBar | barRing | ringBar => .one
  | footBar | barFoot | footRing | ringFoot => .many

end EndMarker

/-- The two characters that draw a line. -/
def LineStyle.dashes : LineStyle → List Char
  | solid => ['-', '-']
  | dashed => ['.', '.']

/-! ## Labels -/

/-- What stands behind the second name: nothing, or a colon and a label. -/
inductive WrittenLabel where
  /-- There is no label. -/
  | absent (trailing : Blanks)
  /-- A label between quotes. -/
  | quoted (before after : Blanks) (label : List Char) (unquoted : IsUnquoted label)
      (trailing : Blanks)
  /-- A label without quotes, which says something. -/
  | plain (before : Blanks) (text : List Char)
      (starts : ∃ c cs, trimLeft text = c :: cs ∧ c ≠ '"')

namespace WrittenLabel

/-- The label: between quotes as it is, and trimmed without them. -/
def text : WrittenLabel → Option (List Char)
  | absent _ => none
  | quoted _ _ label .. => some label
  | plain _ text _ => some (trim text)

/-- The characters from the second name to the end of the line. -/
def chars : WrittenLabel → List Char
  | absent trailing => trailing.chars
  | quoted before after label _ trailing =>
    before.chars ++ ':' :: (after.chars ++ '"' :: (label ++ '"' :: trailing.chars))
  | plain before text _ => before.chars ++ ':' :: text

/-- What follows a name cannot belong to it. -/
lemma head_chars (l : WrittenLabel) : ∀ c ∈ l.chars.head?, isNameChar c = false := by
  have hcolon : ∀ (b : Blanks) (rest : List Char),
      ∀ c ∈ (b.chars ++ ':' :: rest).head?, isNameChar c = false := by
    intro b rest c hc
    obtain ⟨chars, hblank⟩ := b
    cases chars with
    | nil =>
      obtain rfl := Option.some.inj hc
      decide
    | cons d ds =>
      obtain rfl := Option.some.inj hc
      exact isNameChar_of_blank (hblank d List.mem_cons_self)
  cases l with
  | absent trailing =>
    exact fun c hc => isNameChar_of_blank (trailing.blank c (List.mem_of_mem_head? hc))
  | quoted before after label unquoted trailing => exact hcolon before _
  | plain before text starts => exact hcolon before _

/-- A label is read back. -/
lemma label?_chars (l : WrittenLabel) : label? l.chars = some l.text := by
  cases l with
  | absent trailing =>
    rw [chars, label?, trailing.trimLeft_chars]
    rfl
  | quoted before after label unquoted trailing =>
    have hlabel : labelAfterColon ('"' :: (label ++ '"' :: trailing.chars)) = some label := by
      rw [labelAfterColon, quoted?_quoted unquoted]
      exact if_pos (List.all_eq_true.mpr trailing.blank)
    rw [chars, label?, before.trimLeft_append, trimLeft_cons _ (by decide)]
    simp only [after.trimLeft_append, trimLeft_cons _ (show isBlank '"' = false by decide), hlabel]
    rfl
  | plain before text starts =>
    obtain ⟨c, cs, htext, hquote⟩ := starts
    have hquoted : quoted? (c :: cs) = none := by
      rw [quoted?]
      exact fun _ h => hquote (List.cons.inj h).1
    have hlabel : labelAfterColon (trimLeft text) = some (trim text) := by
      rw [labelAfterColon, trim, htext, hquoted]
      rfl
    rw [chars, label?, before.trimLeft_append, trimLeft_cons _ (by decide)]
    simp only [hlabel]
    rfl

end WrittenLabel

/-! ## Lines -/

/-- A relationship line as it is written, from its first name on. -/
structure RelationshipLine where
  /-- The name on the left. -/
  source : WrittenName
  /-- The blanks between that name and the symbol. -/
  beforeSymbol : Blanks
  /-- The marker on the left. -/
  near : EndMarker
  /-- The line between the markers. -/
  style : LineStyle
  /-- The marker on the right. -/
  far : EndMarker
  /-- The blanks between the symbol and the name on the right. -/
  beforeTarget : Blanks
  /-- The name on the right. -/
  target : WrittenName
  /-- The label, if there is one. -/
  label : WrittenLabel

namespace RelationshipLine

/-- The symbol. -/
def symbol (l : RelationshipLine) : List Char :=
  l.near.chars ++ (l.style.dashes ++ l.far.chars)

/-- The characters behind the symbol. -/
def tail (l : RelationshipLine) : List Char :=
  l.beforeTarget.chars ++ (l.target.chars ++ l.label.chars)

/-- The characters of the line. -/
def chars (l : RelationshipLine) : List Char :=
  l.source.chars ++ (l.beforeSymbol.chars ++ (l.symbol ++ l.tail))

/-- What the line says. -/
def stated (l : RelationshipLine) : StatedRelationship where
  parts := { source := l.source.name, symbol := l.symbol, target := l.target.name, label := l.label.text }
  cardinality := .between l.near.multiplicity l.far.multiplicity
  style := l.style

/-- The relationship of the line, if it is the `n`th. -/
def relationship (n : Nat) (l : RelationshipLine) : Relationship where
  source := String.ofList l.source.name
  target := String.ofList l.target.name
  symbol := String.ofList l.symbol
  cardinality := .between l.near.multiplicity l.far.multiplicity
  label := l.label.text.map String.ofList
  identifying := l.style == .solid
  line := some n

variable (l : RelationshipLine)

lemma symbol?_symbol (rest : List Char) : symbol? (l.symbol ++ rest) = some (l.symbol, rest) := by
  rw [symbol]
  cases l.near <;> cases l.style <;> cases l.far <;> rfl

lemma read?_symbol : Symbol.read? l.symbol
    = some (.between l.near.multiplicity l.far.multiplicity, l.style) := by
  rw [symbol]
  cases l.near <;> cases l.style <;> cases l.far <;> rfl

/-- From its symbol on, a line is read as it was written. -/
lemma fromSymbol?_tail : fromSymbol? (l.symbol ++ l.tail)
    = some { symbol := l.symbol, target := l.target.name, label := l.label.text } := by
  obtain ⟨c, cs, htarget, hblank⟩ := l.target.exists_head
  have htrim : trimLeft l.tail = l.target.chars ++ l.label.chars := by
    rw [tail, l.beforeTarget.trimLeft_append, htarget, List.cons_append, trimLeft_cons _ hblank]
  rw [fromSymbol?, l.symbol?_symbol]
  simp only [Option.bind_eq_bind, Option.bind_some, htrim, l.target.name?_chars l.label.head_chars,
    l.label.label?_chars]
  rfl

/-- The symbol starts with no blank. -/
lemma trimLeft_symbol (rest : List Char) : trimLeft (l.symbol ++ rest) = l.symbol ++ rest := by
  rw [symbol]
  cases l.near <;> exact trimLeft_cons _ (by decide)

end RelationshipLine

/-! ## Where a name ends -/

/-- No symbol has a dash in the second place. -/
lemma symbol?_eq_none {a b : Char} {rest : List Char} (h : isMarkerChar b = false) :
    symbol? (a :: b :: rest) = none := by
  unfold symbol?
  split
  · rename_i heq
    obtain ⟨-, rfl, -⟩ := List.cons.inj heq |>.imp id List.cons.inj
    simp [h]
  · rfl

/-- A name without quotes is read up to where no longer one leaves a relationship. -/
lemma fromName?_append {name rest : List Char} {tail : RelationshipTail} (hne : name ≠ [])
    (hname : ∀ c ∈ name, isNameChar c = true) (hlonger : fromName? rest = none)
    (htail : fromSymbol? (trimLeft rest) = some tail) :
    fromName? (name ++ rest) = some (name, tail) := by
  induction name with
  | nil => exact absurd rfl hne
  | cons c cs ih =>
    rw [List.cons_append, fromName?, if_pos (hname c List.mem_cons_self)]
    cases cs with
    | nil =>
      rw [List.nil_append, hlonger, htail]
      rfl
    | cons d ds => rw [ih (List.cons_ne_nil d ds) fun x hx => hname x (List.mem_cons_of_mem c hx)]

/-- A ring at the start of a symbol, and what follows it: a character that can stand in no name, and
a dash. -/
structure IsRing (rest : List Char) (d e : Char) (more : List Char) : Prop where
  /-- The ring comes first. -/
  split : rest = 'o' :: d :: e :: more
  /-- The character behind it stands in no name. -/
  other : isNameChar d = false
  /-- That character is no blank. -/
  otherBlank : isBlank d = false
  /-- The dash is no part of a marker. -/
  dash : isMarkerChar e = false
  /-- The dash is no blank. -/
  dashBlank : isBlank e = false

lemma fromName?_eq_none {rest : List Char} (h : ∀ c ∈ rest.head?, isNameChar c = false) :
    fromName? rest = none := by
  cases rest with
  | nil => rfl
  | cons c cs => rw [fromName?, if_neg (by simp [h c rfl])]

/-- The ring of a symbol is no name: what would be left of the symbol is none. -/
lemma IsRing.fromName?_eq_none {rest more : List Char} {d e : Char} (h : IsRing rest d e more) :
    fromName? rest = none := by
  have hother : fromName? (d :: e :: more) = none :=
    DiagramSync.fromName?_eq_none fun c hc => Option.some.inj hc ▸ h.other
  rw [h.split, fromName?, if_pos (by decide), hother, trimLeft_cons _ h.otherBlank, fromSymbol?,
    symbol?_eq_none h.dash]
  rfl

namespace RelationshipLine

variable (l : RelationshipLine)

/-- The characters behind the first name: none of them can belong to it, or a ring comes first. -/
lemma head_cases :
    (∀ c ∈ (l.beforeSymbol.chars ++ (l.symbol ++ l.tail)).head?, isNameChar c = false) ∨
      ∃ d e more, IsRing (l.beforeSymbol.chars ++ (l.symbol ++ l.tail)) d e more := by
  obtain ⟨blanks, hblank⟩ := l.beforeSymbol
  cases blanks with
  | cons b bs =>
    exact Or.inl fun c hc => isNameChar_of_blank (hblank c (List.mem_of_mem_head? (by simpa using hc)))
  | nil =>
    rw [List.nil_append, symbol, List.append_assoc]
    have hring : ∀ d, isNameChar d = false → isBlank d = false → ∀ rest, ∃ d' e more,
        IsRing ('o' :: d :: (l.style.dashes ++ l.far.chars ++ rest)) d' e more := by
      intro d hname hd rest
      cases l.style with
      | solid => exact ⟨d, '-', _, rfl, hname, hd, by decide, by decide⟩
      | dashed => exact ⟨d, '.', _, rfl, hname, hd, by decide, by decide⟩
    cases l.near with
    | ringBar => exact Or.inr (hring '|' (by decide) (by decide) _)
    | ringFoot => exact Or.inr (hring '{' (by decide) (by decide) _)
    | _ => exact Or.inl fun c hc => Option.some.inj hc ▸ by decide

/-- No character behind the first name is read as part of it. -/
lemma fromName?_symbol : fromName? (l.beforeSymbol.chars ++ (l.symbol ++ l.tail)) = none := by
  rcases l.head_cases with h | ⟨d, e, more, h⟩
  · exact fromName?_eq_none h
  · exact h.fromName?_eq_none

/-- The parts of a line are read as they were written. -/
lemma relationship?_chars : relationship? l.chars = some l.stated.parts := by
  have htrim : trimLeft (l.beforeSymbol.chars ++ (l.symbol ++ l.tail)) = l.symbol ++ l.tail := by
    rw [l.beforeSymbol.trimLeft_append, l.trimLeft_symbol]
  have htail := l.fromSymbol?_tail
  rw [← htrim] at htail
  have hlonger := l.fromName?_symbol
  rw [chars, stated]
  generalize l.beforeSymbol.chars ++ (l.symbol ++ l.tail) = rest at htail hlonger
  cases l.source with
  | plain name hne hname =>
    have hchars : ∀ c ∈ name, isNameChar c = true := fun c hc => isNameChar_iff.mpr (hname c hc)
    have hfrom := fromName?_append hne hchars hlonger htail
    obtain ⟨c, cs, rfl⟩ := List.exists_cons_of_ne_nil hne
    rw [WrittenName.chars, relationship?, hfrom]
    · rfl
    · exact fun _ h => (hname c List.mem_cons_self).quote (List.cons.inj h).1
  | quoted name hne hname =>
    rw [WrittenName.chars, List.cons_append, List.append_assoc, List.singleton_append, relationship?,
      name?_quoted hname hne]
    simp only [Option.bind_eq_bind, Option.bind_some, htail]
    rfl

/-- No brace comes first behind the first name. -/
lemma trimLeft_ne_brace (inner : List Char) :
    trimLeft (l.beforeSymbol.chars ++ (l.symbol ++ l.tail)) ≠ '{' :: inner := by
  rw [l.beforeSymbol.trimLeft_append, l.trimLeft_symbol, symbol]
  cases l.near <;> exact fun h => absurd (List.cons.inj h).1 (by decide)

/-- A relationship line opens no block: if a name can be read off it that a brace follows, then the
ring of the symbol was taken for a part of the name, and behind the brace comes a dash. -/
lemma blockOpening?_chars : blockOpening? l.chars = none := by
  have hrest := l.head_cases
  have hbrace := l.trimLeft_ne_brace
  rw [chars]
  generalize l.beforeSymbol.chars ++ (l.symbol ++ l.tail) = rest at hrest hbrace
  have hkept : name? (l.source.chars ++ rest) = some (l.source.name, rest) →
      blockOpening? (l.source.chars ++ rest) = none := fun h =>
    blockOpening?_eq_none h fun inner hinner => absurd hinner (hbrace inner)
  rcases hrest with hrest | ⟨d, e, more, hring⟩
  · exact hkept (l.source.name?_chars hrest)
  · cases hsource : l.source with
    | quoted name hne hname =>
      rw [hsource] at hkept
      refine hkept ?_
      rw [WrittenName.chars, List.cons_append, List.append_assoc, List.singleton_append]
      exact name?_quoted hname hne rest
    | plain name hne hname =>
      have hchars : ∀ c ∈ name ++ ['o'], isNameChar c = true := by
        intro c hc
        rcases List.mem_append.mp hc with hc | hc
        · exact isNameChar_iff.mpr (hname c hc)
        · rw [List.mem_singleton.mp hc]
          decide
      have hread : name? (name ++ rest) = some (name ++ ['o'], d :: e :: more) := by
        rw [hring.split, List.append_cons]
        exact name?_plain (by simp) hchars fun c hc => Option.some.inj hc ▸ hring.other
      refine blockOpening?_eq_none hread fun inner hinner => ?_
      rw [trimLeft_cons _ hring.otherBlank] at hinner
      obtain ⟨-, rfl⟩ := List.cons.inj hinner
      rw [trimLeft_cons _ hring.dashBlank]
      refine ⟨List.cons_ne_nil e more, fun h => ?_⟩
      have hdash := hring.dash
      rw [(List.cons.inj h).1] at hdash
      exact absurd hdash (by decide)

/-- A relationship line is read as what it says, and as nothing else. -/
lemma outsideForm_chars : outsideForm l.chars = .relationship l.stated := by
  rw [outsideForm, l.blockOpening?_chars, statedRelationship?, l.relationship?_chars]
  simp only [Option.bind_eq_bind, Option.bind_some, stated, l.read?_symbol]
  rfl

end RelationshipLine

/-! ## Reading -/

/-- **The grammar of relationship lines**: names without quotes or between them, any two markers
joined by a solid or a dashed line, blanks between the parts or none, and a label or none.  Unless
it is a comment, such a line is a statement, and outside a block it is read as the relationship that
was written, never as the opening of a block or as a name alone; scanning it adds that relationship
and changes nothing else. -/
theorem reads_relationshipLine (l : RelationshipLine) (hsource : l.source.IsClean)
    (htarget : l.target.IsClean) (hcomment : isComment l.chars = false) :
    outsideForm l.chars = .relationship l.stated ∧
      (∀ n raw rest, trim raw = l.chars →
        numberedStatements n (raw :: rest) = (n, l.chars) :: numberedStatements (n + 1) rest) ∧
      ∀ unlinked (s : Scan) n, (!s.headerSeen && isHeader l.chars) = false → s.current = none →
        s.step unlinked (n, l.chars)
          = { s with relationships := s.relationships ++ [(n, l.relationship n)] } := by
  refine ⟨l.outsideForm_chars, fun n raw rest htrim => ?_, fun unlinked s n hheader hnone => ?_⟩
  · have hne : l.chars.isEmpty = false := by
      obtain ⟨c, cs, hchars, -⟩ := l.source.exists_head
      rw [RelationshipLine.chars, hchars]
      rfl
    exact numberedStatements_cons htrim hne hcomment n rest
  · have hkeep : l.stated.keep n = l.relationship n := by
      simp only [StatedRelationship.keep, RelationshipLine.stated, keptName,
        hsource.entityNameChars_name, htarget.entityNameChars_name]
      rfl
    simp only [Scan.step, hheader, hnone, Scan.stepOutside, l.outsideForm_chars, hkeep]
    rfl

/-- A line without a blank where none is needed: its first name ends in a ring, and its symbol
begins with one. -/
def crowdedLine : RelationshipLine where
  source := .plain ['f', 'o', 'o'] (by decide) fun c hc =>
    isNameChar_iff.mp (List.all_eq_true.mp rfl c hc)
  beforeSymbol := .none
  near := .ringBar
  style := .dashed
  far := .ringFoot
  beforeTarget := .none
  target := .quoted ['A', ' ', 'b'] (by decide) (by decide)
  label := .plain .space ['i', 't', '"'] ⟨'i', ['t', '"'], by decide, by decide⟩

/-- The ring of the symbol is not taken for a part of the name. -/
theorem reads_crowdedLine :
    crowdedLine.chars = "fooo|..o\x7b\"A b\" :it\"".toList ∧
      outsideForm crowdedLine.chars = .relationship crowdedLine.stated ∧
      (Scan.step .manyToOne { headerSeen := true, supply := .strokes } (2, crowdedLine.chars)).relationships
        = [(2, { source := "foo", target := "A b", symbol := "o|..o\x7b", cardinality := .oneToMany
                 label := some "it\"", identifying := false, line := some 2 })] := by
  obtain ⟨hform, -, hstep⟩ :=
    reads_relationshipLine crowdedLine trivial (by decide +kernel) (by decide +kernel)
  refine ⟨by decide +kernel, hform, ?_⟩
  rw [hstep .manyToOne { headerSeen := true, supply := .strokes } 2 rfl rfl]
  decide +kernel

end DiagramSync
