import DiagramSync.Text.CaseTables
import DiagramSync.Text.WordChar

/-!
# Letter case

Names are compared without regard to case by comparing their lower case.  Lower and upper case
are the full mappings: a letter may have an image of several characters, and a capital sigma is
lowered by its place in the word.

* `lower`, `upper` — a text in lower and in upper case
* `foldName` — the key under which two names count as the same
-/

namespace DiagramSync.Text

/-- The image of a code point in a case table, or the code point itself. -/
def caseImage (expansions : List (Nat × List Nat)) (runs : List CaseRun) (c : Char) : List Char :=
  match expansions.find? fun e => e.1 == c.toNat with
  | some (_, image) => image.map Char.ofNat
  | none =>
    match runs.findSome? fun run => run.image? c.toNat with
    | some image => [Char.ofNat image]
    | none => [c]

/-- The lower case of a character on its own. -/
def lowerChar (c : Char) : List Char :=
  if c.toNat < 0x80 then [c.toLower] else caseImage lowerExpansions lowerRuns c

/-- The upper case of a character. -/
def upperChar (c : Char) : List Char :=
  if c.toNat < 0x80 then [c.toUpper] else caseImage upperExpansions upperRuns c

/-- A letter with a case. -/
def isCased (c : Char) : Bool :=
  if c.toNat < 0x80 then c.isAlpha else inRanges casedRanges c.toNat

/-- A character that does not separate the letters beside it. -/
def isCaseIgnorable (c : Char) : Bool :=
  inRanges caseIgnorableRanges c.toNat

/-- The nearest character that is not ignorable has a case. -/
def nextIsCased (cs : List Char) : Bool :=
  match cs.dropWhile isCaseIgnorable with
  | [] => false
  | c :: _ => isCased c

/-- A capital sigma ends a word when a letter stands before it and none after it. -/
def endsWord (before after : List Char) : Bool :=
  nextIsCased before && !nextIsCased after

/-- The lower case of the rest of a text, of which `before` is what has been read already, the
nearest character first. -/
def lowerFrom (before : List Char) : List Char → List Char
  | [] => []
  | c :: cs =>
    if c = 'Σ' then
      (if endsWord before cs then 'ς' else 'σ') :: lowerFrom (c :: before) cs
    else
      lowerChar c ++ lowerFrom (c :: before) cs

/-- A text in lower case. -/
def lower (cs : List Char) : List Char :=
  lowerFrom [] cs

/-- A text in upper case. -/
def upper (cs : List Char) : List Char :=
  cs.flatMap upperChar

/-- The key under which names are compared: two names are the same name exactly when their keys
are equal. -/
def foldName (name : String) : String :=
  String.ofList (lower name.toList)

end DiagramSync.Text
