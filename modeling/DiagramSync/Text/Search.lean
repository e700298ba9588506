/-!
# Searching and cutting texts

Elementary operations on texts as lists of characters.

* `contains` — one text occurs inside another
* `replaceAll` — every occurrence of a text replaced, from left to right
* `words` — the pieces between separators, empty ones left out
-/

namespace DiagramSync.Text

/-- Whether `needle` occurs in the text; the empty text occurs in every text. -/
def contains (needle : List Char) : List Char → Bool
  | [] => needle.isEmpty
  | c :: cs => needle.isPrefixOf (c :: cs) || contains needle cs

/-- Replaces the occurrences of a text that is not empty, scanning from the left; `skip` counts
the characters of the occurrence just replaced that are still to be passed over. -/
def replaceFrom (old new : List Char) : Nat → List Char → List Char
  | _, [] => []
  | skip + 1, _ :: cs => replaceFrom old new skip cs
  | 0, c :: cs =>
    if old.isPrefixOf (c :: cs) then
      new ++ replaceFrom old new (old.length - 1) cs
    else
      c :: replaceFrom old new 0 cs

/-- The text with every occurrence of `old` replaced by `new`.  The empty text occurs before every
character and at the end. -/
def replaceAll (old new cs : List Char) : List Char :=
  if old.isEmpty then
    new ++ cs.flatMap fun c => c :: new
  else
    replaceFrom old new 0 cs

/-- The pieces of a text between separators, without the empty ones. -/
def words (isSeparator : Char → Bool) : List Char → List (List Char)
  | [] => []
  | [c] => if isSeparator c then [] else [[c]]
  | c :: d :: cs =>
    if isSeparator c then
      words isSeparator (d :: cs)
    else if isSeparator d then
      [c] :: words isSeparator (d :: cs)
    else
      match words isSeparator (d :: cs) with
      | [] => [[c]]
      | w :: ws => (c :: w) :: ws

end DiagramSync.Text
