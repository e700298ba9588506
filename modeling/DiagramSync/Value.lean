import DiagramSync.Value.Decimal

/-!
# Loose values

What an editor, an import or an environment hands over before anybody has checked it: text,
numbers and flags in any place, lists and records of them.  Every attribute of the model is read
out of such a value, and the modules that read say which values they take.

* `Value` — a loose value
* `Value.lookup?` — an attribute of a record
* `Value.isTruthy` — whether a value counts as given where only presence matters
* `Value.Shape` — the sort of a value that was no text where a text was needed
* `Value.renameTexts` — the texts under given attributes replaced throughout
-/

namespace DiagramSync

/-- A loose value.  A number written with a decimal point or an exponent is a `decimal`, even when
it is whole; it is kept as the nearest float. -/
inductive Value where
  | null
  | flag (value : Bool)
  | whole (value : Int)
  | decimal (value : Float)
  | text (value : String)
  | list (items : List Value)
  | record (attributes : List (String × Value))
  deriving Repr, Inhabited

namespace Value

/-! ## Reading -/

/-- The attribute of that name among the attributes of a record. -/
def find? (attributes : List (String × Value)) (name : String) : Option Value :=
  (attributes.find? fun a => a.1 == name).map (·.2)

/-- The attribute of that name, if the value is a record that has it. -/
def lookup? (name : String) : Value → Option Value
  | record attributes => find? attributes name
  | _ => none

/-- The attribute of that name, or `null`. -/
def get (name : String) (v : Value) : Value :=
  (v.lookup? name).getD null

/-- A value that counts as given: anything but `null`, `false`, zero and what is empty. -/
def isTruthy : Value → Bool
  | null => false
  | flag b => b
  | whole n => n != 0
  | decimal x => wholeOf? x != some 0
  | text s => s != ""
  | list xs => !xs.isEmpty
  | record as => !as.isEmpty

/-- A text, if the value is one. -/
def text? : Value → Option String
  | text s => some s
  | _ => none

/-! ## Values that are no text -/

/-- The sort of a value that is given and is no text. -/
inductive Shape where
  | flag
  | whole
  | decimal
  | list
  | record
  deriving Repr, DecidableEq

/-- The text of a name.  Whatever does not count as given is the empty name; any other value that
is no text is refused with its sort. -/
def nameText : Value → Except Shape String
  | null => .ok ""
  | flag b => if b then .error .flag else .ok ""
  | whole n => if n = 0 then .ok "" else .error .whole
  | decimal x => if wholeOf? x = some 0 then .ok "" else .error .decimal
  | text s => .ok s
  | list xs => if xs.isEmpty then .ok "" else .error .list
  | record as => if as.isEmpty then .ok "" else .error .record

/-! ## Renaming -/

mutual

/-- The value with every text that stands under one of the `names`, at any depth, replaced by its
image under `f`. -/
def renameTexts (names : List String) (f : String → String) : Value → Value
  | list xs => list (renameItems names f xs)
  | record as => record (renameAttributes names f as)
  | v => v

/-- `renameTexts` on the items of a list. -/
def renameItems (names : List String) (f : String → String) : List Value → List Value
  | [] => []
  | v :: vs => renameTexts names f v :: renameItems names f vs

/-- `renameTexts` on the attributes of a record. -/
def renameAttributes (names : List String) (f : String → String) :
    List (String × Value) → List (String × Value)
  | [] => []
  | (name, v) :: as =>
    let image :=
      match v with
      | text s => if names.contains name then text (f s) else v
      | _ => renameTexts names f v
    (name, image) :: renameAttributes names f as

end

end Value

end DiagramSync
