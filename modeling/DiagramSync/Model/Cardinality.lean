/-!
# Cardinality

How many rows stand at either end of a reference, read from the entity that owns the foreign key
towards the entity it points at.

* `Multiplicity` — one or many, at one end
* `Cardinality` — one of the four pairs
* `Cardinality.between`, `Cardinality.near`, `Cardinality.far` — a pair and its two ends
* `Cardinality.flip` — the same relationship read from the other side
* `Cardinality.word`, `Cardinality.ofWord?` — the written names
-/

namespace DiagramSync

/-- How many rows stand at one end of a relationship. -/
inductive Multiplicity where
  | one
  | many
  deriving Repr, DecidableEq

/-- How many rows stand at the two ends of a relationship, the owner of the foreign key first. -/
inductive Cardinality where
  | oneToOne
  | oneToMany
  | manyToOne
  | manyToMany
  deriving Repr, DecidableEq, Inhabited

namespace Cardinality

/-- The cardinalities in the order in which they are listed. -/
def all : List Cardinality :=
  [oneToOne, oneToMany, manyToOne, manyToMany]

/-- The cardinality with these two ends. -/
def between : Multiplicity → Multiplicity → Cardinality
  | .one, .one => oneToOne
  | .one, .many => oneToMany
  | .many, .one => manyToOne
  | .many, .many => manyToMany

/-- The end of the entity that owns the foreign key. -/
def near : Cardinality → Multiplicity
  | oneToOne | oneToMany => .one
  | manyToOne | manyToMany => .many

/-- The end of the entity that is pointed at. -/
def far : Cardinality → Multiplicity
  | oneToOne | manyToOne => .one
  | oneToMany | manyToMany => .many

/-- The same relationship read from the entity that is pointed at. -/
def flip (c : Cardinality) : Cardinality :=
  between c.far c.near

@[simp] theorem between_near_far (c : Cardinality) : between c.near c.far = c := by
  cases c <;> rfl

@[simp] theorem near_between (a b : Multiplicity) : (between a b).near = a := by
  cases a <;> cases b <;> rfl

@[simp] theorem far_between (a b : Multiplicity) : (between a b).far = b := by
  cases a <;> cases b <;> rfl

@[simp] theorem flip_flip (c : Cardinality) : c.flip.flip = c := by
  cases c <;> rfl

/-- The written name. -/
def word : Cardinality → String
  | oneToOne => "one-to-one"
  | oneToMany => "one-to-many"
  | manyToOne => "many-to-one"
  | manyToMany => "many-to-many"

/-- The cardinality with that written name. -/
def ofWord? (w : String) : Option Cardinality :=
  all.find? fun c => c.word == w

@[simp] theorem ofWord?_word (c : Cardinality) : ofWord? c.word = some c := by
  cases c <;> decide

end Cardinality

end DiagramSync
