import DiagramSync.Diagram.Relationship
import DiagramSync.Model.Entity
import DiagramSync.Model.Wording
import DiagramSync.Text.Search

/-!
# Which foreign key a relationship line speaks of

A relationship line names two entities.  A *resolver* picks the field of the first one that is
meant, and linking points that field at the second one.

* `Resolver` — a way to pick; it may fail with a message
* `refersTo`, `isCandidate` — foreign keys whose name speaks of the target
* `Resolver.byName` — the first candidate that is not linked yet, or else the first one
* `Resolver.byLabel` — the foreign key that the label names, or else as `byName`
* `Resolver.link` — the source with the picked field pointing at the target
-/

namespace DiagramSync

/-- A way to pick the field of `source` that a relationship with `target` speaks of, given by its
position. -/
structure Resolver where
  /-- The position of the field, if any; or the message of a failure. -/
  select : (source target : Entity) → Relationship → Except String (Option Nat)

/-! ## Names that refer to an entity -/

/-- A field name refers to an entity if it holds the entity's name, with underscores for spaces and
perhaps without its plural `s`; a name that ends in `id` may refer to any entity. -/
def refersTo (fieldName entityName : String) : Bool :=
  let field := Text.lower fieldName.toList
  let entity := (Text.lower entityName.toList).map fun c => if c = ' ' then '_' else c
  (!entity.isEmpty && Text.contains entity field) ||
    (1 < entity.length && ['s'].isSuffixOf entity && Text.contains entity.dropLast field) ||
    ['i', 'd'].isSuffixOf field

/-- The field is a foreign key of `source` that may point at `target`. -/
def isCandidate (target : Entity) (f : Field) : Bool :=
  f.isForeign && refersTo f.name target.name

/-- The position of the first candidate that is not linked yet, or else of the first candidate. -/
def selectByName (source target : Entity) : Option Nat :=
  let unlinked := source.fields.findIdx? fun f => isCandidate target f && !f.isLinked
  unlinked.or (source.fields.findIdx? (isCandidate target))

/-- The position of the first field that has the name that the label gives, if that field is a
foreign key. -/
def selectByLabel (source : Entity) (label : Option String) : Option Nat := do
  let wanted ← label
  if wanted = "" then
    none
  else
    let i ← source.fields.findIdx? fun f => Text.foldName f.name == Text.foldName wanted
    let f ← source.fields[i]?
    if f.isForeign then some i else none

/-- Picks by the names of the fields alone. -/
def Resolver.byName : Resolver :=
  ⟨fun source target _ => .ok (selectByName source target)⟩

/-- Picks the field that the label names, and goes by the names of the fields where there is none.
Written diagrams label a relationship with its field, so this finds the field again. -/
def Resolver.byLabel : Resolver :=
  ⟨fun source target r => .ok ((selectByLabel source r.label).or (selectByName source target))⟩

/-! ## Linking -/

/-- The reference that a relationship gives to the field it speaks of.  A label that only repeats
the name of the field is not kept. -/
def linkedReference (target : Entity) (r : Relationship) (f : Field) : Reference where
  target := target.id
  targetField := (target.primaryKey?.map (·.id)).getD .unresolved
  cardinality := r.cardinality
  label := if r.label = some f.name then none else cleanRemark r.label

/-- The field pointing at the target of the relationship. -/
def Field.link (target : Entity) (r : Relationship) (f : Field) : Field :=
  { f with reference := some (linkedReference target r f) }

/-- The source after a relationship has been resolved, and the field that was linked; `none` if
the resolver picks no field. -/
def Resolver.link (resolver : Resolver) (source target : Entity) (r : Relationship) :
    Except String (Option (Entity × Field)) := do
  match ← resolver.select source target r with
  | none => return none
  | some i =>
    match source.fields[i]? with
    | none => return none
    | some f =>
      let linked := f.link target r
      return some ({ source with fields := source.fields.set i linked }, linked)

end DiagramSync
