import DiagramSync.Model.Entity

/-!
# Keeping ids when a model is read again

A model that was read from a text has new ids throughout.  Reconciling it with the model that is
there already gives its entities and fields the ids of those they have the name of, so that
whoever holds an id still finds the same thing.  References are led along.

* `renamed` — an id under a list of renamings, of which the latest counts
* `Reconciling` — the entities done so far, with the renamings and the ids that are taken
* `reconcile` — the entities of a new model under the ids of the current one
-/

namespace DiagramSync

/-- The image of an id under a list of renamings, the latest first; an id without one is its own
image. -/
def renamed (renamings : List (Id × Id)) (id : Id) : Id :=
  ((renamings.find? fun r => r.1 == id).map (·.2)).getD id

/-- What has been reconciled so far. -/
structure Reconciling where
  /-- Ids that an entity has been given already. -/
  claimed : List Id := []
  /-- New entity ids and what became of them, the latest first. -/
  entityIds : List (Id × Id) := []
  /-- New field ids and what became of them, the latest first. -/
  fieldIds : List (Id × Id) := []
  /-- The entities under their ids, with references as they were. -/
  merged : List Entity := []

/-- The current entity whose place the entity takes: of those with its name the last one, unless
another entity has taken its id before. -/
def previousOf (current : List Entity) (claimed : List Id) (e : Entity) : Option Entity := do
  let p ← current.reverse.find? fun p => Text.foldName p.name == Text.foldName e.name
  if claimed.contains p.id then none else some p

/-- The id that a field of an entity gets. -/
def keptFieldId (previous : Option Entity) (f : Field) : Id :=
  match previous.bind (·.findFieldNamed? f.name) with
  | some old => old.id
  | none => f.id

/-- The state after an entity more. -/
def Reconciling.step (current : List Entity) (s : Reconciling) (e : Entity) : Reconciling :=
  let previous := previousOf current s.claimed e
  let id := (previous.map (·.id)).getD e.id
  let fields := e.fields.map fun f => { f with id := keptFieldId previous f }
  { claimed := id :: s.claimed
    entityIds := (e.id, id) :: s.entityIds
    fieldIds := (e.fields.map fun f => (f.id, keptFieldId previous f)).reverse ++ s.fieldIds
    merged := s.merged ++ [{ e with id, fields }] }

/-- The reference that points at what its targets became, if it points anywhere. -/
def Reference.rename (entityIds fieldIds : List (Id × Id)) (r : Reference) : Reference :=
  if r.isLinked then
    { r with target := renamed entityIds r.target, targetField := renamed fieldIds r.targetField }
  else r

/-- The `parsed` entities in order, under the ids of the `current` ones that they have the name of;
what is new keeps its id. -/
def reconcile (current parsed : List Entity) : List Entity :=
  let s := parsed.foldl (Reconciling.step current) {}
  s.merged.map (·.mapReferences (·.rename s.entityIds s.fieldIds))

end DiagramSync
