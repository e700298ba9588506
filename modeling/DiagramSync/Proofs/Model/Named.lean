import DiagramSync.Model.Entity
import DiagramSync.Proofs.List.Keyed

/-!
# Models that are told apart by names

Looking up entities and fields by name, in models whose entities have distinct names and whose
fields have names that are distinct without regard to case.

* `IsNamed` — entities and fields have names and are told apart by them
* `findFieldNamed?_eq_some`, `findFieldNamed?_eq_none` — what is found under the name of a field
-/

namespace DiagramSync

open Text

/-- Entities have distinct names, and fields have names that are distinct without regard to case. -/
structure IsNamed (es : List Entity) : Prop where
  /-- Every entity has a name. -/
  named : ∀ e ∈ es, e.name ≠ ""
  /-- No two entities have the same name. -/
  names : (es.map Entity.name).Nodup
  /-- Every field has a name. -/
  fieldNamed : ∀ e ∈ es, ∀ f ∈ e.fields, f.name ≠ ""
  /-- No two fields of an entity have the same name but for case. -/
  fieldNames : ∀ e ∈ es, (e.fields.map (foldName ·.name)).Nodup

/-- Entities with the same names have the same names without regard to case. -/
lemma map_foldName_congr {es es' : List Entity} (h : es'.map Entity.name = es.map Entity.name) :
    es'.map (foldName ·.name) = es.map (foldName ·.name) := by
  have hmap := congrArg (List.map foldName) h
  rwa [List.map_map, List.map_map] at hmap

/-- Under the name of a field exactly the field is found that has it in some case of letters. -/
lemma findFieldNamed?_eq_some {e : Entity} (h : (e.fields.map (foldName ·.name)).Nodup)
    {name : String} {f : Field} :
    e.findFieldNamed? name = some f ↔ f ∈ e.fields ∧ foldName f.name = foldName name := by
  rw [Entity.findFieldNamed?]
  exact find?_key_eq_some h

/-- Nothing is found under a name that no field has in any case of letters. -/
lemma findFieldNamed?_eq_none {e : Entity} {name : String} :
    e.findFieldNamed? name = none ↔ foldName name ∉ e.fields.map (foldName ·.name) := by
  rw [Entity.findFieldNamed?]
  exact find?_key_eq_none

end DiagramSync
