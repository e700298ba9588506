import DiagramSync.Session.Request
import Mathlib.Data.List.Basic

/-!
# Models under other ids

Ids say nothing: they are compared with each other and carried along.  So all of them may be
replaced, different ones by different ones and the id of none by itself, and whatever looks at a
model finds the same under other ids.

* `IsRelabeling` — ids are replaced without being mixed up
* `Supply.mapIds` — the ids to come under other ids
* `isLinked_mapIds`, `mapReferences_mapIds` — references under other ids
* `map_mapIds_inj` — models are told apart under other ids as well
* `findEntity?_mapIds`, `findField?_mapIds`, `findFieldNamed?_mapIds` — looking up
-/

namespace DiagramSync

/-- Ids are replaced: different ones by different ones, and the id of none by itself. -/
structure IsRelabeling (g : Id → Id) : Prop where
  /-- Ids are not mixed up. -/
  injective : Function.Injective g
  /-- The id of none stays what it is. -/
  unresolved : g .unresolved = .unresolved

/-- The supply that gives the images of the ids that are to come. -/
def Supply.mapIds (g : Id → Id) (s : Supply) : Supply :=
  { s with mint := fun n => g (s.mint n) }

variable {g : Id → Id}

namespace IsRelabeling

lemma eq_iff (hg : IsRelabeling g) {a b : Id} : g a = g b ↔ a = b :=
  hg.injective.eq_iff

lemma beq (hg : IsRelabeling g) (a b : Id) : (g a == g b) = (a == b) :=
  Bool.eq_iff_iff.mpr (by simp only [beq_iff_eq, hg.eq_iff])

lemma beq_some (hg : IsRelabeling g) (a : Id) (o : Option Id) :
    (some (g a) == o.map g) = (some a == o) := by
  cases o with
  | none => rfl
  | some b => exact hg.beq a b

lemma bne_some (hg : IsRelabeling g) (a : Id) (o : Option Id) :
    (some (g a) != o.map g) = (some a != o) :=
  congrArg not (hg.beq_some a o)

end IsRelabeling

/-! ## References, fields and entities -/

section Model

variable (hg : IsRelabeling g)
include hg

lemma isLinked_mapIds (r : Reference) : (r.mapIds g).isLinked = r.isLinked := by
  rw [Reference.isLinked, Reference.isLinked, Reference.mapIds]
  simp only [bne, ← hg.beq r.target, hg.unresolved]

lemma fieldIsLinked_mapIds (f : Field) : (f.mapIds g).isLinked = f.isLinked := by
  rw [Field.isLinked, Field.isLinked, Field.mapIds]
  cases f.reference with
  | none => rfl
  | some r => exact isLinked_mapIds hg r

lemma unlink_mapIds (r : Reference) : (r.mapIds g).unlink = r.unlink.mapIds g := by
  simp only [Reference.unlink, Reference.mapIds, hg.unresolved]

omit hg in
/-- References are replaced in the same way under other ids, if each of them is. -/
lemma mapReferences_mapIds {h h' : Reference → Reference}
    (hh : ∀ r, h' (r.mapIds g) = (h r).mapIds g) (e : Entity) :
    (e.mapIds g).mapReferences h' = (e.mapReferences h).mapIds g := by
  have hfield : ∀ f : Field, (f.mapIds g).mapReference h' = (f.mapReference h).mapIds g := by
    intro f
    have hreference : (f.reference.map (·.mapIds g)).map h'
        = (f.reference.map h).map (·.mapIds g) := by
      rw [Option.map_map, Option.map_map]
      exact congrArg (f.reference.map ·) (funext hh)
    rw [Field.mapReference, Field.mapIds, hreference]
    rfl
  simp only [Entity.mapReferences, Entity.mapIds, List.map_map]
  exact congrArg (fun fs => (⟨g e.id, e.name, fs⟩ : Entity))
    (List.map_congr_left fun f _ => hfield f)

/-- References, fields and entities are told apart under other ids as well. -/
lemma reference_mapIds_injective : Function.Injective (Reference.mapIds g) := by
  rintro ⟨t, k, c, l⟩ ⟨t', k', c', l'⟩ h
  simp only [Reference.mapIds, Reference.mk.injEq] at h
  obtain ⟨ht, hk, rfl, rfl⟩ := h
  rw [hg.injective ht, hg.injective hk]

lemma field_mapIds_injective : Function.Injective (Field.mapIds g) := by
  rintro ⟨id, name, type, isPrimary, isForeign, description, reference⟩
    ⟨id', name', type', isPrimary', isForeign', description', reference'⟩ h
  simp only [Field.mapIds, Field.mk.injEq] at h
  obtain ⟨hid, rfl, rfl, rfl, rfl, rfl, hreference⟩ := h
  rw [hg.injective hid, Option.map_injective (reference_mapIds_injective hg) hreference]

lemma entity_mapIds_injective : Function.Injective (Entity.mapIds g) := by
  rintro ⟨id, name, fields⟩ ⟨id', name', fields'⟩ h
  simp only [Entity.mapIds, Entity.mk.injEq] at h
  obtain ⟨hid, rfl, hfields⟩ := h
  rw [hg.injective hid, List.map_injective_iff.mpr (field_mapIds_injective hg) hfields]

/-- Two models are the same under other ids exactly if they are the same. -/
lemma map_mapIds_inj {es es' : List Entity} :
    es.map (·.mapIds g) = es'.map (·.mapIds g) ↔ es = es' :=
  (List.map_injective_iff.mpr (entity_mapIds_injective hg)).eq_iff

end Model

/-! ## Looking up -/

section Lookup

variable (g)

lemma findFieldNamed?_mapIds (e : Entity) (name : String) :
    (e.mapIds g).findFieldNamed? name = (e.findFieldNamed? name).map (·.mapIds g) := by
  rw [Entity.findFieldNamed?, Entity.findFieldNamed?, Entity.mapIds, List.find?_map]
  rfl

lemma primaryKey?_mapIds (e : Entity) :
    (e.mapIds g).primaryKey? = e.primaryKey?.map (·.mapIds g) := by
  rw [Entity.primaryKey?, Entity.primaryKey?, Entity.mapIds, List.find?_map]
  rfl

end Lookup

/-- What is found in a list under other ids is what was found, under its image. -/
lemma find?_map_of_iff {α β : Type} {h : α → β} {p : α → Bool} {q : β → Bool}
    (hpq : ∀ x, q (h x) = p x) (xs : List α) : (xs.map h).find? q = (xs.find? p).map h := by
  rw [List.find?_map]
  exact congrArg (fun r => (xs.find? r).map h) (funext hpq)

/-- The entity with an id is found under its other id. -/
lemma findEntity?_mapIds (hg : IsRelabeling g) (es : List Entity) (id : Option Id) :
    findEntity? (es.map (·.mapIds g)) (id.map g) = (findEntity? es id).map (·.mapIds g) :=
  find?_map_of_iff (fun e => hg.beq_some e.id id) es

lemma findField?_mapIds (hg : IsRelabeling g) (e : Entity) (id : Id) :
    (e.mapIds g).findField? (g id) = (e.findField? id).map (·.mapIds g) :=
  find?_map_of_iff (fun f => hg.beq f.id id) e.fields

end DiagramSync
