import DiagramSync.Proofs.Session.Coherent
import DiagramSync.Proofs.Store.FieldNames

/-!
# Field names in a session

Whoever edits a store field by field cannot make two names of one entity the same.  A model that is
put in place of all entities can, for only the names of its entities are checked.  So the names of
the fields are keys in every state of a session exactly if they are in every model that came.

* `Commit.AddsNewFieldId` — a field was not added under an id that another one had
* `IsHistory.nodup_fieldIds`, `IsHistory.namesFields_iff` — what holds after every edit of a history
* **`namesFields_after_iff`** — what holds of a store that was empty at first
* `not_namesFields_twinFields` — a model that the store takes although two of its fields have the
  same name
-/

namespace DiagramSync

/-- Where the edit adds a field, which comes last in its entity, the id of the new one is that of no
other field of the entity. -/
def Commit.AddsNewFieldId (c : Commit) : Prop :=
  c.edit.AddsNewFieldId c.entities

instance (c : Commit) : Decidable c.AddsNewFieldId :=
  inferInstanceAs (Decidable (c.edit.AddsNewFieldId c.entities))

/-! ## Histories -/

section Histories

variable {unlinked : Cardinality} {cs : List Commit}

/-- After every edit of a history no two fields of an entity have the same id. -/
lemma IsHistory.nodup_fieldIds (h : IsHistory unlinked cs)
    (hids : ∀ c ∈ cs, ∀ e ∈ c.edit.given, (e.fields.map Field.id).Nodup)
    (hnew : ∀ c ∈ cs, c.AddsNewFieldId) :
    ∀ c ∈ cs, ∀ e ∈ c.entities, (e.fields.map Field.id).Nodup := by
  induction h with
  | nil => simp
  | @cons c earlier edited supply supply' rest made ih =>
    rw [List.forall_mem_cons] at hids hnew ⊢
    have hearlier := ih hids.2 hnew.2
    have hbefore := entitiesAfter_of_forall
      (P := fun es => ∀ e ∈ es, (e.fields.map Field.id).Nodup) (by simp) hearlier
    exact ⟨nodup_fieldIds_of_made (made_of_run made) hbefore hids.1 hnew.1, hearlier⟩

/-- After every edit of a history the names of the fields are keys, exactly if they were in all the
models that were put in place of the entities. -/
lemma IsHistory.namesFields_iff (h : IsHistory unlinked cs)
    (hids : ∀ c ∈ cs, ∀ e ∈ c.edit.given, (e.fields.map Field.id).Nodup)
    (hnew : ∀ c ∈ cs, c.AddsNewFieldId) :
    (∀ c ∈ cs, ∀ e ∈ c.entities, e.NamesFields) ↔
      ∀ c ∈ cs, ∀ e ∈ c.edit.given, e.NamesFields := by
  induction h with
  | nil => simp
  | @cons c earlier edited supply supply' rest made ih =>
    rw [List.forall_mem_cons] at hids hnew
    have hapart := rest.nodup_fieldIds hids.2 hnew.2
    have hbefore := entitiesAfter_of_forall
      (P := fun es => ∀ e ∈ es, (e.fields.map Field.id).Nodup) (by simp) hapart
    rw [List.forall_mem_cons, List.forall_mem_cons, ← ih hids.2 hnew.2]
    refine and_congr_left fun hearlier => ?_
    have hnames := entitiesAfter_of_forall
      (P := fun es => ∀ e ∈ es, e.NamesFields) (by simp) hearlier
    exact ⟨namesFields_given (made_of_run made), namesFields_of_made (made_of_run made) hnames hbefore⟩

end Histories

/-! ## Sessions -/

/-- **Field names are keys in every state, exactly if they are in every model that came**: at the
end of any run from the empty store and after every edit on the way, whoever asked for it, every
field has a name, and no two fields of one entity have the same name but for case, exactly if this
holds in all entities that were put in place of others.  The ids of the fields are taken to be
distinct in what came, and new in what was added. -/
theorem namesFields_after_iff {w : World} (hempty : w.store.entities = []) (hnone : w.commits = [])
    (rs : List Request)
    (hids : ∀ c ∈ (w.after rs).commits, ∀ e ∈ c.edit.given, (e.fields.map Field.id).Nodup)
    (hnew : ∀ c ∈ (w.after rs).commits, c.AddsNewFieldId) :
    ((∀ e ∈ (w.after rs).store.entities, e.NamesFields) ∧
        ∀ c ∈ (w.after rs).commits, ∀ e ∈ c.entities, e.NamesFields) ↔
      ∀ c ∈ (w.after rs).commits, ∀ e ∈ c.edit.given, e.NamesFields := by
  have hend := isRecorded_after (isRecorded_of_empty hempty hnone) rs
  rw [← hend.history.namesFields_iff hids hnew, hend.entities]
  refine ⟨And.right, fun h => ⟨?_, h⟩⟩
  exact entitiesAfter_of_forall (P := fun es => ∀ e ∈ es, e.NamesFields) (by simp) h

/-- The fields of a model are renamed and added to; what would make two names the same is
refused. -/
def renamingRequests : List Request :=
  [.change (.setEntities
      [{ id := ⟨"u"⟩, name := "Users"
         fields := [{ id := ⟨"a"⟩, name := "id", isPrimary := true }, { id := ⟨"b"⟩, name := "mail" }] }])
      {},
    .change (.updateField (some ⟨"u"⟩) (some ⟨"b"⟩) [("name", .text "ID")]) {},
    .change (.updateField (some ⟨"u"⟩) (some ⟨"b"⟩) [("name", .text "Id_2")]) {},
    .change (.addField (some ⟨"u"⟩) { name := .text "MAIL" }) {}]

/-- The names that came were keys, so they are at the end. -/
theorem namesFields_after_renamingRequests :
    (∀ e ∈ (World.after { supply := .strokes } renamingRequests).store.entities, e.NamesFields) ∧
      (World.after { supply := .strokes } renamingRequests).store.entities.map
        (fun e => e.fields.map Field.name) = [["id", "Id_2", "MAIL"]] :=
  ⟨((namesFields_after_iff (w := { supply := .strokes }) rfl rfl renamingRequests (by decide +kernel)
      (by decide +kernel)).mpr (by decide +kernel)).1, by decide +kernel⟩

/-- A model with one entity, two fields of which have the same name but for case. -/
def twinFields : List Entity :=
  [{ id := ⟨"u"⟩, name := "Users"
     fields := [{ id := ⟨"a"⟩, name := "id" }, { id := ⟨"b"⟩, name := "ID" }] }]

/-- Every entity of the model is valid, and the empty store takes it; so the names of fields are no
keys afterwards. -/
theorem not_namesFields_twinFields : (∀ e ∈ twinFields, e.IsValid) ∧
    (World.after { supply := .strokes } [.change (.setEntities twinFields) {}]).store.version = 1 ∧
    ¬ ∀ e ∈ (World.after { supply := .strokes } [.change (.setEntities twinFields) {}]).store.entities,
      e.NamesFields := by
  decide +kernel

end DiagramSync
