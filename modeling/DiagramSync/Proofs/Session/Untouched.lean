import DiagramSync.Proofs.Session.Coherent
import DiagramSync.Proofs.Store.Untouched

/-!
# Edits of a session touch only what they name

The fields of a store are valid after every edit, so each edit found valid fields and changed only
what it named, whoever asked for it.  The one thing that an edit does elsewhere is to cut references
to what is gone, and it tells them by the id that they point at: two fields of different entities
that share an id are taken for one.

* `IsHistory.hasValidFields`, `IsHistory.touchesOnly` — what holds of every edit of a history
* **`touchesOnly_after`** — what the edits of a session touched, and what the next one will touch
* `sharedKey_cut` — a reference is cut although the field that it points at is still there
-/

namespace DiagramSync

/-! ## Histories -/

section Histories

variable {unlinked : Cardinality} {cs : List Commit}

lemma hasValidFields_nil : HasValidFields [] := by
  simp [HasValidFields]

/-- After every edit of a history all fields are valid. -/
lemma IsHistory.hasValidFields (h : IsHistory unlinked cs)
    (hvalid : ∀ c ∈ cs, ∀ e ∈ c.edit.given, e.IsValid) : ∀ c ∈ cs, HasValidFields c.entities := by
  induction h with
  | nil => simp
  | @cons c earlier edited supply supply' rest made ih =>
    rw [List.forall_mem_cons] at hvalid ⊢
    have hearlier := ih hvalid.2
    have hbefore := entitiesAfter_of_forall hasValidFields_nil hearlier
    exact ⟨hbefore.of_made (made_of_run made) hvalid.1, hearlier⟩

/-- Every edit of a history touched only what it named. -/
lemma IsHistory.touchesOnly (h : IsHistory unlinked cs)
    (hvalid : ∀ c ∈ cs, ∀ e ∈ c.edit.given, e.IsValid) {later earlier : List Commit} {c : Commit}
    (hsplit : cs = later ++ c :: earlier) :
    c.edit.TouchesOnly unlinked (entitiesAfter earlier) c.entities := by
  induction h generalizing later with
  | nil => simp at hsplit
  | @cons last rest edited supply supply' history made ih =>
    rw [List.forall_mem_cons] at hvalid
    rcases List.cons_eq_append_iff.mp hsplit with ⟨rfl, heq⟩ | ⟨later', rfl, heq⟩
    · obtain ⟨rfl, rfl⟩ := List.cons.inj heq
      have hbefore := entitiesAfter_of_forall hasValidFields_nil (history.hasValidFields hvalid.2)
      exact touchesOnly_of_made hbefore (made_of_run made)
    · exact ih hvalid.2 heq

end Histories

/-! ## Sessions -/

/-- **Edits touch only what they name**: those that were made on any run from the empty store,
whoever asked for them, and any that is made on the store at the end.  Entities and fields keep
their order, and all but those that the edit names keep what they say, save that references with the
id of an entity that is gone point nowhere, and those with the id of a field that is gone point at
no field.  What a field update leaves out, the field keeps. -/
theorem touchesOnly_after {w : World} (hempty : w.store.entities = []) (hnone : w.commits = [])
    (rs : List Request)
    (hvalid : ∀ c ∈ (w.after rs).commits, ∀ e ∈ c.edit.given, e.IsValid) :
    (∀ later c earlier, (w.after rs).commits = later ++ c :: earlier →
        c.edit.TouchesOnly (w.after rs).unlinked (entitiesAfter earlier) c.entities) ∧
      ∀ (expected : Option Int) (edit : Edit) (s : Store) (edited : Edited)
        (supply supply' : Supply),
        (w.after rs).store.apply (w.after rs).unlinked expected edit supply
            = .ok ((s, edited), supply') →
          edit.TouchesOnly (w.after rs).unlinked (w.after rs).store.entities s.entities := by
  have hend := isRecorded_after (isRecorded_of_empty hempty hnone) rs
  constructor
  · intro later c earlier hsplit
    exact hend.history.touchesOnly hvalid hsplit
  · intro expected edit s edited supply supply' happly
    have hfields := entitiesAfter_of_forall hasValidFields_nil (hend.history.hasValidFields hvalid)
    rw [← hend.entities] at hfields
    exact touchesOnly_of_made hfields (made_of_run (apply_eq_ok happly).1)

/-- Users, posts and comments, in which two key fields have the same id; the comments point at the
key of the posts. -/
def sharedKeys : List Entity :=
  [{ id := ⟨"u"⟩, name := "Users", fields := [{ id := ⟨"k"⟩, name := "id", isPrimary := true }] },
    { id := ⟨"p"⟩, name := "Posts", fields := [{ id := ⟨"k"⟩, name := "id", isPrimary := true }] },
    { id := ⟨"c"⟩, name := "Comments"
      fields := [{ id := ⟨"f"⟩, name := "post_id", isForeign := true
                   reference := some { target := ⟨"p"⟩, targetField := ⟨"k"⟩ } }] }]

/-- A model comes in place of what was there, and a field of it becomes a foreign key without saying
where it points; then an entity is renamed, another one goes, and a field goes. -/
def trimmingRequests : List Request :=
  [.change (.addEntity (.text "Tags")) {},
    .change (.setEntities sharedKeys) {},
    .change (.updateField (some ⟨"u"⟩) (some ⟨"k"⟩) [("is_fk", .flag true)]) {},
    .change (.renameEntity (some ⟨"c"⟩) (.text "Replies")) {},
    .change (.deleteEntity (some ⟨"p"⟩)) {},
    .change (.deleteField (some ⟨"c"⟩) (some ⟨"f"⟩)) {}]

/-- Each of the edits touched only what it named. -/
theorem touchesOnly_after_trimmingRequests :
    (World.after { supply := .strokes } trimmingRequests).commits.length = 6 ∧
      ∀ later c earlier,
        (World.after { supply := .strokes } trimmingRequests).commits = later ++ c :: earlier →
          c.edit.TouchesOnly (World.after { supply := .strokes } trimmingRequests).unlinked
            (entitiesAfter earlier) c.entities :=
  ⟨by decide +kernel, (touchesOnly_after (w := { supply := .strokes }) rfl rfl trimmingRequests
    (by decide +kernel)).1⟩

/-- The store takes the model; when the key of the users is deleted, the comments no longer point at
the key of the posts, which is still there. -/
theorem sharedKey_cut : (∀ e ∈ sharedKeys, e.IsValid) ∧
    (World.after { supply := .strokes } [.change (.setEntities sharedKeys) {}]).store.entities
      = sharedKeys ∧
    (World.after { supply := .strokes }
        [.change (.setEntities sharedKeys) {},
          .change (.deleteField (some ⟨"u"⟩) (some ⟨"k"⟩)) {}]).store.entities
      = [{ id := ⟨"u"⟩, name := "Users" },
        { id := ⟨"p"⟩, name := "Posts"
          fields := [{ id := ⟨"k"⟩, name := "id", isPrimary := true }] },
        { id := ⟨"c"⟩, name := "Comments"
          fields := [{ id := ⟨"f"⟩, name := "post_id", isForeign := true
                       reference := some { target := ⟨"p"⟩, targetField := .unresolved } }] }] := by
  decide +kernel

end DiagramSync
