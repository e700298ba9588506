import DiagramSync.Proofs.Model.Ids
import DiagramSync.Proofs.Session.History
import DiagramSync.Proofs.Store.Coherent

/-!
# The entities of a session hang together

What every edit keeps holds of the entities that a history leads to, one edit after the other, and
so of the store of a session at every moment: after each request, and after each edit that a
listener or an alarm makes in the middle of one.

* `GaveNewIds` — no new entity was given an id that another one had
* `IsHistory.isCoherent`, `IsHistory.tellsApart` — what holds after every edit of a history
* **`coherent_after`** — what holds of a store that was empty at first
-/

namespace DiagramSync

/-- Where the edit adds an entity, which comes last, the id of the new one is that of none
before. -/
def Commit.HasNewId (before : List Entity) (c : Commit) : Prop :=
  c.edit.isAddition = true → ∀ e ∈ c.entities.getLast?, e.id ∉ before.map Entity.id

instance (before : List Entity) (c : Commit) : Decidable (c.HasNewId before) :=
  inferInstanceAs (Decidable (_ → _))

/-- Every entity that was added had a new id; the latest edit comes first. -/
def GaveNewIds : List Commit → Prop
  | [] => True
  | c :: earlier => c.HasNewId (entitiesAfter earlier) ∧ GaveNewIds earlier

instance decidableGaveNewIds : (cs : List Commit) → Decidable (GaveNewIds cs)
  | [] => isTrue trivial
  | c :: earlier =>
    have := decidableGaveNewIds earlier
    inferInstanceAs (Decidable (c.HasNewId (entitiesAfter earlier) ∧ GaveNewIds earlier))

/-! ## Histories -/

section Histories

variable {unlinked : Cardinality} {cs : List Commit}

/-- What holds of no entities and after every edit holds of the entities at the end. -/
lemma entitiesAfter_of_forall {P : List Entity → Prop} (hnil : P [])
    (h : ∀ c ∈ cs, P c.entities) : P (entitiesAfter cs) := by
  cases cs with
  | nil => exact hnil
  | cons c earlier => exact h c List.mem_cons_self

lemma isCoherent_nil : IsCoherent [] := by
  constructor <;> simp

lemma tellsApart_nil : TellsApart [] := by
  constructor <;> simp

/-- After every edit of a history the entities are coherent. -/
lemma IsHistory.isCoherent (h : IsHistory unlinked cs)
    (hvalid : ∀ c ∈ cs, ∀ e ∈ c.edit.given, e.IsValid) : ∀ c ∈ cs, IsCoherent c.entities := by
  induction h with
  | nil => simp
  | @cons c earlier edited supply supply' rest made ih =>
    have hearlier := ih fun c' hc' => hvalid c' (List.mem_cons_of_mem c hc')
    intro c' hc'
    rcases List.mem_cons.mp hc' with rfl | hc'
    · have hbefore := entitiesAfter_of_forall isCoherent_nil hearlier
      refine hbefore.of_made (made_of_run made) fun e he f hf => ?_
      exact ((hvalid c' List.mem_cons_self e he).fields f hf).reference
    · exact hearlier c' hc'

/-- After every edit of a history the entities are told apart, if ids are. -/
lemma IsHistory.tellsApart (h : IsHistory unlinked cs)
    (hids : ∀ c ∈ cs, (c.edit.given.map Entity.id).Nodup) (hnew : GaveNewIds cs) :
    ∀ c ∈ cs, TellsApart c.entities := by
  induction h with
  | nil => simp
  | @cons c earlier edited supply supply' rest made ih =>
    have hearlier := ih (fun c' hc' => hids c' (List.mem_cons_of_mem c hc')) hnew.2
    intro c' hc'
    rcases List.mem_cons.mp hc' with rfl | hc'
    · have hbefore := entitiesAfter_of_forall tellsApart_nil hearlier
      have hmade := made_of_run made
      refine hbefore.of_made hmade (fun hadd => ?_) (hids c' List.mem_cons_self)
      have hnewId := hnew.1 hadd
      generalize c'.entities = es' at hmade hnewId
      generalize c'.edit = edit at hmade hadd
      cases hmade with
      | @addEntity value name free => exact hnewId { id := supply.draw.1, name } (by simp)
      | _ => exact absurd hadd Bool.false_ne_true
    · exact hearlier c' hc'

end Histories

/-! ## Sessions -/

/-- **The entities of a store hang together**, at the end of any run from the empty store and after
every edit on the way, whoever asked for it: no name is empty, exactly the foreign keys have
references, and what these point at is there.  No two entities have the same id, or the same name
but for case, as long as no edit brings in the same id twice. -/
theorem coherent_after {w : World} (hempty : w.store.entities = []) (hnone : w.commits = [])
    (rs : List Request)
    (hvalid : ∀ c ∈ (w.after rs).commits, ∀ e ∈ c.edit.given, e.IsValid) :
    (IsCoherent (w.after rs).store.entities ∧ ∀ c ∈ (w.after rs).commits, IsCoherent c.entities) ∧
      ((∀ c ∈ (w.after rs).commits, (c.edit.given.map Entity.id).Nodup) →
        GaveNewIds (w.after rs).commits →
        TellsApart (w.after rs).store.entities ∧
          ∀ c ∈ (w.after rs).commits, TellsApart c.entities) := by
  have hstart : w.IsRecorded := by
    constructor
    · rw [hnone]
      exact .nil
    · rw [hnone, hempty]
      rfl
  have hend := isRecorded_after hstart rs
  rw [hend.entities]
  have hcoherent := hend.history.isCoherent hvalid
  refine ⟨⟨entitiesAfter_of_forall isCoherent_nil hcoherent, hcoherent⟩, fun hids hnew => ?_⟩
  have hapart := hend.history.tellsApart hids hnew
  exact ⟨entitiesAfter_of_forall tellsApart_nil hapart, hapart⟩

/-- A listener adds an entity in the middle of an edit; a name that is taken is refused; a model is
put in place of all entities, and one of them is deleted while another one points at it. -/
def busyRequests : List Request :=
  [.subscribe "listener" [.change (.addEntity (.text "Posts")) {}] false,
    .change (.addEntity (.text "Users")) {},
    .change (.addEntity (.text "USERS")) {},
    .change (.setEntities
      [{ id := ⟨"u"⟩, name := "Users", fields := [{ id := ⟨"k"⟩, name := "id", isPrimary := true }] },
        { id := ⟨"p"⟩, name := "Posts"
          fields := [{ id := ⟨"f"⟩, name := "user_id", isForeign := true
                       reference := some { target := ⟨"u"⟩, targetField := ⟨"k"⟩ } }] }]) {},
    .change (.deleteEntity (some ⟨"u"⟩)) {}]

lemma isValid_busyRequests : ∀ c ∈ (World.after { supply := .strokes } busyRequests).commits,
    ∀ e ∈ c.edit.given, e.IsValid := by
  decide +kernel

/-- Whatever the listener does in between, the entities hang together, and they are told apart. -/
theorem coherent_after_busyRequests :
    IsCoherent (World.after { supply := .strokes } busyRequests).store.entities ∧
      TellsApart (World.after { supply := .strokes } busyRequests).store.entities := by
  have h := coherent_after (w := { supply := .strokes }) rfl rfl busyRequests isValid_busyRequests
  exact ⟨h.1.1, (h.2 (by decide +kernel) (by decide +kernel)).1⟩

end DiagramSync
