import DiagramSync.Proofs.Session.Rejected
import DiagramSync.Proofs.Store.Resolved
import DiagramSync.Proofs.Store.WellRead

/-!
# No operation leaves a dangling reference

An edit of the store, and a text that a controller reads into it, change the entities once; whatever
happens after that is the doing of those who are told.  So what an operation itself leaves is what
the first edit leaves that comes of it, whatever listeners ask for in between.

* `World.FirstEdit` — what the first edit on the way from one session to another left
* `firstEdit_commit`, `firstEdit_answer_change`, `firstEdit_readEdit` — the first edit is the one
  that was asked for, or that of the text
* `isResolved_reconcile` — what is read and reconciled is resolved
* `World.Leaves` — what an operation left, and is still there if nobody asked for more
* **`leavesResolved_operations`** — no operation leaves a dangling reference
-/

namespace DiagramSync

/-! ## The first edit -/

/-- From the session `w` to the session `w'` either nothing happened to the store, or the first edit
that did left entities with the property `P`. -/
inductive World.FirstEdit (P : List Entity → Prop) (w : World) : World → Prop
  /-- There was no edit. -/
  | none {w' : World} (store : w'.store = w.store) (commits : w'.commits = w.commits) :
      FirstEdit P w w'
  /-- There were edits; if there was only one, the store is as this one left it. -/
  | some {w' : World} {first : Commit} {later : List Commit}
      (commits : w'.commits = later ++ first :: w.commits) (holds : P first.entities)
      (store : later = [] → w'.store.entities = first.entities) : FirstEdit P w w'

/-- An operation that led from the session `w` to the session `w'` left entities with the property:
so did the first edit that came of it, if there was one, and they still are so unless there were
more edits, which listeners asked for. -/
structure World.Leaves (P : List Entity → Prop) (w w' : World) : Prop where
  /-- The first edit left such entities. -/
  first : w.FirstEdit P w'
  /-- They are still there if there was no other edit. -/
  alone : w'.commits.length ≤ w.commits.length + 1 → P w'.store.entities

section FirstEdit

variable {P : List Entity → Prop} {w w₁ w₂ : World}

/-- Nothing matters but the store and its history. -/
lemma World.FirstEdit.congr (h : w.FirstEdit P w₁) (hstore : w₂.store = w₁.store)
    (hcommits : w₂.commits = w₁.commits) : w.FirstEdit P w₂ := by
  cases h with
  | none store commits => exact .none (hstore.trans store) (hcommits.trans commits)
  | some commits holds store =>
    exact .some (hcommits.trans commits) holds fun hlater => hstore ▸ store hlater

lemma World.FirstEdit.leaves (h : w.FirstEdit P w₁) (hw : P w.store.entities) : w.Leaves P w₁ := by
  refine ⟨h, fun hlength => ?_⟩
  cases h with
  | none store commits => exact store ▸ hw
  | @some first later commits holds store =>
    rw [commits, List.length_append, List.length_cons] at hlength
    obtain rfl : later = [] := List.length_eq_zero_iff.mp (by omega)
    exact store rfl ▸ holds

lemma World.FirstEdit.of_same (h : w.FirstEdit P w₂) (hstore : w.store = w₁.store)
    (hcommits : w.commits = w₁.commits) : w₁.FirstEdit P w₂ := by
  cases h with
  | none store commits => exact .none (store.trans hstore) (commits.trans hcommits)
  | some commits holds store => exact .some (hcommits ▸ commits) holds store

/-- Later edits leave the first one where it is. -/
lemma isKeptByEdits_first (first : Commit) (earlier : List Commit) : IsKeptByEdits fun w =>
    ∃ later, w.commits = later ++ first :: earlier ∧
      (later = [] → w.store.entities = first.entities) where
  congr := by
    rintro w w' ⟨later, hcommits, hstore⟩ hsame hcommits' - -
    exact ⟨later, hcommits'.trans hcommits, fun hlater => hsame ▸ hstore hlater⟩
  edit := by
    rintro w expected edit store edited supply ⟨later, hcommits, -⟩ -
    exact ⟨⟨edit, store.entities⟩ :: later, congrArg _ hcommits, nofun⟩

variable (depth : Nat)

/-- The first edit is the one that is made. -/
lemma firstEdit_commit (source : ChangeSource) (expected : Option Int) (edit : Edit)
    (hP : ∀ store edited supply,
      w.store.apply w.unlinked expected edit w.supply = .ok ((store, edited), supply) →
        P store.entities) :
    w.FirstEdit P ((commit (runScript depth) source expected edit).exec w).2 := by
  cases happly : w.store.apply w.unlinked expected edit w.supply with
  | error f =>
    rw [exec_commit_refused happly]
    exact .none rfl rfl
  | ok p =>
    obtain ⟨⟨store, edited⟩, supply⟩ := p
    have hkept := isKeptByEdits_first ⟨edit, store.entities⟩ w.commits
    have htell : (w.subscribers.forM (tell (runScript depth)
          { version := store.version, source, operation := edit.operation }) >>= fun _ =>
        (pure edited : Action Edited)).Keeps _ :=
      keeps_bind (keeps_tellAll hkept.toSteps (keeps_runScript hkept.toSteps depth) _ w.subscribers)
        fun _ => keeps_pure edited
    obtain ⟨later, hcommits, hstore⟩ := htell (w.taking edit store supply) ⟨[], rfl, fun _ => rfl⟩
    rw [exec_commit_taken _ source happly]
    exact .some hcommits (hP store edited supply happly) hstore

omit depth in
/-- So is an edit of which nobody is told. -/
lemma firstEdit_commitUntold (other : Value) (expected : Option Int) (edit : Edit)
    (hP : ∀ store edited supply,
      w.store.apply w.unlinked expected edit w.supply = .ok ((store, edited), supply) →
        P store.entities) :
    w.FirstEdit P ((commitUntold other expected edit).exec w).2 := by
  cases happly : w.store.apply w.unlinked expected edit w.supply with
  | error f =>
    rw [exec_commitUntold_refused other happly]
    exact .none rfl rfl
  | ok p =>
    obtain ⟨⟨store, edited⟩, supply⟩ := p
    have hcommits : (w.taking edit store supply).commits
        = [] ++ ⟨edit, store.entities⟩ :: w.commits := rfl
    rw [exec_commitUntold_taken other happly]
    exact .some hcommits (hP store edited supply happly) fun _ => rfl

omit depth in
/-- An edit that somebody asks for comes first of all that comes of it. -/
lemma firstEdit_answer_change (edit : Edit) (terms : Terms)
    (hP : ∀ expected store edited supply,
      w.store.apply w.unlinked expected edit w.supply = .ok ((store, edited), supply) →
        P store.entities) :
    w.FirstEdit P (answer (.change edit terms) w).2 := by
  set fresh : World := { w with events := [] } with hfresh
  have hanswer : (answer (.change edit terms) w).2 = ((requestedEdit
      (runScript (w.weight + (Request.change edit terms).weight)) edit.ownSource terms
        (pure edit)).exec fresh).2 := congrArg Prod.snd (exec_map _ _ _)
  rw [hanswer]
  have hrequested := requested_requestedEdit
    (runScript (w.weight + (Request.change edit terms).weight)) edit.ownSource terms (pure edit)
    fresh
  generalize (requestedEdit _ _ _ _).exec fresh = p at hrequested
  cases hrequested with
  | unknown unknown => exact .none rfl rfl
  | unread => exact .none rfl rfl
  | @tried source edit' expected w' known read depends =>
    obtain ⟨hedit, rfl⟩ := Prod.mk.inj read
    obtain rfl := Except.ok.inj hedit
    obtain ⟨handBack, hcommit⟩ := exec_commitAndHandBack
      (runScript (w.weight + (Request.change edit terms).weight)) source expected edit fresh
    rw [hcommit]
    have hfirst := firstEdit_commit (w := fresh) (w.weight + (Request.change edit terms).weight)
      source expected edit (hP expected)
    exact hfirst.of_same rfl rfl
  | @untold other edit' expected w' loose read depends =>
    obtain ⟨hedit, rfl⟩ := Prod.mk.inj read
    obtain rfl := Except.ok.inj hedit
    have hfirst := firstEdit_commitUntold (w := fresh) other expected edit (hP expected)
    exact hfirst.of_same rfl rfl

omit depth in
/-- A controller that rejects an edit leaves the store alone. -/
lemma World.FirstEdit.reject (h : w.FirstEdit P w₁) (c : Nat) (error : ParseError) :
    w.FirstEdit P ((DiagramSync.reject c error).exec w₁).2 := by
  obtain ⟨events, hreject⟩ := exec_reject c error w₁
  rw [hreject]
  exact h.congr rfl rfl

/-- A model that was read is what comes first into the store. -/
lemma firstEdit_applyEntities (c : Nat) (es : List Entity)
    (hP : ∀ store edited supply, w.store.apply w.unlinked none
      (.setEntities (reconcile w.store.entities es)) w.supply = .ok ((store, edited), supply) →
        P store.entities) :
    w.FirstEdit P ((applyEntities (runScript depth) c es).exec w).2 := by
  by_cases hsame : reconcile w.store.entities es = w.store.entities
  · rw [exec_applyEntities_same _ c hsame]
    exact .none rfl rfl
  · have hfirst := firstEdit_commit depth .text none
      (.setEntities (reconcile w.store.entities es)) hP
    rw [exec_applyEntities_changed _ c hsame]
    cases hcommit : (commit (runScript depth) .text none
        (.setEntities (reconcile w.store.entities es))).exec w with
    | mk r w₁ =>
      rw [hcommit] at hfirst
      cases r with
      | ok edited => exact hfirst.congr rfl rfl
      | error f =>
        dsimp only
        split_ifs
        · exact hfirst.reject c _
        · exact hfirst

/-- What a controller reads comes first of all that comes of reading. -/
lemma firstEdit_readEdit (c : Nat) (generation : Int)
    (hP : ∀ k ∈ w.controllers[c]?, ∀ es rs ws supply,
      parse k.resolver w.unlinked w.supply k.text = (.accepted es rs ws, supply) →
        ∀ store edited supply', w.store.apply w.unlinked none
          (.setEntities (reconcile w.store.entities es)) supply = .ok ((store, edited), supply') →
            P store.entities) :
    w.FirstEdit P ((readEdit (runScript depth) c generation).exec w).2 := by
  cases hk : w.controllers[c]? with
  | none =>
    rw [readEdit, exec_bind_ok (exec_get w), hk]
    exact .none rfl rfl
  | some k =>
    by_cases hdone : generation ≠ k.editGeneration ∨ generation ≤ k.parsedGeneration
    · rw [exec_readEdit_done _ hk hdone]
      exact .none rfl rfl
    · obtain rfl : generation = k.editGeneration := by omega
      have hunread : k.parsedGeneration < k.editGeneration := by omega
      cases hparse : parse k.resolver w.unlinked w.supply k.text with
      | mk outcome supply =>
        rw [exec_readEdit_unread _ hk hunread hparse]
        cases outcome with
        | rejected error ws =>
          refine World.FirstEdit.reject ?_ c error
          exact .none rfl rfl
        | accepted es rs ws =>
          exact (firstEdit_applyEntities depth c es (hP k hk es rs ws supply hparse)).of_same rfl rfl

end FirstEdit

/-! ## Resolved models -/

/-- **A text that was read and reconciled is resolved**, whatever the entities are that it was
reconciled with. -/
theorem isResolved_reconcile {resolver : Resolver} {unlinked : Cardinality}
    {supply supply' : Supply} {text : String} {es : List Entity} {rs : List Relationship}
    {ws : List Warning} (hresolver : resolver.IsBuiltIn) (hfresh : supply.IsFresh)
    (h : parse resolver unlinked supply text = (.accepted es rs ws, supply'))
    (current : List Entity) : IsResolved (reconcile current es) := by
  obtain ⟨hread, hids, hgiven⟩ := isRead_parse hresolver.picksForeign hfresh h
  exact isLocal_reconcile hids (fun id hid => (hgiven id hid).ne_unresolved hfresh)
    (fun e he f hf r hr => (hread.references e he f hf r hr).isLocal) current

lemma pointsWell_setEntities {es : List Entity} (h : IsResolved es) (current : List Entity) :
    (Edit.setEntities es).PointsWell current := by
  intro r hr
  obtain ⟨e, he, hr⟩ := List.mem_flatMap.mp hr
  obtain ⟨f, hf, hr⟩ := List.mem_filterMap.mp hr
  exact Or.inl (h e he f hf r hr)

/-- **No operation leaves a dangling reference.**  In a session whose entities are resolved, whatever
listeners there are: an edit that somebody asks for, and whose references are resolved in its scope
or point at an absent entity, leaves the entities resolved, whether it is made or not; and so does a
controller with one of the two resolvers that reads its text. -/
theorem leavesResolved_operations {w : World} (hw : IsResolved w.store.entities) :
    (∀ (edit : Edit) (terms : Terms), edit.PointsWell w.store.entities →
      w.Leaves IsResolved (answer (.change edit terms) w).2) ∧
    ∀ (depth c : Nat) (generation : Int), w.supply.IsFresh →
      (∀ k ∈ w.controllers[c]?, k.resolver.IsBuiltIn) →
        w.Leaves IsResolved ((readEdit (runScript depth) c generation).exec w).2 := by
  constructor
  · intro edit terms hwell
    refine (firstEdit_answer_change edit terms ?_).leaves hw
    intro expected store edited supply happly
    exact hw.of_made (made_of_run (apply_eq_ok happly).1) hwell
  · intro depth c generation hfresh hresolver
    refine (firstEdit_readEdit depth c generation ?_).leaves hw
    intro k hk es rs ws supply hparse store edited supply' happly
    have hmerged := isResolved_reconcile (hresolver k hk) hfresh hparse w.store.entities
    exact hw.of_made (made_of_run (apply_eq_ok happly).1) (pointsWell_setEntities hmerged _)

/-- A session with posts that point at the key of the users, and with a text that has another key for
these. -/
def linkedPosts : World where
  store :=
    { version := 1
      entities :=
        [{ id := ⟨"u"⟩, name := "Users"
           fields := [{ id := ⟨"k"⟩, name := "id", isPrimary := true }] },
          { id := ⟨"p"⟩, name := "Posts"
            fields := [{ id := ⟨"f"⟩, name := "user_id", isForeign := true
                         reference := some { target := ⟨"u"⟩, targetField := ⟨"k"⟩ } }] }] }
  subscribers := [.controller 0]
  controllers :=
    [{ text := "erDiagram\n  Users \x7b\n    int number PK\n  \x7d\n" ++
         "  Posts \x7b\n    int user_id FK\n  \x7d\n  Posts \x7do--|| Users : user_id\n"
       resolver := .byLabel, debouncer := { delay := 400 }, notifies := false, editGeneration := 1 }]
  supply := .strokes

/-- What the references of the entities say about fields. -/
def targetFields (es : List Entity) : List Id :=
  es.flatMap fun e => e.fields.filterMap (·.reference.map (·.targetField))

/-- The key is deleted, or another one is read; afterwards the posts point at the users alone, or at
the new key. -/
theorem leavesResolved_operations_linkedPosts :
    let deleted := (answer (.change (.deleteField (some ⟨"u"⟩) (some ⟨"k"⟩)) {}) linkedPosts).2
    let read := ((readEdit (runScript 0) 0 1).exec linkedPosts).2
    (IsResolved deleted.store.entities ∧ targetFields deleted.store.entities = [.unresolved]) ∧
      (IsResolved read.store.entities ∧ targetFields read.store.entities = [⟨"||"⟩]) := by
  obtain ⟨hedit, hread⟩ := leavesResolved_operations (w := linkedPosts) (by decide +kernel)
  have hresolver : ∀ k ∈ linkedPosts.controllers[0]?, k.resolver.IsBuiltIn := by
    intro k hk
    obtain rfl := Option.some.inj hk
    exact Or.inr rfl
  refine ⟨⟨(hedit _ {} (by decide +kernel)).alone (by decide +kernel), by decide +kernel⟩, ?_⟩
  exact ⟨(hread 0 0 1 Supply.isFresh_strokes hresolver).alone (by decide +kernel), by decide +kernel⟩

end DiagramSync
