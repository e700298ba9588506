import DiagramSync.Proofs.Session.Action
import DiagramSync.Proofs.Store.Edits

/-!
# Edits that somebody asks for

Three kinds of requests ask for an edit of the store.  All of them go the same way: the source is
looked up, what comes with the edit is read, the version that it depends on is looked at, and only
then the edit is made.  A value that is no source is not looked up: it stands in the way only when
the edit has been made.

* `given_eq_other` — what may be no source
* `expectedOf_eq_ok` — the version that it depends on
* `Asking`, `Request.asking?` — what a request asks for
* `exec_asking` — reading an edit draws ids at most
* `Requested`, **`requested_requestedEdit`** — an edit is refused before it is made, or it is made
* `exec_commitUntold_taken`, `exec_commitUntold_refused` — an edit with a value that is no source
* `exec_commitAndHandBack` — handing back what was edited
-/

namespace DiagramSync

/-! ## Terms -/

/-- Only what is handed over without being looked up may be no source. -/
lemma given_eq_other {ownSource : ChangeSource} {terms : Terms} {other : Value}
    (h : terms.given ownSource = .ok (.error other)) : terms.source = .loose other := by
  rw [Terms.given] at h
  split at h
  · cases h
  · split at h <;> cases h
  · rename_i given hsource
    obtain rfl := Except.error.inj (Except.ok.inj h)
    exact hsource

/-- The source that an edit has of its own is not a text. -/
lemma ownSource_ne_text (edit : Edit) : edit.ownSource ≠ .text := by
  cases edit <;> nofun

lemma exec_expectedOf (terms : Terms) (w : World) : ∃ r, (expectedOf terms).exec w = (r, w) := by
  rw [expectedOf]
  split
  · exact ⟨_, exec_pure _ w⟩
  · exact ⟨_, exec_pure _ w⟩
  · rw [exec_bind_ok (exec_get w)]
    dsimp only
    split_ifs
    · exact ⟨_, exec_pure _ w⟩
    · exact ⟨_, exec_throw _ w⟩

/-- An edit depends on the integer that comes with it, if it gets that far. -/
lemma expectedOf_eq_ok {terms : Terms} {expected : Option Int} {w w' : World}
    (h : (expectedOf terms).exec w = (.ok expected, w')) : expected = terms.expected.whole? := by
  rw [expectedOf] at h
  split at h
  case h_1 hnull =>
    rw [hnull]
    exact (Except.ok.inj (Prod.mk.inj h).1).symm
  case h_2 n hwhole =>
    rw [hwhole]
    exact (Except.ok.inj (Prod.mk.inj h).1).symm
  case h_3 =>
    rw [exec_bind_ok (exec_get w)] at h
    dsimp only at h
    split_ifs at h with hversion
    · rw [hversion]
      exact (Except.ok.inj (Prod.mk.inj h).1).symm
    · exact absurd (Prod.mk.inj h).1 nofun

/-! ## What a request asks for -/

/-- What a request asks for that asks for an edit. -/
structure Asking where
  /-- The source if the terms name none. -/
  ownSource : ChangeSource
  /-- The terms. -/
  terms : Terms
  /-- What the edit is called. -/
  operation : String
  /-- How the edit is read. -/
  edit : Action Edit

/-- The edit that the request asks for, if it asks for one. -/
def Request.asking? : Request → Option Asking
  | .change edit terms => some ⟨edit.ownSource, terms, edit.operation, pure edit⟩
  | .addPointing entity attributes reference terms =>
    some ⟨.editor, terms, "add_field", do
      let reference ← readReference reference
      return .addField entity { attributes with reference }⟩
  | .replaceAll entities terms =>
    some ⟨.import, terms, "set_entities", do
      return .setEntities (← Action.editing (Editing.ofReader (Entity.readAll entities)))⟩
  | _ => none

section Asking

variable {r : Request} {q : Asking}

/-- All such requests are answered in the same way. -/
lemma perform_asking (react : React) (h : r.asking? = some q) :
    perform react r = Answer.ofEdited <$> requestedEdit react q.ownSource q.terms q.edit := by
  cases r <;> simp only [Request.asking?, Option.some.injEq, reduceCtorEq] at h <;> subst h <;> rfl

/-- An edit that somebody asks for does not come from a text, unless the terms say so. -/
lemma ownSource_asking (h : r.asking? = some q) : q.ownSource ≠ .text := by
  cases r <;> simp only [Request.asking?, Option.some.injEq, reduceCtorEq] at h <;> subst h
  case change edit terms => exact ownSource_ne_text edit
  all_goals nofun

lemma exec_readReference (v : Value) (w : World) : ∃ r, (readReference v).exec w = (r, w) := by
  unfold readReference
  split
  · exact ⟨_, exec_pure none w⟩
  · have hsame : ∀ r s, Editing.ofReader (Reference.read v) w.supply = .ok (r, s) → w.supply = s :=
      fun r s h => (ofChecked_eq_ok.mp (ofReader_eq_ok.mp h)).2
    obtain ⟨r, hread⟩ := exec_editing_same hsame
    rw [exec_map, hread]
    exact ⟨_, rfl⟩

/-- Reading an edit draws ids at most, and what was read is what was asked for. -/
lemma exec_asking (h : r.asking? = some q) (w : World) :
    (∃ supply, (q.edit.exec w).2 = { w with supply }) ∧
      ∀ edit w', q.edit.exec w = (.ok edit, w') → edit.operation = q.operation := by
  cases r <;> simp only [Request.asking?, Option.some.injEq, reduceCtorEq] at h <;> subst h
  case change edit terms =>
    refine ⟨⟨w.supply, rfl⟩, fun edit' w' hread => ?_⟩
    obtain ⟨hedit, -⟩ := Prod.mk.inj hread
    exact congrArg Edit.operation (Except.ok.inj hedit).symm
  case addPointing entity attributes reference terms =>
    obtain ⟨r, hreference⟩ := exec_readReference reference w
    cases r with
    | error f =>
      rw [exec_bind_error hreference]
      exact ⟨⟨w.supply, rfl⟩, fun _ _ hread => absurd (Prod.mk.inj hread).1 nofun⟩
    | ok reference =>
      rw [exec_bind_ok hreference]
      refine ⟨⟨w.supply, rfl⟩, fun edit' w' hread => ?_⟩
      obtain ⟨hedit, -⟩ := Prod.mk.inj hread
      exact congrArg Edit.operation (Except.ok.inj hedit).symm
  case replaceAll values terms =>
    have hediting := exec_editing (Editing.ofReader (Entity.readAll values)) w
    cases hall : Editing.ofReader (Entity.readAll values) w.supply with
    | error f =>
      rw [hall] at hediting
      rw [exec_bind_error hediting]
      exact ⟨⟨w.supply, rfl⟩, fun _ _ hread => absurd (Prod.mk.inj hread).1 nofun⟩
    | ok p =>
      rw [hall] at hediting
      rw [exec_bind_ok hediting]
      refine ⟨⟨p.2, rfl⟩, fun edit' w' hread => ?_⟩
      obtain ⟨hedit, -⟩ := Prod.mk.inj hread
      exact congrArg Edit.operation (Except.ok.inj hedit).symm

end Asking

/-! ## What comes of it -/

/-- How it can end when somebody asks for an edit that is read by `x`. -/
inductive Requested (react : React) (ownSource : ChangeSource) (terms : Terms) (x : Action Edit)
    (w : World) : Except Fault Edited × World → Prop
  /-- The name of the source is unknown. -/
  | unknown {f : Fault} (unknown : terms.given ownSource = .error f) :
      Requested react ownSource terms x w (.error f, w)
  /-- The edit is not read, or it depends on what is no version. -/
  | unread {f : Fault} : Requested react ownSource terms x w (.error f, (x.exec w).2)
  /-- The edit is tried. -/
  | tried {source : ChangeSource} {edit : Edit} {expected : Option Int} {w' : World}
      (known : terms.given ownSource = .ok (.ok source)) (read : x.exec w = (.ok edit, w'))
      (depends : (expectedOf terms).exec w' = (.ok expected, w')) :
      Requested react ownSource terms x w ((commitAndHandBack react source expected edit).exec w')
  /-- The edit is tried with a value that is no source. -/
  | untold {other : Value} {edit : Edit} {expected : Option Int} {w' : World}
      (loose : terms.given ownSource = .ok (.error other)) (read : x.exec w = (.ok edit, w'))
      (depends : (expectedOf terms).exec w' = (.ok expected, w')) :
      Requested react ownSource terms x w ((commitUntold other expected edit).exec w')

/-- **There is no other way.** -/
theorem requested_requestedEdit (react : React) (ownSource : ChangeSource) (terms : Terms)
    (x : Action Edit) (w : World) :
    Requested react ownSource terms x w ((requestedEdit react ownSource terms x).exec w) := by
  rw [requestedEdit]
  cases hgiven : terms.given ownSource with
  | error f =>
    rw [exec_bind_error (exec_ofExcept (.error f) w)]
    exact .unknown hgiven
  | ok given =>
    rw [exec_bind_ok (exec_ofExcept (.ok given) w)]
    have hunread : ∀ f, Requested react ownSource terms x w (.error f, (x.exec w).2) :=
      fun _ => .unread
    cases hx : x.exec w with
    | mk r w' =>
      rw [hx] at hunread
      cases r with
      | error f =>
        rw [exec_bind_error hx]
        exact hunread f
      | ok edit =>
        rw [exec_bind_ok hx]
        obtain ⟨r, hexpected⟩ := exec_expectedOf terms w'
        cases r with
        | error f =>
          rw [exec_bind_error hexpected]
          exact hunread f
        | ok expected =>
          rw [exec_bind_ok hexpected]
          cases given with
          | ok source => exact .tried hgiven hx hexpected
          | error other => exact .untold hgiven hx hexpected

/-- An edit that is made with a value that is no source is the last that happens. -/
lemma exec_commitUntold_taken {w : World} (other : Value) {expected : Option Int} {edit : Edit}
    {store : Store} {edited : Edited} {supply : Supply}
    (h : w.store.apply w.unlinked expected edit w.supply = .ok ((store, edited), supply)) :
    (commitUntold other expected edit).exec w
      = (.error (lateFault store.version edit.operation other), w.taking edit store supply) := by
  rw [commitUntold, exec_bind_ok (exec_make_taken h)]
  exact exec_throw _ _

lemma exec_commitUntold_refused {w : World} (other : Value) {expected : Option Int} {edit : Edit}
    {f : Fault} (h : w.store.apply w.unlinked expected edit w.supply = .error f) :
    (commitUntold other expected edit).exec w = (.error f, w) := by
  rw [commitUntold, exec_bind_error (exec_make_refused h)]

/-- It is answered with a fault, whatever becomes of it. -/
lemma exec_commitUntold_fails (other : Value) (expected : Option Int) (edit : Edit) (w : World) :
    ∃ f w', (commitUntold other expected edit).exec w = (.error f, w') := by
  cases h : w.store.apply w.unlinked expected edit w.supply with
  | error f => exact ⟨f, w, exec_commitUntold_refused other h⟩
  | ok p => exact ⟨_, _, exec_commitUntold_taken other h⟩

/-- Handing back what was edited does nothing to the session, and it does not fail. -/
lemma exec_commitAndHandBack (react : React) (source : ChangeSource) (expected : Option Int)
    (edit : Edit) (w : World) : ∃ handBack : Edited → Edited,
    (commitAndHandBack react source expected edit).exec w =
      (((commit react source expected edit).exec w).1.map handBack,
        ((commit react source expected edit).exec w).2) := by
  rw [commitAndHandBack, exec_bind_ok (exec_get w)]
  dsimp only
  rw [exec_bind]
  cases (commit react source expected edit).exec w with
  | mk r w' =>
    cases r with
    | error f => exact ⟨id, rfl⟩
    | ok edited =>
      refine ⟨fun edited => ((InHand.ofEdit edit edited).followAll
        (w'.commits.take (w'.commits.length - w.commits.length - 1)).reverse).edited, ?_⟩
      exact exec_bind_ok (exec_get w') _

end DiagramSync
