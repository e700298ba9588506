import DiagramSync.Proofs.Session.Growth
import DiagramSync.Proofs.Session.Telling
import DiagramSync.Proofs.Session.Unchanged
import DiagramSync.Proofs.Store.Again
import DiagramSync.Proofs.Store.WellRead

/-!
# Typing the same text again

A text that has been read into the store and is typed once more is read under new ids throughout.
All of them are exchanged for those in use, and what comes of it is the model that is there: the
version stays, and so does every id.

Nothing is asked of the entities that the store had before.  Listeners may ask for whatever they
like, as long as the edit that comes of the text is the only one.

* `typing` — a text is typed and read at once
* `exec_typing` — what a controller does about such a text
* `applyEntities_cases` — what was read is there already, or the store takes it, or it is rejected
* `applied_typing` — where nothing is rejected, the store has what was read and reconciled
* `exists_parse_again` — a text is read again as before, under other ids
* **`retyped_again`** — the same text leaves the store alone
-/

namespace DiagramSync

open Text

/-- A text is typed and read at once. -/
def typing (c : Nat) (text : String) : List Request :=
  [.typeText c (some text) none none true, .flush c]

section Typing

variable {w : World} {c : Nat} {k : Controller}

/-- A controller that is given a text reads it with the ids that are to come, and draws its
conclusion. -/
lemma exec_typing (hk : w.controllers[c]? = some k) (hcounted : k.IsCounted) {text : String}
    {outcome : ParseOutcome} {supply : Supply}
    (hparse : parse k.resolver w.unlinked w.supply text = (outcome, supply)) : ∃ depth,
    w.after (typing c text) = ((conclude (runScript depth) c outcome).exec
      ((w.retyped c text { w.clock with alarms := w.clock.alarms + 1 }).noting c outcome
        supply)).2 := by
  set typed := w.retyped c text { w.clock with alarms := w.clock.alarms + 1 } with htyped
  have hget : typed.controllers[c]? = some (k.retype w.clock text) := getElem?_retyped hk text _
  have htext : typedText k.text (some text) none none = text := by
    simp [typedText]
  have htype : (answer (.typeText c (some text) none none true) w).2 = typed := by
    have hexec := exec_typeText (w := { w with events := [] }) hk (some text) none none
    rw [htext] at hexec
    exact congrArg Prod.snd (exec_bind_ok hexec _)
  have hflush : ∀ react : React,
      ((flushController react c).exec typed).2 = ((wake react c).exec typed).2 := fun react =>
    congrArg Prod.snd (exec_flushController_pending react hget rfl)
  have hwake := fun react => exec_wake_unread react hget (Nat.lt_succ_of_le hcounted) hparse
  refine ⟨typed.weight + (Request.flush c).weight, ?_⟩
  rw [typing, World.after_cons, htype, World.after_cons, ← hwake, ← hflush]
  exact after_bind_pure _ _ _

end Typing

/-! ## The first time -/

section First

variable {w : World} {c : Nat} {k : Controller} {es : List Entity} (depth : Nat)

/-- A controller that rejects an edit says why. -/
lemma lastError_reject (hk : w.controllers[c]? = some k) (error : ParseError) :
    ((reject c error).exec w).2.controllers[c]? = some { k with lastError := some error } := by
  obtain ⟨events, hreject⟩ := exec_reject c error w
  rw [hreject]
  exact getElem?_modifyController hk _

/-- Whatever listeners ask for comes after the edit of which they are told. -/
lemma grows_commit (source : ChangeSource) {expected : Option Int} {edit : Edit} {store : Store}
    {edited : Edited} {supply : Supply}
    (h : w.store.apply w.unlinked expected edit w.supply = .ok ((store, edited), supply)) :
    (w.taking edit store supply).Grows
      ((commit (runScript depth) source expected edit).exec w).2 := by
  have hlater := isKeptBySteps_grows Request.any (w.taking edit store supply)
  have htell := keeps_bind (f := fun _ => (pure edited : Action Edited))
    (keeps_tellAll hlater (keeps_runScript hlater depth)
      { version := store.version, source, operation := edit.operation } w.subscribers)
    fun _ => keeps_pure edited
  rw [exec_commit_taken _ source h]
  exact (htell _ ⟨.refl _, fun l _ => Request.allWithin_any l.script⟩).1

/-- What was read is there already, or the store takes it, or it is rejected. -/
lemma applyEntities_cases (hk : w.controllers[c]? = some k)
    (hnamed : ∀ e ∈ reconcile w.store.entities es, e.name ≠ "") :
    let w' := ((applyEntities (runScript depth) c es).exec w).2
    (reconcile w.store.entities es = w.store.entities ∧ w'.store = w.store) ∨
      (∃ store edited supply, w.store.apply w.unlinked none
          (.setEntities (reconcile w.store.entities es)) w.supply = .ok ((store, edited), supply) ∧
        store.Precedes w'.store) ∨
      ∃ k' error, w'.controllers[c]? = some k' ∧ k'.lastError = some error := by
  intro w'
  by_cases hsame : reconcile w.store.entities es = w.store.entities
  · have hexec := exec_applyEntities_same (runScript depth) c hsame
    exact Or.inl ⟨hsame, congrArg (fun p => p.2.store) hexec⟩
  · right
    have hexec := exec_applyEntities_changed (runScript depth) c hsame
    rcases run_setEntities hnamed w.unlinked w.store.entities w.supply with
      ⟨hrun, -⟩ | ⟨first, second, hrun, -⟩
    · left
      have happly := apply_of_run hrun
      refine ⟨_, _, _, happly, ?_⟩
      have hlater := grows_commit depth .text happly
      have hw' : w' = _ := congrArg Prod.snd hexec
      rw [hw']
      generalize (commit _ _ _ _).exec w = p at hlater
      obtain ⟨r, told⟩ := p
      cases r with
      | ok edited => exact hlater.store
      | error f =>
        dsimp only
        split_ifs
        · obtain ⟨events, hreject⟩ := exec_reject c ⟨.duplicateEntity, f.message⟩ told
          rw [hreject]
          exact hlater.store
        · exact hlater.store
    · right
      have hduplicate : (Fault.sameButForCase first second).isDuplicateName = true := rfl
      rw [exec_commit_refused (apply_of_run_error hrun)] at hexec
      dsimp only at hexec
      rw [if_pos hduplicate] at hexec
      have hw' : w' = _ := congrArg Prod.snd hexec
      exact ⟨_, _, hw' ▸ lastError_reject hk _, rfl⟩

/-- **Where nothing is rejected, the store has what was read and reconciled**, if there was no other
edit. -/
theorem applied_typing (hcounted : w.IsCounted) (hfresh : w.supply.IsFresh)
    (hk : w.controllers[c]? = some k) (hresolver : k.resolver.IsBuiltIn) {text : String}
    (happlied : ∀ k' ∈ (w.after (typing c text)).controllers[c]?, k'.lastError = none)
    (hversion : (w.after (typing c text)).store.version ≤ w.store.version + 1) :
    ∃ es rs ws supply,
      parse k.resolver w.unlinked w.supply text = (.accepted es rs ws, supply) ∧
        (w.after (typing c text)).store.entities = reconcile w.store.entities es ∧
        (reconcile w.store.entities es = w.store.entities ∨ (es.map (foldName ·.name)).Nodup) := by
  cases hparse : parse k.resolver w.unlinked w.supply text with
  | mk outcome supply =>
    obtain ⟨depth, hafter⟩ := exec_typing hk (hcounted k (List.mem_of_getElem? hk)) hparse
    have hget := getElem?_noting
      (getElem?_retyped hk text { w.clock with alarms := w.clock.alarms + 1 }) outcome supply
    rw [hafter] at happlied hversion ⊢
    cases outcome with
    | rejected error ws =>
      exact absurd (happlied _ (lastError_reject hget error)) nofun
    | accepted es rs ws =>
      refine ⟨es, rs, ws, supply, rfl, ?_⟩
      obtain ⟨hread, hids, hgiven⟩ := isRead_parse hresolver.picksForeign hfresh hparse
      have hnames := map_name_reconcile w.store.entities es
      have hnamed : ∀ e ∈ reconcile w.store.entities es, e.name ≠ "" := by
        intro e he
        have hmem : e.name ∈ es.map Entity.name := hnames ▸ List.mem_map_of_mem he
        obtain ⟨x, hx, hname⟩ := List.mem_map.mp hmem
        exact hname ▸ hread.named x hx
      rcases applyEntities_cases depth hget hnamed with
        ⟨hsame, hstore⟩ | ⟨store, edited, later, happly, hlater⟩ | ⟨k', error, hk', herror⟩
      · exact ⟨(congrArg Store.entities hstore).trans hsame.symm, Or.inl hsame⟩
      · obtain ⟨hrun, hnext⟩ := apply_eq_ok happly
        have hstore : store = _ :=
          hlater.resolve_right (Nat.not_lt_of_le (Nat.le_trans hversion (Nat.le_of_eq hnext.symm)))
        have hlocal := isLocal_reconcile hids (fun id hid => (hgiven id hid).ne_unresolved hfresh)
          (fun e he f hf r hr => (hread.references e he f hf r hr).isLocal) w.store.entities
        have hmade := made_of_run hrun
        generalize hentities : store.entities = entities at hmade
        cases hmade with
        | setEntities named distinct =>
          refine ⟨?_, Or.inr (map_foldName_congr hnames ▸ distinct)⟩
          exact (congrArg Store.entities hstore).symm.trans
            (hentities.trans (unlinkStrangers_eq_self hlocal))
      · exact absurd ((happlied k' hk').symm.trans herror) nofun

end First

/-! ## The second time -/

/-- A text that is read again is read as before, under other ids. -/
lemma exists_parse_again {resolver : Resolver} (hresolver : resolver.IsBuiltIn)
    {unlinked : Cardinality} {supply supply' later : Supply} (hfresh : supply.IsFresh)
    (hfresh' : supply'.IsFresh) {text : String} {es : List Entity} {rs : List Relationship}
    {ws : List Warning}
    (hparse : parse resolver unlinked supply text = (.accepted es rs ws, later)) :
    ∃ (g : Id → Id) (later' : Supply), (∀ id, g id = .unresolved ↔ id = .unresolved) ∧
      parse resolver unlinked supply' text
        = (.accepted (es.map (·.renameIds g g)) rs ws, later') := by
  obtain ⟨g, hleads, hg⟩ := Supply.exists_leads hfresh hfresh'
  have hrenamed : (parse resolver unlinked supply' text).1
      = (parse resolver unlinked supply text).1.renameIds g :=
    parse_renameIds (hresolver.ignoresIds hg) hg hfresh hleads text
  rw [hparse] at hrenamed
  exact ⟨g, _, hg, Prod.ext hrenamed rfl⟩

/-- A text that says what is there already leaves the store alone. -/
lemma after_typing_same {w : World} {c : Nat} {k : Controller} (hk : w.controllers[c]? = some k)
    (hcounted : k.IsCounted) {text : String} {es : List Entity} {rs : List Relationship}
    {ws : List Warning} {supply : Supply}
    (hparse : parse k.resolver w.unlinked w.supply text = (.accepted es rs ws, supply))
    (hsame : reconcile w.store.entities es = w.store.entities) :
    (w.after (typing c text)).store = w.store ∧ (w.after (typing c text)).supply = supply ∧
      ∃ k', (w.after (typing c text)).controllers[c]? = some k' ∧ k'.lastError = none ∧
        k'.lastResult = some (.accepted es rs ws) := by
  obtain ⟨depth, hafter⟩ := exec_typing hk hcounted hparse
  have hget := getElem?_noting
    (getElem?_retyped hk text { w.clock with alarms := w.clock.alarms + 1 }) (.accepted es rs ws)
    supply
  set noted := (w.retyped c text { w.clock with alarms := w.clock.alarms + 1 }).noting c
    (.accepted es rs ws) supply
  have hsettled := exec_applyEntities_same (runScript depth) c (w := noted) hsame
  rw [hafter, conclude, hsettled]
  exact ⟨rfl, rfl, _, getElem?_modifyController hget _, rfl, rfl⟩

/-- **The same text leaves the store alone.**  Whatever entities the store has, if none of their ids
is still to come: a text is typed and read without being rejected, and no other edit is made.  When
it is typed and read again, at any time before there is another edit, then it is read under new ids
throughout, and yet the version and all entities, with all their ids, stay what they are. -/
theorem retyped_again {w : World} {c : Nat} {k : Controller} (hcounted : w.IsCounted)
    (hfresh : w.supply.IsFresh)
    (hpast : ∀ id ∈ modelIds w.store.entities, ∀ n, w.supply.drawn ≤ n → w.supply.mint n ≠ id)
    (hk : w.controllers[c]? = some k) (hresolver : k.resolver.IsBuiltIn) {text : String}
    (happlied : ∀ k' ∈ (w.after (typing c text)).controllers[c]?, k'.lastError = none)
    (hversion : (w.after (typing c text)).store.version ≤ w.store.version + 1)
    {between : List Request}
    (hquiet : (w.after (typing c text ++ between)).store.version
      = (w.after (typing c text)).store.version) :
    let before := w.after (typing c text ++ between)
    let again := before.after (typing c text)
    again.store = (w.after (typing c text)).store ∧
      ∃ k' es rs ws, again.controllers[c]? = some k' ∧ k'.lastError = none ∧
        k'.lastResult = some (.accepted es rs ws) ∧
        ∀ id ∈ modelIds es, before.supply.Gave again.supply id := by
  intro before again
  obtain ⟨es, rs, ws, supply, hparse, hentities, hnames⟩ :=
    applied_typing hcounted hfresh hk hresolver happlied hversion
  obtain ⟨hread, hids, hgiven⟩ := isRead_parse hresolver.picksForeign hfresh hparse
  have hnew : IsNewTo w.store.entities es := by
    refine ⟨hread.toIsNamed, hids, fun id hid => (hgiven id hid).ne_unresolved hfresh, ?_⟩
    intro id hid hmem
    obtain ⟨n, hn, -, hmint⟩ := hgiven id hid
    exact hpast id hmem n hn hmint
  -- the controller and the store are as the first time has left them
  have hgrows : w.Grows before := grows_after w _
  have hstore : before.store = (w.after (typing c text)).store := by
    have hlater := grows_after (w.after (typing c text)) between
    rw [← World.after_append] at hlater
    exact hlater.store_eq (Nat.le_of_eq hquiet)
  obtain ⟨k₁, hk₁, hsame⟩ := hgrows.controller c k hk
  have hcounted₁ : before.IsCounted := isKeptByEdits_isCounted.after hcounted _
  have hfresh₁ : before.supply.IsFresh := hfresh.of_extends (hgrows.supply hfresh)
  -- the text is read as the first time, under other ids
  obtain ⟨g, supply₁, hg, hparse₁⟩ := exists_parse_again hresolver hfresh hfresh₁ hparse
  rw [← hgrows.unlinked, ← hsame] at hparse₁
  obtain ⟨-, hids₁, hgiven₁⟩ := isRead_parse (hsame ▸ hresolver.picksForeign) hfresh₁ hparse₁
  have hfolded : (es.map (foldName ·.name)).Nodup :=
    hnames.elim (nodup_foldNames_of_unchanged hnew) id
  have hnothing : reconcile before.store.entities (es.map (·.renameIds g g))
      = before.store.entities := by
    rw [hstore, hentities]
    exact reconcile_again hnew
      (fun e he f hf r hr => (hread.references e he f hf r hr).isLocal) hfolded hg hids₁
      fun id hid => (hgiven₁ id hid).ne_unresolved hfresh₁
  obtain ⟨hleft, hsupply, k', hk', herror, hresult⟩ :=
    after_typing_same hk₁ (hcounted₁ k₁ (List.mem_of_getElem? hk₁)) hparse₁ hnothing
  rw [← hsupply] at hgiven₁
  exact ⟨hleft.trans hstore, k', _, rs, ws, hk', herror, hresult, hgiven₁⟩

/-- A store in which two entities have the same name but for case, and in which several entities
and fields have one id, or that of none.  A listener looks at the diagram when it is told of a
change. -/
def clashingSession : World where
  store := {
    version := 7
    entities :=
      [{ id := ⟨"a"⟩, name := "Staff", fields := [{ id := ⟨"a"⟩, name := "id" }] },
       { id := .unresolved, name := "Teams", fields := [{ id := .unresolved, name := "id" }] },
       { id := ⟨"a"⟩, name := "STAFF"
         fields := [{ id := ⟨"b"⟩, name := "ID" }, { id := ⟨"b"⟩, name := "id" }] }] }
  subscribers := [.controller 0, .listener 0]
  controllers :=
    [{ text := "", resolver := .byName, debouncer := { delay := 400 }, notifies := true }]
  listeners := [{ tag := "looker", station := .store, script := [.diagram], fails := false }]
  supply := .strokes

/-- Staff with a superior and a team, which is declared later. -/
def staffText : String :=
  "erDiagram\nstaff \x7b\nint id PK\nint staff_id FK\nint teams_id FK\n\x7d\nTeams\n" ++
    "staff \x7do--|| staff : boss\nstaff \x7do--|| Teams : team"

/-- Whatever clashes in the store, the text is written to it once, and not when it is typed
again. -/
theorem retyped_again_clashingSession :
    (clashingSession.after (typing 0 staffText)).store.version = clashingSession.store.version + 1 ∧
      (clashingSession.after (typing 0 staffText ++ [.count, .typeText 0 (some "") none none true]
        ++ typing 0 staffText)).store = (clashingSession.after (typing 0 staffText)).store := by
  have hpast : ∀ id ∈ modelIds clashingSession.store.entities, ∀ n,
      clashingSession.supply.drawn ≤ n → clashingSession.supply.mint n ≠ id := by
    have hhead : ∀ id ∈ modelIds clashingSession.store.entities,
        id.text.toList.head? ≠ some '|' := by
      decide
    rintro id hid n - rfl
    refine hhead _ hid ?_
    show (String.ofList (List.replicate (n + 1) '|')).toList.head? = _
    rw [String.toList_ofList]
    rfl
  obtain ⟨k, hk, hresolver⟩ : ∃ k, clashingSession.controllers[0]? = some k ∧
      k.resolver = .byName := ⟨_, rfl, rfl⟩
  have hcounted : clashingSession.IsCounted := by
    intro k' hk'
    rw [List.mem_singleton.mp hk']
    exact Nat.le_refl 0
  have hrun : ((clashingSession.after (typing 0 staffText)).controllers[0]?).all
        (fun k => k.lastError.isNone) = true ∧
      (clashingSession.after (typing 0 staffText)).store.version
        = clashingSession.store.version + 1 ∧
      (clashingSession.after (typing 0 staffText
        ++ [.count, .typeText 0 (some "") none none true])).store.version
          = clashingSession.store.version + 1 := by
    decide +kernel
  obtain ⟨happlied, hversion, hquiet⟩ := hrun
  obtain ⟨hsame, -⟩ := retyped_again hcounted Supply.isFresh_strokes hpast hk (Or.inl hresolver)
    (fun k' hk' => Option.isNone_iff_eq_none.mp ((Option.all_eq_true _ _).mp happlied k' hk'))
    (Nat.le_of_eq hversion) (hquiet.trans hversion.symm)
  rw [← World.after_append] at hsame
  exact ⟨hversion, hsame⟩

end DiagramSync
