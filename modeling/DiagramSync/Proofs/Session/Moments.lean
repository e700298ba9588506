import DiagramSync.Proofs.Model.Ids
import DiagramSync.Proofs.Session.History
import DiagramSync.Proofs.Session.Reading
import DiagramSync.Proofs.Session.Telling
import DiagramSync.Proofs.Store.Versions

/-!
# The moments of a session

Whoever takes part in a session can look at the store only at certain moments: before and after a
request, when it is told of a change or of a new text, or when its text is rejected; and requests
may come from listeners, in the middle of others.  The moments of a run are all these, in order, and
with them the edits that are made, each with the store before and after it.

They are found by going through the run: `w.moments rs` follows what `World.after` does, into the
scripts of listeners that are called, and notes the store wherever somebody can see it.

* `Watch`, `Watch.andThen`, `watchAll` — what is noticed while actions run
* `callMoments` … `performMoments`, `scriptMoments` — what is noticed while a session answers
* `World.moments` — the moments of a run
* `Action.Shows` — what is noticed is what happens to the store
* `World.granted`, `granted_le` — who asks on the condition of a version, and is not refused
* **`passes_moments`** — the store passes through the moments of a run, and every edit is one of them
* **`versions_of_run`** — a version says what the entities are
-/

namespace DiagramSync

/-! ## Noticing -/

/-- What is noticed while an action runs in a session. -/
abbrev Watch :=
  World → List Moment

/-- Nothing is noticed. -/
def silent : Watch := fun _ => []

/-- Somebody looks at the store. -/
def looking : Watch := fun w => [.look w.store]

section Watch

variable {α β : Type}

/-- What is noticed while the action `x` runs, and then another one, unless `x` fails. -/
def Watch.andThen (m : Watch) (x : Action α) (next : α → Watch) : Watch := fun w =>
  m w ++ match x.exec w with
    | (.ok a, w') => next a w'
    | (.error _, _) => []

/-- What is noticed while something is done for one item after the other. -/
def watchAll (f : β → Action Unit) (m : β → Watch) : List β → Watch
  | [] => silent
  | b :: bs => (m b).andThen (f b) fun _ => watchAll f m bs

end Watch

/-! ## What is noticed while a session answers

As for the answers themselves, what happens to the scripts of listeners is a parameter: `watch` says
what is noticed while `react` runs one. -/

section Answering

variable (react : React) (watch : List Request → Watch)

/-- A listener that is called looks at the store, and then asks for the next part of its script. -/
def callMoments (number : Nat) (event : String → Event) : Watch := fun w =>
  match w.listeners[number]? with
  | none => []
  | some l =>
    .look w.store :: if l.fails then [] else
      watch (Request.beforePause l.script) { w with
        events := w.events ++ [event l.tag]
        listeners := w.listeners.modify number Listener.called }

/-- A controller that is told of a change looks at the store, and then calls its listeners. -/
def followMoments (c : Nat) (change : Change) : Watch := fun w =>
  if change.source = .text then
    []
  else
    let heard := w.modifyController c (Controller.rewrite w.store.entities)
    .look w.store ::
      watchAll
        (fun number => do
          let text ← textOf c
          callListener react number fun tag => .text tag text)
        (fun number w => callMoments watch number
          (fun tag => .text tag ((w.controllers[c]?.map (·.text)).getD "")) w)
        ((heard.controllers[c]?.map (·.textListeners)).getD []) heard

def tellMoments (change : Change) : Subscriber → Watch
  | .controller c => followMoments react watch c change
  | .listener number => callMoments watch number fun tag => .change tag change

/-- An edit is made, and then everybody is told. -/
def commitMoments (source : ChangeSource) (expected : Option Int) (edit : Edit) : Watch := fun w =>
  match w.store.apply w.unlinked expected edit w.supply with
  | .error _ => []
  | .ok ((store, _), supply) =>
    let change : Change := { version := store.version, source, operation := edit.operation }
    .edit expected edit w.store store ::
      watchAll (tell react change) (tellMoments react watch change) w.subscribers
        (w.taking edit store supply)

/-- An edit is made, and nobody is told. -/
def untoldMoments (expected : Option Int) (edit : Edit) : Watch := fun w =>
  match w.store.apply w.unlinked expected edit w.supply with
  | .error _ => []
  | .ok ((store, _), _) => [.edit expected edit w.store store]

/-- Nothing is noticed of an edit that somebody asks for until it is made. -/
def askingMoments (q : Asking) : Watch :=
  silent.andThen (MonadExcept.ofExcept (q.terms.given q.ownSource)) fun given =>
    silent.andThen q.edit fun edit =>
      silent.andThen (expectedOf q.terms) fun expected =>
        match given with
        | .ok source => commitMoments react watch source expected edit
        | .error _ => untoldMoments expected edit

/-- A model that was read is put into the store, unless it is there; if it is rejected, the user may
look at the store. -/
def applyMoments (es : List Entity) : Watch := fun w =>
  let merged := reconcile w.store.entities es
  if merged = w.store.entities then
    []
  else
    commitMoments react watch .text none (.setEntities merged) w ++
      match (commit react .text none (.setEntities merged)).exec w with
      | (.ok _, _) => []
      | (.error f, w') => if f.isDuplicateName then looking w' else []

def concludeMoments : ParseOutcome → Watch
  | .rejected _ _ => looking
  | .accepted es _ _ => applyMoments react watch es

def readMoments (c : Nat) (generation : Int) : Watch := fun w =>
  match w.controllers[c]? with
  | none => []
  | some k =>
    if generation ≠ k.editGeneration ∨ generation ≤ k.parsedGeneration then
      []
    else
      let (outcome, supply) := parse k.resolver w.unlinked w.supply k.text
      concludeMoments react watch outcome (({ w with supply } : World).modifyController c fun k =>
        { k with lastResult := some outcome, parsedGeneration := k.editGeneration })

def wakeMoments (c : Nat) : Watch := fun w =>
  match w.controllers[c]? with
  | none => []
  | some k => readMoments react watch c k.editGeneration
      (w.modifyController c fun k => { k with debouncer := k.debouncer.cancel })

def flushMoments (c : Nat) : Watch := fun w =>
  match w.controllers[c]? with
  | none => []
  | some k => if k.debouncer.pending then wakeMoments react watch c w else []

def ringMoments (time : Nat) : Nat → Watch
  | 0 => silent
  | rounds + 1 => fun w =>
    match w.firstDue? time with
    | none => []
    | some (c, alarm) =>
      (wakeMoments react watch c).andThen (wake react c) (fun _ => ringMoments time rounds)
        { w with clock := { w.clock with now := max w.clock.now alarm.due } }

/-- What is noticed while one request is answered.  Requests that leave the store alone are not
noticed. -/
def performMoments (r : Request) : Watch :=
  match r.asking? with
  | some q => askingMoments react watch q
  | none =>
    match r with
    | .flush c => flushMoments react watch c
    | .applyEdit c generation => readMoments react watch c generation
    | .advance ms => fun w => ringMoments react watch (w.clock.now + ms) (w.armed + w.weight) w
    | _ => silent

end Answering

/-- What is noticed while a script runs whose listeners may call each other to that depth: whoever
asks for something can look at the store afterwards. -/
def scriptMoments : Nat → List Request → Watch
  | 0, _ => silent
  | depth + 1, script =>
    watchAll
      (fun r => do let _ ← perform (runScript depth) r)
      (fun r w => performMoments (runScript depth) (scriptMoments depth) r w ++
        looking ((perform (runScript depth) r).exec w).2)
      script

/-- The moments of a run: somebody looks at the store before and after every request, and whatever
is noticed in between. -/
def World.moments (w : World) : List Request → List Moment
  | [] => looking w
  | r :: rs =>
    let depth := w.weight + r.weight
    looking w ++
      performMoments (runScript depth) (scriptMoments depth) r { w with events := [] } ++
      moments (answer r w).2 rs

/-! ## What is noticed is what happens -/

/-- The edit that is made at a moment, as it is recorded. -/
def Moment.commit? : Moment → Option Commit
  | look _ => none
  | edit _ e _ after => some ⟨e, after.entities⟩

/-- From the session `w` to the session `w'` the store passes through the moments, and the edits
among them are those that were recorded. -/
structure World.Passes (w : World) (ms : List Moment) (w' : World) : Prop where
  /-- The store passes through the moments. -/
  store : w.store.Passes w.unlinked ms w'.store
  /-- The edits among them were recorded. -/
  commits : w'.commits = (ms.filterMap Moment.commit?).reverse ++ w.commits
  /-- The settings stay. -/
  unlinked : w'.unlinked = w.unlinked

/-- Whatever is noticed while the action runs is what happens to the store. -/
def Action.Shows {α : Type} (x : Action α) (m : Watch) : Prop :=
  ∀ w : World, w.Passes (m w) (x.exec w).2

section Passes

variable {w w₁ w₂ : World} {ms ms' : List Moment}

lemma World.Passes.refl (w : World) : w.Passes [] w :=
  ⟨.nil w.store, rfl, rfl⟩

lemma World.Passes.append (h : w.Passes ms w₁) (h' : w₁.Passes ms' w₂) :
    w.Passes (ms ++ ms') w₂ := by
  refine ⟨h.store.append (h.unlinked ▸ h'.store), ?_, h'.unlinked.trans h.unlinked⟩
  rw [h'.commits, h.commits, List.filterMap_append, List.reverse_append, List.append_assoc]

/-- Of the session at the beginning only the store, its history and the settings matter. -/
lemma World.Passes.of_same (h : w₁.Passes ms w₂) (hstore : w.store = w₁.store)
    (hcommits : w.commits = w₁.commits) (hunlinked : w.unlinked = w₁.unlinked) :
    w.Passes ms w₂ := by
  refine ⟨?_, ?_, h.unlinked.trans hunlinked.symm⟩
  · rw [hstore, hunlinked]
    exact h.store
  · rw [hcommits]
    exact h.commits

/-- Somebody looks at the store first. -/
lemma World.Passes.look (h : w.Passes ms w₁) : w.Passes (.look w.store :: ms) w₁ :=
  ⟨.look h.store, h.commits, h.unlinked⟩

/-- An edit that the store takes comes first. -/
lemma World.Passes.edit {expected : Option Int} {edit : Edit} {store : Store} {edited : Edited}
    {supply : Supply}
    (hedit : w.store.apply w.unlinked expected edit w.supply = .ok ((store, edited), supply))
    (h : (w.taking edit store supply).Passes ms w₁) :
    w.Passes (.edit expected edit w.store store :: ms) w₁ := by
  have hmade : Moment.commit? (.edit expected edit w.store store)
      = some ⟨edit, store.entities⟩ := rfl
  refine ⟨.edit hedit h.store, ?_, h.unlinked⟩
  rw [h.commits, List.filterMap_cons_some hmade, List.reverse_cons, List.append_assoc]
  rfl

/-- Somebody looks at the store at last. -/
lemma World.Passes.looking (h : w.Passes ms w₁) : w.Passes (ms ++ DiagramSync.looking w₁) w₁ :=
  h.append (World.Passes.refl w₁).look

lemma isAboutStore_passes (w : World) (ms : List Moment) : IsAboutStore (w.Passes ms) where
  congr h hstore hcommits hunlinked _ :=
    ⟨hstore ▸ h.store, hcommits.trans h.commits, hunlinked.trans h.unlinked⟩

end Passes

/-! ### Actions -/

section Shows

variable {α β : Type}

/-- Nothing is noticed of an action that leaves the store alone. -/
lemma shows_silent {x : Action α} (hx : ∀ {P : World → Prop}, IsAboutStore P → x.Keeps P) :
    x.Shows silent :=
  fun w => hx (isAboutStore_passes w []) w (.refl w)

lemma shows_bind {x : Action α} {f : α → Action β} {m : Watch} {next : α → Watch}
    (hx : x.Shows m) (hf : ∀ a, (f a).Shows (next a)) : (x >>= f).Shows (m.andThen x next) := by
  intro w
  have hfirst := hx w
  rw [exec_bind, Watch.andThen]
  cases hrun : x.exec w with
  | mk r w' =>
    rw [hrun] at hfirst
    cases r with
    | ok a => exact hfirst.append (hf a w')
    | error e =>
      rw [List.append_nil]
      exact hfirst

/-- Handing back something else is not noticed. -/
lemma shows_bind_pure {x : Action α} {m : Watch} (hx : x.Shows m) (g : α → β) :
    (x >>= fun a => (pure (g a) : Action β)).Shows m := by
  intro w
  rw [after_bind_pure]
  exact hx w

lemma shows_map {x : Action α} {m : Watch} (hx : x.Shows m) (g : α → β) : (g <$> x).Shows m := by
  intro w
  rw [exec_map]
  exact hx w

lemma shows_forM {f : β → Action Unit} {m : β → Watch} (hf : ∀ b, (f b).Shows (m b))
    (bs : List β) : (bs.forM f).Shows (watchAll f m bs) := by
  induction bs with
  | nil => exact fun w => .refl w
  | cons b bs ih => exact shows_bind (hf b) fun _ => ih

end Shows

/-! ### Answers -/

section Answers

variable {react : React} {watch : List Request → Watch}
  (hreact : ∀ script, (react script).Shows (watch script))
include hreact

lemma shows_callListener (number : Nat) (event : String → Event) :
    (callListener react number event).Shows (callMoments watch number event) := by
  intro w
  rw [callListener, exec_bind_ok (exec_get w), callMoments]
  cases w.listeners[number]? with
  | none => exact .refl w
  | some l =>
    dsimp only
    rw [exec_bind_ok (exec_note _ w)]
    split_ifs
    · exact ⟨.look (.nil w.store), rfl, rfl⟩
    · have hscript := hreact (Request.beforePause l.script) { w with
        events := w.events ++ [event l.tag]
        listeners := w.listeners.modify number Listener.called }
      exact .look (hscript.of_same rfl rfl rfl)

lemma shows_follow (c : Nat) (change : Change) :
    (follow react c change).Shows (followMoments react watch c change) := by
  intro w
  rw [followMoments]
  split_ifs with htext
  · rw [follow, if_pos htext]
    exact .refl w
  · have hcall : ∀ number, (do
          let text ← textOf c
          callListener react number fun tag => .text tag text : Action Unit).Shows fun w =>
        callMoments watch number
          (fun tag => .text tag ((w.controllers[c]?.map (·.text)).getD "")) w := by
      intro number w
      rw [exec_bind_ok (exec_textOf c w)]
      exact shows_callListener hreact number _ w
    rw [exec_follow_elsewhere react c htext]
    exact .look ((shows_forM hcall _ _).of_same rfl rfl rfl)

lemma shows_tell (change : Change) (s : Subscriber) :
    (tell react change s).Shows (tellMoments react watch change s) := by
  cases s with
  | controller c => exact shows_follow hreact c change
  | listener number => exact shows_callListener hreact number fun tag => .change tag change

/-- An edit is noticed if it is made, and then whatever those do who are told. -/
lemma shows_commit (source : ChangeSource) (expected : Option Int) (edit : Edit) :
    (commit react source expected edit).Shows (commitMoments react watch source expected edit) := by
  intro w
  rw [commitMoments]
  cases happly : w.store.apply w.unlinked expected edit w.supply with
  | error f =>
    rw [exec_commit_refused happly]
    exact .refl w
  | ok p =>
    obtain ⟨⟨store, edited⟩, supply⟩ := p
    dsimp only
    rw [exec_commit_taken react source happly]
    exact .edit happly (shows_bind_pure (shows_forM (shows_tell hreact _) w.subscribers) _ _)

omit hreact in
lemma shows_commitUntold (other : Value) (expected : Option Int) (edit : Edit) :
    (commitUntold other expected edit).Shows (untoldMoments expected edit) := by
  intro w
  rw [untoldMoments]
  cases happly : w.store.apply w.unlinked expected edit w.supply with
  | error f =>
    rw [exec_commitUntold_refused other happly]
    exact .refl w
  | ok p =>
    obtain ⟨⟨store, edited⟩, supply⟩ := p
    rw [exec_commitUntold_taken other happly]
    exact .edit happly (.refl _)

lemma shows_requestedEdit {r : Request} {q : Asking} (hq : r.asking? = some q) :
    (requestedEdit react q.ownSource q.terms q.edit).Shows (askingMoments react watch q) := by
  refine shows_bind ?_ fun given => shows_bind ?_ fun edit => shows_bind ?_ fun expected => ?_
  · intro w
    rw [exec_ofExcept]
    exact .refl w
  · intro w
    obtain ⟨⟨supply, hsupply⟩, -⟩ := exec_asking hq w
    rw [hsupply]
    exact ⟨.nil w.store, rfl, rfl⟩
  · intro w
    obtain ⟨r, hexpected⟩ := exec_expectedOf q.terms w
    rw [hexpected]
    exact .refl w
  · intro w
    cases given with
    | ok source =>
      obtain ⟨handBack, hcommit⟩ := exec_commitAndHandBack react source expected edit w
      rw [hcommit]
      exact shows_commit hreact source expected edit w
    | error other => exact shows_commitUntold other expected edit w

/-! ### Reading -/

omit hreact in
lemma shows_reject (c : Nat) (error : ParseError) : (reject c error).Shows looking :=
  fun w => (keeps_reject (isAboutStore_passes w []).toShifts c error w (.refl w)).look

lemma shows_applyEntities (c : Nat) (es : List Entity) :
    (applyEntities react c es).Shows (applyMoments react watch es) := by
  intro w
  rw [applyMoments]
  split_ifs with hsame
  · rw [exec_applyEntities_same react c hsame]
    exact ⟨.nil w.store, rfl, rfl⟩
  · have hcommit := shows_commit hreact .text none (.setEntities (reconcile w.store.entities es)) w
    rw [exec_applyEntities_changed react c hsame]
    cases hrun : (commit react .text none
        (.setEntities (reconcile w.store.entities es))).exec w with
    | mk r w' =>
      rw [hrun] at hcommit
      cases r with
      | ok edited =>
        dsimp only
        rw [List.append_nil]
        exact (isAboutStore_passes w _).congr hcommit rfl rfl rfl fun h =>
          h.modifyController c fun _ => id
      | error f =>
        dsimp only
        split_ifs
        · exact hcommit.append (shows_reject c _ w')
        · rw [List.append_nil]
          exact hcommit

lemma shows_conclude (c : Nat) (outcome : ParseOutcome) :
    (conclude react c outcome).Shows (concludeMoments react watch outcome) := by
  cases outcome with
  | rejected error ws => exact shows_reject c error
  | accepted es rs ws => exact shows_applyEntities hreact c es

lemma shows_readEdit (c : Nat) (generation : Int) :
    (readEdit react c generation).Shows (readMoments react watch c generation) := by
  intro w
  rw [readMoments]
  cases hk : w.controllers[c]? with
  | none =>
    rw [readEdit, exec_bind_ok (exec_get w), hk]
    exact .refl w
  | some k =>
    dsimp only
    split_ifs with hdone
    · rw [exec_readEdit_done react hk hdone]
      exact .refl w
    · obtain rfl : generation = k.editGeneration := by omega
      have hunread : k.parsedGeneration < k.editGeneration := by omega
      cases hparse : parse k.resolver w.unlinked w.supply k.text with
      | mk outcome supply =>
        rw [exec_readEdit_unread react hk hunread hparse]
        exact (shows_conclude hreact c outcome _).of_same rfl rfl rfl

lemma shows_wake (c : Nat) : (wake react c).Shows (wakeMoments react watch c) := by
  intro w
  rw [wakeMoments]
  cases hk : w.controllers[c]? with
  | none =>
    rw [exec_wake_none react hk]
    exact ⟨.nil w.store, rfl, rfl⟩
  | some k =>
    rw [exec_wake_some react hk]
    exact (shows_readEdit hreact c k.editGeneration _).of_same rfl rfl rfl

lemma shows_flushController (c : Nat) :
    (flushController react c).Shows (flushMoments react watch c) := by
  intro w
  rw [flushMoments]
  cases hk : w.controllers[c]? with
  | none =>
    rw [flushController, exec_bind_ok (exec_get w), hk]
    exact .refl w
  | some k =>
    dsimp only
    split_ifs with hpending
    · rw [exec_flushController_pending react hk hpending]
      exact shows_wake hreact c w
    · rw [flushController, exec_bind_ok (exec_get w)]
      simp only [hk, if_neg hpending]
      exact .refl w

lemma shows_ring (time rounds : Nat) :
    (ring react time rounds).Shows (ringMoments react watch time rounds) := by
  induction rounds with
  | zero => exact fun w => .refl w
  | succ rounds ih =>
    intro w
    rw [ring, exec_bind_ok (exec_get w), ringMoments]
    dsimp only
    cases w.firstDue? time with
    | none => exact .refl w
    | some p =>
      have hrounds := shows_bind (shows_wake hreact p.1) (fun _ => ih)
        { w with clock := { w.clock with now := max w.clock.now p.2.due } }
      exact hrounds.of_same rfl rfl rfl

lemma shows_goOn (ms : Nat) : (goOn react ms).Shows fun w =>
    ringMoments react watch (w.clock.now + ms) (w.armed + w.weight) w := by
  intro w
  have hring := shows_ring hreact (w.clock.now + ms) (w.armed + w.weight) w
  rw [goOn, exec_bind_ok (exec_get w)]
  dsimp only
  rw [exec_bind]
  cases hrun : (ring react (w.clock.now + ms) (w.armed + w.weight)).exec w with
  | mk r w' =>
    rw [hrun] at hring
    cases r with
    | ok _ => exact (isAboutStore_passes w _).congr hring rfl rfl rfl id
    | error f => exact hring

/-- **What is noticed of a request is what happens to the store.** -/
theorem shows_perform (r : Request) : (perform react r).Shows (performMoments react watch r) := by
  cases r with
  | change edit terms => exact shows_map (shows_requestedEdit hreact (r := .change edit terms) rfl) _
  | addPointing entity attributes reference terms =>
    exact shows_map
      (shows_requestedEdit hreact (r := .addPointing entity attributes reference terms) rfl) _
  | replaceAll entities terms =>
    exact shows_map (shows_requestedEdit hreact (r := .replaceAll entities terms) rfl) _
  | flush c => exact shows_bind_pure (shows_flushController hreact c) _
  | applyEdit c generation => exact shows_bind_pure (shows_readEdit hreact c generation) _
  | advance ms => exact shows_bind_pure (shows_goOn hreact ms) _
  | _ => exact shows_silent fun hP => keeps_perform_quiet hP.toShifts react rfl (Request.within_any _)

omit hreact in
/-- The scripts of listeners show what happens, however deep they call each other. -/
lemma shows_runScript (depth : Nat) (script : List Request) :
    (runScript depth script).Shows (scriptMoments depth script) := by
  induction depth generalizing script with
  | zero => exact fun w => .refl w
  | succ depth ih =>
    rw [runScript, scriptMoments]
    refine shows_forM (fun r w => ?_) script
    rw [after_bind_pure]
    exact (shows_perform ih r w).looking

end Answers

/-! ## Edits on the condition of a version -/

/-- The request asks for an edit on the condition of that version. -/
def Request.dependsOn (v : Int) (r : Request) : Bool :=
  r.asking?.any fun q => q.terms.expected.whole? == some v

/-- How many of the requests of a run ask for an edit on the condition of that version, and are not
refused. -/
def World.granted (v : Int) (w : World) : List Request → Nat
  | [] => 0
  | r :: rs =>
    (if r.dependsOn v && (answer r w).1.toBool then 1 else 0) + granted v (answer r w).2 rs

lemma andThen_ok {α : Type} {x : Action α} {a : α} {w w' : World} (h : x.exec w = (.ok a, w'))
    (m : Watch) (next : α → Watch) : m.andThen x next w = m w ++ next a w' := by
  rw [Watch.andThen, h]

lemma performMoments_asking (react : React) (watch : List Request → Watch) {r : Request} {q : Asking}
    (hq : r.asking? = some q) : performMoments react watch r = askingMoments react watch q := by
  unfold performMoments
  rw [hq]

/-- An edit that is not refused is one of the moments, with the version that it depends on. -/
lemma countP_askingMoments_pos (react : React) (watch : List Request → Watch) {r : Request}
    {q : Asking} (hq : r.asking? = some q) {v : Int} (hv : q.terms.expected.whole? = some v)
    {w : World} (hok : ((perform react r).exec w).1.toBool = true) :
    0 < (askingMoments react watch q w).countP (Moment.dependsOn v) := by
  have hrequested := requested_requestedEdit react q.ownSource q.terms q.edit w
  rw [perform_asking react hq, exec_map] at hok
  generalize (requestedEdit react q.ownSource q.terms q.edit).exec w = p at hrequested hok
  cases hrequested with
  | unknown unknown => exact absurd hok Bool.false_ne_true
  | unread => exact absurd hok Bool.false_ne_true
  | @tried source edit expected w' known read depends =>
    have hgiven := exec_ofExcept (q.terms.given q.ownSource) w
    nth_rewrite 2 [known] at hgiven
    obtain ⟨handBack, hcommit⟩ := exec_commitAndHandBack react source expected edit w'
    rw [askingMoments, andThen_ok hgiven, andThen_ok read, andThen_ok depends]
    rw [hcommit] at hok
    dsimp only
    rw [commitMoments]
    cases happly : w'.store.apply w'.unlinked expected edit w'.supply with
    | error f =>
      rw [exec_commit_refused happly] at hok
      exact absurd hok Bool.false_ne_true
    | ok p =>
      have hdepends : (Moment.edit expected edit w'.store p.1.1).dependsOn v = true := by
        rw [Moment.dependsOn, expectedOf_eq_ok depends, hv]
        exact beq_self_eq_true (some v)
      exact List.countP_pos_iff.mpr ⟨_, List.mem_cons_self, hdepends⟩
  | @untold other edit expected w' loose read depends =>
    obtain ⟨f, w₁, hfails⟩ := exec_commitUntold_fails other expected edit w'
    rw [hfails] at hok
    exact absurd hok Bool.false_ne_true

/-- Whoever is granted an edit has made one. -/
lemma granted_le (v : Int) (w : World) (rs : List Request) :
    w.granted v rs ≤ (w.moments rs).countP (Moment.dependsOn v) := by
  induction rs generalizing w with
  | nil => exact Nat.zero_le _
  | cons r rs ih =>
    have hrest := ih (answer r w).2
    rw [World.granted, World.moments, List.countP_append, List.countP_append]
    split_ifs with hgranted
    · rw [Bool.and_eq_true, Request.dependsOn, Option.any_eq_true] at hgranted
      obtain ⟨⟨q, hq, hv⟩, hok⟩ := hgranted
      have hmade := countP_askingMoments_pos (runScript (w.weight + r.weight))
        (scriptMoments (w.weight + r.weight)) hq (eq_of_beq hv) (w := { w with events := [] }) hok
      rw [performMoments_asking _ _ hq]
      omega
    · omega

/-! ## Runs -/

/-- **The store passes through the moments of a run**, and the edits among them are those that were
recorded. -/
theorem passes_moments (w : World) (rs : List Request) : w.Passes (w.moments rs) (w.after rs) := by
  induction rs generalizing w with
  | nil => exact (World.Passes.refl w).look
  | cons r rs ih =>
    have hanswer := shows_perform (shows_runScript (w.weight + r.weight)) r { w with events := [] }
    have hfirst : w.Passes _ (answer r w).2 := hanswer.of_same rfl rfl rfl
    exact hfirst.look.append (ih (answer r w).2)

/-- **A version says what the entities are.**  In every run, whoever asks for what, listeners in the
middle of an edit included: whenever two stores that are seen have the same version, their entities
are the same.  So an edit that is made on the condition of a version is made on the entities that
anybody has seen under this version; and of all edits on the condition of one version at most one is
made, so that at most one of those who ask for one is not refused.  The edits that are spoken of are
all that were recorded. -/
theorem versions_of_run (w : World) (rs : List Request) :
    (∀ s ∈ (w.moments rs).flatMap Moment.stores, ∀ t ∈ (w.moments rs).flatMap Moment.stores,
        s.version = t.version → s.entities = t.entities) ∧
      (∀ (v : Int) (edit : Edit) (before after : Store),
        .edit (some v) edit before after ∈ w.moments rs →
          ∀ s ∈ (w.moments rs).flatMap Moment.stores, (s.version : Int) = v →
            ∃ edited supply supply', edit.run w.unlinked s.entities supply
              = .ok ((after.entities, edited), supply')) ∧
      (∀ v : Int, w.granted v rs ≤ (w.moments rs).countP (Moment.dependsOn v) ∧
        (w.moments rs).countP (Moment.dependsOn v) ≤ 1) ∧
      (w.after rs).commits = ((w.moments rs).filterMap Moment.commit?).reverse ++ w.commits := by
  have hpasses := passes_moments w rs
  refine ⟨fun s hs t ht hversion => ?_, fun v edit before after hedit s hs hversion => ?_,
    fun v => ⟨granted_le v w rs, hpasses.store.countP_dependsOn_le_one v⟩, hpasses.commits⟩
  · rw [hpasses.store.eq_of_version hs ht hversion]
  · obtain ⟨edited, supply, supply', hmade⟩ := hpasses.store.made hedit
    have hbefore : before ∈ (w.moments rs).flatMap Moment.stores :=
      List.mem_flatMap.mpr ⟨_, hedit, List.mem_cons_self⟩
    have hsame : s.version = before.version :=
      Int.ofNat.inj (hversion.trans (Store.version_of_apply hmade))
    rw [hpasses.store.eq_of_version hs hbefore hsame]
    exact ⟨edited, supply, supply', (apply_eq_ok hmade).1⟩

/-- Two parties ask on the condition of the version 0, and one of them is refused; a listener has
meanwhile made an edit in the middle of the other's. -/
example :
    let requests : List Request :=
      [.subscribe "listener" [.change (.addEntity (.text "Posts")) {}] false,
        .change (.addEntity (.text "Users")) { expected := .whole 0 },
        .change (.addEntity (.text "Tags")) { expected := .whole 0 }]
    World.granted 0 { supply := .strokes } requests = 1 ∧
      ((World.moments { supply := .strokes } requests).flatMap Moment.stores).map (·.version)
        = [0, 0, 0, 1, 1, 1, 2, 2, 2, 2, 2] := by
  decide +kernel

end DiagramSync
