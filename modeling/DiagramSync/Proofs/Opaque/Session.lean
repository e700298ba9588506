import DiagramSync.Proofs.Opaque.World

/-!
# Requests under other ids

A request that names what it is about by other ids is answered in a session under these as the
request is in the session: the same is told to the same listeners, the same texts are written, and
the answer is the same, under other ids.

* `InHand.mapIds`, `followAll_mapIds` — what an edit hands back once everybody has been told
* `Reacts` — scripts under other ids are done alike
* `follows_commit`, `follows_requestedEdit` — edits
* `follows_readEdit`, `follows_goOn` — what controllers do, and time
* `follows_perform`, `reacts_runScript` — requests, and the scripts of listeners
* **`answer_mapIds`** — a request is answered alike
-/

namespace DiagramSync

open DiagramSync.Action

variable {g : Id → Id}

/-! ## What is handed back -/

/-- What is in hand, with the ids in it replaced by their images. -/
def InHand.mapIds (g : Id → Id) : InHand → InHand
  | nothing => nothing
  | entity e => entity (e.mapIds g)
  | field owner f => field (owner.map g) (f.mapIds g)

section Hand

lemma ofEdit_mapIds (edit : Edit) (edited : Edited) :
    InHand.ofEdit (edit.mapIds g) (edited.mapIds g) = (InHand.ofEdit edit edited).mapIds g := by
  cases edited with
  | field f => cases edit <;> rfl
  | _ => rfl

lemma edited_mapIds (h : InHand) : (h.mapIds g).edited = h.edited.mapIds g := by
  cases h <;> rfl

variable (hg : IsRelabeling g)
include hg

lemma beq_option (a b : Option Id) : (a.map g == b.map g) = (a == b) := by
  cases a with
  | none => cases b <;> rfl
  | some a => exact hg.beq_some a b

/-- What takes something out of the store takes it out under other ids. -/
lemma isDetachedBy_mapIds (h : InHand) (edit : Edit) :
    (h.mapIds g).isDetachedBy (edit.mapIds g) = h.isDetachedBy edit := by
  cases h with
  | nothing => cases edit <;> rfl
  | entity e =>
    cases edit with
    | deleteEntity id => exact beq_option hg id (some e.id)
    | _ => rfl
  | field owner f =>
    cases edit with
    | deleteEntity id => exact beq_option hg id owner
    | updateField e id updates =>
      exact congrArg₂ and (beq_option hg e owner) (beq_option hg id (some f.id))
    | deleteField e id =>
      exact congrArg₂ and (beq_option hg e owner) (beq_option hg id (some f.id))
    | _ => rfl

lemma refresh_mapIds (h : InHand) (es : List Entity) :
    (h.mapIds g).refresh (es.map (·.mapIds g)) = (h.refresh es).mapIds g := by
  cases h with
  | nothing => rfl
  | entity e =>
    have hfind : findEntity? (es.map (·.mapIds g)) (some (e.mapIds g).id)
        = (findEntity? es (some e.id)).map (·.mapIds g) := findEntity?_mapIds hg es (some e.id)
    rw [InHand.mapIds, InHand.refresh, InHand.refresh, hfind]
    cases findEntity? es (some e.id) <;> rfl
  | field owner f =>
    have hfield : ∀ e : Entity, (e.mapIds g).findField? (f.mapIds g).id
        = (e.findField? f.id).map (·.mapIds g) := fun e => findField?_mapIds hg e f.id
    rw [InHand.mapIds, InHand.refresh, InHand.refresh, findEntity?_mapIds hg]
    cases findEntity? es owner with
    | none => rfl
    | some e =>
      rw [Option.map_some, Option.bind_some, Option.bind_some, hfield]
      cases e.findField? f.id <;> rfl

/-- Later edits make the same of what is in hand. -/
lemma followAll_mapIds (h : InHand) (cs : List Commit) :
    (h.mapIds g).followAll (cs.map (·.mapIds g)) = (h.followAll cs).mapIds g := by
  induction cs generalizing h with
  | nil => rfl
  | cons c cs ih =>
    have hdetached : (h.mapIds g).isDetachedBy (c.mapIds g).edit = h.isDetachedBy c.edit :=
      isDetachedBy_mapIds hg h c.edit
    have hrefresh : (h.mapIds g).refresh (c.mapIds g).entities
        = (h.refresh c.entities).mapIds g := refresh_mapIds hg h c.entities
    rw [List.map_cons, InHand.followAll, InHand.followAll, hdetached, hrefresh, ih]
    split_ifs
    · rfl
    · rfl

end Hand

/-! ## Telling -/

/-- Scripts under other ids are done by the second reaction as the scripts are by the first. -/
def Reacts (g : Id → Id) (react react' : React) : Prop :=
  ∀ script, Request.AllWithin Request.OpensBlind script →
    Follows g id (react script) (react' (Request.mapAllIds g script))

section Run

variable (hg : IsRelabeling g) {react react' : React} (hreact : Reacts g react react')

include hreact

lemma follows_callListener (number : Nat) (event : String → Event) :
    Follows g id (callListener react number event) (callListener react' number event) := by
  refine follows_get_bind fun w hw => ?_
  have hget : (w.mapIds g).listeners[number]? = w.listeners[number]?.map (·.mapIds g) :=
    List.getElem?_map
  rw [hget]
  cases hl : w.listeners[number]? with
  | none => exact follows_pure ()
  | some l =>
    have hasks := hw.asks l (List.mem_of_getElem? hl)
    refine follows_bind (follows_note (event l.tag)) fun _ => ?_
    have hfails : (l.mapIds g).fails = l.fails := rfl
    dsimp only [Option.map_some]
    rw [hfails]
    split_ifs
    · exact follows_throw _
    · refine follows_bind (follows_modify (fun w hw => ⟨hw.resolvers, ?_⟩) fun w => ?_) fun _ =>
        ?_
      · exact (isKeptBySteps_asksWithin _).shift hw.asks (.call number)
      · have hlisteners : (w.listeners.map (·.mapIds g)).modify number Listener.called
            = (w.listeners.modify number Listener.called).map (·.mapIds g) :=
          modify_map called_mapIds w.listeners number
        exact congrArg (fun ls => { w.mapIds g with listeners := ls }) hlisteners
      · have hscript : Request.beforePause (l.mapIds g).script
            = Request.mapAllIds g (Request.beforePause l.script) := beforePause_mapAllIds l.script
        rw [hscript]
        exact hreact _ hasks.beforePause

omit hreact in
lemma follows_textOf (c : Nat) : Follows g id (textOf c) (textOf c) := by
  refine follows_get_bind fun w _ => ?_
  rw [getElem?_controllers_mapIds]
  cases w.controllers[c]? with
  | none => exact follows_pure _
  | some k => exact follows_pure _

include hg

/-- A controller writes the same text. -/
lemma follows_follow (c : Nat) (change : Change) :
    Follows g id (follow react c change) (follow react' c change) := by
  rw [follow, follow]
  split_ifs
  · exact follows_pure ()
  · refine follows_get_bind fun w _ => ?_
    have hwritten : generate (w.mapIds g).store.entities = generate w.store.entities :=
      generate_mapIds hg w.store.entities
    dsimp only
    rw [hwritten]
    refine follows_bind (follows_modifyController c (fun k => ?_) fun k => ?_) fun _ => ?_
    · split_ifs <;> rfl
    · have hpending : (k.mapIds g).debouncer.pending = k.debouncer.pending := rfl
      rw [hpending]
      split_ifs <;> rfl
    · refine follows_get_bind fun w' _ => ?_
      have hlistening : ((w'.mapIds g).controllers[c]?.map (·.textListeners)).getD []
          = (w'.controllers[c]?.map (·.textListeners)).getD [] := by
        rw [getElem?_controllers_mapIds]
        cases w'.controllers[c]? <;> rfl
      rw [hlistening]
      refine follows_forM_same _ fun number _ => ?_
      exact follows_bind (follows_textOf c) fun text => follows_callListener hreact number _

lemma follows_tell (change : Change) (s : Subscriber) :
    Follows g id (tell react change s) (tell react' change s) := by
  cases s with
  | controller c =>
    rw [tell, tell]
    exact follows_follow hg hreact c change
  | listener number =>
    rw [tell, tell]
    exact follows_callListener hreact number _

/-! ## Edits -/

omit hg hreact in
lemma operation_mapIds (edit : Edit) : (edit.mapIds g).operation = edit.operation := by
  cases edit <;> rfl

omit hg hreact in
lemma ownSource_mapIds (edit : Edit) : (edit.mapIds g).ownSource = edit.ownSource := by
  cases edit <;> rfl

omit hreact in
lemma follows_make (expected : Option Int) (edit : Edit) :
    Follows g (Prod.map (·.mapIds g) (·.mapIds g)) (make expected edit)
      (make expected (edit.mapIds g)) := by
  refine follows_get_bind fun w _ => ?_
  have happly := apply_draws hg w.unlinked expected edit w.store
  refine follows_bind (follows_editing happly) fun p => ?_
  exact follows_bind (follows_modify (fun w hw => ⟨hw.resolvers, hw.asks⟩) fun w => rfl)
    fun _ => follows_pure p

/-- An edit is made alike, and the same is told to the same subscribers. -/
lemma follows_commit (source : ChangeSource) (expected : Option Int) (edit : Edit) :
    Follows g (·.mapIds g) (commit react source expected edit)
      (commit react' source expected (edit.mapIds g)) := by
  refine follows_bind (follows_make hg expected edit) fun p => follows_get_bind fun w _ => ?_
  rw [operation_mapIds]
  exact follows_bind (follows_forM_same _ fun s _ => follows_tell hg hreact _ s) fun _ =>
    follows_pure p.2

omit hreact in
/-- What is no source speaks of no id. -/
lemma follows_commitUntold (other : Value) (expected : Option Int) (edit : Edit) :
    Follows g (·.mapIds g) (commitUntold other expected edit)
      (commitUntold other expected (edit.mapIds g)) := by
  refine follows_bind (follows_make hg expected edit) fun p => ?_
  rw [operation_mapIds]
  have hfault : (lateFault p.1.version edit.operation other).mapIds g
      = lateFault p.1.version edit.operation other := by
    unfold lateFault
    split <;> rfl
  exact follows_throw_same hfault

lemma follows_commitAndHandBack (source : ChangeSource) (expected : Option Int) (edit : Edit) :
    Follows g (·.mapIds g) (commitAndHandBack react source expected edit)
      (commitAndHandBack react' source expected (edit.mapIds g)) := by
  refine follows_get_bind fun w _ => ?_
  refine follows_bind (follows_commit hg hreact source expected edit) fun edited => ?_
  refine follows_get_bind fun w' _ => ?_
  have hlength : ∀ v : World, (v.mapIds g).commits.length = v.commits.length := fun v =>
    List.length_map _
  have hlater : ((w'.mapIds g).commits.take
        ((w'.mapIds g).commits.length - (w.mapIds g).commits.length - 1)).reverse
      = ((w'.commits.take (w'.commits.length - w.commits.length - 1)).reverse).map
        (·.mapIds g) := by
    rw [hlength, hlength, List.map_reverse, List.map_take]
    rfl
  dsimp only
  rw [hlater, ofEdit_mapIds, followAll_mapIds hg, edited_mapIds]
  exact follows_pure _

omit hg hreact in
lemma follows_expectedOf (terms : Terms) :
    Follows g id (expectedOf terms) (expectedOf terms) := by
  unfold expectedOf
  split
  · exact follows_pure _
  · exact follows_pure _
  · refine follows_get_bind fun w _ => ?_
    have hversion : (w.mapIds g).store.version = w.store.version := rfl
    dsimp only
    rw [hversion]
    split_ifs
    · exact follows_pure _
    · exact follows_throw _

/-- An edit that is asked for is made alike, if it is read alike. -/
lemma follows_requestedEdit (ownSource : ChangeSource) (terms : Terms) {edit edit' : Action Edit}
    (hedit : Follows g (·.mapIds g) edit edit') :
    Follows g (·.mapIds g) (requestedEdit react ownSource terms edit)
      (requestedEdit react' ownSource terms edit') := by
  have hgiven : ∀ e, terms.given ownSource = .error e → e.mapIds g = e := by
    intro e he
    rw [Terms.given] at he
    split at he
    · cases he
    · split at he
      · cases he
      · obtain rfl := Except.error.inj he
        rfl
    · cases he
  refine follows_bind (follows_ofExcept hgiven) fun given =>
    follows_bind hedit fun e => follows_bind (follows_expectedOf terms) fun expected => ?_
  cases given with
  | ok source => exact follows_commitAndHandBack hg hreact source expected e
  | error other => exact follows_commitUntold hg other expected e

/-! ## Controllers -/

omit hg hreact in
lemma follows_reject (c : Nat) (error : ParseError) :
    Follows g id (reject c error) (reject c error) := by
  refine follows_bind (follows_modifyController c (fun _ => rfl) fun _ => rfl) fun _ => ?_
  refine follows_get_bind fun w _ => ?_
  rw [getElem?_controllers_mapIds]
  cases w.controllers[c]? with
  | none => exact follows_pure ()
  | some k =>
    have hnotifies : (k.mapIds g).notifies = k.notifies := rfl
    dsimp only [Option.map_some]
    rw [hnotifies]
    split_ifs
    · exact follows_note _
    · exact follows_pure ()

omit hg hreact in
lemma follows_clearError (c : Nat) : Follows g id (clearError c) (clearError c) :=
  follows_modifyController c (fun _ => rfl) fun _ => rfl

/-- What was read is put into the store alike, or rejected alike: faults of duplicate names speak of
no id. -/
lemma follows_applyEntities (c : Nat) (parsed : List Entity) :
    Follows g id (applyEntities react c parsed)
      (applyEntities react' c (parsed.map (·.mapIds g))) := by
  refine follows_get_bind fun w _ => ?_
  have hmerged : reconcile (w.mapIds g).store.entities (parsed.map (·.mapIds g))
      = (reconcile w.store.entities parsed).map (·.mapIds g) :=
    reconcile_mapIds hg w.store.entities parsed
  have hsame : (reconcile w.store.entities parsed).map (·.mapIds g) = (w.mapIds g).store.entities
      ↔ reconcile w.store.entities parsed = w.store.entities := map_mapIds_inj hg
  dsimp only
  rw [hmerged]
  simp only [hsame]
  split_ifs
  · exact follows_clearError c
  · refine follows_tryCatch (follows_bind (follows_commit hg hreact _ _ _) fun _ =>
      follows_clearError c) fun e => ?_
    have hduplicate : (e.mapIds g).isDuplicateName = e.isDuplicateName := by
      cases e <;> rfl
    rw [hduplicate]
    split_ifs with hname
    · have hmessage : (e.mapIds g).message = e.message := by
        cases e with
        | entityNotFound id => exact absurd hname Bool.false_ne_true
        | fieldNotFound entity id => exact absurd hname Bool.false_ne_true
        | _ => rfl
      rw [hmessage]
      exact follows_reject c _
    · exact follows_throw e

/-- A controller reads its text alike, since its resolver does not look at ids. -/
lemma follows_readEdit (c : Nat) (generation : Int) :
    Follows g id (readEdit react c generation) (readEdit react' c generation) := by
  refine follows_get_bind fun w hw => ?_
  rw [getElem?_controllers_mapIds]
  cases hk : w.controllers[c]? with
  | none => exact follows_pure ()
  | some k =>
    have hblind := hw.resolvers k (List.mem_of_getElem? hk)
    have hparse : parse (k.mapIds g).resolver (w.mapIds g).unlinked (w.mapIds g).supply
          (k.mapIds g).text
        = ((parse k.resolver w.unlinked w.supply k.text).1.mapIds g,
          (parse k.resolver w.unlinked w.supply k.text).2.mapIds g) :=
      parse_mapIds hg hblind w.unlinked w.supply k.text
    have hedits : (k.mapIds g).editGeneration = k.editGeneration := rfl
    have hparsed : (k.mapIds g).parsedGeneration = k.parsedGeneration := rfl
    dsimp only [Option.map_some]
    rw [hparse, hedits, hparsed]
    generalize parse k.resolver w.unlinked w.supply k.text = p
    obtain ⟨outcome, supply⟩ := p
    split_ifs
    · exact follows_pure ()
    · have hdrawn : ({ w with supply } : World).IsBlind := ⟨hw.resolvers, hw.asks⟩
      refine follows_bind (follows_set hdrawn) fun _ => ?_
      refine follows_bind (follows_modifyController c (fun _ => rfl) fun _ => rfl) fun _ => ?_
      cases outcome with
      | rejected error ws => exact follows_reject c error
      | accepted es rs ws => exact follows_applyEntities hg hreact c es

omit hg hreact in
lemma follows_cancel (c : Nat) :
    Follows g id (Action.modifyController c fun k => { k with debouncer := k.debouncer.cancel })
      (Action.modifyController c fun k => { k with debouncer := k.debouncer.cancel }) :=
  follows_modifyController c (fun _ => rfl) fun _ => rfl

lemma follows_wake (c : Nat) : Follows g id (wake react c) (wake react' c) := by
  refine follows_bind (follows_cancel c) fun _ => follows_get_bind fun w _ => ?_
  rw [getElem?_controllers_mapIds]
  cases w.controllers[c]? with
  | none => exact follows_pure ()
  | some k => exact follows_readEdit hg hreact c k.editGeneration

lemma follows_flushController (c : Nat) :
    Follows g (Option.map (·.mapIds g)) (flushController react c) (flushController react' c) := by
  refine follows_get_bind fun w _ => ?_
  rw [getElem?_controllers_mapIds]
  cases w.controllers[c]? with
  | none => exact follows_pure none
  | some k =>
    have hpending : (k.mapIds g).debouncer.pending = k.debouncer.pending := rfl
    dsimp only [Option.map_some]
    rw [hpending]
    split_ifs
    · refine follows_bind (follows_wake hg hreact c) fun _ => follows_get_bind fun w' _ => ?_
      have hlast : (w'.mapIds g).controllers[c]?.bind (·.lastResult)
          = (w'.controllers[c]?.bind (·.lastResult)).map (·.mapIds g) := by
        rw [getElem?_controllers_mapIds]
        cases w'.controllers[c]? <;> rfl
      rw [hlast]
      exact follows_pure _
    · exact follows_pure none

omit hg hreact in
/-- A controller that has read nothing yet comes alike. -/
lemma follows_set_opened {w : World} (hw : w.IsBlind) {k : Controller}
    (hblind : k.resolver.IsBlind) (hnone : k.lastResult = none) (s : Subscriber) :
    Follows g id
      (set { w with controllers := w.controllers ++ [k], subscribers := w.subscribers ++ [s] } :
        Action Unit)
      (set { w.mapIds g with
        controllers := (w.mapIds g).controllers ++ [k]
        subscribers := (w.mapIds g).subscribers ++ [s] }) := by
  have hopened : ({ w with
      controllers := w.controllers ++ [k]
      subscribers := w.subscribers ++ [s] } : World).IsBlind := by
    refine ⟨fun k' hk' => ?_, hw.asks⟩
    rcases List.mem_append.mp hk' with hk' | hk'
    · exact hw.resolvers k' hk'
    · rwa [List.mem_singleton.mp hk']
  have hsame : k.mapIds g = k := by
    rw [Controller.mapIds, hnone, Option.map_none, ← hnone]
  have hmapped : (w.controllers ++ [k]).map (·.mapIds g) = (w.mapIds g).controllers ++ [k] := by
    rw [List.map_append, List.map_singleton, hsame]
    rfl
  have hworld : ({ w with
        controllers := w.controllers ++ [k], subscribers := w.subscribers ++ [s] } : World).mapIds g
      = { w.mapIds g with
        controllers := (w.mapIds g).controllers ++ [k]
        subscribers := (w.mapIds g).subscribers ++ [s] } :=
    congrArg (fun ks => { w.mapIds g with
      controllers := ks, subscribers := w.subscribers ++ [s] }) hmapped
  rw [← hworld]
  exact follows_set hopened

omit hreact in
/-- A controller is opened with the same text. -/
lemma follows_openController {delay : Option Int} {resolver : Option Resolver} {notifies : Bool}
    (hblind : (Request.openController delay resolver notifies).OpensBlind) :
    Follows g id (openController delay resolver notifies)
      (openController delay resolver notifies) := by
  refine follows_get_bind fun w hw => ?_
  have hdelay : ∀ e, Debouncer.ofDelay (delay.getD w.delay) = .error e → e.mapIds g = e := by
    intro e he
    rw [Debouncer.ofDelay] at he
    split_ifs at he
    obtain rfl := Except.error.inj he
    rfl
  have hwritten : generate (w.mapIds g).store.entities = generate w.store.entities :=
    generate_mapIds hg w.store.entities
  have hnumber : (w.mapIds g).controllers.length = w.controllers.length := List.length_map _
  have hresolver : (resolver.getD .byLabel).IsBlind := by
    cases resolver with
    | none => exact isBlind_byLabel
    | some resolver => exact hblind
  refine follows_bind (follows_ofExcept hdelay) fun debouncer => ?_
  dsimp only
  rw [hwritten, hnumber]
  exact follows_bind (follows_set_opened hw hresolver rfl _) fun _ => follows_pure _

omit hg hreact in
lemma follows_typeText (c : Nat) (text : Option String) (replacement : Option (String × String))
    (addition : Option String) (inLoop : Bool) :
    Follows g id (typeText c text replacement addition inLoop)
      (typeText c text replacement addition inLoop) := by
  refine follows_get_bind fun w _ => ?_
  rw [getElem?_controllers_mapIds]
  cases w.controllers[c]? with
  | none => exact follows_pure ()
  | some k =>
    have hclock : ∀ e, k.debouncer.trigger inLoop w.clock = .error e → e.mapIds g = e := by
      intro e he
      rw [Debouncer.trigger] at he
      split_ifs at he
      obtain rfl := Except.error.inj he
      rfl
    refine follows_bind (follows_modifyController c (fun _ => rfl) fun _ => rfl) fun _ => ?_
    refine follows_bind (follows_ofExcept hclock) fun p => ?_
    refine follows_bind (follows_modify (fun w hw => ⟨hw.resolvers, hw.asks⟩) fun _ => rfl)
      fun _ => ?_
    exact follows_modifyController c (fun _ => rfl) fun _ => rfl

omit hg hreact in
lemma follows_closeController (c : Nat) :
    Follows g id (closeController c) (closeController c) :=
  follows_bind (follows_cancel c) fun _ =>
    follows_modify (fun _ hw => ⟨hw.resolvers, hw.asks⟩) fun _ => rfl

/-! ## Time -/

omit hg hreact in
lemma follows_tick {clock : World → Clock} (hclock : ∀ w : World, clock (w.mapIds g) = clock w) :
    Follows g id (modify fun w => { w with clock := clock w } : Action Unit)
      (modify fun w => { w with clock := clock w }) := by
  refine follows_modify (fun _ hw => ⟨hw.resolvers, hw.asks⟩) fun w => ?_
  rw [hclock]
  rfl

lemma follows_ring (time rounds : Nat) :
    Follows g id (ring react time rounds) (ring react' time rounds) := by
  induction rounds with
  | zero => exact follows_pure ()
  | succ rounds ih =>
    refine follows_get_bind fun w _ => ?_
    rw [firstDue?_mapIds]
    cases w.firstDue? time with
    | none => exact follows_pure ()
    | some p =>
      refine follows_bind (follows_tick fun _ => rfl) fun _ => ?_
      exact follows_bind (follows_wake hg hreact p.1) fun _ => ih

lemma follows_goOn (ms : Nat) : Follows g id (goOn react ms) (goOn react' ms) := by
  refine follows_get_bind fun w _ => ?_
  have harmed : (w.mapIds g).armed = w.armed := List.countP_map
  have hclock : (w.mapIds g).clock = w.clock := rfl
  dsimp only
  rw [worldWeight_mapIds, harmed, hclock]
  exact follows_bind (follows_ring hg hreact _ _) fun _ => follows_tick fun _ => rfl

/-! ## Listeners -/

omit hg hreact in
lemma follows_register {l : Listener} (hl : Request.AllWithin Request.OpensBlind l.script) :
    Follows g id (register l) (register (l.mapIds g)) := by
  have hnumber : ∀ w : World, (w.mapIds g).listeners.length = w.listeners.length := fun _ =>
    List.length_map _
  have hlisteners : ∀ w : World, (w.mapIds g).listeners ++ [l.mapIds g]
      = (w.listeners ++ [l]).map (·.mapIds g) := by
    intro w
    rw [List.map_append]
    rfl
  obtain ⟨tag, station, script, fails⟩ := l
  cases station with
  | store =>
    refine follows_modify (fun w hw => ⟨hw.resolvers, ?_⟩) fun w => ?_
    · exact (isKeptBySteps_asksWithin _).shift hw.asks (.subscribe hl)
    · exact congrArg₂ (fun ls n => { w.mapIds g with
        listeners := ls, subscribers := w.subscribers ++ [Subscriber.listener n] })
        (hlisteners w) (hnumber w)
  | controller c =>
    refine follows_modify (fun w hw => ?_) fun w => ?_
    · have henlisted := (isKeptBySteps_asksWithin _).shift hw.asks (.enlist hl)
      have hblind : ({ w with listeners := w.listeners ++ [_] } : World).IsBlind :=
        ⟨hw.resolvers, henlisted⟩
      exact hblind.modifyController c fun _ => rfl
    · refine (congrArg₂ (fun ls n => World.modifyController c
        (fun k => { k with textListeners := k.textListeners ++ [n] })
        { w.mapIds g with listeners := ls }) (hlisteners w) (hnumber w)).trans ?_
      exact modifyController_mapIds (by exact fun _ => rfl) c
        { w with listeners := w.listeners ++ [_] }

omit hg hreact in
lemma follows_unregister (tag : String) :
    Follows g id (unregister tag) (unregister tag) := by
  have hlatest : ∀ w : World, latest? tag (w.mapIds g).listeners = latest? tag w.listeners := by
    intro w
    have hlisteners : (w.mapIds g).listeners = w.listeners.map (·.mapIds g) := rfl
    rw [latest?, latest?, hlisteners, List.zipIdx_map, ← List.map_reverse, List.find?_map,
      Option.map_map]
    rfl
  refine follows_modify (fun w hw => ?_) fun w => ?_
  · split
    · exact hw
    · exact ⟨hw.resolvers, hw.asks⟩
    · exact hw.modifyController _ fun _ => rfl
  · rw [hlatest]
    split
    · rfl
    · rfl
    · exact modifyController_mapIds (by exact fun _ => rfl) _ w

end Run

/-! ## Requests -/

/-- An answer with the ids in it replaced by their images. -/
def Answer.mapIds (g : Id → Id) : Answer → Answer
  | entity e => entity (e.mapIds g)
  | field f => field (f.mapIds g)
  | outcome o => outcome (o.mapIds g)
  | a => a

lemma ofEdited_mapIds (edited : Edited) :
    Answer.ofEdited (edited.mapIds g) = (Answer.ofEdited edited).mapIds g := by
  cases edited <;> rfl

section Perform

variable (hg : IsRelabeling g) {react react' : React}
include hg

lemma follows_readReference (v : Value) :
    Follows g (Option.map (·.mapIds g)) (readReference v) (readReference (v.mapIds g)) := by
  have hread : Draws g (Fault.mapIds g) (·.mapIds g)
      (Editing.ofReader (Reference.read v)) (Editing.ofReader (Reference.read (v.mapIds g))) :=
    ofReader_draws (ofChecked_draws (referenceCheck_alike hg v))
  cases v with
  | null => exact follows_pure none
  | _ => exact follows_map (follows_editing hread) fun _ => rfl

/-- A request is done alike, if nobody looks at ids. -/
lemma follows_perform (hreact : Reacts g react react') {r : Request}
    (hr : r.Within Request.OpensBlind) :
    Follows g (·.mapIds g) (perform react r) (perform react' (r.mapIds g)) := by
  cases r with
  | change edit terms =>
    show Follows g _ (perform react (.change edit terms))
      (perform react' (.change (edit.mapIds g) terms))
    rw [perform, perform, ownSource_mapIds]
    exact follows_map (follows_requestedEdit hg hreact _ terms (follows_pure edit)) ofEdited_mapIds
  | addPointing entity attributes reference terms =>
    refine follows_map (follows_requestedEdit hg hreact .editor terms ?_) ofEdited_mapIds
    exact follows_bind (follows_readReference hg reference) fun reference => follows_pure _
  | replaceAll entities terms =>
    refine follows_map (follows_requestedEdit hg hreact .import terms ?_) ofEdited_mapIds
    exact follows_bind (follows_editing (ofReader_draws (readAll_draws hg entities))) fun es =>
      follows_pure _
  | getEntity entity =>
    refine follows_get_bind fun w _ => ?_
    exact follows_bind (follows_editing (demandEntity_draws hg w.store.entities entity)) fun e =>
      follows_pure _
  | findEntity name =>
    show Follows g _ (perform react (.findEntity name)) (perform react' (.findEntity name))
    rw [perform, perform]
    cases name.nameText with
    | error shape => exact follows_throw _
    | ok name =>
      refine follows_get_bind fun w _ => ?_
      have hfind : (w.mapIds g).store.findNamed? name
          = (w.store.findNamed? name).map (·.mapIds g) := findNamed?_mapIds g name w.store
      rw [hfind]
      cases w.store.findNamed? name with
      | none => exact follows_pure _
      | some e => exact follows_pure _
  | diagram =>
    refine follows_get_bind fun w _ => ?_
    have hwritten : generate (w.mapIds g).store.entities = generate w.store.entities :=
      generate_mapIds hg w.store.entities
    rw [hwritten]
    exact follows_pure _
  | count =>
    refine follows_get_bind fun w _ => ?_
    have hcount : (w.mapIds g).store.entities.length = w.store.entities.length :=
      List.length_map _
    rw [hcount]
    exact follows_pure _
  | subscribe tag script fails =>
    exact follows_bind (follows_register (l := ⟨tag, .store, script, fails⟩) hr.2) fun _ =>
      follows_pure _
  | watchText tag c script fails =>
    exact follows_bind (follows_register (l := ⟨tag, .controller c, script, fails⟩) hr.2) fun _ =>
      follows_pure _
  | unsubscribe tag => exact follows_bind (follows_unregister tag) fun _ => follows_pure _
  | openController delay resolver notifies =>
    exact follows_bind (follows_openController hg hr) fun _ => follows_pure _
  | typeText c text replacement addition inLoop =>
    exact follows_bind (follows_typeText c text replacement addition inLoop) fun _ =>
      follows_pure _
  | flush c =>
    refine follows_bind (follows_flushController hg hreact c) fun outcome => ?_
    cases outcome with
    | none => exact follows_pure _
    | some outcome => exact follows_pure _
  | applyEdit c generation =>
    exact follows_bind (follows_readEdit hg hreact c generation) fun _ => follows_pure _
  | close c => exact follows_bind (follows_closeController c) fun _ => follows_pure _
  | advance ms => exact follows_bind (follows_goOn hg hreact ms) fun _ => follows_pure _
  | pause => exact follows_pure _

/-- The scripts of listeners are done alike, however deep they call each other. -/
lemma reacts_runScript (depth : Nat) : Reacts g (runScript depth) (runScript depth) := by
  induction depth with
  | zero => exact fun _ _ => follows_pure ()
  | succ depth ih =>
    intro script hscript
    rw [runScript, runScript, mapAllIds_eq]
    exact follows_forM script fun r hr =>
      follows_bind (follows_perform hg ih (hscript.mem hr)) fun _ => follows_pure ()

/-- **A request is answered alike under other ids**, if nobody looks at them. -/
theorem answer_mapIds {w : World} (hw : w.IsBlind) {r : Request}
    (hr : r.Within Request.OpensBlind) :
    (answer r w).2.IsBlind ∧
      answer (r.mapIds g) (w.mapIds g)
        = (mapResult g (·.mapIds g) (answer r w).1, (answer r w).2.mapIds g) := by
  have hforgotten : ({ w with events := [] } : World).IsBlind := ⟨hw.resolvers, hw.asks⟩
  have hweight : (w.mapIds g).weight + (r.mapIds g).weight = w.weight + r.weight := by
    rw [worldWeight_mapIds, weight_mapIds]
  have hperform := follows_perform hg (reacts_runScript hg (w.weight + r.weight)) hr
  rw [answer, answer, hweight]
  exact hperform _ hforgotten

end Perform

end DiagramSync
