import DiagramSync.Proofs.Model.Ids
import DiagramSync.Proofs.Opaque.Mentions

/-!
# Scripts

A script says what is done one after the other: texts are read, models are reconciled, requests are
asked for.  It speaks of ids that come up on the way by names of its own, each of which stands for an
id at some position among those that are shown after a step.  So the same script can be run with any
supply of ids.

* `Scene` — the result of a step, and the session after it
* `Origin`, `Names` — the ids that a script has names for
* `ModelTerm`, `Script.Step` — models that a script speaks of, and what it can do
* `Script.run` — the scenes of a script
* `Scene.mapIds`, `resolve_mapIds` — scenes under other ids, and what names stand for in them
* **`run_mapIds`** — a script is run alike under other ids
-/

namespace DiagramSync

/-! ## Scenes -/

/-- What a step of a script results in. -/
inductive StepResult where
  /-- A text was read. -/
  | read (outcome : ParseOutcome)
  /-- A model was reconciled. -/
  | model (es : List Entity)
  /-- A request was answered. -/
  | answer (result : Except Fault Answer)

/-- The entities that a result shows. -/
def StepResult.entities : StepResult → List Entity
  | read outcome => outcome.entities
  | model es => es
  | answer (.ok (.entity e)) => [e]
  | answer (.ok (.outcome outcome)) => outcome.entities
  | answer _ => []

/-- The ids that a result shows. -/
def StepResult.ids : StepResult → List Id
  | answer (.ok (.field f)) => [f.id]
  | r => modelIds r.entities

/-- The result of a step, and the session after it. -/
structure Scene where
  /-- The result of the step. -/
  result : StepResult
  /-- The session after it. -/
  after : World

/-- The ids that are shown after a step: those of its result, and those of the store. -/
def Scene.ids (s : Scene) : List Id :=
  s.result.ids ++ modelIds s.after.store.entities

/-! ## Names -/

/-- Where an id comes from: its position among those that are shown after a step. -/
structure Origin where
  /-- The number of the step. -/
  step : Nat
  /-- The position. -/
  position : Nat
  deriving Repr, DecidableEq

/-- The id that comes from there, if there is one yet. -/
def Origin.find? (past : List Scene) (o : Origin) : Option Id :=
  past[o.step]?.bind fun s => s.ids[o.position]?

/-- The ids that a script uses as names, and where the ids come from that they stand for. -/
abbrev Names :=
  List (Id × Origin)

/-- What an id stands for.  One that is no name, or that stands for nothing yet, stands for
itself. -/
def Names.resolve (names : Names) (past : List Scene) (id : Id) : Id :=
  ((names.find? fun n => n.1 == id).bind fun n => n.2.find? past).getD id

/-- A model that a script speaks of. -/
inductive ModelTerm where
  /-- A model that is written down, with names in it. -/
  | written (es : List Entity)
  /-- What the result of a step shows. -/
  | shown (step : Nat)
  /-- What was in the store after a step. -/
  | stored (step : Nat)

/-- The model that is meant. -/
def ModelTerm.find (names : Names) (past : List Scene) : ModelTerm → List Entity
  | written es => es.map (·.mapIds (names.resolve past))
  | shown n => (past[n]?.map (·.result.entities)).getD []
  | stored n => (past[n]?.map (·.after.store.entities)).getD []

/-- The ids that are mentioned where a model is written down. -/
def ModelTerm.mentions : ModelTerm → List Id
  | written es => es.flatMap Entity.mentions
  | _ => []

/-! ## Scripts -/

namespace Script

/-- What a script can do. -/
inductive Step where
  /-- A text is read on its own. -/
  | parse (resolver : Resolver) (text : String)
  /-- A model is reconciled with another one. -/
  | reconcile (current parsed : ModelTerm)
  /-- A model is put in place of the entities of the store. -/
  | replace (model : ModelTerm) (terms : Terms)
  /-- Anything is asked of the session. -/
  | ask (request : Request)

/-- The ids that a step mentions. -/
def Step.mentions : Step → List Id
  | parse .. => []
  | reconcile current parsed => current.mentions ++ parsed.mentions
  | replace model _ => model.mentions
  | ask request => request.mentions

/-- The step brings no resolver that looks at ids. -/
def Step.IsBlind : Step → Prop
  | parse resolver _ => resolver.IsBlind
  | ask request => request.Within Request.OpensBlind
  | _ => True

/-- What a step does in a session after some scenes.  What listeners still have to ask for may hold
names that have come to stand for something by then. -/
def Step.play (names : Names) (past : List Scene) (w : World) : Step → Scene
  | parse resolver text =>
    let (outcome, supply) := DiagramSync.parse resolver w.unlinked w.supply text
    ⟨.read outcome, { w with supply, events := [] }⟩
  | reconcile current parsed =>
    ⟨.model (DiagramSync.reconcile (current.find names past) (parsed.find names past)),
      { w with events := [] }⟩
  | replace model terms =>
    let (result, w) := answer (.change (.setEntities (model.find names past)) terms)
      (w.mapScriptIds (names.resolve past))
    ⟨.answer result, w⟩
  | ask request =>
    let (result, w) := answer (request.mapIds (names.resolve past))
      (w.mapScriptIds (names.resolve past))
    ⟨.answer result, w⟩

/-- The scenes of some steps, after those that there were before. -/
def playAll (names : Names) : List Scene → World → List Step → List Scene
  | past, _, [] => past
  | past, w, s :: rest =>
    let scene := s.play names past w
    playAll names (past ++ [scene]) scene.after rest

end Script

/-- What is done one after the other in a session that starts with some entities. -/
structure Script where
  /-- The names for ids that come up on the way. -/
  names : Names := []
  /-- The entities at the start. -/
  initial : List Entity := []
  /-- The cardinality of a foreign key before it is linked. -/
  unlinked : Cardinality := .manyToOne
  /-- The delay of a controller that is opened without one. -/
  delay : Nat := 400
  /-- What is done. -/
  steps : List Script.Step

namespace Script

/-- The session at the start, with the ids to come. -/
def start (s : Script) (mint : Nat → Id) : World where
  store := { entities := s.initial }
  supply := { mint }
  unlinked := s.unlinked
  delay := s.delay

/-- The scenes of a script that is run with a supply of ids. -/
def run (s : Script) (mint : Nat → Id) : List Scene :=
  playAll s.names [] (s.start mint) s.steps

/-- The ids that a script gives: its names, and what it mentions. -/
def given (s : Script) : List Id :=
  s.names.map (·.1) ++ s.initial.flatMap Entity.mentions ++ s.steps.flatMap Step.mentions

/-- The script brings no resolver that looks at ids. -/
def IsBlind (s : Script) : Prop :=
  ∀ step ∈ s.steps, step.IsBlind

end Script

/-! ## Scenes under other ids -/

/-- A result with the ids in it replaced by their images. -/
def StepResult.mapIds (g : Id → Id) : StepResult → StepResult
  | read outcome => read (outcome.mapIds g)
  | model es => model (es.map (·.mapIds g))
  | answer result => answer (mapResult g (·.mapIds g) result)

/-- A scene with the ids in it replaced by their images. -/
def Scene.mapIds (g : Id → Id) (s : Scene) : Scene :=
  ⟨s.result.mapIds g, s.after.mapIds g⟩

section Scenes

variable {g : Id → Id}

lemma modelIds_mapIds (es : List Entity) :
    modelIds (es.map (·.mapIds g)) = (modelIds es).map g := by
  rw [modelIds, modelIds, List.flatMap_map, List.map_flatMap]
  refine List.flatMap_congr fun e _ => ?_
  rw [Entity.allIds, Entity.allIds, List.map_cons, List.map_map, Entity.mapIds, List.map_map]
  rfl

lemma resultEntities_mapIds (r : StepResult) :
    (r.mapIds g).entities = r.entities.map (·.mapIds g) := by
  have houtcome : ∀ o : ParseOutcome, (o.mapIds g).entities = o.entities.map (·.mapIds g) := by
    intro o
    cases o <;> rfl
  cases r with
  | read outcome => exact houtcome outcome
  | model es => rfl
  | answer result =>
    cases result with
    | error e => rfl
    | ok a =>
      cases a with
      | outcome o => exact houtcome o
      | _ => rfl

/-- After a step the same ids are shown, under other ids. -/
lemma sceneIds_mapIds (s : Scene) : (s.mapIds g).ids = s.ids.map g := by
  have hresult : (s.result.mapIds g).ids = s.result.ids.map g := by
    have hmodel : modelIds (s.result.mapIds g).entities = (modelIds s.result.entities).map g := by
      rw [resultEntities_mapIds, modelIds_mapIds]
    cases hresult : s.result with
    | answer result =>
      rw [hresult] at hmodel
      cases result with
      | error e => exact hmodel
      | ok a =>
        cases a with
        | field f => rfl
        | _ => exact hmodel
    | _ =>
      rw [hresult] at hmodel
      exact hmodel
  have hstore : modelIds (s.mapIds g).after.store.entities
      = (modelIds s.after.store.entities).map g := modelIds_mapIds s.after.store.entities
  rw [Scene.ids, Scene.ids, hstore, List.map_append, ← hresult]
  rfl

lemma origin_mapIds (past : List Scene) (o : Origin) :
    o.find? (past.map (·.mapIds g)) = (o.find? past).map g := by
  rw [Origin.find?, Origin.find?, List.getElem?_map]
  cases past[o.step]? with
  | none => rfl
  | some s =>
    rw [Option.map_some, Option.bind_some, Option.bind_some, sceneIds_mapIds, List.getElem?_map]

variable (hg : IsRelabeling g) {names : Names} (hnames : ∀ n ∈ names, g n.1 = n.1)
include hg hnames

/-- Under other ids, names stand for what they stood for, if they are not replaced themselves. -/
lemma resolve_mapIds (past : List Scene) (id : Id) :
    names.resolve (past.map (·.mapIds g)) (g id) = g (names.resolve past id) := by
  have hkept : names.map (fun n => (g n.1, n.2)) = names := by
    conv_rhs => rw [← List.map_id names]
    exact List.map_congr_left fun n hn => Prod.ext (hnames n hn) rfl
  have hfind : names.find? (fun n => n.1 == g id)
      = (names.find? fun n => n.1 == id).map fun n => (g n.1, n.2) := by
    conv_lhs => rw [← hkept]
    exact find?_map_of_iff (fun n => hg.beq n.1 id) names
  rw [Names.resolve, Names.resolve, hfind]
  cases names.find? fun n => n.1 == id with
  | none => rfl
  | some n =>
    rw [Option.map_some, Option.bind_some, Option.bind_some, origin_mapIds]
    cases n.2.find? past <;> rfl

lemma termFind_mapIds (past : List Scene) {t : ModelTerm} (ht : ∀ id ∈ t.mentions, g id = id) :
    t.find names (past.map (·.mapIds g)) = (t.find names past).map (·.mapIds g) := by
  cases t with
  | written es =>
    refine (model_mapIds_trans fun id hid => ?_).symm
    rw [← resolve_mapIds hg hnames, ht id hid]
  | shown n =>
    rw [ModelTerm.find, ModelTerm.find, List.getElem?_map]
    cases past[n]? with
    | none => rfl
    | some s => exact resultEntities_mapIds s.result
  | stored n =>
    rw [ModelTerm.find, ModelTerm.find, List.getElem?_map]
    cases past[n]? with
    | none => rfl
    | some s => rfl

/-- **A step is played alike under other ids.** -/
theorem play_mapIds (past : List Scene) {w : World} (hw : w.IsBlind) {step : Script.Step}
    (hblind : step.IsBlind) (hstep : ∀ id ∈ step.mentions, g id = id) :
    (step.play names past w).after.IsBlind ∧
      step.play names (past.map (·.mapIds g)) (w.mapIds g)
        = (step.play names past w).mapIds g := by
  have hscripts : (w.mapIds g).mapScriptIds (names.resolve (past.map (·.mapIds g)))
      = (w.mapScriptIds (names.resolve past)).mapIds g :=
    mapScriptIds_mapIds (resolve_mapIds hg hnames past) w
  have hwritten := hw.mapScriptIds (names.resolve past)
  cases step with
  | parse resolver text =>
    refine ⟨⟨hw.resolvers, hw.asks⟩, ?_⟩
    have hparse : parse resolver (w.mapIds g).unlinked (w.mapIds g).supply text
        = ((parse resolver w.unlinked w.supply text).1.mapIds g,
          (parse resolver w.unlinked w.supply text).2.mapIds g) :=
      parse_mapIds hg hblind w.unlinked w.supply text
    rw [Script.Step.play, Script.Step.play, hparse]
    rfl
  | reconcile current parsed =>
    refine ⟨⟨hw.resolvers, hw.asks⟩, ?_⟩
    have hcurrent := termFind_mapIds hg hnames past fun id hid =>
      hstep id (List.mem_append_left _ hid)
    have hparsed := termFind_mapIds hg hnames past fun id hid =>
      hstep id (List.mem_append_right _ hid)
    rw [Script.Step.play, Script.Step.play, hcurrent, hparsed, reconcile_mapIds hg]
    rfl
  | replace model terms =>
    have hmodel := termFind_mapIds hg hnames past hstep
    obtain ⟨hafter, hanswer⟩ := answer_mapIds hg hwritten
      (r := .change (.setEntities (model.find names past)) terms) trivial
    refine ⟨hafter, ?_⟩
    have hrequest : (Request.change (.setEntities (model.find names past)) terms).mapIds g
        = .change (.setEntities ((model.find names past).map (·.mapIds g))) terms := rfl
    rw [Script.Step.play, Script.Step.play, hmodel, hscripts, ← hrequest, hanswer]
    rfl
  | ask request =>
    have hrequest : (request.mapIds (names.resolve past)).mapIds g
        = request.mapIds (names.resolve (past.map (·.mapIds g))) := by
      refine request_mapIds_trans request fun id hid => ?_
      rw [← resolve_mapIds hg hnames, hstep id hid]
    obtain ⟨hafter, hanswer⟩ := answer_mapIds hg hwritten (within_mapIds _ request hblind)
    refine ⟨hafter, ?_⟩
    rw [Script.Step.play, Script.Step.play, hscripts, ← hrequest, hanswer]
    rfl

/-- Steps are played alike one after the other. -/
lemma playAll_mapIds {steps : List Script.Step} (hblind : ∀ step ∈ steps, step.IsBlind)
    (hsteps : ∀ id ∈ steps.flatMap Script.Step.mentions, g id = id) (past : List Scene)
    {w : World} (hw : w.IsBlind) :
    Script.playAll names (past.map (·.mapIds g)) (w.mapIds g) steps
      = (Script.playAll names past w steps).map (·.mapIds g) := by
  induction steps generalizing past w with
  | nil => rfl
  | cons step steps ih =>
    have hmentions : ∀ id ∈ step.mentions, g id = id := fun id hid =>
      hsteps id (List.mem_flatMap_of_mem List.mem_cons_self hid)
    have hstep := hblind step List.mem_cons_self
    obtain ⟨hafter, hplay⟩ := play_mapIds hg hnames past hw hstep hmentions
    have hpast : past.map (·.mapIds g) ++ [(step.play names past w).mapIds g]
        = (past ++ [step.play names past w]).map (·.mapIds g) := by
      rw [List.map_append]
      rfl
    rw [Script.playAll, Script.playAll, hplay, hpast]
    refine ih (fun s hs => hblind s (List.mem_cons_of_mem step hs)) (fun id hid => ?_) _ hafter
    rw [List.flatMap_cons] at hsteps
    exact hsteps id (List.mem_append_right _ hid)

end Scenes

/-- **A script is run alike under other ids**, if those that it gives are not replaced. -/
theorem run_mapIds {g : Id → Id} (hg : IsRelabeling g) {s : Script} (hblind : s.IsBlind)
    (hgiven : ∀ id ∈ s.given, g id = id) (mint : Nat → Id) :
    s.run (fun n => g (mint n)) = (s.run mint).map (·.mapIds g) := by
  have hnames : ∀ n ∈ s.names, g n.1 = n.1 := fun n hn =>
    hgiven n.1 (List.mem_append_left _ (List.mem_append_left _ (List.mem_map_of_mem hn)))
  have hinitial : s.initial.map (·.mapIds g) = s.initial :=
    model_mapIds_fixed fun id hid =>
      hgiven id (List.mem_append_left _ (List.mem_append_right _ hid))
  have hstart : s.start (fun n => g (mint n)) = (s.start mint).mapIds g :=
    congrArg (fun es => { s.start (fun n => g (mint n)) with store := { entities := es } })
      hinitial.symm
  have hw : (s.start mint).IsBlind :=
    ⟨fun _ hk => absurd hk List.not_mem_nil, fun _ hl => absurd hl List.not_mem_nil⟩
  rw [Script.run, Script.run, hstart]
  exact playAll_mapIds hg hnames hblind
    (fun id hid => hgiven id (List.mem_append_right _ hid)) [] hw

end DiagramSync
