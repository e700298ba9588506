import DiagramSync.Proofs.Opaque.Session

/-!
# The ids that are mentioned

A request mentions the ids that it names, with those in the models, records and scripts that come
with it.  Nothing else of it changes when ids are replaced, so that replacing them once and once more
is the same as replacing those that it mentions at once.

* `Value.mentions`, `Entity.mentions`, `Edit.mentions`, `Request.mentions` — the ids mentioned
* `request_mapIds_trans`, `entity_mapIds_trans` — ids replaced twice
* `within_mapIds` — whether a request looks at ids does not depend on them
* `world_mapIds_trans`, `mapScriptIds_mapIds` — sessions, and the scripts in them
-/

namespace DiagramSync

/-! ## Mentions -/

mutual

/-- The ids in a loose value: the texts under the attributes that hold ids. -/
def Value.mentions : Value → List Id
  | .list vs => Value.itemMentions vs
  | .record as => Value.attributeMentions as
  | _ => []

/-- The ids in the items of a list. -/
def Value.itemMentions : List Value → List Id
  | [] => []
  | v :: vs => v.mentions ++ Value.itemMentions vs

/-- The ids in the attributes of a record. -/
def Value.attributeMentions : List (String × Value) → List Id
  | [] => []
  | (name, v) :: as =>
    let here :=
      match v with
      | .text s => if idAttributes.contains name then [⟨s⟩] else []
      | _ => v.mentions
    here ++ Value.attributeMentions as

end

/-- The ids of what a reference points at. -/
def Reference.mentions (r : Reference) : List Id :=
  [r.target, r.targetField]

/-- The ids of a reference that need not be there. -/
def Reference.mentions? (r : Option Reference) : List Id :=
  (r.map Reference.mentions).getD []

/-- The ids in a field. -/
def Field.mentions (f : Field) : List Id :=
  f.id :: Reference.mentions? f.reference

/-- The ids in an entity. -/
def Entity.mentions (e : Entity) : List Id :=
  e.id :: e.fields.flatMap Field.mentions

/-- The ids that an edit mentions. -/
def Edit.mentions : Edit → List Id
  | addEntity _ => []
  | renameEntity e _ => e.toList
  | deleteEntity e => e.toList
  | addField e n => e.toList ++ Reference.mentions? n.reference
  | updateField e f updates => e.toList ++ f.toList ++ updates.flatMap fun u => u.2.mentions
  | deleteField e f => e.toList ++ f.toList
  | setEntities es => es.flatMap Entity.mentions

mutual

/-- The ids that a request mentions, with those that its script mentions. -/
def Request.mentions : Request → List Id
  | .change edit _ => edit.mentions
  | .addPointing e _ reference _ => e.toList ++ reference.mentions
  | .replaceAll vs _ => vs.flatMap Value.mentions
  | .getEntity e => e.toList
  | .subscribe _ script _ => Request.allMentions script
  | .watchText _ _ script _ => Request.allMentions script
  | _ => []

/-- The ids that the requests of a script mention. -/
def Request.allMentions : List Request → List Id
  | [] => []
  | r :: rs => r.mentions ++ Request.allMentions rs

end

/-! ## Ids replaced twice -/

section Trans

variable {g k h : Id → Id}

mutual

lemma value_mapIds_trans : ∀ v : Value, (∀ id ∈ v.mentions, k (g id) = h id) →
    (v.mapIds g).mapIds k = v.mapIds h
  | .list vs, hid => congrArg Value.list (items_mapIds_trans vs hid)
  | .record as, hid => congrArg Value.record (attributes_mapIds_trans as hid)
  | .null, _ | .flag _, _ | .whole _, _ | .decimal _, _ | .text _, _ => rfl

lemma items_mapIds_trans : ∀ vs : List Value, (∀ id ∈ Value.itemMentions vs, k (g id) = h id) →
    Value.renameItems idAttributes (fun s => (k ⟨s⟩).text)
        (Value.renameItems idAttributes (fun s => (g ⟨s⟩).text) vs)
      = Value.renameItems idAttributes (fun s => (h ⟨s⟩).text) vs
  | [], _ => rfl
  | v :: vs, hid => congrArg₂ List.cons
      (value_mapIds_trans v fun id hv => hid id (List.mem_append_left _ hv))
      (items_mapIds_trans vs fun id hvs => hid id (List.mem_append_right _ hvs))

lemma attributes_mapIds_trans : ∀ as : List (String × Value),
    (∀ id ∈ Value.attributeMentions as, k (g id) = h id) →
      Value.mapAttributes k (Value.mapAttributes g as) = Value.mapAttributes h as
  | [], _ => rfl
  | (name, v) :: as, hid => by
    have hrest := attributes_mapIds_trans as fun id has => hid id (List.mem_append_right _ has)
    have hvalue := value_mapIds_trans v
    have hhere : (v.mapUnder g name).mapUnder k name = v.mapUnder h name := by
      have hmentions := fun id hv => hid id (List.mem_append_left _ hv)
      cases v with
      | text s =>
        simp only [Value.mapUnder]
        split_ifs with hname
        · simp only [hname, if_true, List.mem_singleton, forall_eq] at hmentions
          exact congrArg (fun id : Id => Value.text id.text) hmentions
        · rfl
      | _ => exact hvalue hmentions
    rw [mapAttributes_cons, mapAttributes_cons, mapAttributes_cons, hrest, hhere]

end

lemma updates_mapIds_trans {updates : List (String × Value)}
    (hid : ∀ id ∈ updates.flatMap fun u => u.2.mentions, k (g id) = h id) :
    (updates.map fun u => (u.1, u.2.mapIds g)).map (fun u => (u.1, u.2.mapIds k))
      = updates.map fun u => (u.1, u.2.mapIds h) := by
  rw [List.map_map]
  refine List.map_congr_left fun u hu => congrArg (u.1, ·) (value_mapIds_trans u.2 fun id hv => ?_)
  exact hid id (List.mem_flatMap_of_mem hu hv)

lemma option_trans {id : Option Id} (hid : ∀ i ∈ id.toList, k (g i) = h i) :
    (id.map g).map k = id.map h := by
  cases id with
  | none => rfl
  | some i => exact congrArg some (hid i List.mem_cons_self)

lemma references_mapIds_trans {r : Option Reference}
    (hid : ∀ id ∈ Reference.mentions? r, k (g id) = h id) :
    (r.map (·.mapIds g)).map (·.mapIds k) = r.map (·.mapIds h) := by
  cases r with
  | none => rfl
  | some r =>
    have htarget := hid r.target List.mem_cons_self
    have hfield := hid r.targetField (List.mem_cons_of_mem _ List.mem_cons_self)
    simp only [Option.map_some, Reference.mapIds, htarget, hfield]

lemma field_mapIds_trans {f : Field} (hid : ∀ id ∈ f.mentions, k (g id) = h id) :
    (f.mapIds g).mapIds k = f.mapIds h := by
  have hown := hid f.id List.mem_cons_self
  have hreference := references_mapIds_trans fun id hr => hid id (List.mem_cons_of_mem _ hr)
  simp only [Field.mapIds, hown, hreference]

/-- Replacing ids twice in an entity. -/
lemma entity_mapIds_trans {e : Entity} (hid : ∀ id ∈ e.mentions, k (g id) = h id) :
    (e.mapIds g).mapIds k = e.mapIds h := by
  have hown := hid e.id List.mem_cons_self
  have hfields : (e.fields.map (·.mapIds g)).map (·.mapIds k) = e.fields.map (·.mapIds h) := by
    rw [List.map_map]
    refine List.map_congr_left fun f hf => field_mapIds_trans fun id hmem => ?_
    exact hid id (List.mem_cons_of_mem _ (List.mem_flatMap_of_mem hf hmem))
  simp only [Entity.mapIds, hown, hfields]

/-- Replacing ids twice in a model. -/
lemma model_mapIds_trans {es : List Entity}
    (hid : ∀ id ∈ es.flatMap Entity.mentions, k (g id) = h id) :
    (es.map (·.mapIds g)).map (·.mapIds k) = es.map (·.mapIds h) := by
  rw [List.map_map]
  refine List.map_congr_left fun e he => entity_mapIds_trans fun id hmem => ?_
  exact hid id (List.mem_flatMap_of_mem he hmem)

/-- A model in which no id is replaced stays what it is. -/
lemma model_mapIds_fixed {es : List Entity} (hid : ∀ id ∈ es.flatMap Entity.mentions, g id = id) :
    es.map (·.mapIds g) = es := by
  have hreference : (fun r : Reference => r.mapIds id) = id := rfl
  have hfield : (fun f : Field => f.mapIds id) = id := by
    funext f
    rw [Field.mapIds, hreference, Option.map_id]
    rfl
  have hentity : (fun e : Entity => e.mapIds id) = id := by
    funext e
    rw [Entity.mapIds, hfield, List.map_id]
    rfl
  have hsame : es.map (·.mapIds id) = es := by
    rw [hentity, List.map_id]
  have htrans := model_mapIds_trans (g := id) (k := g) (h := id) hid
  rwa [hsame] at htrans

lemma edit_mapIds_trans {edit : Edit} (hid : ∀ id ∈ edit.mentions, k (g id) = h id) :
    (edit.mapIds g).mapIds k = edit.mapIds h := by
  cases edit with
  | addEntity name => rfl
  | renameEntity e name => exact congrArg (Edit.renameEntity · name) (option_trans hid)
  | deleteEntity e => exact congrArg Edit.deleteEntity (option_trans hid)
  | addField e n =>
    have hentity := option_trans fun id he => hid id (List.mem_append_left _ he)
    have hreference := references_mapIds_trans fun id hr => hid id (List.mem_append_right _ hr)
    exact congrArg₂ (fun e r => Edit.addField e { n with reference := r }) hentity hreference
  | updateField e f updates =>
    have hupdates := updates_mapIds_trans fun id hu => hid id (List.mem_append_right _ hu)
    have hentity := option_trans fun id he =>
      hid id (List.mem_append_left _ (List.mem_append_left _ he))
    have hfield := option_trans fun id hf =>
      hid id (List.mem_append_left _ (List.mem_append_right _ hf))
    simp only [Edit.mapIds, hupdates, hentity, hfield]
  | deleteField e f =>
    have hentity := option_trans fun id he => hid id (List.mem_append_left _ he)
    have hfield := option_trans fun id hf => hid id (List.mem_append_right _ hf)
    exact congrArg₂ Edit.deleteField hentity hfield
  | setEntities es => exact congrArg Edit.setEntities (model_mapIds_trans hid)

mutual

/-- Replacing ids twice in a request. -/
lemma request_mapIds_trans : ∀ r : Request, (∀ id ∈ r.mentions, k (g id) = h id) →
    (r.mapIds g).mapIds k = r.mapIds h
  | .change edit terms, hid => congrArg (Request.change · terms) (edit_mapIds_trans hid)
  | .addPointing e n reference terms, hid => by
    have hreference := value_mapIds_trans reference fun id hr =>
      hid id (List.mem_append_right _ hr)
    have hentity := option_trans fun id he => hid id (List.mem_append_left _ he)
    simp only [Request.mapIds, hreference, hentity]
  | .replaceAll vs terms, hid => by
    have hvalues : (vs.map (·.mapIds g)).map (·.mapIds k) = vs.map (·.mapIds h) := by
      rw [List.map_map]
      refine List.map_congr_left fun v hv => value_mapIds_trans v fun id hmem => ?_
      exact hid id (List.mem_flatMap_of_mem hv hmem)
    exact congrArg (Request.replaceAll · terms) hvalues
  | .getEntity e, hid => congrArg Request.getEntity (option_trans hid)
  | .subscribe tag script fails, hid =>
    congrArg (Request.subscribe tag · fails) (script_mapIds_trans script hid)
  | .watchText tag c script fails, hid =>
    congrArg (Request.watchText tag c · fails) (script_mapIds_trans script hid)
  | .findEntity _, _ | .diagram, _ | .count, _ | .unsubscribe _, _ | .openController .., _
  | .typeText .., _ | .flush _, _ | .applyEdit .., _ | .close _, _ | .advance _, _ | .pause, _ => rfl

lemma script_mapIds_trans : ∀ rs : List Request, (∀ id ∈ Request.allMentions rs, k (g id) = h id) →
    Request.mapAllIds k (Request.mapAllIds g rs) = Request.mapAllIds h rs
  | [], _ => rfl
  | r :: rs, hid => congrArg₂ List.cons
      (request_mapIds_trans r fun id hr => hid id (List.mem_append_left _ hr))
      (script_mapIds_trans rs fun id hrs => hid id (List.mem_append_right _ hrs))

end

/-! ## Sessions -/

section Always

variable (hid : ∀ id, k (g id) = h id)
include hid

lemma outcome_mapIds_trans (o : ParseOutcome) : (o.mapIds g).mapIds k = o.mapIds h := by
  cases o with
  | accepted es rs ws =>
    exact congrArg (ParseOutcome.accepted · rs ws) (model_mapIds_trans fun id _ => hid id)
  | rejected error ws => rfl

lemma answer_mapIds_trans (a : Answer) : (a.mapIds g).mapIds k = a.mapIds h := by
  cases a with
  | entity e => exact congrArg Answer.entity (entity_mapIds_trans fun id _ => hid id)
  | field f => exact congrArg Answer.field (field_mapIds_trans fun id _ => hid id)
  | outcome o => exact congrArg Answer.outcome (outcome_mapIds_trans hid o)
  | _ => rfl

lemma fault_mapIds_trans (e : Fault) : (e.mapIds g).mapIds k = e.mapIds h := by
  cases e with
  | entityNotFound id => exact congrArg Fault.entityNotFound (option_trans fun id _ => hid id)
  | fieldNotFound entity id =>
    exact congrArg (Fault.fieldNotFound entity) (option_trans fun id _ => hid id)
  | _ => rfl

lemma listeners_mapIds_trans (ls : List Listener) :
    (ls.map (·.mapIds g)).map (·.mapIds k) = ls.map (·.mapIds h) := by
  rw [List.map_map]
  refine List.map_congr_left fun l _ => ?_
  exact congrArg (fun script => { l with script }) (script_mapIds_trans l.script fun id _ => hid id)

/-- Replacing ids twice in a session. -/
lemma world_mapIds_trans (w : World) : (w.mapIds g).mapIds k = w.mapIds h := by
  have hentities : (w.store.entities.map (·.mapIds g)).map (·.mapIds k)
      = w.store.entities.map (·.mapIds h) := model_mapIds_trans fun id _ => hid id
  have hcontrollers : (w.controllers.map (·.mapIds g)).map (·.mapIds k)
      = w.controllers.map (·.mapIds h) := by
    rw [List.map_map]
    refine List.map_congr_left fun c _ => ?_
    have hlast : (c.lastResult.map (·.mapIds g)).map (·.mapIds k)
        = c.lastResult.map (·.mapIds h) := by
      rw [Option.map_map]
      exact congrArg (c.lastResult.map ·) (funext fun o => outcome_mapIds_trans hid o)
    exact congrArg (fun o => { c with lastResult := o }) hlast
  have hcommits : (w.commits.map (·.mapIds g)).map (·.mapIds k) = w.commits.map (·.mapIds h) := by
    rw [List.map_map]
    refine List.map_congr_left fun c _ => ?_
    exact congrArg₂ Commit.mk (edit_mapIds_trans fun id _ => hid id)
      (model_mapIds_trans fun id _ => hid id)
  have hlisteners := listeners_mapIds_trans hid w.listeners
  simp only [World.mapIds, Store.mapIds, Supply.mapIds, hentities, hcontrollers, hcommits,
    hlisteners, hid]

end Always

end Trans

/-- If ids are replaced in scripts in the same way under other ids, then the session in which they
are replaced is the same under other ids. -/
lemma mapScriptIds_mapIds {g k h : Id → Id} (hid : ∀ id, h (g id) = g (k id)) (w : World) :
    (w.mapIds g).mapScriptIds h = (w.mapScriptIds k).mapIds g := by
  have hlisteners : (w.listeners.map (·.mapIds g)).map (·.mapIds h)
      = (w.listeners.map (·.mapIds k)).map (·.mapIds g) := by
    rw [listeners_mapIds_trans hid, listeners_mapIds_trans (h := fun id => g (k id)) fun _ => rfl]
  exact congrArg (fun ls => { w.mapIds g with listeners := ls }) hlisteners

/-! ## Resolvers -/

mutual

/-- Whether a request looks at ids does not depend on them. -/
lemma within_mapIds (g : Id → Id) : ∀ r : Request, r.Within Request.OpensBlind →
    (r.mapIds g).Within Request.OpensBlind
  | .subscribe _ script _, hr => ⟨trivial, allWithin_mapIds g script hr.2⟩
  | .watchText _ _ script _, hr => ⟨trivial, allWithin_mapIds g script hr.2⟩
  | .change .., hr | .addPointing .., hr | .replaceAll .., hr | .getEntity _, hr
  | .findEntity _, hr | .diagram, hr | .count, hr | .unsubscribe _, hr | .openController .., hr
  | .typeText .., hr | .flush _, hr | .applyEdit .., hr | .close _, hr | .advance _, hr
  | .pause, hr => hr

lemma allWithin_mapIds (g : Id → Id) : ∀ rs : List Request,
    Request.AllWithin Request.OpensBlind rs →
      Request.AllWithin Request.OpensBlind (Request.mapAllIds g rs)
  | [], _ => trivial
  | r :: rs, hrs => ⟨within_mapIds g r hrs.1, allWithin_mapIds g rs hrs.2⟩

end

lemma World.IsBlind.mapScriptIds {w : World} (hw : w.IsBlind) (k : Id → Id) :
    (w.mapScriptIds k).IsBlind := by
  refine ⟨hw.resolvers, fun l hl => ?_⟩
  obtain ⟨l', hl', rfl⟩ := List.mem_map.mp hl
  exact allWithin_mapIds k l'.script (hw.asks l' hl')

end DiagramSync
