import DiagramSync.Proofs.Opaque.Diagram
import DiagramSync.Proofs.Opaque.Store
import DiagramSync.Proofs.Session.Steps

/-!
# Actions under other ids

In a session ids are everywhere: in the store, in what the controllers have read, in what listeners
will ask for, in the record of the edits.  An action *follows* another one if it does in a session
under other ids what the other one does in the session, and has the same result, under other ids.
How actions are put together keeps this, so that it is enough to see it of the smallest ones.

* `World.mapIds` — a session under other ids
* `World.IsBlind` — nobody in the session looks at ids
* `Action.Follows` — an action does the same under other ids
* `follows_bind`, `follows_get_bind`, `follows_tryCatch`, `follows_forM` — actions put together
* `follows_modify`, `follows_modifyController`, `follows_editing` — the smallest actions
-/

namespace DiagramSync

variable {g : Id → Id}

/-! ## Sessions -/

/-- The controller with the ids in what it has read replaced by their images. -/
def Controller.mapIds (g : Id → Id) (k : Controller) : Controller :=
  { k with lastResult := k.lastResult.map (·.mapIds g) }

/-- The listener with the ids in its script replaced by their images. -/
def Listener.mapIds (g : Id → Id) (l : Listener) : Listener :=
  { l with script := Request.mapAllIds g l.script }

/-- The record of an edit with the ids in it replaced by their images. -/
def Commit.mapIds (g : Id → Id) (c : Commit) : Commit :=
  ⟨c.edit.mapIds g, c.entities.map (·.mapIds g)⟩

/-- The session with the ids in it, and those to come, replaced by their images. -/
def World.mapIds (g : Id → Id) (w : World) : World :=
  { w with
    store := w.store.mapIds g
    controllers := w.controllers.map (·.mapIds g)
    listeners := w.listeners.map (·.mapIds g)
    supply := w.supply.mapIds g
    commits := w.commits.map (·.mapIds g) }

lemma getElem?_controllers_mapIds (w : World) (c : Nat) :
    (w.mapIds g).controllers[c]? = w.controllers[c]?.map (·.mapIds g) :=
  List.getElem?_map

/-- Requests under other ids, one by one. -/
lemma mapAllIds_eq (rs : List Request) : Request.mapAllIds g rs = rs.map (·.mapIds g) := by
  induction rs with
  | nil => rfl
  | cons r rs ih => rw [Request.mapAllIds, ih, List.map_cons]

lemma isPause_mapIds (r : Request) : (r.mapIds g).isPause = r.isPause := by
  cases r <;> rfl

/-- A listener under other ids pauses where it would pause. -/
lemma beforePause_mapAllIds (script : List Request) :
    Request.beforePause (Request.mapAllIds g script)
      = Request.mapAllIds g (Request.beforePause script) := by
  rw [mapAllIds_eq, mapAllIds_eq, Request.beforePause, Request.beforePause, List.takeWhile_map]
  refine congrArg (List.map _) (congrArg (List.takeWhile · script) (funext fun r => ?_))
  exact congrArg (!·) (isPause_mapIds r)

lemma called_mapIds (l : Listener) : (l.mapIds g).called = l.called.mapIds g := by
  have hscript : Request.afterPause (Request.mapAllIds g l.script)
      = Request.mapAllIds g (Request.afterPause l.script) := by
    rw [mapAllIds_eq, mapAllIds_eq, Request.afterPause, Request.afterPause, List.dropWhile_map,
      List.map_tail]
    refine congrArg (fun rs => (List.map _ rs).tail)
      (congrArg (List.dropWhile · l.script) (funext fun r => ?_))
    exact congrArg (!·) (isPause_mapIds r)
  exact congrArg (fun script => { l with script }) hscript

mutual

/-- A request under other ids brings as many requests. -/
lemma weight_mapIds (g : Id → Id) : ∀ r : Request, (r.mapIds g).weight = r.weight
  | .subscribe _ script _ => congrArg (1 + ·) (totalWeight_mapIds g script)
  | .watchText _ _ script _ => congrArg (1 + ·) (totalWeight_mapIds g script)
  | .change .. | .addPointing .. | .replaceAll .. | .getEntity _ | .findEntity _ | .diagram
  | .count | .unsubscribe _ | .openController .. | .typeText .. | .flush _ | .applyEdit ..
  | .close _ | .advance _ | .pause => rfl

lemma totalWeight_mapIds (g : Id → Id) : ∀ rs : List Request,
    Request.totalWeight (Request.mapAllIds g rs) = Request.totalWeight rs
  | [] => rfl
  | r :: rs => congrArg₂ (· + ·) (weight_mapIds g r) (totalWeight_mapIds g rs)

end

lemma worldWeight_mapIds (w : World) : (w.mapIds g).weight = w.weight := by
  have hlisteners : (w.mapIds g).listeners = w.listeners.map (·.mapIds g) := rfl
  rw [World.weight, World.weight, hlisteners, List.foldr_map]
  refine congrArg (List.foldr · 0 w.listeners) (funext fun l => funext fun n => ?_)
  exact congrArg (· + n) (totalWeight_mapIds g l.script)

lemma firstDue?_mapIds (time : Nat) (w : World) :
    (w.mapIds g).firstDue? time = w.firstDue? time := by
  have halarms : (w.controllers.map (·.mapIds g)).zipIdx.filterMap (fun p =>
        (p.1.debouncer.due? time).map fun a => (p.2, a))
      = w.controllers.zipIdx.filterMap fun p => (p.1.debouncer.due? time).map fun a => (p.2, a) := by
    rw [List.zipIdx_map, List.filterMap_map]
    rfl
  rw [World.firstDue?, World.firstDue?]
  exact congrArg (List.foldl _ none) halarms

/-- The request opens no controller, or one whose resolver does not look at ids. -/
def Request.OpensBlind : Request → Prop
  | .openController _ (some resolver) _ => resolver.IsBlind
  | _ => True

/-- Nobody in the session looks at ids: no resolver does, and none that listeners will ask for. -/
structure World.IsBlind (w : World) : Prop where
  /-- The resolvers of the controllers do not look at ids. -/
  resolvers : ∀ k ∈ w.controllers, k.resolver.IsBlind
  /-- Neither do those that listeners will ask for. -/
  asks : w.AsksWithin Request.OpensBlind

/-! ## Actions -/

/-- A result with the ids in it replaced by their images, where `f` replaces them in what is handed
back. -/
def mapResult {α β : Type} (g : Id → Id) (f : α → β) : Except Fault α → Except Fault β
  | .ok a => .ok (f a)
  | .error e => .error (e.mapIds g)

/-- In a session under other ids the second action does what the first one does in the session, and
has the same result, under other ids.  The first one makes nobody look at ids. -/
def Action.Follows {α β : Type} (g : Id → Id) (f : α → β) (x : Action α) (y : Action β) : Prop :=
  ∀ w : World, w.IsBlind → (x.exec w).2.IsBlind ∧
    y.exec (w.mapIds g) = (mapResult g f (x.exec w).1, (x.exec w).2.mapIds g)

section Follows

open DiagramSync.Action

variable {α α' β β' : Type} {f : α → α'} {h : β → β'}

lemma follows_pure (a : α) : Follows g f (pure a) (pure (f a)) := fun _ hw => ⟨hw, rfl⟩

lemma follows_throw (e : Fault) : Follows g f (throw e) (throw (e.mapIds g)) :=
  fun _ hw => ⟨hw, rfl⟩

/-- A fault that speaks of no id is the same under other ids. -/
lemma follows_throw_same {e : Fault} (he : e.mapIds g = e) :
    Follows g f (throw e : Action α) (throw e) := by
  have hthrow := follows_throw (g := g) (f := f) e
  rwa [he] at hthrow

lemma follows_bind {x : Action α} {x' : Action α'} {k : α → Action β} {k' : α' → Action β'}
    (hx : Follows g f x x') (hk : ∀ a, Follows g h (k a) (k' (f a))) :
    Follows g h (x >>= k) (x' >>= k') := by
  intro w hw
  obtain ⟨hblind, hrun⟩ := hx w hw
  rw [exec_bind, exec_bind, hrun]
  cases hexec : x.exec w with
  | mk r w' =>
    rw [hexec] at hblind
    cases r with
    | ok a => exact hk a w' hblind
    | error e => exact ⟨hblind, rfl⟩

/-- What is done with the present session is done with the session under other ids. -/
lemma follows_get_bind {k : World → Action β} {k' : World → Action β'}
    (hk : ∀ w, w.IsBlind → Follows g h (k w) (k' (w.mapIds g))) :
    Follows g h (get >>= k) (get >>= k') :=
  fun w hw => hk w hw w hw

lemma follows_set {w : World} (hw : w.IsBlind) :
    Follows g id (set w : Action Unit) (set (w.mapIds g)) := fun _ _ => ⟨hw, rfl⟩

lemma follows_modify {k k' : World → World} (hblind : ∀ w, w.IsBlind → (k w).IsBlind)
    (hk : ∀ w, k' (w.mapIds g) = (k w).mapIds g) :
    Follows g id (modify k : Action Unit) (modify k') := by
  intro w hw
  refine ⟨hblind w hw, ?_⟩
  rw [exec_modify, exec_modify, hk]
  rfl

lemma follows_map {x : Action α} {x' : Action α'} {k : α → β} {k' : α' → β'}
    (hx : Follows g f x x') (hk : ∀ a, k' (f a) = h (k a)) :
    Follows g h (k <$> x) (k' <$> x') := by
  rw [map_eq_pure_bind, map_eq_pure_bind]
  refine follows_bind hx fun a => ?_
  rw [hk]
  exact follows_pure _

lemma follows_tryCatch {x : Action α} {x' : Action α'} {k : Fault → Action α}
    {k' : Fault → Action α'} (hx : Follows g f x x')
    (hk : ∀ e, Follows g f (k e) (k' (e.mapIds g))) :
    Follows g f (tryCatch x k) (tryCatch x' k') := by
  intro w hw
  obtain ⟨hblind, hrun⟩ := hx w hw
  rw [exec_tryCatch, exec_tryCatch, hrun]
  cases hexec : x.exec w with
  | mk r w' =>
    rw [hexec] at hblind
    cases r with
    | ok a => exact ⟨hblind, rfl⟩
    | error e => exact hk e w' hblind

lemma follows_forM {m : α → α'} {k : α → Action Unit} {k' : α' → Action Unit} (xs : List α)
    (hk : ∀ x ∈ xs, Follows g id (k x) (k' (m x))) :
    Follows g id (xs.forM k) ((xs.map m).forM k') := by
  induction xs with
  | nil => exact follows_pure ()
  | cons x xs ih =>
    have hcons : (x :: xs).forM k = k x >>= fun _ => xs.forM k := rfl
    have hcons' : ((x :: xs).map m).forM k' = k' (m x) >>= fun _ => (xs.map m).forM k' := rfl
    rw [hcons, hcons']
    exact follows_bind (hk x List.mem_cons_self) fun _ =>
      ih fun y hy => hk y (List.mem_cons_of_mem x hy)

lemma follows_forM_same {k k' : α → Action Unit} (xs : List α)
    (hk : ∀ x ∈ xs, Follows g id (k x) (k' x)) : Follows g id (xs.forM k) (xs.forM k') := by
  have hmapped := follows_forM (m := id) xs hk
  rwa [List.map_id] at hmapped

/-- What fails for a reason that speaks of no id fails alike. -/
lemma follows_ofExcept {r : Except Fault α} (hr : ∀ e, r = .error e → e.mapIds g = e) :
    Follows g id (MonadExcept.ofExcept r : Action α) (MonadExcept.ofExcept r) := by
  cases r with
  | ok a => exact follows_pure a
  | error e => exact follows_throw_same (hr e rfl)

/-! ### The smallest actions -/

lemma follows_note (e : Event) : Follows g id (note e) (note e) :=
  follows_modify (fun _ hw => ⟨hw.resolvers, hw.asks⟩) fun _ => rfl

lemma modify_map {m : α → β} {k : α → α} {k' : β → β} (hk : ∀ x, k' (m x) = m (k x))
    (xs : List α) (i : Nat) : (xs.map m).modify i k' = (xs.modify i k).map m := by
  refine List.ext_getElem? fun j => ?_
  rw [List.getElem?_modify, List.getElem?_map, List.getElem?_map, List.getElem?_modify]
  cases xs[j]? with
  | none => rfl
  | some x =>
    simp only [Option.map_some]
    split_ifs
    · exact congrArg some (hk x)
    · rfl

lemma modifyController_mapIds {k k' : Controller → Controller}
    (hk : ∀ c, k' (c.mapIds g) = (k c).mapIds g) (c : Nat) (w : World) :
    (w.mapIds g).modifyController c k' = (w.modifyController c k).mapIds g :=
  congrArg (fun cs => { w.mapIds g with controllers := cs }) (modify_map hk w.controllers c)

lemma World.IsBlind.modifyController {w : World} (hw : w.IsBlind) (c : Nat)
    {k : Controller → Controller} (hk : ∀ c, (k c).resolver = c.resolver) :
    (w.modifyController c k).IsBlind := by
  refine ⟨fun c' hc' => ?_, hw.asks⟩
  obtain ⟨d, hd⟩ := List.mem_iff_getElem?.mp hc'
  rw [World.modifyController, List.getElem?_modify] at hd
  obtain ⟨c'', hget, rfl⟩ := Option.map_eq_some_iff.mp hd
  have hblind := hw.resolvers c'' (List.mem_of_getElem? hget)
  split_ifs
  · rwa [hk]
  · exact hblind

lemma follows_modifyController (c : Nat) {k k' : Controller → Controller}
    (hresolver : ∀ c, (k c).resolver = c.resolver) (hk : ∀ c, k' (c.mapIds g) = (k c).mapIds g) :
    Follows g id (Action.modifyController c k) (Action.modifyController c k') :=
  follows_modify (fun _ hw => hw.modifyController c hresolver) (modifyController_mapIds hk c)

lemma follows_editing {x : Editing α} {x' : Editing α'} (hx : Draws g (Fault.mapIds g) f x x') :
    Follows g f (editing x) (editing x') := by
  intro w hw
  rw [exec_editing, exec_editing]
  have hrun : x' (w.mapIds g).supply = _ := hx w.supply
  rw [hrun]
  cases x w.supply with
  | error e => exact ⟨hw, rfl⟩
  | ok p => exact ⟨⟨hw.resolvers, hw.asks⟩, rfl⟩

end Follows

end DiagramSync
