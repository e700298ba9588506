import DiagramSync.Session.Run
import Mathlib.Tactic.Common

/-!
# What actions do to a session

An action takes a session to another one, whether it fails or not.  A property that every step of an
action keeps is kept by the action as a whole, and it is kept even where the action fails, for what
was done before stays done.

* `Action.exec` — the result of an action, and the session after it
* `Action.Keeps` — the action leads from sessions with a property to sessions with it
* `keeps_bind`, `keeps_tryCatch`, `keeps_forM` — how actions are put together
* `getElem?_modifyController`, `modifyController_modifyController` — replacing a controller
* `World.taking`, `exec_make_taken`, `exec_make_refused` — an edit that the store takes, or refuses
* `exec_typeText`, `exec_typeText_outside` — typing, in a running loop and outside
* `firstDue?_cases` — the alarm that goes off first
* `World.after` — the session after some requests
-/

namespace DiagramSync

/-- The result of an action, and the session after it. -/
def Action.exec {α : Type} (x : Action α) (w : World) : Except Fault α × World :=
  x.run w

section Exec

variable {α β : Type}

lemma exec_pure (a : α) (w : World) : (pure a : Action α).exec w = (.ok a, w) := rfl

lemma exec_get (w : World) : (get : Action World).exec w = (.ok w, w) := rfl

lemma exec_set (v w : World) : (set v : Action Unit).exec w = (.ok (), v) := rfl

lemma exec_modify (g : World → World) (w : World) :
    (modify g : Action Unit).exec w = (.ok (), g w) := rfl

lemma exec_throw (f : Fault) (w : World) : (throw f : Action α).exec w = (.error f, w) := rfl

lemma exec_ofExcept (r : Except Fault α) (w : World) :
    (MonadExcept.ofExcept r : Action α).exec w = (r, w) := by
  cases r <;> rfl

lemma exec_note (e : Event) (w : World) :
    (Action.note e).exec w = (.ok (), { w with events := w.events ++ [e] }) := rfl

lemma exec_modifyController (c : Nat) (g : Controller → Controller) (w : World) :
    (Action.modifyController c g).exec w = (.ok (), w.modifyController c g) := rfl

lemma exec_bind (x : Action α) (f : α → Action β) (w : World) :
    (x >>= f).exec w = match x.exec w with
      | (.ok a, w') => (f a).exec w'
      | (.error e, w') => (.error e, w') := by
  show (ExceptT.bind x f).run w = _
  simp only [ExceptT.bind, ExceptT.mk, ExceptT.run, bind, StateT.bind, Action.exec]
  cases x w with
  | mk r w' => cases r <;> rfl

lemma exec_bind_ok {x : Action α} {a : α} {w w' : World} (h : x.exec w = (.ok a, w'))
    (f : α → Action β) : (x >>= f).exec w = (f a).exec w' := by
  rw [exec_bind, h]

lemma exec_bind_error {x : Action α} {e : Fault} {w w' : World} (h : x.exec w = (.error e, w'))
    (f : α → Action β) : (x >>= f).exec w = (.error e, w') := by
  rw [exec_bind, h]

/-- Two actions that do not fail have both not failed. -/
lemma exec_bind_eq_ok {x : Action α} {f : α → Action β} {b : β} {w w' : World} :
    (x >>= f).exec w = (.ok b, w') ↔
      ∃ a w₁, x.exec w = (.ok a, w₁) ∧ (f a).exec w₁ = (.ok b, w') := by
  rw [exec_bind]
  cases x.exec w with
  | mk r w₁ => cases r <;> simp

lemma exec_map (g : α → β) (x : Action α) (w : World) :
    (g <$> x).exec w = ((x.exec w).1.map g, (x.exec w).2) := by
  rw [map_eq_pure_bind, exec_bind]
  cases x.exec w with
  | mk r w' => cases r <;> rfl

lemma exec_tryCatch (x : Action α) (h : Fault → Action α) (w : World) :
    (tryCatch x h).exec w = match x.exec w with
      | (.ok a, w') => (.ok a, w')
      | (.error e, w') => (h e).exec w' := by
  show (ExceptT.tryCatch x h).run w = _
  simp only [ExceptT.tryCatch, ExceptT.mk, ExceptT.run, bind, StateT.bind, Action.exec]
  cases x w with
  | mk r w' => cases r <;> rfl

/-- What holds after the first of two actions if it fails, and after the second one otherwise, holds
after both. -/
lemma after_bind {Q : World → Prop} {x : Action α} {f : α → Action β} {w : World}
    (herror : ∀ e w', x.exec w = (.error e, w') → Q w')
    (hok : ∀ a w', x.exec w = (.ok a, w') → Q ((f a).exec w').2) : Q ((x >>= f).exec w).2 := by
  rw [exec_bind]
  cases hrun : x.exec w with
  | mk r w' =>
    cases r with
    | ok a => exact hok a w' hrun
    | error e => exact herror e w' hrun

lemma after_bind_pure (x : Action α) (g : α → β) (w : World) :
    ((x >>= fun a => (pure (g a) : Action β)).exec w).2 = (x.exec w).2 := by
  rw [exec_bind]
  cases x.exec w with
  | mk r w' => cases r <;> rfl

/-- A computation with the supply of ids leaves everything else alone. -/
lemma exec_editing (x : Editing α) (w : World) :
    (Action.editing x).exec w = match x w.supply with
      | .error f => (.error f, w)
      | .ok (a, supply) => (.ok a, { w with supply }) := by
  rw [Action.editing, exec_bind_ok (exec_get w)]
  cases x w.supply with
  | error f => exact exec_throw f w
  | ok p => rfl

lemma exec_editing_same {x : Editing α} {w : World}
    (hx : ∀ a s, x w.supply = .ok (a, s) → w.supply = s) :
    ∃ r, (Action.editing x).exec w = (r, w) := by
  rw [exec_editing]
  cases hrun : x w.supply with
  | error f => exact ⟨_, rfl⟩
  | ok p =>
    obtain ⟨a, s⟩ := p
    obtain rfl := hx a s hrun
    exact ⟨_, rfl⟩

end Exec

/-! ## Properties that are kept -/

/-- The action leads from sessions with the property to sessions with it, whether it fails or
not. -/
def Action.Keeps {α : Type} (P : World → Prop) (x : Action α) : Prop :=
  ∀ w, P w → P (x.exec w).2

section Keeps

variable {α β : Type} {P : World → Prop}

lemma keeps_pure (a : α) : (pure a : Action α).Keeps P := fun _ h => h

lemma keeps_throw (f : Fault) : (throw f : Action α).Keeps P := fun _ h => h

lemma keeps_get : (get : Action World).Keeps P := fun _ h => h

lemma keeps_modify {g : World → World} (h : ∀ w, P w → P (g w)) :
    (modify g : Action Unit).Keeps P := h

lemma keeps_bind {x : Action α} {f : α → Action β} (hx : x.Keeps P) (hf : ∀ a, (f a).Keeps P) :
    (x >>= f).Keeps P := by
  intro w hw
  have hx' := hx w hw
  rw [exec_bind]
  cases hrun : x.exec w with
  | mk r w' =>
    rw [hrun] at hx'
    cases r with
    | ok a => exact hf a w' hx'
    | error e => exact hx'

/-- What is done with the present session is done in it. -/
lemma keeps_get_bind {f : World → Action β} (hf : ∀ w, P w → P ((f w).exec w).2) :
    (get >>= f).Keeps P := by
  intro w hw
  rw [exec_bind_ok (exec_get w)]
  exact hf w hw

lemma keeps_map {g : α → β} {x : Action α} (hx : x.Keeps P) : (g <$> x).Keeps P := by
  intro w hw
  rw [exec_map]
  exact hx w hw

lemma keeps_tryCatch {x : Action α} {h : Fault → Action α} (hx : x.Keeps P)
    (hh : ∀ f, (h f).Keeps P) : (tryCatch x h).Keeps P := by
  intro w hw
  have hx' := hx w hw
  rw [exec_tryCatch]
  cases hrun : x.exec w with
  | mk r w' =>
    rw [hrun] at hx'
    cases r with
    | ok a => exact hx'
    | error e => exact hh e w' hx'

lemma keeps_forM {xs : List α} {f : α → Action Unit} (hf : ∀ x ∈ xs, (f x).Keeps P) :
    (xs.forM f).Keeps P := by
  induction xs with
  | nil => exact keeps_pure ()
  | cons x xs ih =>
    have hcons : (x :: xs).forM f = f x >>= fun _ => xs.forM f := rfl
    rw [hcons]
    exact keeps_bind (hf x List.mem_cons_self) fun _ =>
      ih fun y hy => hf y (List.mem_cons_of_mem x hy)

lemma keeps_ofExcept {r : Except Fault α} :
    (MonadExcept.ofExcept r : Action α).Keeps P := by
  cases r with
  | ok a => exact keeps_pure a
  | error f => exact keeps_throw f

end Keeps

/-! ## Controllers -/

section Controllers

variable {w : World} {c : Nat} {k : Controller}

lemma modifyController_congr (hk : w.controllers[c]? = some k)
    {g g' : Controller → Controller} (h : g k = g' k) :
    w.modifyController c g = w.modifyController c g' := by
  have hcontrollers : w.controllers.modify c g = w.controllers.modify c g' := by
    refine List.ext_getElem? fun d => ?_
    rw [List.getElem?_modify, List.getElem?_modify]
    by_cases hd : c = d
    · subst hd
      rw [hk]
      simp [h]
    · simp [hd]
  rw [World.modifyController, World.modifyController, hcontrollers]

lemma getElem?_modifyController (hk : w.controllers[c]? = some k) (g : Controller → Controller) :
    (w.modifyController c g).controllers[c]? = some (g k) := by
  simp [World.modifyController, hk]

lemma getElem?_modifyController_none (hnone : w.controllers[c]? = none)
    (g : Controller → Controller) : (w.modifyController c g).controllers[c]? = none := by
  simpa [World.modifyController] using hnone

lemma getElem?_modifyController_ne {d : Nat} (hd : d ≠ c) (g : Controller → Controller)
    (w : World) : (w.modifyController c g).controllers[d]? = w.controllers[d]? := by
  simp [World.modifyController, hd.symm]

lemma modifyController_modifyController (g g' : Controller → Controller) (w : World) :
    (w.modifyController c g).modifyController c g' = w.modifyController c (g' ∘ g) := by
  rw [World.modifyController, World.modifyController, World.modifyController, List.modify_modify_eq]

end Controllers

/-! ## Making an edit -/

section Making

variable {w : World} {expected : Option Int} {edit : Edit}

/-- The session when the store has taken an edit, and nobody has been told of it yet. -/
def World.taking (edit : Edit) (store : Store) (supply : Supply) (w : World) : World :=
  { w with store, supply, commits := ⟨edit, store.entities⟩ :: w.commits }

lemma exec_make_taken {store : Store} {edited : Edited} {supply : Supply}
    (h : w.store.apply w.unlinked expected edit w.supply = .ok ((store, edited), supply)) :
    (make expected edit).exec w = (.ok (store, edited), w.taking edit store supply) := by
  have happly : (Action.editing (w.store.apply w.unlinked expected edit)).exec w
      = (.ok (store, edited), { w with supply }) := by
    rw [exec_editing, h]
  rw [make, exec_bind_ok (exec_get w), exec_bind_ok happly]
  exact exec_bind_ok (exec_modify _ _) _

/-- An edit that is refused changes nothing. -/
lemma exec_make_refused {f : Fault}
    (h : w.store.apply w.unlinked expected edit w.supply = .error f) :
    (make expected edit).exec w = (.error f, w) := by
  have happly : (Action.editing (w.store.apply w.unlinked expected edit)).exec w
      = (.error f, w) := by
    rw [exec_editing, h]
  rw [make, exec_bind_ok (exec_get w), exec_bind_error happly]

end Making

/-! ## Typing -/

/-- The text that an edit leads to: a new text or the present one, with a replacement made and an
addition at the end. -/
def typedText (present : String) (text : Option String) (replacement : Option (String × String))
    (addition : Option String) : String :=
  let base := (text.getD present).toList
  let replaced :=
    match replacement with
    | some (old, new) => Text.replaceAll old.toList new.toList base
    | none => base
  String.ofList replaced ++ addition.getD ""

/-- The controller after an edit of its text at that time. -/
def Controller.retype (clock : Clock) (text : String) (k : Controller) : Controller :=
  { k with
    text, editGeneration := k.editGeneration + 1
    debouncer := { k.debouncer with
      alarm := some { due := clock.now + k.debouncer.delay, order := clock.alarms } } }

/-- In a running loop an edit of a text sets the alarm of its controller. -/
lemma exec_typeText {w : World} {c : Nat} {k : Controller} (hk : w.controllers[c]? = some k)
    (text : Option String) (replacement : Option (String × String)) (addition : Option String) :
    (typeText c text replacement addition true).exec w = (.ok (),
      ({ w with clock := { w.clock with alarms := w.clock.alarms + 1 } } : World).modifyController c
        (Controller.retype w.clock (typedText k.text text replacement addition))) := by
  rw [typeText, exec_bind_ok (exec_get w)]
  simp only [hk]
  rw [exec_bind_ok (exec_modifyController c _ w)]
  have htrigger : (MonadExcept.ofExcept (k.debouncer.trigger true w.clock) : Action _).exec
      (w.modifyController c fun k' => { k' with
        text := typedText k.text text replacement addition, editGeneration := k'.editGeneration + 1 })
      = (.ok ((k.retype w.clock "").debouncer, { w.clock with alarms := w.clock.alarms + 1 }),
        w.modifyController c fun k' => { k' with
          text := typedText k.text text replacement addition
          editGeneration := k'.editGeneration + 1 }) := rfl
  refine (exec_bind_ok htrigger _).trans ((exec_bind_ok (exec_modify _ _) _).trans ?_)
  rw [exec_modifyController]
  simp only [World.modifyController, List.modify_modify_eq]
  have hsame : w.modifyController c ((fun k' => { k' with
        debouncer := (k.retype w.clock "").debouncer }) ∘ fun k' => { k' with
        text := typedText k.text text replacement addition, editGeneration := k'.editGeneration + 1 })
      = w.modifyController c
        (Controller.retype w.clock (typedText k.text text replacement addition)) :=
    modifyController_congr hk rfl
  exact congrArg (fun ks => (Except.ok (), { w with
    controllers := ks, clock := { w.clock with alarms := w.clock.alarms + 1 } }))
    (congrArg World.controllers hsame)

/-- Outside a loop an edit of a text is noted, but the alarm stays as it was. -/
lemma exec_typeText_outside {w : World} {c : Nat} {k : Controller}
    (hk : w.controllers[c]? = some k) (text : Option String)
    (replacement : Option (String × String)) (addition : Option String) :
    (typeText c text replacement addition false).exec w = (.error .noEventLoop,
      w.modifyController c fun k' => { k' with
        text := typedText k.text text replacement addition
        editGeneration := k'.editGeneration + 1 }) := by
  rw [typeText, exec_bind_ok (exec_get w)]
  simp only [hk]
  rw [exec_bind_ok (exec_modifyController c _ w)]
  exact exec_bind_error (exec_throw .noEventLoop _) _

/-- Nothing is done for an edit of a text but the edit. -/
lemma answer_typeText (c : Nat) (text : Option String) (replacement : Option (String × String))
    (addition : Option String) (inLoop : Bool) (w : World) :
    (answer (.typeText c text replacement addition inLoop) w).2
      = ((typeText c text replacement addition inLoop).exec { w with events := [] }).2 :=
  after_bind_pure _ _ _

/-- A listener that asks for nothing does nothing. -/
lemma exec_runScript_nil (depth : Nat) (w : World) : (runScript depth []).exec w = (.ok (), w) := by
  cases depth <;> rfl

/-! ## Alarms -/

section Alarms

variable {w : World} {time : Nat}

/-- What a fold that prefers one of two alarms ends with is one of them. -/
lemma foldl_preferred {f : Option (Nat × Alarm) → Nat × Alarm → Option (Nat × Alarm)}
    (hnone : ∀ x, f none x = some x) (hsome : ∀ b x, f (some b) x = some x ∨ f (some b) x = some b)
    {P : Option (Nat × Alarm) → Prop} {x : Nat × Alarm} {xs : List (Nat × Alarm)}
    (hP : ∀ y ∈ x :: xs, P (some y)) : P ((x :: xs).foldl f none) := by
  rw [List.foldl_cons, hnone]
  induction xs generalizing x with
  | nil => exact hP x List.mem_cons_self
  | cons y ys ih =>
    rw [List.foldl_cons]
    rcases hsome x y with hy | hx
    · rw [hy]
      exact ih fun z hz => hP z (List.mem_cons_of_mem x hz)
    · rw [hx]
      refine ih fun z hz => hP z ?_
      rcases List.mem_cons.mp hz with rfl | hz
      · exact List.mem_cons_self
      · exact List.mem_cons_of_mem x (List.mem_cons_of_mem y hz)

/-- Either the first alarm is that of a controller, or none is due. -/
lemma firstDue?_cases (w : World) (time : Nat) :
    (w.firstDue? time = none ∧ ∀ k ∈ w.controllers, k.debouncer.due? time = none) ∨
      ∃ c k a, w.firstDue? time = some (c, a) ∧ w.controllers[c]? = some k ∧
        k.debouncer.due? time = some a := by
  rw [World.firstDue?]
  generalize hdue : List.filterMap _ w.controllers.zipIdx = due
  cases due with
  | nil =>
    refine Or.inl ⟨rfl, fun k hk => ?_⟩
    obtain ⟨c, hc⟩ := List.mem_iff_getElem?.mp hk
    have hmem := List.mk_mem_zipIdx_iff_getElem?.mpr hc
    exact Option.map_eq_none_iff.mp (List.filterMap_eq_nil_iff.mp hdue (k, c) hmem)
  | cons x xs =>
    right
    refine foldl_preferred (P := fun first => ∃ c k a, first = some (c, a) ∧
      w.controllers[c]? = some k ∧ k.debouncer.due? time = some a) (fun _ => rfl) (fun b y => ?_)
      fun y hy => ?_
    · dsimp only
      split_ifs <;> simp
    · rw [← hdue] at hy
      obtain ⟨⟨k, c⟩, hk, halarm⟩ := List.mem_filterMap.mp hy
      obtain ⟨a, ha, rfl⟩ := Option.map_eq_some_iff.mp halarm
      exact ⟨c, k, a, rfl, List.mk_mem_zipIdx_iff_getElem?.mp hk, ha⟩

lemma due?_of_idle {d : Debouncer} (h : d.pending = false) (time : Nat) : d.due? time = none := by
  rw [Debouncer.pending, Option.isSome_eq_false_iff, Option.isNone_iff_eq_none] at h
  rw [Debouncer.due?, h, Option.filter_none]

end Alarms

/-! ## Sessions -/

/-- The session after some requests, answered one after the other. -/
def World.after (w : World) (rs : List Request) : World :=
  rs.foldl (fun w r => (answer r w).2) w

lemma World.after_cons (w : World) (r : Request) (rs : List Request) :
    w.after (r :: rs) = ((answer r w).2).after rs := rfl

lemma World.after_append (w : World) (rs rs' : List Request) :
    w.after (rs ++ rs') = (w.after rs).after rs' :=
  List.foldl_append

lemma World.after_concat (w : World) (rs : List Request) (r : Request) :
    w.after (rs ++ [r]) = (answer r (w.after rs)).2 :=
  w.after_append rs [r]

end DiagramSync
