import DiagramSync.Proofs.Session.Growth
import DiagramSync.Proofs.Session.Telling

/-!
# What listeners hear of

Of every edit that the store takes everybody is told who was subscribed at that moment, one after
the other.  A listener may ask for further edits when it is told of one, and these are made, and
told, before the next subscriber is told.  So a listener hears of every edit once; but it may hear
of an edit that another listener has asked for before it hears of the one that caused it.

* `Request.IsOnStore` — the operations of the store
* `heardIn`, `World.heard` — the versions that a listener hears of
* `World.IsClear` — nobody who is told before a listener asks for anything
* `World.Delivers` — from one session to a later one a listener hears of every version
* `delivers_tellAll` — telling everybody, with what listeners ask for in between
* `tells_commit`, `tells_perform` — every edit is told of, and so is whatever comes of it
* **`heard_once_each`** — a listener that stays subscribed hears of every version once
* `heard_nested` — it need not hear of them in order
-/

namespace DiagramSync

/-! ## Operations of the store -/

/-- The request is an operation of the store. -/
def Request.IsOnStore : Request → Prop
  | .change .. | .addPointing .. | .replaceAll .. | .getEntity _ | .findEntity _ | .diagram
  | .count | .subscribe .. | .unsubscribe _ | .pause => True
  | _ => False

/-! ## Hearing -/

/-- The version of a change that the listener with that tag is told of. -/
def Event.heardBy? (tag : String) : Event → Option Nat
  | .change t c => if t = tag then some c.version else none
  | _ => none

/-- The versions that the listener with that tag is told of. -/
def heardIn (tag : String) (es : List Event) : List Nat :=
  es.filterMap (Event.heardBy? tag)

/-- The versions that the listener with that tag is told of during a run. -/
def World.heard (tag : String) (w : World) : List Request → List Nat
  | [] => []
  | r :: rs => heardIn tag (answer r w).2.events ++ (answer r w).2.heard tag rs

/-- The versions after that of one session, up to that of a later one. -/
def World.versionsTo (w w' : World) : List Nat :=
  List.range' (w.store.version + 1) (w'.store.version - w.store.version)

/-- No listener fails, and what is no source is given for no edit that is made: a request that is
refused is refused before anything is edited. -/
def World.IsUndisturbed (w : World) : List Request → Prop
  | [] => True
  | r :: rs =>
    ((answer r w).1.toBool = true ∨ (answer r w).2.store.version = w.store.version) ∧
      (answer r w).2.IsUndisturbed rs

/-- Everybody who is told before that listener is a listener that asks for nothing. -/
def World.IsClear (n : Nat) (w : World) : Prop :=
  ∃ before after, w.subscribers = before ++ .listener n :: after ∧
    ∀ s ∈ before, ∃ m l, s = .listener m ∧ w.listeners[m]? = some l ∧ l.script = []

section Versions

variable {w w₁ w₂ : World}

lemma versionsTo_self (w : World) : w.versionsTo w = [] := by
  rw [World.versionsTo, Nat.sub_self]
  rfl

lemma versionsTo_of_same (h : w₁.store.version = w.store.version) : w.versionsTo w₁ = [] := by
  rw [World.versionsTo, h, Nat.sub_self]
  rfl

lemma versionsTo_append (h : w.Grows w₁) (h' : w₁.Grows w₂) :
    w.versionsTo w₁ ++ w₁.versionsTo w₂ = w.versionsTo w₂ := by
  have hfirst := h.version
  have hsecond := h'.version
  have hstart : w₁.store.version + 1
      = w.store.version + 1 + 1 * (w₁.store.version - w.store.version) := by omega
  rw [World.versionsTo, World.versionsTo, World.versionsTo, hstart, List.range'_append]
  congr 1
  omega

/-- The version of an edit is the first of those that come. -/
lemma versionsTo_cons (hversion : w₁.store.version = w.store.version + 1) (h : w₁.Grows w₂) :
    w.versionsTo w₂ = w₁.store.version :: w₁.versionsTo w₂ := by
  have hlater := h.version
  have hlength : w₂.store.version - w.store.version
      = w₂.store.version - w₁.store.version + 1 := by omega
  rw [World.versionsTo, hlength, List.range'_succ, ← hversion]
  rfl

end Versions

/-! ## A listener that stays -/

/-- There is a listener with that number and tag, and what listeners ask for are operations of the
store. -/
structure World.HasListener (n : Nat) (tag : String) (w : World) : Prop extends w.IsNumbered where
  /-- Listeners ask for operations of the store only. -/
  asks : w.AsksWithin Request.IsOnStore
  /-- The listener has the tag. -/
  tagged : ∃ l, w.listeners[n]? = some l ∧ l.tag = tag

section Listener

variable {n : Nat} {tag : String} {w w' : World}

/-- A listener remains one. -/
lemma isKeptBySteps_hasListener : IsKeptBySteps Request.IsOnStore (World.HasListener n tag) where
  asks h := h.asks
  shift h hstep := by
    obtain ⟨hnumbered, hasks⟩ := (isKeptBySteps_isNumbered _).shift ⟨h.toIsNumbered, h.asks⟩ hstep
    obtain ⟨l, hl, htag⟩ := h.tagged
    obtain ⟨l', hl', htag', -⟩ := (World.Grows.of_shift hstep).listener n l hl
    exact ⟨hnumbered, hasks, l', hl', htag'.trans htag⟩
  edit h _ := ⟨⟨h.known, h.once⟩, h.asks, h.tagged⟩

/-- Where nobody who is told before it asks for anything, that remains so as long as the listener is
subscribed. -/
lemma isKeptBySteps_isClear : IsKeptBySteps Request.IsOnStore fun w =>
    w.HasListener n tag ∧ (Subscriber.listener n ∈ w.subscribers → w.IsClear n) where
  asks h := h.1.asks
  edit h _ := ⟨isKeptBySteps_hasListener.edit h.1 ‹_›, h.2⟩
  shift := by
    rintro w w' ⟨hw, hclear⟩ hstep
    refine ⟨isKeptBySteps_hasListener.shift hw hstep, fun hmem => ?_⟩
    have hgrows := World.Grows.of_shift hstep
    obtain ⟨l, hl, -⟩ := hw.tagged
    have hn := (List.getElem?_eq_some_iff.mp hl).1
    obtain ⟨before, after, hsplit, hsilent⟩ := hclear (hgrows.staying n hn hmem)
    have hstill : ∀ s ∈ before,
        ∃ m l, s = Subscriber.listener m ∧ w'.listeners[m]? = some l ∧ l.script = [] := by
      intro s hs
      obtain ⟨m, l, rfl, hl, hscript⟩ := hsilent s hs
      obtain ⟨l', hl', -, hscript'⟩ := hgrows.listener m l hl
      exact ⟨m, l', rfl, hl', hscript' hscript⟩
    cases hstep with
    | opens _ _ =>
      refine ⟨before, after ++ [.controller w.controllers.length], ?_, hstill⟩
      dsimp only
      rw [hsplit, List.append_assoc, List.cons_append]
    | leave s =>
      have hother : Subscriber.listener n ≠ s := by simpa using (List.mem_filter.mp hmem).2
      refine ⟨before.filter (· ≠ s), after.filter (· ≠ s), ?_, fun s' hs' =>
        hstill s' (List.mem_filter.mp hs').1⟩
      dsimp only
      rw [hsplit, List.filter_append, List.filter_cons_of_pos (by simpa using hother)]
    | subscribe _ =>
      refine ⟨before, after ++ [.listener w.listeners.length], ?_, hstill⟩
      dsimp only
      rw [hsplit, List.append_assoc, List.cons_append]
    | _ => exact ⟨before, after, hsplit, hstill⟩

/-- From one session to the other the listener hears of every version once, and in order if nobody
who is told before it asks for anything. -/
def World.Delivers (n : Nat) (tag : String) (w w' : World) : Prop :=
  ∃ es, w'.events = w.events ++ es ∧ (heardIn tag es).Perm (w.versionsTo w') ∧
    (w.IsClear n → heardIn tag es = w.versionsTo w')

lemma heardIn_append (es es' : List Event) :
    heardIn tag (es ++ es') = heardIn tag es ++ heardIn tag es' :=
  List.filterMap_append

/-- Where nothing was noted and the version is the same. -/
lemma World.Delivers.of_same (hevents : w'.events = w.events)
    (hversion : w'.store.version = w.store.version) : w.Delivers n tag w' :=
  ⟨[], by rw [hevents, List.append_nil], by rw [versionsTo_of_same hversion]; exact .nil,
    fun _ => (versionsTo_of_same hversion).symm⟩

end Listener

/-! ## Actions that tell -/

/-- An operation of the store that asks for no edit. -/
lemma exec_perform_look (react : React) {r : Request} (hQ : r.IsOnStore)
    (hlook : r.asking? = none) (w : World) :
    ((perform react r).exec w).2.events = w.events ∧
      ((perform react r).exec w).2.store = w.store := by
  have hkeeps : (perform react r).Keeps fun w' => w'.events = w.events ∧ w'.store = w.store := by
    cases r with
    | getEntity entity =>
      refine keeps_bind keeps_get fun w₁ => keeps_bind (fun w₂ hw₂ => ?_) fun _ => keeps_pure _
      rw [exec_editing]
      cases demandEntity w₁.store.entities entity w₂.supply <;> exact hw₂
    | findEntity name =>
      rw [perform]
      split
      · exact keeps_throw _
      · exact keeps_bind keeps_get fun _ => keeps_pure _
    | diagram => exact keeps_bind keeps_get fun _ => keeps_pure _
    | count => exact keeps_bind keeps_get fun _ => keeps_pure _
    | pause => exact keeps_pure _
    | subscribe tag script fails =>
      exact keeps_bind (keeps_modify fun _ h => h) fun _ => keeps_pure _
    | unsubscribe tag =>
      refine keeps_bind (keeps_modify fun w₁ h => ?_) fun _ => keeps_pure _
      split <;> exact h
    | change edit terms => cases hlook
    | addPointing entity attributes reference terms => cases hlook
    | replaceAll entities terms => cases hlook
    | _ => exact hQ.elim
  exact hkeeps w ⟨rfl, rfl⟩

/-- The action goes on by steps, and of all edits that it makes the listener hears if it is still
subscribed in the session `z`. -/
structure Action.Tells {α : Type} (n : Nat) (tag : String) (z : World) (x : Action α) : Prop where
  /-- It goes on by steps. -/
  moves : ∀ {P}, IsKeptBySteps Request.IsOnStore P → x.Keeps P
  /-- The listener hears of every edit. -/
  tells : ∀ {w a w'}, w.HasListener n tag → x.exec w = (.ok a, w') → w'.Grows z →
    w.Delivers n tag w'

section Tells

variable {n : Nat} {tag : String} {z : World} {α β : Type}

/-- An action that goes on by steps leads to a later session. -/
lemma Action.Tells.grows {x : Action α} (hx : x.Tells n tag z) {w w' : World} {r : Except Fault α}
    (hw : w.HasListener n tag) (hrun : x.exec w = (r, w')) : w.Grows w' ∧ w'.HasListener n tag := by
  have hgrows := hx.moves (isKeptBySteps_grows _ w) w ⟨.refl w, hw.asks⟩
  have hlistener := hx.moves isKeptBySteps_hasListener w hw
  rw [hrun] at hgrows hlistener
  exact ⟨hgrows.1, hlistener⟩

lemma tells_pure (a : α) : (pure a : Action α).Tells n tag z where
  moves _ := keeps_pure a
  tells _ hrun _ := by
    obtain ⟨-, rfl⟩ := Prod.mk.inj hrun
    exact .of_same rfl rfl

variable (hstays : Subscriber.listener n ∈ z.subscribers)
include hstays

/-- Who is still subscribed in the end is subscribed all the time. -/
lemma subscribed_of_grows {w : World} (hw : w.HasListener n tag) (h : w.Grows z) :
    Subscriber.listener n ∈ w.subscribers := by
  obtain ⟨l, hl, -⟩ := hw.tagged
  exact h.staying n (List.getElem?_eq_some_iff.mp hl).1 hstays

/-- What is told first and what is told then is told after all. -/
lemma World.Delivers.trans {w w₁ w₂ : World} {x : Action α} {a : α} (hw : w.HasListener n tag)
    (hx : x.Tells n tag z) (hrun : x.exec w = (.ok a, w₁)) (h : w.Delivers n tag w₁)
    (h' : w₁.Delivers n tag w₂) (hgrows : w₁.Grows w₂) (hz : w₂.Grows z) :
    w.Delivers n tag w₂ := by
  obtain ⟨es, hes, hperm, horder⟩ := h
  obtain ⟨es', hes', hperm', horder'⟩ := h'
  obtain ⟨hfirst, hw₁⟩ := hx.grows hw hrun
  refine ⟨es ++ es', by rw [hes', hes, List.append_assoc], ?_, fun hclear => ?_⟩
  · rw [heardIn_append, ← versionsTo_append hfirst hgrows]
    exact hperm.append hperm'
  · have hclear₁ := (hx.moves isKeptBySteps_isClear w ⟨hw, fun _ => hclear⟩).2
    rw [hrun] at hclear₁
    rw [heardIn_append, ← versionsTo_append hfirst hgrows, horder hclear,
      horder' (hclear₁ (subscribed_of_grows hstays hw₁ (hgrows.trans hz)))]

lemma tells_bind {x : Action α} {f : α → Action β} (hx : x.Tells n tag z)
    (hf : ∀ a, (f a).Tells n tag z) : (x >>= f).Tells n tag z where
  moves hP := keeps_bind (hx.moves hP) fun a => (hf a).moves hP
  tells {w b w'} hw hrun hz := by
    obtain ⟨a, w₁, hfirst, hrun⟩ := exec_bind_eq_ok.mp hrun
    obtain ⟨-, hw₁⟩ := hx.grows hw hfirst
    obtain ⟨hgrows, -⟩ := (hf a).grows hw₁ hrun
    exact .trans hstays hw hx hfirst (hx.tells hw hfirst (hgrows.trans hz))
      ((hf a).tells hw₁ hrun hz) hgrows hz

lemma tells_forM {xs : List β} {f : β → Action Unit} (hf : ∀ x ∈ xs, (f x).Tells n tag z) :
    (xs.forM f).Tells n tag z := by
  induction xs with
  | nil => exact tells_pure ()
  | cons x xs ih =>
    have hcons : (x :: xs).forM f = f x >>= fun _ => xs.forM f := rfl
    rw [hcons]
    exact tells_bind hstays (hf x List.mem_cons_self) fun _ =>
      ih fun y hy => hf y (List.mem_cons_of_mem x hy)

/-! ### Telling -/

omit hstays in
lemma tells_get : (get : Action World).Tells n tag z where
  moves _ := keeps_get
  tells _ hrun _ := by
    obtain ⟨-, rfl⟩ := Prod.mk.inj hrun
    exact .of_same rfl rfl

omit hstays in
lemma tells_modifyController (c : Nat) {g : Controller → Controller}
    (hresolver : ∀ k, (g k).resolver = k.resolver) (hg : ∀ k, k.IsCounted → (g k).IsCounted) :
    (Action.modifyController c g).Tells n tag z where
  moves hP := keeps_modifyController hP.toIsKeptByShifts c hresolver hg
  tells _ hrun _ := by
    obtain ⟨-, rfl⟩ := Prod.mk.inj hrun
    exact .of_same rfl rfl

variable {react : React} (hreact : ∀ script, Request.AllWithin Request.IsOnStore script →
  (react script).Tells n tag z)

/-- The session in which a listener has noted what it was told, before it asks for anything. -/
def World.calling (number : Nat) (e : Event) (w : World) : World :=
  { w with
    events := w.events ++ [e]
    listeners := w.listeners.modify number Listener.called }

omit hstays in
/-- A listener that does not fail notes what it was told and then asks for the next part of its
script. -/
lemma exec_callListener_ok {w w' : World} {number : Nat} {event : String → Event} {l : Listener}
    (hl : w.listeners[number]? = some l)
    (hrun : (callListener react number event).exec w = (.ok (), w')) :
    (react (Request.beforePause l.script)).exec (w.calling number (event l.tag)) = (.ok (), w') := by
  rw [callListener, exec_bind_ok (exec_get w), hl] at hrun
  dsimp only at hrun
  rw [exec_bind_ok (exec_note _ w)] at hrun
  split_ifs at hrun with hfails
  · cases (Prod.mk.inj hrun).1
  · rw [exec_bind_ok (exec_modify _ _)] at hrun
    exact hrun

include hreact

omit hstays in
/-- What the listener hears that is called, if it does not fail. -/
lemma delivers_callListener {w w' : World} {number : Nat} {event : String → Event} {l : Listener}
    (hw : w.HasListener n tag) (hl : w.listeners[number]? = some l)
    (hrun : (callListener react number event).exec w = (.ok (), w')) (hz : w'.Grows z) :
    ∃ es, w'.events = w.events ++ event l.tag :: es ∧ (heardIn tag es).Perm (w.versionsTo w') ∧
      (w.IsClear n → heardIn tag es = w.versionsTo w') := by
  have hscript := exec_callListener_ok hl hrun
  have hcalled : w.Shift Request.IsOnStore { w with
      listeners := w.listeners.modify number Listener.called } := .call number
  have hnoted : (w.calling number (event l.tag)).HasListener n tag :=
    isKeptBySteps_hasListener.shift (isKeptBySteps_hasListener.shift hw hcalled) (.note _)
  obtain ⟨es, hes, hperm, horder⟩ :=
    (hreact _ (hw.asks l (List.mem_of_getElem? hl)).beforePause).tells hnoted hscript hz
  refine ⟨es, ?_, hperm, fun hclear => horder ?_⟩
  · rw [hes, World.calling, List.append_assoc, List.singleton_append]
  · obtain ⟨before, after, hsplit, hsilent⟩ := hclear
    refine ⟨before, after, hsplit, fun s hs => ?_⟩
    obtain ⟨m, l', rfl, hl', hnone⟩ := hsilent s hs
    obtain ⟨l'', hl'', -, hnone'⟩ := (World.Grows.of_shift hcalled).listener m l' hl'
    exact ⟨m, l'', rfl, hl'', hnone' hnone⟩

omit hstays in
/-- Another listener is called, or the listener is told of something else. -/
lemma tells_callListener {number : Nat} {event : String → Event}
    (hother : ∀ {w : World} {l : Listener}, w.Grows z → w.listeners[number]? = some l →
      (event l.tag).heardBy? tag = none) :
    (callListener react number event).Tells n tag z where
  moves hP := keeps_callListener hP (fun script hscript => (hreact script hscript).moves hP) number
    event
  tells {w a w'} hw hrun hz := by
    cases hl : w.listeners[number]? with
    | none =>
      rw [callListener, exec_bind_ok (exec_get w), hl] at hrun
      obtain ⟨-, rfl⟩ := Prod.mk.inj hrun
      exact .of_same rfl rfl
    | some l =>
      have hgrows := keeps_callListener (isKeptBySteps_grows _ w)
        (fun script hscript => (hreact script hscript).moves (isKeptBySteps_grows _ w)) number
        event w ⟨.refl w, hw.asks⟩
      rw [hrun] at hgrows
      obtain ⟨es, hes, hperm, horder⟩ := delivers_callListener hreact hw hl hrun hz
      have hheard : heardIn tag (event l.tag :: es) = heardIn tag es :=
        List.filterMap_cons_none (hother (hgrows.1.trans hz) hl)
      exact ⟨_, hes, hheard ▸ hperm, fun hclear => hheard ▸ horder hclear⟩

lemma tells_follow (c : Nat) (change : Change) : (follow react c change).Tells n tag z := by
  rw [follow]
  split_ifs
  · exact tells_pure ()
  · refine tells_bind hstays tells_get fun w => ?_
    refine tells_bind hstays (tells_modifyController c (fun k => ?_) fun k hk => ?_) fun _ => ?_
    · dsimp only
      split_ifs <;> rfl
    · dsimp only
      split_ifs
      · exact Nat.le_refl k.editGeneration
      · exact hk
    refine tells_bind hstays tells_get fun w' => ?_
    refine tells_forM hstays fun number _ => ?_
    refine tells_bind hstays (tells_bind hstays tells_get fun _ => tells_pure _) fun text => ?_
    exact tells_callListener hreact fun _ _ => rfl

variable (honly : ∀ (m : Nat) (l : Listener), z.listeners[m]? = some l → l.tag = tag → m = n)
include honly

/-- Another subscriber is told. -/
lemma tells_tell (change : Change) {s : Subscriber} (hs : s ≠ .listener n) :
    (tell react change s).Tells n tag z := by
  cases s with
  | controller c =>
    rw [tell]
    exact tells_follow hstays hreact c change
  | listener number =>
    rw [tell]
    refine tells_callListener hreact fun {w l} hz hl => if_neg fun htag => hs ?_
    obtain ⟨l', hl', htag', -⟩ := hz.listener number l hl
    rw [honly number l' hl' (htag'.trans htag)]

omit hstays honly hreact in
/-- Listeners that ask for nothing leave the store alone, and still ask for nothing when all of them
have been told. -/
lemma keeps_tellSilent (hnil : ∀ w, (react []).exec w = (.ok (), w)) (w : World) (change : Change)
    (subscribers : List Subscriber) :
    (subscribers.forM (tell react change)).Keeps fun w' => w'.store = w.store ∧
      ∀ s ∈ subscribers, ∃ m l, s = .listener m ∧ w'.listeners[m]? = some l ∧ l.script = [] := by
  refine keeps_forM fun s hs => ?_
  rintro w₁ ⟨hstore, hsilent⟩
  obtain ⟨m, l, rfl, hl, hscript⟩ := hsilent s hs
  rw [tell, callListener, exec_bind_ok (exec_get w₁), hl]
  dsimp only
  rw [exec_bind_ok (exec_note _ w₁)]
  split_ifs
  · exact ⟨hstore, hsilent⟩
  · have hbefore : Request.beforePause l.script = [] := congrArg Request.beforePause hscript
    rw [exec_bind_ok (exec_modify _ _), hbefore, hnil]
    refine ⟨hstore, fun s' hs' => ?_⟩
    obtain ⟨m', l', rfl, hl', hscript'⟩ := hsilent s' hs'
    have hcalled : w₁.Shift Request.any { w₁ with
        listeners := w₁.listeners.modify m Listener.called } := .call m
    obtain ⟨l'', hl'', -, hnone⟩ := (World.Grows.of_shift hcalled).listener m' l' hl'
    exact ⟨m', l'', rfl, hl'', hnone hscript'⟩

/-- When everybody has been told of a change, the listener has heard of it once, and once of each
version that has come of it since; these come after it if those before the listener ask for
nothing. -/
lemma delivers_tellAll (hnil : ∀ w, (react []).exec w = (.ok (), w)) {w w' : World}
    (hw : w.HasListener n tag) (change : Change) {before after : List Subscriber}
    (hbefore : .listener n ∉ before) (hafter : .listener n ∉ after)
    (hsplit : w.subscribers = before ++ .listener n :: after)
    (hrun : (w.subscribers.forM (tell react change)).exec w = (.ok (), w')) (hz : w'.Grows z) :
    ∃ es, w'.events = w.events ++ es ∧
      (heardIn tag es).Perm (change.version :: w.versionsTo w') ∧
      ((∀ s ∈ before, ∃ m l, s = .listener m ∧ w.listeners[m]? = some l ∧ l.script = []) →
        heardIn tag es = change.version :: w.versionsTo w') := by
  have htell := fun {P} (hP : IsKeptBySteps Request.IsOnStore P) => keeps_tell hP
    (fun script hscript => (hreact script hscript).moves hP) change (.listener n)
  have hothers : ∀ {subscribers : List Subscriber}, .listener n ∉ subscribers →
      (subscribers.forM (tell react change)).Tells n tag z := fun hnone =>
    tells_forM hstays fun s hs => tells_tell hstays hreact honly change fun heq => hnone (heq ▸ hs)
  have happend : (before ++ Subscriber.listener n :: after).forM (tell react change)
      = before.forM (tell react change) >>= fun _ => tell react change (.listener n) >>= fun _ =>
        after.forM (tell react change) := List.forM_append
  rw [hsplit, happend] at hrun
  obtain ⟨_, w₁, hfirst, hrun⟩ := exec_bind_eq_ok.mp hrun
  obtain ⟨_, w₂, hcall, hrun⟩ := exec_bind_eq_ok.mp hrun
  obtain ⟨hgrows₁, hw₁⟩ := (hothers hbefore).grows hw hfirst
  have hgrows₂ := htell (isKeptBySteps_grows _ w₁) w₁ ⟨.refl w₁, hw₁.asks⟩
  have hw₂ := htell isKeptBySteps_hasListener w₁ hw₁
  rw [hcall] at hgrows₂ hw₂
  obtain ⟨hgrows₃, -⟩ := (hothers hafter).grows hw₂ hrun
  have hz₂ := hgrows₃.trans hz
  have hz₁ := hgrows₂.1.trans hz₂
  obtain ⟨l, hl, htag⟩ := hw₁.tagged
  obtain ⟨es₁, hes₁, hperm₁, horder₁⟩ := (hothers hbefore).tells hw hfirst hz₁
  have hcalled : (callListener react n fun t => .change t change).exec w₁ = (.ok (), w₂) := hcall
  obtain ⟨es₂, hes₂, hperm₂, horder₂⟩ := delivers_callListener hreact hw₁ hl hcalled hz₂
  obtain ⟨es₃, hes₃, hperm₃, horder₃⟩ := (hothers hafter).tells hw₂ hrun hz
  have hheard : heardIn tag (es₁ ++ (Event.change l.tag change :: es₂ ++ es₃))
      = heardIn tag es₁ ++ change.version :: (heardIn tag es₂ ++ heardIn tag es₃) := by
    rw [heardIn_append, heardIn_append, heardIn, heardIn,
      List.filterMap_cons_some (show Event.heardBy? tag (.change l.tag change)
        = some change.version from if_pos htag)]
    rfl
  have hversions : w.versionsTo w₁ ++ (w₁.versionsTo w₂ ++ w₂.versionsTo w')
      = w.versionsTo w' := by
    rw [versionsTo_append hgrows₂.1 hgrows₃, versionsTo_append hgrows₁
      (hgrows₂.1.trans hgrows₃)]
  refine ⟨es₁ ++ (Event.change l.tag change :: es₂ ++ es₃), ?_, ?_, fun hsilent => ?_⟩
  · rw [hes₃, hes₂, hes₁, List.append_assoc, List.append_assoc]
  · rw [hheard, ← hversions]
    exact List.perm_middle.trans ((hperm₁.append (hperm₂.append hperm₃)).cons _)
  · have hclear : w.IsClear n := ⟨before, after, hsplit, hsilent⟩
    have hclear₁ := (hothers hbefore).moves isKeptBySteps_isClear w ⟨hw, fun _ => hclear⟩
    rw [hfirst] at hclear₁
    have hclear₂ := htell isKeptBySteps_isClear w₁ hclear₁
    rw [hcall] at hclear₂
    have hstore := keeps_tellSilent hnil w change before w ⟨rfl, hsilent⟩
    rw [hfirst] at hstore
    have hnone : w.versionsTo w₁ = [] :=
      versionsTo_of_same (congrArg Store.version hstore.1)
    rw [hheard, ← hversions, horder₁ hclear, hnone, List.nil_append, List.nil_append,
      horder₂ (hclear₁.2 (subscribed_of_grows hstays hw₁ hz₁)),
      horder₃ (hclear₂.2 (subscribed_of_grows hstays hw₂ hz₂))]

/-! ### Edits -/

/-- Of an edit that the store takes the listener hears once, and of whatever comes of it as well. -/
lemma tells_commit (hnil : ∀ w, (react []).exec w = (.ok (), w)) (source : ChangeSource)
    (expected : Option Int) (edit : Edit) : (commit react source expected edit).Tells n tag z where
  moves hP := keeps_commit hP (fun script hscript => (hreact script hscript).moves hP) source
    expected edit
  tells {w a w'} hw hrun hz := by
    cases happly : w.store.apply w.unlinked expected edit w.supply with
    | error f =>
      rw [exec_commit_refused happly] at hrun
      exact absurd (Prod.mk.inj hrun).1 nofun
    | ok p =>
      obtain ⟨⟨store, edited⟩, supply⟩ := p
      rw [exec_commit_taken react source happly] at hrun
      obtain ⟨_, w₁, htold, hrun⟩ := exec_bind_eq_ok.mp hrun
      obtain ⟨-, rfl⟩ := Prod.mk.inj hrun
      set taken := w.taking edit store supply with htaken
      have hgrows : w.Grows taken :=
        ((isKeptBySteps_grows _ w).edit ⟨.refl w, hw.asks⟩ happly).1
      have hlistener : taken.HasListener n tag := isKeptBySteps_hasListener.edit hw happly
      have hlater := keeps_tellAll (isKeptBySteps_grows _ taken)
        (fun script hscript => (hreact script hscript).moves (isKeptBySteps_grows _ taken))
        { version := store.version, source, operation := edit.operation } w.subscribers taken
        ⟨.refl taken, hlistener.asks⟩
      rw [htold] at hlater
      have hmem := subscribed_of_grows hstays hw (hgrows.trans (hlater.1.trans hz))
      obtain ⟨before, after, hsplit, hsilent⟩ : ∃ before after,
          w.subscribers = before ++ .listener n :: after ∧ (w.IsClear n →
            ∀ s ∈ before, ∃ m l, s = .listener m ∧ w.listeners[m]? = some l ∧ l.script = []) := by
        by_cases hclear : w.IsClear n
        · obtain ⟨before, after, hsplit, hsilent⟩ := hclear
          exact ⟨before, after, hsplit, fun _ => hsilent⟩
        · obtain ⟨before, after, hsplit⟩ := List.append_of_mem hmem
          exact ⟨before, after, hsplit, fun h => absurd h hclear⟩
      have honce := hw.once n
      rw [hsplit, List.count_append, List.count_cons_self] at honce
      have hbefore : Subscriber.listener n ∉ before := List.count_eq_zero.mp (by omega)
      have hafter : Subscriber.listener n ∉ after := List.count_eq_zero.mp (by omega)
      obtain ⟨es, hes, hperm, horder⟩ := delivers_tellAll hstays hreact honly hnil hlistener _
        hbefore hafter hsplit htold hz
      have hversions := versionsTo_cons (w := w) (apply_eq_ok happly).2 hlater.1
      refine ⟨es, hes, hversions ▸ hperm, fun hclear => ?_⟩
      exact (horder (hsilent hclear)).trans hversions.symm

/-! ### Requests -/

/-- Whatever comes of an operation of the store, the listener hears of it. -/
lemma tells_perform (hnil : ∀ w, (react []).exec w = (.ok (), w)) {r : Request}
    (hQ : r.Within Request.IsOnStore) : (perform react r).Tells n tag z where
  moves hP := keeps_perform hP (fun script hscript => (hreact script hscript).moves hP) hQ
  tells {w a w'} hw hrun hz := by
    cases hasking : r.asking? with
    | none =>
      have hlook := exec_perform_look react hQ.kind hasking w
      rw [hrun] at hlook
      exact .of_same hlook.1 (congrArg Store.version hlook.2)
    | some q =>
      rw [perform_asking react hasking, exec_map] at hrun
      have hread := keeps_asking isKeptBySteps_hasListener hasking w hw
      have hdrawn := (exec_asking hasking w).1
      have hrequested := requested_requestedEdit react q.ownSource q.terms q.edit w
      generalize (requestedEdit react q.ownSource q.terms q.edit).exec w = p at hrequested hrun
      obtain ⟨hok, hend⟩ := Prod.mk.inj hrun
      cases hrequested with
      | unknown unknown => exact absurd hok nofun
      | unread => exact absurd hok nofun
      | @tried source edit expected w₁ known read depends =>
        rw [read] at hread hdrawn
        obtain ⟨supply, rfl⟩ := hdrawn
        obtain ⟨handBack, hcommit⟩ :=
          exec_commitAndHandBack react source expected edit { w with supply }
        rw [hcommit] at hok hend
        cases hmade : (commit react source expected edit).exec { w with supply } with
        | mk r w₂ =>
          rw [hmade] at hok hend
          cases r with
          | error f => exact absurd hok nofun
          | ok edited =>
            obtain rfl : w₂ = w' := hend
            have htold :=
              (tells_commit hstays hreact honly hnil source expected edit).tells hread hmade hz
            exact htold
      | @untold other edit expected w₁ loose read depends =>
        obtain ⟨f, w₂, hfails⟩ := exec_commitUntold_fails other expected edit w₁
        rw [hfails] at hok
        exact absurd hok nofun

omit hstays honly in
/-- Of a request that is refused before anything is edited nobody hears. -/
lemma events_of_refused {r : Request} (hQ : r.Within Request.IsOnStore) {w w' : World} {f : Fault}
    (hw : w.HasListener n tag) (hrun : (perform react r).exec w = (.error f, w'))
    (hsame : w'.store.version = w.store.version) : w'.events = w.events := by
  cases hasking : r.asking? with
  | none =>
    have hlook := exec_perform_look react hQ.kind hasking w
    rw [hrun] at hlook
    exact hlook.1
  | some q =>
    rw [perform_asking react hasking, exec_map] at hrun
    have hread := keeps_asking isKeptBySteps_hasListener hasking w hw
    have hdrawn := (exec_asking hasking w).1
    have hrequested := requested_requestedEdit react q.ownSource q.terms q.edit w
    generalize (requestedEdit react q.ownSource q.terms q.edit).exec w = p at hrequested hrun
    obtain ⟨-, hend⟩ := Prod.mk.inj hrun
    cases hrequested with
    | unknown unknown => exact hend ▸ rfl
    | unread =>
      obtain ⟨supply, hsupply⟩ := hdrawn
      rw [hsupply] at hend
      exact hend ▸ rfl
    | @tried source edit expected w₁ known read depends =>
      rw [read] at hread hdrawn
      obtain ⟨supply, rfl⟩ := hdrawn
      obtain ⟨handBack, hcommit⟩ :=
        exec_commitAndHandBack react source expected edit { w with supply }
      rw [hcommit] at hend
      cases happly : w.store.apply w.unlinked expected edit supply with
      | error f' =>
        rw [exec_commit_refused (w := { w with supply }) happly] at hend
        exact hend ▸ rfl
      | ok p =>
        -- the store has taken the edit, so the version is a later one
        obtain ⟨⟨store, edited⟩, supply'⟩ := p
        set taken := World.taking edit store supply' { w with supply } with htaken
        have hlater := keeps_bind (keeps_tellAll (isKeptBySteps_grows _ taken)
          (fun script hscript => (hreact script hscript).moves (isKeptBySteps_grows _ taken))
          { version := store.version, source, operation := edit.operation } w.subscribers)
          (fun _ => keeps_pure edited) taken ⟨.refl taken, hread.asks⟩
        rw [exec_commit_taken (w := { w with supply }) react source happly] at hend
        have hversion : store.version = w.store.version + 1 := (apply_eq_ok happly).2
        have hle : store.version ≤ w'.store.version := hend ▸ hlater.1.version
        omega
    | @untold other edit expected w₁ loose read depends =>
      rw [read] at hdrawn
      obtain ⟨supply, rfl⟩ := hdrawn
      cases happly : w.store.apply w.unlinked expected edit supply with
      | error f' =>
        rw [exec_commitUntold_refused (w := { w with supply }) other happly] at hend
        exact hend ▸ rfl
      | ok p =>
        rw [exec_commitUntold_taken (w := { w with supply }) other happly] at hend
        have hversion : p.1.1.version = w.store.version + 1 := (apply_eq_ok happly).2
        have hsame' : p.1.1.version = w'.store.version := congrArg (·.store.version) hend
        omega

end Tells

/-! ## Runs -/

section Runs

variable {n : Nat} {tag : String} {z : World} (hstays : Subscriber.listener n ∈ z.subscribers)
  (honly : ∀ (m : Nat) (l : Listener), z.listeners[m]? = some l → l.tag = tag → m = n)
include hstays honly

/-- The scripts of listeners tell of all edits, however deep they call each other. -/
lemma tells_runScript (depth : Nat) (script : List Request)
    (hQ : Request.AllWithin Request.IsOnStore script) :
    (runScript depth script).Tells n tag z := by
  induction depth generalizing script with
  | zero => exact tells_pure ()
  | succ depth ih =>
    rw [runScript]
    exact tells_forM hstays fun r hr => tells_bind hstays
      (tells_perform hstays ih honly (exec_runScript_nil depth) (hQ.mem hr)) fun _ => tells_pure ()

/-- What the listener hears of while a request is answered. -/
lemma heardIn_answer {w : World} {r : Request} (hw : w.HasListener n tag)
    (hQ : r.Within Request.IsOnStore) (hz : (answer r w).2.Grows z)
    (hundisturbed : (answer r w).1.toBool = true ∨
      (answer r w).2.store.version = w.store.version) :
    (heardIn tag (answer r w).2.events).Perm (w.versionsTo (answer r w).2) ∧
      (w.IsClear n → heardIn tag (answer r w).2.events = w.versionsTo (answer r w).2) := by
  have hquiet : ({ w with events := [] } : World).HasListener n tag :=
    isKeptBySteps_hasListener.shift hw .forget
  have hanswer : answer r w
      = (perform (runScript (w.weight + r.weight)) r).exec { w with events := [] } := rfl
  cases hrun : answer r w with
  | mk result w' =>
    rw [hrun] at hz hundisturbed
    rw [hanswer] at hrun
    cases result with
    | ok a =>
      have hscripts := tells_runScript hstays honly (w.weight + r.weight)
      obtain ⟨es, hes, hperm, horder⟩ := (tells_perform hstays hscripts honly
        (exec_runScript_nil _) hQ).tells hquiet hrun hz
      rw [List.nil_append] at hes
      exact ⟨hes ▸ hperm, fun hclear => hes ▸ horder hclear⟩
    | error f =>
      have hsame := hundisturbed.resolve_left Bool.false_ne_true
      have hnone := events_of_refused (tells_runScript hstays honly _) hQ hquiet hrun hsame
      rw [hnone, versionsTo_of_same hsame]
      exact ⟨.nil, fun _ => rfl⟩

/-- What the listener hears of during a run. -/
lemma heard_run {w : World} {rs : List Request} (hw : w.HasListener n tag)
    (hQ : ∀ r ∈ rs, r.Within Request.IsOnStore) (hz : (w.after rs).Grows z)
    (hundisturbed : w.IsUndisturbed rs) :
    (w.heard tag rs).Perm (w.versionsTo (w.after rs)) ∧
      (w.IsClear n → w.heard tag rs = w.versionsTo (w.after rs)) := by
  induction rs generalizing w with
  | nil =>
    rw [show w.after [] = w from rfl, versionsTo_self]
    exact ⟨.nil, fun _ => rfl⟩
  | cons r rs ih =>
    obtain ⟨hfirst, hrest⟩ := hundisturbed
    have hrQ := hQ r List.mem_cons_self
    have hgrows : w.Grows (answer r w).2 :=
      (keeps_answer (isKeptBySteps_grows _ w) ⟨.refl w, hw.asks⟩ hrQ).1
    have hw₁ := keeps_answer isKeptBySteps_hasListener hw hrQ
    have hlater := grows_after (answer r w).2 rs
    have hz₁ := hlater.trans hz
    obtain ⟨hperm, horder⟩ := heardIn_answer hstays honly hw hrQ hz₁ hfirst
    obtain ⟨hperm', horder'⟩ := ih hw₁ (fun r' hr' => hQ r' (List.mem_cons_of_mem r hr')) hz hrest
    rw [World.heard, World.after_cons, ← versionsTo_append hgrows hlater]
    refine ⟨hperm.append hperm', fun hclear => ?_⟩
    have hclear₁ := (keeps_answer isKeptBySteps_isClear ⟨hw, fun _ => hclear⟩ hrQ).2
    rw [horder hclear, horder' (hclear₁ (subscribed_of_grows hstays hw₁ hz₁))]

end Runs

lemma World.IsUndisturbed.of_append {w : World} {rs rs' : List Request}
    (h : w.IsUndisturbed (rs ++ rs')) : w.IsUndisturbed rs := by
  induction rs generalizing w with
  | nil => trivial
  | cons r rs ih => exact ⟨h.1, ih h.2⟩

/-- **A listener that stays subscribed hears of every version once.**  In every run of operations of
the store, whatever listeners ask for when they are told of a change, and if none of them fails:
whenever a request has been answered, the listener has heard of each version so far exactly once,
and of no other.  It hears of them in order if everybody who was subscribed before it is a listener
that asks for nothing. -/
theorem heard_once_each {w : World} {rs : List Request} {n : Nat} {l : Listener}
    (hnumbered : w.IsNumbered) (hasks : w.AsksWithin Request.IsOnStore)
    (hQ : ∀ r ∈ rs, r.Within Request.IsOnStore) (hl : w.listeners[n]? = some l)
    (hstays : Subscriber.listener n ∈ (w.after rs).subscribers)
    (honly : ∀ (m : Nat) (l' : Listener), (w.after rs).listeners[m]? = some l' →
      l'.tag = l.tag → m = n)
    (hundisturbed : w.IsUndisturbed rs) :
    (∀ earlier later, rs = earlier ++ later →
        (w.heard l.tag earlier).Perm (w.versionsTo (w.after earlier))) ∧
      (w.IsClear n → w.heard l.tag rs = w.versionsTo (w.after rs)) := by
  have hw : w.HasListener n l.tag := ⟨hnumbered, hasks, l, hl, rfl⟩
  refine ⟨?_, (heard_run hstays honly hw hQ (.refl _) hundisturbed).2⟩
  rintro earlier later rfl
  have hz : (w.after earlier).Grows (w.after (earlier ++ later)) := by
    rw [World.after_append]
    exact grows_after _ later
  exact (heard_run hstays honly hw (fun r hr => hQ r (List.mem_append_left later hr)) hz
    hundisturbed.of_append).1

/-! ## Edits within edits -/

/-- A session with two listeners, of which the first one adds an entity when it is told of a
change. -/
def nestingWorld : World :=
  ({ supply := .strokes } : World).after
    [.subscribe "first" [.change (.addEntity (.text "Posts")) {}] false,
      .subscribe "second" [] false]

/-- Somebody adds another entity. -/
def nestingRequests : List Request :=
  [.change (.addEntity (.text "Users")) {}]

lemma isNumbered_nestingWorld : nestingWorld.IsNumbered :=
  isNumbered_after ⟨fun _ hn => absurd hn List.not_mem_nil, fun _ => Nat.zero_le _⟩ _

lemma asksWithin_nestingWorld : nestingWorld.AsksWithin Request.IsOnStore := by
  refine keeps_after (isKeptBySteps_asksWithin _) (fun _ hl => absurd hl List.not_mem_nil) ?_
  intro r hr
  rcases List.mem_pair.mp hr with rfl | rfl
  · exact ⟨trivial, trivial, trivial⟩
  · exact ⟨trivial, trivial⟩

lemma within_nestingRequests : ∀ r ∈ nestingRequests, r.Within Request.IsOnStore := by
  intro r hr
  rw [List.mem_singleton.mp hr]
  trivial

/-- Both hear of both versions, and the first one hears of them in order. -/
theorem heard_once_each_nesting :
    (nestingWorld.heard "second" nestingRequests).Perm [1, 2] ∧
      nestingWorld.heard "first" nestingRequests = [1, 2] := by
  have hrun : (answer (.change (.addEntity (.text "Users")) {}) nestingWorld).1.toBool = true ∧
      Subscriber.listener 0 ∈ (nestingWorld.after nestingRequests).subscribers ∧
      Subscriber.listener 1 ∈ (nestingWorld.after nestingRequests).subscribers ∧
      (nestingWorld.after nestingRequests).listeners.map (·.tag) = ["first", "second"] ∧
      nestingWorld.versionsTo (nestingWorld.after nestingRequests) = [1, 2] := by
    decide +kernel
  obtain ⟨hok, hfirst, hsecond, htags, hversions⟩ := hrun
  have hundisturbed : nestingWorld.IsUndisturbed nestingRequests := ⟨Or.inl hok, trivial⟩
  have honly : ∀ (n m : Nat) (l l' : Listener), nestingWorld.listeners[n]? = some l →
      (nestingWorld.after nestingRequests).listeners[m]? = some l' → l'.tag = l.tag → m = n := by
    intro n m l l' hl hl' htag
    obtain ⟨l₂, hl₂, htag₂, -⟩ := (grows_after nestingWorld nestingRequests).listener n l hl
    have hnodup : ((nestingWorld.after nestingRequests).listeners.map (·.tag)).Nodup := by
      rw [htags]
      decide
    have hlt : m < ((nestingWorld.after nestingRequests).listeners.map (·.tag)).length := by
      rw [List.length_map]
      exact (List.getElem?_eq_some_iff.mp hl').1
    refine (List.getElem?_inj hlt hnodup).mp ?_
    rw [List.getElem?_map, List.getElem?_map, hl', hl₂, Option.map_some, Option.map_some, htag,
      htag₂]
  obtain ⟨hperm, -⟩ := heard_once_each isNumbered_nestingWorld asksWithin_nestingWorld
    within_nestingRequests (n := 1) rfl hsecond (fun m l' => honly 1 m _ l' rfl) hundisturbed
  obtain ⟨-, horder⟩ := heard_once_each isNumbered_nestingWorld asksWithin_nestingWorld
    within_nestingRequests (n := 0) rfl hfirst (fun m l' => honly 0 m _ l' rfl) hundisturbed
  have hclear : nestingWorld.IsClear 0 := ⟨[], [.listener 1], rfl, by simp⟩
  exact ⟨hversions ▸ hperm nestingRequests [] rfl, hversions ▸ horder hclear⟩

/-- The first listener may ask for an edit whenever it is told of one: this one asks for two, the
second of them when it is told of the first, and both listeners hear of all three versions. -/
example :
    let w : World := ({ supply := .strokes } : World).after
      [.subscribe "first" [.change (.addEntity (.text "Posts")) {}, .pause,
          .change (.addEntity (.text "Tags")) {}] false,
        .subscribe "second" [] false]
    w.heard "first" nestingRequests = [1, 2, 3] ∧ w.heard "second" nestingRequests = [3, 2, 1] := by
  decide +kernel

/-- The second one hears of the edit within the other edit first, so not in order. -/
theorem heard_nested : nestingWorld.AsksWithin Request.IsOnStore ∧
    (∀ r ∈ nestingRequests, r.Within Request.IsOnStore) ∧
    nestingWorld.IsUndisturbed nestingRequests ∧
    Subscriber.listener 1 ∈ (nestingWorld.after nestingRequests).subscribers ∧
    ¬ (nestingWorld.heard "second" nestingRequests).Pairwise (· < ·) := by
  have hrun : (answer (.change (.addEntity (.text "Users")) {}) nestingWorld).1.toBool = true ∧
      Subscriber.listener 1 ∈ (nestingWorld.after nestingRequests).subscribers ∧
      nestingWorld.heard "second" nestingRequests = [2, 1] := by
    decide +kernel
  obtain ⟨hok, hstays, hheard⟩ := hrun
  refine ⟨asksWithin_nestingWorld, within_nestingRequests, ⟨Or.inl hok, trivial⟩, hstays, ?_⟩
  rw [hheard]
  decide

end DiagramSync
