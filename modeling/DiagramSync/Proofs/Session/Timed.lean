import DiagramSync.Proofs.Session.Alongside

/-!
# Nothing is read in vain

A controller counts its edits and remembers the latest one that it has read, and before it reads it
makes sure that there is one to read.  It need not: while its alarm is set there always is.  That
holds at every moment, whoever is called in the midst of what and whatever he asks for, so nothing
changes if something else is done where an edit would be left alone.

* `World.IsTimed` — every controller has something to read while its alarm is set
* `Request.IsTimely` — the request leaves it to the alarms when an edit is read
* `Conduct.calm` — the same conduct without anybody looking
* `isLockstep_timed`, `agree_calm` — every move keeps that, so nobody who looks sees anything else
* `World.ReadsWhenTold` — an alarm that goes off, or a request to read at once, makes the text read
* **`never_discards`** — whatever is asked for, no edit is left alone
-/

namespace DiagramSync

/-- While its alarm is set, every controller has an edit to read. -/
def World.IsTimed (w : World) : Prop :=
  ∀ k ∈ w.controllers, k.IsTimed

instance (k : Controller) : Decidable k.IsTimed :=
  decidable_of_iff (k.parsedGeneration ≤ k.editGeneration ∧
      (k.debouncer.pending = true → k.parsedGeneration < k.editGeneration))
    ⟨fun h => ⟨h.1, h.2⟩, fun h => ⟨h.counted, h.unread⟩⟩

instance (w : World) : Decidable w.IsTimed :=
  inferInstanceAs (Decidable (∀ k ∈ w.controllers, k.IsTimed))

/-- The request leaves it to the alarms, or to a request to read at once, when an edit is read. -/
def Request.IsTimely : Request → Prop
  | .applyEdit .. => False
  | _ => True

/-- The same conduct, but nobody looks, and where an edit is left alone nothing is done. -/
def Conduct.calm (cd : Conduct) : Conduct :=
  { cd with look := pure (), skip := fun _ => pure () }

/-! ## What every move keeps -/

/-- The sessions are the same, and in time. -/
def SameInTime (w v : World) : Prop :=
  v = w ∧ w.IsTimed ∧ w.AsksWithin Request.IsTimely

lemma isTimed_modifyController {w : World} (hw : w.IsTimed) {c : Nat} {g : Controller → Controller}
    (hg : ∀ k, k.IsTimed → (g k).IsTimed) : (w.modifyController c g).IsTimed := by
  intro k hk
  obtain ⟨d, hd⟩ := List.mem_iff_getElem?.mp hk
  rw [World.modifyController, List.getElem?_modify] at hd
  obtain ⟨k', hget, rfl⟩ := Option.map_eq_some_iff.mp hd
  have hk' := hw k' (List.mem_of_getElem? hget)
  split_ifs
  · exact hg k' hk'
  · exact hk'

lemma isTimed_move {Q : Request → Prop} {Active : Nat → Prop} {w : World} {g : World → World}
    (h : w.IsTimed) (hmove : w.Move Q Active g) : (g w).IsTimed := by
  cases hmove with
  | control _ timed => exact isTimed_modifyController h timed
  | stop c =>
    exact isTimed_modifyController h fun k hk =>
      ⟨hk.counted, fun hpending => absurd hpending Bool.false_ne_true⟩
  | relisten c g => exact isTimed_modifyController h fun k hk => ⟨hk.counted, hk.unread⟩
  | opens timed =>
    intro k hk
    rcases List.mem_append.mp hk with hk | hk
    · exact h k hk
    · exact List.mem_singleton.mp hk ▸ timed
  | _ => exact h

lemma isLockstep_timed : IsLockstep Request.IsTimely (fun _ => True) SameInTime where
  rest := by
    rintro w v ⟨rfl, -⟩
    exact ⟨v.controllers, rfl⟩
  same := by
    rintro w v c ⟨rfl, -⟩ -
    rfl
  alarms := by
    rintro w v ⟨rfl, -⟩
    rfl
  told _ _ := trivial
  rings _ _ _ := trivial
  typed _ := trivial
  applied := False.elim
  asks h := h.2.2
  move := by
    rintro w v g ⟨rfl, htimed, hasks⟩ hmove
    exact ⟨rfl, isTimed_move htimed hmove, asksWithin_move hasks hmove⟩

/-! ## Those who look -/

section Looking

open DiagramSync.Action

variable {cd : Conduct}
  (hcomplaint : ∀ c error w, Request.AllWithin Request.IsTimely (cd.complaint c error w))
  (hlook : ∀ w, w.IsTimed → cd.look.exec w = (.ok (), w))
include hlook

/-- Who looks at a session in time does nothing else. -/
lemma agrees_look : Agrees SameInTime cd.look (pure ()) := by
  rintro w v ⟨rfl, htimed, hasks⟩
  rw [AgreesAt, hlook v htimed]
  exact ⟨rfl, rfl, htimed, hasks⟩

include hcomplaint

/-- It makes no difference whether anybody looks, nor what would be done in place of reading an
edit that is left alone. -/
lemma agree_calm (depth : Nat) : (cd.surroundings depth).Agree Request.IsTimely (fun _ => True)
    SameInTime (cd.calm.surroundings depth) := by
  have hskip : ∀ s t : Surroundings,
      (∀ c, True → Agrees SameInTime (s.skip c) (t.skip c)) ∨
        (∀ {w v : World} {c : Nat} {k : Controller}, SameInTime w v →
          w.controllers[c]? = some k → k.IsTimed) ∧
        ∀ c generation, ¬ Request.IsTimely (.applyEdit c generation) := fun s t =>
    Or.inr ⟨fun h hk => h.2.1 _ (List.mem_of_getElem? hk), fun _ _ => id⟩
  induction depth with
  | zero =>
    refine ⟨fun _ _ => agrees_look hlook, fun _ _ _ => agrees_look hlook, ?_, hskip _ _⟩
    rintro w v ⟨rfl, -⟩
    rfl
  | succ depth ih =>
    refine ⟨fun script hscript => ?_, fun c error _ => ?_, ?_, hskip _ _⟩
    · exact agrees_bind (agrees_look hlook) fun _ => agrees_script isLockstep_timed ih hscript
    · refine agrees_bind (agrees_look hlook) fun _ => ?_
      intro w v h
      obtain ⟨rfl, -⟩ := id h
      exact agreesAt_get_bind (agrees_script isLockstep_timed ih (hcomplaint c error v) _ _ h)
    · rintro w v ⟨rfl, -⟩
      rfl

/-- A request is answered alike, and afterwards the sessions are the same and in time. -/
lemma agrees_answer {w : World} (hw : w.IsTimed) (hasks : w.AsksWithin Request.IsTimely)
    {r : Request} (hr : r.Within Request.IsTimely) :
    (cd.answer r w).1 = (cd.calm.answer r w).1 ∧
      SameInTime (cd.answer r w).2 (cd.calm.answer r w).2 :=
  agrees_perform isLockstep_timed (agree_calm hcomplaint hlook (cd.depth w r)) hr _ _
    ⟨rfl, hw, hasks⟩

lemma sameInTime_afterWith {w : World} (hw : w.IsTimed) (hasks : w.AsksWithin Request.IsTimely)
    {rs : List Request} (hrs : ∀ r ∈ rs, r.Within Request.IsTimely) :
    SameInTime (w.afterWith cd rs) (w.afterWith cd.calm rs) := by
  induction rs generalizing w with
  | nil =>
    change SameInTime w w
    exact ⟨rfl, hw, hasks⟩
  | cons r rs ih =>
    obtain ⟨-, hsame, htimed, hasks'⟩ :=
      agrees_answer hcomplaint hlook hw hasks (hrs r List.mem_cons_self)
    have hrest := ih htimed hasks' fun r' hr' => hrs r' (List.mem_cons_of_mem r hr')
    have hcons : ∀ cd : Conduct, w.afterWith cd (r :: rs) = (cd.answer r w).2.afterWith cd rs :=
      fun _ => rfl
    rw [hcons, hcons, hsame]
    exact hrest

end Looking

/-- When the alarm of a controller in time goes off, or when it is told to read at once, it reads
its text and goes on from what it read. -/
def World.ReadsWhenTold (w : World) : Prop :=
  ∀ c k, w.controllers[c]? = some k → k.debouncer.pending = true →
    ∀ outcome supply, parse k.resolver w.unlinked w.supply k.text = (outcome, supply) →
      ∀ s : Surroundings,
        (s.wake c).exec w = (s.conclude c outcome).exec (w.noting c outcome supply) ∧
        ((s.flush c).exec w).2 = ((s.wake c).exec w).2

lemma World.IsTimed.readsWhenTold {w : World} (hw : w.IsTimed) : w.ReadsWhenTold := by
  intro c k hk hpending outcome supply hparse s
  refine ⟨s.exec_wake_unread hk ((hw k (List.mem_of_getElem? hk)).unread hpending) hparse, ?_⟩
  rw [s.exec_flush_pending hk hpending]

/-- **No edit is ever left alone.**  Take a session in time, for instance a new one, and let anything
be asked for, also by listeners and by users who are told of a problem while another request is
under way, except that an edit be read out of turn.  Then whoever is called finds the session in
time: if everybody looks first, and what he does then is nothing in a session in time, every
request is answered as if nobody looked.  That is so whatever would be done in place of reading an
edit that is left alone, so none ever is.  The session stays in time, so whenever an alarm goes off
or an edit that is pending is to be read at once, the text is read.  With users who do nothing this
is said of the session itself. -/
theorem never_discards {cd : Conduct}
    (hcomplaint : ∀ c error w, Request.AllWithin Request.IsTimely (cd.complaint c error w))
    (hlook : ∀ w, w.IsTimed → cd.look.exec w = (.ok (), w)) {w : World} (hw : w.IsTimed)
    (hasks : w.AsksWithin Request.IsTimely) {rs : List Request}
    (hrs : ∀ r ∈ rs, r.Within Request.IsTimely) :
    ((w.afterWith cd rs).IsTimed ∧ (w.afterWith cd rs).ReadsWhenTold ∧
      w.afterWith cd rs = w.afterWith cd.calm rs ∧
      ∀ r, r.Within Request.IsTimely →
        cd.answer r (w.afterWith cd rs) = cd.calm.answer r (w.afterWith cd rs)) ∧
    (w.after rs).IsTimed ∧ (w.after rs).ReadsWhenTold := by
  obtain ⟨hsame, htimed, hasks'⟩ := sameInTime_afterWith hcomplaint hlook hw hasks hrs
  have hplain : (w.after rs).IsTimed := by
    -- The session itself is the one among users who do nothing.
    have hquiet : ∀ c error w,
        Request.AllWithin Request.IsTimely (({} : Conduct).complaint c error w) :=
      fun _ _ _ => trivial
    rw [← afterWith_plain]
    exact (sameInTime_afterWith hquiet (fun _ _ => rfl) hw hasks hrs).2.1
  refine ⟨⟨htimed, htimed.readsWhenTold, hsame.symm, fun r hr => ?_⟩, hplain, hplain.readsWhenTold⟩
  obtain ⟨hresult, hafter, -⟩ := agrees_answer hcomplaint hlook htimed hasks' hr
  exact Prod.ext hresult hafter.symm

/-- A user who types a valid text whenever he is told of a problem; everybody who is called makes
sure that the session is in time, and complains if it is not or if an edit is left alone. -/
def watchful : Conduct where
  complaint c _ _ := [.typeText c (some "erDiagram\n  Users \x7b\n  \x7d\n") none none true]
  look := do
    if (← get).IsTimed then pure () else throw .noEventLoop
  skip _ := throw .noEventLoop
  rounds _ := 5
  depth _ _ := 3

/-- A text that is no diagram is typed, and the clock goes on. -/
def nonsenseRequests : List Request :=
  [.openController (some 400) none true, .typeText 0 (some "nonsense") none none true,
    .advance 1000]

/-- The alarm goes off, the user is told and types, and before the clock stops the alarm goes off
again: then the store has what the user typed. -/
theorem never_discards_watchful :
    let start : World := { supply := .strokes }
    (start.afterWith watchful nonsenseRequests).IsTimed ∧
      start.afterWith watchful nonsenseRequests = start.afterWith watchful.calm nonsenseRequests ∧
      (start.afterWith watchful nonsenseRequests).store.entities.map Entity.name = ["Users"] := by
  intro start
  have hread : (start.afterWith watchful nonsenseRequests).store.entities.map Entity.name
      = ["Users"] := by
    decide +kernel
  have hcomplaint : ∀ c error w,
      Request.AllWithin Request.IsTimely (watchful.complaint c error w) :=
    fun _ _ _ => ⟨trivial, trivial⟩
  have hlook : ∀ w : World, w.IsTimed → watchful.look.exec w = (.ok (), w) := by
    intro w hw
    change (get >>= fun w : World => if w.IsTimed then pure () else throw .noEventLoop :
      Action Unit).exec w = _
    rw [exec_bind_ok (exec_get w), if_pos hw]
    rfl
  have hrequests : ∀ r ∈ nonsenseRequests, r.Within Request.IsTimely := by
    intro r hr
    simp only [nonsenseRequests, List.mem_cons, List.not_mem_nil, or_false] at hr
    rcases hr with rfl | rfl | rfl <;> trivial
  have hstart : start.IsTimed := fun k hk => absurd hk List.not_mem_nil
  obtain ⟨⟨htimed, -, hsame, -⟩, -⟩ := never_discards hcomplaint hlook hstart
    (fun l hl => absurd hl List.not_mem_nil) hrequests
  exact ⟨htimed, hsame, hread⟩

end DiagramSync
