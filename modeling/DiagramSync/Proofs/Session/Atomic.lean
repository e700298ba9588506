import DiagramSync.Proofs.Session.Passive

/-!
# Edits are atomic

An edit that somebody asks for can fail at many places: the caller may not find the name of its
source, the version that it depends on may be gone, what it names may not be there, what it brings
may not be readable or may not fit.  All of them come before the first change.  Where no listener
interferes, an edit has therefore either failed and done nothing at all, or it is made and everybody
has been told of it.

There is one exception.  What the store is given as the source it looks at last, when the edit has
been made.  If that is no source, then the caller gets a fault and nobody is told, but the edit stays
made.

* `Attempted` — what has happened when somebody has asked for an edit
* `attempted_requestedEdit` — the same of the edit itself
* **`attempted_answer`** — whatever is asked for, an edit is atomic but for that exception
* `looseSource_stays_made` — an edit to which the exception applies
-/

namespace DiagramSync

/-- What has happened when somebody has asked for an edit in the session `w`. -/
inductive Attempted (q : Asking) (w : World) {α : Type} : Except Fault α × World → Prop
  /-- The edit failed: entities, version, controllers and whoever listens are as before, and nobody
  was told of anything. -/
  | failed {f : Fault} {w' : World} (store : w'.store = w.store)
      (controllers : w'.controllers = w.controllers) (listeners : w'.listeners = w.listeners)
      (subscribers : w'.subscribers = w.subscribers) (events : w'.events = w.events) :
      Attempted q w (.error f, w')
  /-- The edit is made: the version has grown by one, and every subscriber has been told once, in
  order, of the new version, the source and the operation; those that are controllers have heard of
  it. -/
  | made {a : α} {w' : World} {source : ChangeSource}
      (known : q.terms.given q.ownSource = .ok (.ok source))
      (version : w'.store.version = w.store.version + 1)
      (controllers : w'.controllers
        = heardBy source w'.store.entities w.subscribers w.controllers)
      (listeners : w'.listeners = w.listeners) (subscribers : w'.subscribers = w.subscribers)
      (events : w'.events = w.events ++ w.subscribers.flatMap
        (({ w with store := w'.store } : World).told
          { version := w.store.version + 1, source, operation := q.operation })) :
      Attempted q w (.ok a, w')
  /-- What was given as the source is none, and the edit is made all the same: the version has grown
  by one, but the caller gets a fault and nobody was told. -/
  | untold {other : Value} {w' : World} (loose : q.terms.source = .loose other)
      (version : w'.store.version = w.store.version + 1)
      (controllers : w'.controllers = w.controllers) (listeners : w'.listeners = w.listeners)
      (subscribers : w'.subscribers = w.subscribers) (events : w'.events = w.events) :
      Attempted q w (.error (lateFault (w.store.version + 1) q.operation other), w')

section Attempted

variable {q : Asking} {w : World}

/-- Only what is handed back may differ. -/
lemma Attempted.map {α β : Type} {p : Except Fault α × World} (h : Attempted q w p) (g : α → β) :
    Attempted q w (p.1.map g, p.2) := by
  cases h with
  | failed store controllers listeners subscribers events =>
    exact .failed store controllers listeners subscribers events
  | made known version controllers listeners subscribers events =>
    exact .made known version controllers listeners subscribers events
  | untold loose version controllers listeners subscribers events =>
    exact .untold loose version controllers listeners subscribers events

/-- The ids that were drawn before do not matter. -/
lemma Attempted.of_supply {α : Type} {p : Except Fault α × World} {supply : Supply}
    (h : Attempted q { w with supply } p) : Attempted q w p := by
  cases h with
  | failed store controllers listeners subscribers events =>
    exact .failed store controllers listeners subscribers events
  | made known version controllers listeners subscribers events =>
    exact .made known version controllers listeners subscribers events
  | untold loose version controllers listeners subscribers events =>
    exact .untold loose version controllers listeners subscribers events

/-- The store refuses an edit as a whole, or it is made before anybody looks at the source. -/
lemma attempted_commitUntold {other : Value} (hloose : q.terms.source = .loose other)
    (expected : Option Int) {edit : Edit} (hedit : edit.operation = q.operation) :
    Attempted q w ((commitUntold other expected edit).exec w) := by
  cases happly : w.store.apply w.unlinked expected edit w.supply with
  | error f =>
    rw [exec_commitUntold_refused other happly]
    exact .failed rfl rfl rfl rfl rfl
  | ok p =>
    obtain ⟨⟨store, edited⟩, supply⟩ := p
    have hversion : store.version = w.store.version + 1 := (apply_eq_ok happly).2
    rw [exec_commitUntold_taken other happly, hversion, hedit]
    exact .untold hloose hversion rfl rfl rfl rfl

variable {react : React} (hreact : ∀ w, (react []).exec w = (.ok (), w))
  (hw : ∀ l ∈ w.listeners, l.IsPassive)
include hreact hw

/-- The store refuses an edit as a whole, or everybody is told. -/
lemma attempted_commit {source : ChangeSource}
    (hsource : q.terms.given q.ownSource = .ok (.ok source)) (expected : Option Int) {edit : Edit}
    (hedit : edit.operation = q.operation) :
    Attempted q w ((commit react source expected edit).exec w) := by
  cases happly : w.store.apply w.unlinked expected edit w.supply with
  | error f =>
    rw [exec_commit_refused happly]
    exact .failed rfl rfl rfl rfl rfl
  | ok p =>
    obtain ⟨⟨store, edited⟩, supply⟩ := p
    have hversion := (apply_eq_ok happly).2
    rw [exec_commit hreact hw source happly]
    refine .made hsource hversion rfl rfl rfl ?_
    rw [← hversion, ← hedit]

/-- An edit that somebody asks for is atomic, if it is read without doing anything but drawing
ids. -/
lemma attempted_requestedEdit (hread : ∀ w, (∃ supply, (q.edit.exec w).2 = { w with supply }) ∧
      ∀ edit w', q.edit.exec w = (.ok edit, w') → edit.operation = q.operation) :
    Attempted q w ((requestedEdit react q.ownSource q.terms q.edit).exec w) := by
  obtain ⟨⟨supply, hsupply⟩, hoperation⟩ := hread w
  have hrequested := requested_requestedEdit react q.ownSource q.terms q.edit w
  generalize (requestedEdit react q.ownSource q.terms q.edit).exec w = p at hrequested
  cases hrequested with
  | unknown unknown => exact .failed rfl rfl rfl rfl rfl
  | unread =>
    rw [hsupply]
    exact .failed rfl rfl rfl rfl rfl
  | @tried source edit expected w' known read depends =>
    obtain ⟨handBack, hcommit⟩ := exec_commitAndHandBack react source expected edit w'
    have hedit := hoperation edit w' read
    rw [read] at hsupply
    obtain rfl : w' = { w with supply } := hsupply
    have hattempted := attempted_commit hreact (w := { w with supply }) hw known expected hedit
    rw [hcommit]
    exact hattempted.of_supply.map handBack
  | @untold other edit expected w' loose read depends =>
    have hedit := hoperation edit w' read
    rw [read] at hsupply
    obtain rfl : w' = { w with supply } := hsupply
    have hattempted := attempted_commitUntold (w := { w with supply }) (given_eq_other loose)
      expected hedit
    exact hattempted.of_supply

end Attempted

/-- **Edits are atomic**, but for a source that is none, in every session whose listeners neither
fail nor ask for anything.  Whoever asks for an edit, with whatever arguments, either gets a fault,
and then the store, the controllers and the listeners are as before and nobody was told of anything;
or the version has grown by exactly one, and every subscriber was told exactly once, in the order of
subscription, of the new version, the source and the operation; or else what was given as the source
is none, and then the version has grown by one, although the caller gets a fault and nobody was told
of anything. -/
theorem attempted_answer {w : World} (hw : ∀ l ∈ w.listeners, l.IsPassive) {r : Request} {q : Asking}
    (hr : r.asking? = some q) : Attempted q { w with events := [] } (answer r w) := by
  have hreact := exec_runScript_nil (w.weight + r.weight)
  have hanswer : answer r w
      = (perform (runScript (w.weight + r.weight)) r).exec { w with events := [] } := rfl
  rw [hanswer, perform_asking _ hr, exec_map]
  exact (attempted_requestedEdit hreact (w := { w with events := [] }) hw (exec_asking hr)).map _

/-- A session with two listeners for the store and, in between, a controller with one for its
text. -/
def watchedStore : World :=
  World.after { supply := .strokes }
    [.subscribe "first" [] false, .openController none none false, .watchText "text" 0 [] false,
      .subscribe "second" [] false]

/-- What the system asks of it, as long as there has been no edit. -/
def firstTerms : Terms where
  source := .named (.text "system")
  expected := .whole 0

/-- An entity is added, and they are told in the order in which they came; a second one is too late,
and nobody is told. -/
theorem attempted_answer_watchedStore :
    let once := answer (.change (.addEntity (.text "Users")) firstTerms) watchedStore
    let twice := answer (.change (.addEntity (.text "Posts")) firstTerms) once.2
    Attempted ⟨.editor, firstTerms, "add_entity", pure (.addEntity (.text "Users"))⟩
        { watchedStore with events := [] } once ∧
      once.2.events = [.change "first" ⟨1, .system, "add_entity"⟩,
        .text "text" "erDiagram\n  \"Users\" \x7b\n  \x7d\n",
        .change "second" ⟨1, .system, "add_entity"⟩] ∧
      once.1.toBool = true ∧ twice.2.events = [] ∧ twice.2.store.version = 1 ∧
      twice.1.toBool = false := by
  refine ⟨attempted_answer (fun l hl => ?_) rfl, by decide +kernel⟩
  have hlisteners : watchedStore.listeners = [⟨"first", .store, [], false⟩,
      ⟨"text", .controller 0, [], false⟩, ⟨"second", .store, [], false⟩] := rfl
  simp only [hlisteners, List.mem_cons, List.not_mem_nil, or_false] at hl
  rcases hl with rfl | rfl | rfl <;> exact ⟨rfl, rfl⟩

/-- Where something else than a source is given, the caller gets a fault and nobody is told, but the
entity has been added. -/
theorem looseSource_stays_made :
    let once := answer (.change (.addEntity (.text "Users")) { source := .loose (.text "editor") })
      watchedStore
    once.1.toBool = false ∧ watchedStore.store.version = 0 ∧ once.2.store.version = 1 ∧
      once.2.store.entities.map (·.name) = ["Users"] ∧
      once.2.subscribers = [.listener 0, .controller 0, .listener 2] ∧ once.2.events = [] := by
  decide +kernel

end DiagramSync
