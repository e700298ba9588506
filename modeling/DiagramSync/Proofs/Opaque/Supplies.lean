import DiagramSync.Proofs.Opaque.Script
import Mathlib.Data.Set.Countable
import Mathlib.Logic.Denumerable

/-!
# Ids are opaque

A script is run with two supplies, which need not have an id in common, nor give out the ids that
they have in common in the same order.  The runs are the same but for a renaming of the ids that were
given out.

The renaming from one supply to the other cannot always be made one of all ids under which different
ids stay different, for there may be no room left for the ids of the second supply.  So both runs are
compared with a third one, whose ids are all that the script does not give.

* `Script.Admits` — a supply that gives out none of the ids that a script gives
* `exists_enumeration` — all ids that a script does not give, one after the other
* `isRelabeling_renamingTo`, `run_renamingTo` — the runs as images of the third one
* `Scene.Alike` — two scenes that are the same but for a renaming
* **`ids_are_opaque`** — two runs of a script are the same but for a renaming
-/

namespace DiagramSync

/-- A supply may be used to run a script: the ids that it gives out differ from each other, from the
id of none and from those that the script gives. -/
structure Script.Admits (s : Script) (mint : Nat → Id) : Prop where
  /-- No two ids are the same. -/
  injective : Function.Injective mint
  /-- None of them is the id of none. -/
  resolved : ∀ n, mint n ≠ .unresolved
  /-- None of them is given by the script. -/
  fresh : ∀ n, mint n ∉ s.given

/-! ## A run with all ids -/

/-- There are not more ids than numbers. -/
lemma countable_id : Countable Id := by
  have hinjective : Function.Injective fun id : Id => id.text.toList.map Char.toNat := by
    rintro ⟨a⟩ ⟨b⟩ h
    have hchars : Function.Injective Char.toNat := fun _ _ => Char.toNat_inj.mp
    exact congrArg Id.mk (String.toList_inj.mp (List.map_injective_iff.mpr hchars h))
  exact hinjective.countable

section Enumeration

variable {s : Script}

/-- All ids that may be given out while a script is run, one after the other. -/
lemma exists_enumeration {mint : Nat → Id} (h : s.Admits mint) :
    ∃ all : Nat → Id, Function.Injective all ∧
      ∀ id, (∃ n, all n = id) ↔ id ≠ .unresolved ∧ id ∉ s.given := by
  let ids : Set Id := {id | id ≠ .unresolved ∧ id ∉ s.given}
  have hinfinite : ids.Infinite :=
    Set.infinite_of_injective_forall_mem h.injective fun n => ⟨h.resolved n, h.fresh n⟩
  have : Infinite ids := hinfinite.to_subtype
  have : Countable Id := countable_id
  obtain ⟨equiv⟩ : Nonempty (Nat ≃ ids) := nonempty_equiv_of_countable
  refine ⟨fun n => (equiv n : Id), Subtype.val_injective.comp equiv.injective, fun id => ?_⟩
  constructor
  · rintro ⟨n, rfl⟩
    exact (equiv n).property
  · intro hid
    exact ⟨equiv.symm ⟨id, hid⟩, congrArg Subtype.val (equiv.apply_symm_apply _)⟩

variable {all : Nat → Id} (hinjective : Function.Injective all)
  (hall : ∀ id, (∃ n, all n = id) ↔ id ≠ .unresolved ∧ id ∉ s.given)
include hinjective hall

/-- From all those ids to the ids of a supply, no two ids are mixed up. -/
lemma isRelabeling_renamingTo {mint : Nat → Id} (h : s.Admits mint) :
    IsRelabeling (renamingTo all mint) ∧ ∀ id ∈ s.given, renamingTo all mint id = id := by
  have hother : ∀ id, (id = .unresolved ∨ id ∈ s.given) → renamingTo all mint id = id := by
    intro id hid
    refine renamingTo_other (fun n hn => ?_) mint
    obtain ⟨hresolved, hfresh⟩ := (hall id).mp ⟨n, hn⟩
    exact hid.elim hresolved hfresh
  have hapart : ∀ n id, (id = .unresolved ∨ id ∈ s.given) → mint n ≠ id := by
    intro n id hid hn
    rcases hid with rfl | hid
    · exact h.resolved n hn
    · exact h.fresh n (hn ▸ hid)
  have hcases : ∀ id, (∃ n, all n = id) ∨ id = .unresolved ∨ id ∈ s.given := by
    intro id
    rw [hall]
    tauto
  refine ⟨⟨fun a b hab => ?_, hother _ (Or.inl rfl)⟩, fun id hid => hother id (Or.inr hid)⟩
  rcases hcases a with ⟨m, rfl⟩ | ha
  · rcases hcases b with ⟨n, rfl⟩ | hb
    · rw [renamingTo_mint hinjective, renamingTo_mint hinjective] at hab
      rw [h.injective hab]
    · rw [renamingTo_mint hinjective, hother b hb] at hab
      exact absurd hab (hapart m b hb)
  · rcases hcases b with ⟨n, rfl⟩ | hb
    · rw [renamingTo_mint hinjective, hother a ha] at hab
      exact absurd hab.symm (hapart n a ha)
    · rwa [hother a ha, hother b hb] at hab

/-- A run is the image of the one with all those ids. -/
lemma run_renamingTo (hblind : s.IsBlind) {mint : Nat → Id} (h : s.Admits mint) :
    s.run mint = (s.run all).map (·.mapIds (renamingTo all mint)) := by
  obtain ⟨hrelabeling, hgiven⟩ := isRelabeling_renamingTo hinjective hall h
  rw [← run_mapIds hrelabeling hblind hgiven]
  exact congrArg s.run (funext fun n => (renamingTo_mint hinjective mint n).symm)

/-- What the renaming from the first to the second supply makes of the image under the first one is
the image under the second one. -/
lemma renamingTo_renamingTo {mint mint' : Nat → Id} (h : s.Admits mint) (id : Id) :
    renamingTo mint mint' (renamingTo all mint id) = renamingTo all mint' id := by
  by_cases hid : ∃ n, all n = id
  · obtain ⟨n, rfl⟩ := hid
    rw [renamingTo_mint hinjective, renamingTo_mint hinjective, renamingTo_mint h.injective]
  · have hnone := not_exists.mp hid
    rw [renamingTo_other hnone, renamingTo_other hnone]
    refine renamingTo_other (fun n hn => hid ?_) mint'
    exact (hall id).mpr (hn ▸ ⟨h.resolved n, h.fresh n⟩)

end Enumeration

/-! ## Two runs -/

/-- Replacing ids twice in a scene. -/
lemma scene_mapIds_trans {g k h : Id → Id} (hid : ∀ id, k (g id) = h id) (s : Scene) :
    (s.mapIds g).mapIds k = s.mapIds h := by
  have hresult : (s.result.mapIds g).mapIds k = s.result.mapIds h := by
    cases s.result with
    | read outcome => exact congrArg StepResult.read (outcome_mapIds_trans hid outcome)
    | model es => exact congrArg StepResult.model (model_mapIds_trans fun id _ => hid id)
    | answer result =>
      refine congrArg StepResult.answer ?_
      cases result with
      | ok a => exact congrArg Except.ok (answer_mapIds_trans hid a)
      | error e => exact congrArg Except.error (fault_mapIds_trans hid e)
  exact congrArg₂ Scene.mk hresult (world_mapIds_trans hid s.after)

/-- The step succeeded: a text was accepted, a request was not refused. -/
def StepResult.succeeds : StepResult → Bool
  | read outcome => outcome.isAccepted
  | model _ => true
  | answer (.ok _) => true
  | answer (.error _) => false

/-- What there was to warn about when a text was read. -/
def StepResult.warnings : StepResult → List Warning
  | read outcome => outcome.warnings
  | answer (.ok (.outcome outcome)) => outcome.warnings
  | _ => []

/-- The second scene is the first one but for a renaming of ids. -/
structure Scene.Alike (ρ : Id → Id) (a b : Scene) : Prop where
  /-- Both steps succeed, or neither does. -/
  succeeds : b.result.succeeds = a.result.succeeds
  /-- There is the same to warn about. -/
  warnings : b.result.warnings = a.result.warnings
  /-- The results are the same but for the renaming. -/
  result : b.result = a.result.mapIds ρ
  /-- The stores have the same version. -/
  version : b.after.store.version = a.after.store.version
  /-- Their entities are the same but for the renaming. -/
  entities : b.after.store.entities = a.after.store.entities.map (·.mapIds ρ)
  /-- The controllers show the same texts. -/
  texts : b.after.controllers.map (·.text) = a.after.controllers.map (·.text)
  /-- They have read the same, but for the renaming. -/
  readings : b.after.controllers.map (·.lastResult)
    = a.after.controllers.map fun k => k.lastResult.map (·.mapIds ρ)
  /-- They have rejected the same edits for the same reasons. -/
  rejections : b.after.controllers.map (·.lastError) = a.after.controllers.map (·.lastError)
  /-- Listeners and notifiers have seen the same. -/
  events : b.after.events = a.after.events

lemma alike_mapIds (ρ : Id → Id) (s : Scene) : Scene.Alike ρ s (s.mapIds ρ) := by
  have hcontrollers : (s.mapIds ρ).after.controllers = s.after.controllers.map (·.mapIds ρ) := rfl
  have houtcome : ∀ o : ParseOutcome,
      (o.mapIds ρ).isAccepted = o.isAccepted ∧ (o.mapIds ρ).warnings = o.warnings := by
    intro o
    cases o <;> exact ⟨rfl, rfl⟩
  have hresult : (s.result.mapIds ρ).succeeds = s.result.succeeds ∧
      (s.result.mapIds ρ).warnings = s.result.warnings := by
    cases s.result with
    | read outcome => exact houtcome outcome
    | model es => exact ⟨rfl, rfl⟩
    | answer result =>
      cases result with
      | error e => exact ⟨rfl, rfl⟩
      | ok a =>
        cases a with
        | outcome o => exact ⟨rfl, (houtcome o).2⟩
        | _ => exact ⟨rfl, rfl⟩
  refine ⟨hresult.1, hresult.2, rfl, rfl, rfl, ?_, ?_, ?_, rfl⟩
  · rw [hcontrollers, List.map_map]
    rfl
  · rw [hcontrollers, List.map_map]
    rfl
  · rw [hcontrollers, List.map_map]
    rfl

/-- **Ids are opaque.**  Whatever two supplies a script is run with, the runs are the same step by
step, but for one renaming of the ids that the supplies give out.  The resolvers that the script
brings may be the built-in ones, or any that do not look at ids. -/
theorem ids_are_opaque {s : Script} (hblind : s.IsBlind) {mint mint' : Nat → Id}
    (h : s.Admits mint) (h' : s.Admits mint') :
    ∃ ρ : Id → Id, Set.BijOn ρ (Set.range mint) (Set.range mint') ∧
      (∀ n, ρ (mint n) = mint' n) ∧ (∀ id ∉ Set.range mint, ρ id = id) ∧
        List.Forall₂ (Scene.Alike ρ) (s.run mint) (s.run mint') := by
  obtain ⟨all, hinjective, hall⟩ := exists_enumeration h
  have hmint : ∀ n, renamingTo mint mint' (mint n) = mint' n := renamingTo_mint h.injective mint'
  have hruns : s.run mint' = (s.run mint).map (·.mapIds (renamingTo mint mint')) := by
    rw [run_renamingTo hinjective hall hblind h, run_renamingTo hinjective hall hblind h',
      List.map_map]
    refine List.map_congr_left fun scene _ => (scene_mapIds_trans (fun id => ?_) scene).symm
    exact renamingTo_renamingTo hinjective hall h id
  refine ⟨renamingTo mint mint', ⟨?_, ?_, ?_⟩, hmint, fun id hid => ?_, ?_⟩
  · rintro _ ⟨n, rfl⟩
    exact ⟨n, (hmint n).symm⟩
  · rintro _ ⟨m, rfl⟩ _ ⟨n, rfl⟩ heq
    rw [hmint, hmint] at heq
    rw [h'.injective heq]
  · rintro _ ⟨n, rfl⟩
    exact ⟨mint n, ⟨n, rfl⟩, hmint n⟩
  · exact renamingTo_other (fun n hn => hid ⟨n, hn⟩) mint'
  · rw [hruns, List.forall₂_map_right_iff, List.forall₂_same]
    exact fun scene _ => alike_mapIds _ scene

/-- Staff get teams: the entity of the teams is added, and what its id will be is named by a number;
a field points at it; a text is typed that declares one entity more; the field is deleted; another
text is read on its own, reconciled with the store, and put in its place. -/
def teamsScript : Script where
  names := [(⟨"#1"⟩, ⟨0, 0⟩), (⟨"#2"⟩, ⟨2, 0⟩)]
  initial := [{ id := ⟨"staff"⟩, name := "Staff" }]
  steps :=
    [.ask (.change (.addEntity (.text "Teams")) {}),
     .ask (.subscribe "looker" [.getEntity (some ⟨"#1"⟩)] false),
     .ask (.change (.addField (some ⟨"staff"⟩)
       { name := .text "team", isForeign := .flag true, reference := some { target := ⟨"#1"⟩ } }) {}),
     .ask (.openController none none true),
     .ask (.typeText 0 none none (some "\nRooms") true),
     .ask (.flush 0),
     .ask (.change (.deleteField (some ⟨"staff"⟩) (some ⟨"#2"⟩)) {}),
     .parse .byName "erDiagram\nStaff\nRooms\nDesks\nDesks \x7do--|| Rooms : room",
     .reconcile (.stored 6) (.shown 7),
     .replace (.shown 8) {}]

/-- A supply of strokes and one that counts from one stroke more: the ids that both give out stand for
different things in the two runs. -/
theorem ids_are_opaque_strokes :
    (teamsScript.run Supply.strokes.mint).map (fun s => s.result.succeeds)
        = List.replicate 10 true ∧
      ∃ ρ : Id → Id, (∀ n, ρ (Supply.strokes.mint n) = Supply.strokes.mint (n + 1)) ∧
        List.Forall₂ (Scene.Alike ρ) (teamsScript.run Supply.strokes.mint)
          (teamsScript.run fun n => Supply.strokes.mint (n + 1)) := by
  have hinjective : Function.Injective Supply.strokes.mint := fun m n h =>
    Supply.isFresh_strokes.injective m n (Nat.zero_le m) (Nat.zero_le n) h
  have hresolved : ∀ n, Supply.strokes.mint n ≠ .unresolved := fun n =>
    Supply.isFresh_strokes.resolved n (Nat.zero_le n)
  have hfresh : ∀ n, Supply.strokes.mint n ∉ teamsScript.given := by
    have hhead : ∀ id ∈ teamsScript.given, id.text.toList.head? ≠ some '|' := by
      decide
    refine fun n hn => hhead _ hn ?_
    show (String.ofList (List.replicate (n + 1) '|')).toList.head? = _
    rw [String.toList_ofList]
    rfl
  have hblind : teamsScript.IsBlind := by
    simp [Script.IsBlind, teamsScript, Script.Step.IsBlind, Request.Within, Request.AllWithin,
      Request.OpensBlind, isBlind_byName]
  obtain ⟨ρ, -, hρ, -, halike⟩ := ids_are_opaque hblind ⟨hinjective, hresolved, hfresh⟩
    ⟨fun m n h => Nat.succ.inj (hinjective h), fun n => hresolved (n + 1), fun n => hfresh (n + 1)⟩
  exact ⟨by decide +kernel, ρ, hρ, halike⟩

end DiagramSync
