import DiagramSync.Proofs.Diagram.Replaced
import DiagramSync.Proofs.Diagram.Selection
import DiagramSync.Proofs.Opaque.Model

/-!
# Diagrams under other ids

The ids of a model that is read are whatever the supply gives out, and a relationship line speaks of
names.  So a text is read alike whatever the ids are, as long as the resolver does not look at them;
and a model under other ids is written as the same text.

* `Scan.mapIds`, `ParseOutcome.mapIds` — what is scanned and what is read, under other ids
* `scan_mapIds` — a text is scanned alike
* `Resolver.IsBlind` — a resolver that does not look at ids, as both that are built in do not
* `resolveLines_mapIds` — relationship lines are resolved alike
* **`parse_mapIds`** — a text is read alike
* **`generate_mapIds`** — the same text is written
-/

namespace DiagramSync

open Text

variable {g : Id → Id}

/-! ## Scanning -/

/-- What has been scanned, with the ids in it and those to come replaced by their images. -/
def Scan.mapIds (g : Id → Id) (s : Scan) : Scan :=
  { s with entities := s.entities.map (·.mapIds g), supply := s.supply.mapIds g }

namespace Scan

lemma entity?_mapIds (s : Scan) (name : String) :
    (s.mapIds g).entity? name = (s.entity? name).map (·.mapIds g) :=
  find?_map_of_iff (fun _ => rfl) s.entities

lemma declare_mapIds (s : Scan) (name : String) :
    (s.mapIds g).declare name = (s.declare name).mapIds g := by
  rw [declare, declare, entity?_mapIds, Option.isSome_map]
  split_ifs
  · rfl
  · have hnew : (s.entities ++ [({ id := s.supply.draw.1, name } : Entity)]).map (·.mapIds g)
        = s.entities.map (·.mapIds g) ++ [{ id := g s.supply.draw.1, name }] := List.map_append
    exact congrArg (fun es => ({ s with
      entities := es, supply := s.supply.draw.2.mapIds g } : Scan)) hnew.symm

lemma addField_mapIds (s : Scan) (name : String) {f : Id → Field}
    (hf : ∀ id, f (g id) = (f id).mapIds g) :
    (s.mapIds g).addField name f = (s.addField name f).mapIds g := by
  have hextend : (s.entities.map (·.mapIds g)).map (fun e =>
        if e.name == name then { e with fields := e.fields ++ [f (g s.supply.draw.1)] } else e)
      = (s.entities.map fun e =>
        if e.name == name then { e with fields := e.fields ++ [f s.supply.draw.1] } else e).map
          (·.mapIds g) := by
    rw [List.map_map, List.map_map]
    refine List.map_congr_left fun e _ => ?_
    have hname : (e.mapIds g).name = e.name := rfl
    simp only [Function.comp_apply, hname]
    split_ifs
    · simp only [Entity.mapIds, hf, List.map_append, List.map_cons, List.map_nil]
    · rfl
  exact congrArg (fun es => ({ s with
    entities := es, supply := s.supply.draw.2.mapIds g } : Scan)) hextend

lemma stepOutside_mapIds (n : Nat) (line : List Char) (s : Scan) :
    (s.mapIds g).stepOutside n line = (s.stepOutside n line).mapIds g := by
  rw [stepOutside, stepOutside]
  cases outsideForm line with
  | opening written closed =>
    dsimp only
    rw [declare_mapIds]
    split_ifs
    · rfl
    · rfl
    · rfl
  | relationship stated => rfl
  | bare written =>
    dsimp only
    rw [declare_mapIds]
    split_ifs
    · rfl
    · rfl
  | other => rfl

lemma keptField_mapIds (hg : IsRelabeling g) (unlinked : Cardinality) (id : Id)
    (parts : LineForm.FieldParts) :
    keptField unlinked (g id) parts = (keptField unlinked id parts).mapIds g := by
  rw [keptField, keptField, Field.mapIds]
  dsimp only
  split_ifs
  · simp only [Option.map_some, Reference.mapIds, hg.unresolved]
  · rfl

lemma stepField_mapIds (hg : IsRelabeling g) (unlinked : Cardinality) (n : Nat) (block : OpenBlock)
    (parts : LineForm.FieldParts) (s : Scan) :
    (s.mapIds g).stepField unlinked n block parts
      = (s.stepField unlinked n block parts).mapIds g := by
  have hknown : ∀ name, (((s.mapIds g).entity? block.entity).bind
        (·.findFieldNamed? name)).isSome
      = ((s.entity? block.entity).bind (·.findFieldNamed? name)).isSome := by
    intro name
    rw [entity?_mapIds]
    cases s.entity? block.entity with
    | none => rfl
    | some e =>
      rw [Option.map_some, Option.bind_some, Option.bind_some, findFieldNamed?_mapIds,
        Option.isSome_map]
  rw [stepField, stepField, hknown, addField_mapIds s _ fun id => keptField_mapIds hg _ id parts]
  split_ifs
  · rfl
  · rfl
  · rfl

/-- One statement is scanned alike. -/
lemma step_mapIds (hg : IsRelabeling g) (unlinked : Cardinality) (s : Scan)
    (statement : Nat × List Char) :
    (s.mapIds g).step unlinked statement = (s.step unlinked statement).mapIds g := by
  obtain ⟨n, line⟩ := statement
  have hcurrent : (s.mapIds g).current = s.current := rfl
  have hheader : (s.mapIds g).headerSeen = s.headerSeen := rfl
  rw [step, step, hheader, hcurrent]
  split_ifs
  · rfl
  · cases s.current with
    | none => exact stepOutside_mapIds n line s
    | some block =>
      dsimp only
      rw [stepInside, stepInside]
      cases insideForm line with
      | closing => rfl
      | opening => exact stepOutside_mapIds n line { s.warn _ with current := none }
      | field parts => exact stepField_mapIds hg unlinked n block parts s
      | other => rfl

end Scan

/-- A text is scanned alike under other ids. -/
lemma scan_mapIds (hg : IsRelabeling g) (unlinked : Cardinality) (supply : Supply)
    (text : List Char) :
    scan unlinked (supply.mapIds g) text = (scan unlinked supply text).mapIds g := by
  have hsteps : ∀ (xs : List (Nat × List Char)) (s : Scan),
      xs.foldl (Scan.step unlinked) (s.mapIds g)
        = (xs.foldl (Scan.step unlinked) s).mapIds g := by
    intro xs
    induction xs with
    | nil => exact fun _ => rfl
    | cons x xs ih =>
      intro s
      rw [List.foldl_cons, List.foldl_cons, Scan.step_mapIds hg]
      exact ih _
  have hall := hsteps (statements text) { supply }
  rw [scan, scan]
  refine (congrArg Scan.finish hall).trans ?_
  generalize (statements text).foldl (Scan.step unlinked) { supply } = s
  have hcurrent : (s.mapIds g).current = s.current := rfl
  rw [Scan.finish, Scan.finish, hcurrent]
  cases s.current with
  | none => rfl
  | some block => rfl

/-! ## Relationship lines -/

/-- The resolver picks the same field whatever the ids are. -/
def Resolver.IsBlind (resolver : Resolver) : Prop :=
  ∀ g : Id → Id, IsRelabeling g → ∀ s t r,
    resolver.select (s.mapIds g) (t.mapIds g) r = resolver.select s t r

/-- Picking by name does not look at ids. -/
lemma isBlind_byName : Resolver.byName.IsBlind := by
  intro g hg s t r
  have hlooks : KeepsLooks (Field.mapIds g) := ⟨fun _ => rfl, fun _ => rfl, fieldIsLinked_mapIds hg⟩
  exact congrArg Except.ok (selectByName_congr hlooks rfl rfl)

/-- Picking by label does not look at ids. -/
lemma isBlind_byLabel : Resolver.byLabel.IsBlind := by
  intro g hg s t r
  have hlooks : KeepsLooks (Field.mapIds g) := ⟨fun _ => rfl, fun _ => rfl, fieldIsLinked_mapIds hg⟩
  have hlabel : selectByLabel (s.mapIds g) r.label = selectByLabel s r.label :=
    selectByLabel_congr hlooks rfl r.label
  have hname : selectByName (s.mapIds g) (t.mapIds g) = selectByName s t :=
    selectByName_congr hlooks rfl rfl
  exact congrArg Except.ok (congrArg₂ Option.or hlabel hname)

section Resolution

variable (hg : IsRelabeling g) {resolver : Resolver} (hblind : resolver.IsBlind)
include hg

/-- A field is linked alike. -/
lemma link_mapIds (t : Entity) (r : Relationship) (f : Field) :
    (f.mapIds g).link (t.mapIds g) r = (f.link t r).mapIds g := by
  have hkey : ((t.mapIds g).primaryKey?.map (·.id)).getD .unresolved
      = g ((t.primaryKey?.map (·.id)).getD .unresolved) := by
    rw [primaryKey?_mapIds]
    cases t.primaryKey? with
    | none => exact hg.unresolved.symm
    | some p => rfl
  have hreference : linkedReference (t.mapIds g) r (f.mapIds g)
      = (linkedReference t r f).mapIds g := by
    rw [linkedReference, hkey]
    rfl
  rw [Field.link, hreference]
  rfl

include hblind

/-- The source of a line is linked alike. -/
lemma resolverLink_mapIds (s t : Entity) (r : Relationship) :
    resolver.link (s.mapIds g) (t.mapIds g) r
      = (resolver.link s t r).map (Option.map fun p => (p.1.mapIds g, p.2.mapIds g)) := by
  rw [Resolver.link, Resolver.link, hblind g hg]
  cases resolver.select s t r with
  | error reason => rfl
  | ok picked =>
    cases picked with
    | none => rfl
    | some i =>
      have hfields : (s.mapIds g).fields = s.fields.map (·.mapIds g) := rfl
      simp only [bind, Except.bind, hfields, List.getElem?_map]
      cases s.fields[i]? with
      | none => rfl
      | some f =>
        simp only [Option.map_some, link_mapIds hg, ← List.map_set]
        rfl

/-- A line is resolved alike. -/
lemma resolveLine_mapIds (es : List Entity) (n : Nat) (r : Relationship) :
    resolveLine resolver (es.map (·.mapIds g)) n r
      = (resolveLine resolver es n r).map fun p => (p.1.map (·.mapIds g), p.2) := by
  have hnamed : ∀ name, entityNamed? (es.map (·.mapIds g)) name
      = (entityNamed? es name).map (·.mapIds g) := fun name => find?_map_of_iff (fun _ => rfl) es
  rw [resolveLine, resolveLine, hnamed, hnamed]
  cases entityNamed? es r.source with
  | none => rfl
  | some s =>
    cases entityNamed? es r.target with
    | none => rfl
    | some t =>
      simp only [Option.map_some, resolverLink_mapIds hg hblind]
      cases resolver.link s t r with
      | error reason => rfl
      | ok result =>
        cases result with
        | none => rfl
        | some p =>
          refine congrArg (fun es => Except.ok (es, [])) ?_
          rw [replaceNamed, replaceNamed, List.map_map, List.map_map]
          refine List.map_congr_left fun e _ => ?_
          have hname : (e.mapIds g).name == (s.mapIds g).name ↔ e.name == s.name := Iff.rfl
          simp only [Function.comp_apply, hname]
          split_ifs
          · rfl
          · rfl

/-- Relationship lines are resolved alike. -/
lemma resolveLines_mapIds (es : List Entity) (lines : List (Nat × Relationship)) :
    resolveLines resolver (es.map (·.mapIds g)) lines
      = (resolveLines resolver es lines).map fun p => (p.1.map (·.mapIds g), p.2) := by
  induction lines generalizing es with
  | nil => rfl
  | cons line lines ih =>
    obtain ⟨n, r⟩ := line
    rw [resolveLines, resolveLines, resolveLine_mapIds hg hblind]
    cases resolveLine resolver es n r with
    | error reason => rfl
    | ok p =>
      simp only [Except.map, bind, Except.bind, ih]
      cases resolveLines resolver p.1 lines with
      | error reason => rfl
      | ok q => rfl

end Resolution

/-! ## Reading -/

/-- An outcome with the ids in it replaced by their images. -/
def ParseOutcome.mapIds (g : Id → Id) : ParseOutcome → ParseOutcome
  | accepted es rs ws => accepted (es.map (·.mapIds g)) rs ws
  | rejected error ws => rejected error ws

/-- **A text is read alike under other ids**, if the resolver does not look at them. -/
theorem parse_mapIds (hg : IsRelabeling g) {resolver : Resolver} (hblind : resolver.IsBlind)
    (unlinked : Cardinality) (supply : Supply) (text : String) :
    parse resolver unlinked (supply.mapIds g) text
      = ((parse resolver unlinked supply text).1.mapIds g,
        (parse resolver unlinked supply text).2.mapIds g) := by
  rw [parse, parse]
  split_ifs
  · dsimp only
    rw [scan_mapIds hg]
    generalize scan unlinked supply text.toList = s
    have hlines : resolveLines resolver (s.mapIds g).entities (s.mapIds g).relationships
        = (resolveLines resolver s.entities s.relationships).map fun p =>
          (p.1.map (·.mapIds g), p.2) := resolveLines_mapIds hg hblind _ _
    refine Prod.ext ?_ rfl
    dsimp only
    rw [hlines]
    cases resolveLines resolver s.entities s.relationships with
    | error reason => rfl
    | ok p =>
      simp only [Except.map, List.isEmpty_map]
      split_ifs
      · rfl
      · rfl
  · rfl

/-! ## Writing -/

lemma toTable_mapIds (e : Entity) : (e.mapIds g).toTable = e.toTable.image g (·.mapIds g) := by
  simp only [Entity.toTable, Table.image, Entity.mapIds, List.map_map]
  rfl

/-- References find the same tables under other ids. -/
lemma keepsTargets_mapIds (hg : IsRelabeling g) (ids : List Id) :
    KeepsTargets g (·.mapIds g) ids where
  label _ := rfl
  found id _ r := hg.beq id r.target
  cardinality _ _ := rfl

/-- **The same text is written under other ids.** -/
theorem generate_mapIds (hg : IsRelabeling g) (es : List Entity) :
    generate (es.map (·.mapIds g)) = generate es :=
  generate_image (keepsTargets_mapIds hg _) toTable_mapIds

end DiagramSync
