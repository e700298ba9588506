import DiagramSync.Proofs.Store.WellRead

/-!
# Line numbers are only told

The scan counts lines so that a user can be told where something is.  Nothing else depends on the
count: if every line had the number zero, the same would be read, and the warnings would be the same
but for their numbers.

* `Warning.unnumbered`, `Relationship.unnumbered`, `Scan.unnumbered` — with zero for every number
* `Scan.read` — a scan of lines that all have the number zero
* `unnumbered_step`, **`unnumbered_scan`** — scanning with numbers comes to that
* `ParseOutcome.Alike` — two outcomes that differ in ids and line numbers only
* **`alike_parse`** — texts whose scans differ in line numbers only are read alike
-/

namespace DiagramSync

open Text

/-! ## Without numbers -/

/-- The warning with zero for the line number. -/
def Warning.unnumbered : Warning → Warning
  | neverClosed _ e => neverClosed 0 e
  | duplicateField _ f e => duplicateField 0 f e
  | unknownEntity _ e => unknownEntity 0 e
  | noForeignKey _ s t => noForeignKey 0 s t

/-- The relationship with zero for the line number. -/
def Relationship.unnumbered (r : Relationship) : Relationship :=
  { r with line := some 0 }

/-- The block as if it had been opened on line zero. -/
def OpenBlock.unnumbered (b : OpenBlock) : OpenBlock :=
  { b with line := 0 }

namespace Scan

variable (unlinked : Cardinality) (s : Scan)

/-- The scan with zero for every line number. -/
def unnumbered : Scan :=
  { s with
    relationships := s.relationships.map fun p => (0, p.2.unnumbered)
    warnings := s.warnings.map Warning.unnumbered
    current := s.current.map OpenBlock.unnumbered }

/-- The scan after some lines that all have the number zero. -/
def read (s : Scan) (ls : List (List Char)) : Scan :=
  ls.foldl (fun s l => s.step unlinked (0, l)) s

lemma read_concat (ls : List (List Char)) (l : List Char) :
    s.read unlinked (ls ++ [l]) = (s.read unlinked ls).step unlinked (0, l) := by
  simp [read]

/-! ## Scanning -/

lemma unnumbered_warn (w : Warning) : (s.warn w).unnumbered = s.unnumbered.warn w.unnumbered := by
  simp [warn, unnumbered]

lemma unnumbered_declare (name : String) :
    (s.declare name).unnumbered = s.unnumbered.declare name := by
  have hsame : s.unnumbered.entity? name = s.entity? name := rfl
  rw [declare, declare, hsame]
  split_ifs
  · rfl
  · rfl

lemma unnumbered_stepOutside (n : Nat) (line : List Char) :
    (s.stepOutside n line).unnumbered = s.unnumbered.stepOutside 0 line := by
  rw [stepOutside, stepOutside]
  cases outsideForm line with
  | opening written closed =>
    dsimp only
    split_ifs
    · rfl
    · exact unnumbered_declare s _
    · rw [← unnumbered_declare]
      rfl
  | relationship stated =>
    simp only [unnumbered, List.map_append, List.map_cons, List.map_nil]
    rfl
  | bare written =>
    dsimp only
    split_ifs
    · rfl
    · exact unnumbered_declare s _
  | other => rfl

lemma unnumbered_stepField (n : Nat) (block : OpenBlock) (parts : LineForm.FieldParts) :
    (s.stepField unlinked n block parts).unnumbered
      = s.unnumbered.stepField unlinked 0 block.unnumbered parts := by
  have hsame : s.unnumbered.entity? block.unnumbered.entity = s.entity? block.entity := rfl
  rw [stepField, stepField, hsame]
  split_ifs
  · rfl
  · exact unnumbered_warn s _
  · rfl

lemma unnumbered_stepInside (n : Nat) (block : OpenBlock) (line : List Char) :
    (s.stepInside unlinked n block line).unnumbered
      = s.unnumbered.stepInside unlinked 0 block.unnumbered line := by
  rw [stepInside, stepInside]
  cases insideForm line with
  | closing => rfl
  | opening =>
    dsimp only
    rw [unnumbered_stepOutside]
    refine congrArg (stepOutside 0 line) ?_
    simp [unnumbered, warn, Warning.unnumbered, OpenBlock.unnumbered]
  | field parts => exact unnumbered_stepField unlinked s n block parts
  | other => rfl

/-- A statement with a number does what it would do on line zero, but for the numbers. -/
lemma unnumbered_step (statement : Nat × List Char) :
    (s.step unlinked statement).unnumbered = s.unnumbered.step unlinked (0, statement.2) := by
  obtain ⟨n, line⟩ := statement
  have hseen : s.unnumbered.headerSeen = s.headerSeen := rfl
  have hcurrent : s.unnumbered.current = s.current.map OpenBlock.unnumbered := rfl
  rw [step, step, hseen, hcurrent]
  split_ifs
  · rfl
  · cases s.current with
    | none => exact unnumbered_stepOutside s n line
    | some block => exact unnumbered_stepInside unlinked s n block line

lemma unnumbered_foldl (sts : List (Nat × List Char)) :
    (sts.foldl (step unlinked) s).unnumbered = s.unnumbered.read unlinked (sts.map Prod.snd) := by
  induction sts generalizing s with
  | nil => rfl
  | cons st sts ih =>
    rw [List.foldl_cons, ih, unnumbered_step]
    rfl

lemma unnumbered_finish : s.finish.unnumbered = s.unnumbered.finish := by
  have hcurrent : s.unnumbered.current = s.current.map OpenBlock.unnumbered := rfl
  rw [finish, finish, hcurrent]
  cases s.current with
  | none => rfl
  | some block => exact unnumbered_warn s _

end Scan

/-- **A text is scanned as if all its lines had the number zero**, but for the numbers. -/
theorem unnumbered_scan (unlinked : Cardinality) (supply : Supply) (text : List Char) :
    (scan unlinked supply text).unnumbered
      = (({ supply } : Scan).read unlinked ((statements text).map Prod.snd)).finish := by
  rw [scan, Scan.unnumbered_finish, Scan.unnumbered_foldl]
  rfl

/-! ## Relationship lines -/

/-- The resolver picks the same field whatever the number of the line is. -/
def Resolver.IgnoresNumbers (resolver : Resolver) : Prop :=
  ∀ s t r, resolver.select s t r.unnumbered = resolver.select s t r

lemma Resolver.IsBuiltIn.ignoresNumbers {resolver : Resolver} (h : resolver.IsBuiltIn) :
    resolver.IgnoresNumbers := by
  rcases h with rfl | rfl
  · exact fun _ _ _ => rfl
  · exact fun _ _ _ => rfl

section Resolution

variable {resolver : Resolver} (hresolver : resolver.IgnoresNumbers)
include hresolver

/-- A line links the same field whatever its number is. -/
lemma link_unnumbered (s t : Entity) (r : Relationship) :
    resolver.link s t r.unnumbered = resolver.link s t r := by
  rw [Resolver.link, Resolver.link, hresolver]
  rfl

lemma resolveLine_unnumbered (es : List Entity) (n : Nat) (r : Relationship) :
    resolveLine resolver es 0 r.unnumbered
      = (resolveLine resolver es n r).map fun p => (p.1, p.2.map Warning.unnumbered) := by
  have hsource : r.unnumbered.source = r.source := rfl
  have htarget : r.unnumbered.target = r.target := rfl
  rw [resolveLine, resolveLine, hsource, htarget]
  cases entityNamed? es r.source with
  | none => rfl
  | some s =>
    cases entityNamed? es r.target with
    | none => rfl
    | some t =>
      simp only [link_unnumbered hresolver]
      cases resolver.link s t r with
      | error reason => rfl
      | ok linked => cases linked <;> rfl

/-- Lines are resolved in the same way whatever their numbers are. -/
lemma resolveLines_unnumbered (es : List Entity) (lines : List (Nat × Relationship)) :
    resolveLines resolver es (lines.map fun p => (0, p.2.unnumbered))
      = (resolveLines resolver es lines).map fun p => (p.1, p.2.map Warning.unnumbered) := by
  induction lines generalizing es with
  | nil => rfl
  | cons line lines ih =>
    obtain ⟨n, r⟩ := line
    simp only [List.map_cons, resolveLines, resolveLine_unnumbered hresolver es n r]
    cases resolveLine resolver es n r with
    | error reason => rfl
    | ok p =>
      simp only [Except.map, bind, Except.bind, ih]
      cases resolveLines resolver p.1 lines with
      | error reason => rfl
      | ok q => simp [pure, Except.pure]

end Resolution

/-! ## Outcomes -/

/-- The outcome with zero for every line number. -/
def ParseOutcome.unnumbered : ParseOutcome → ParseOutcome
  | .accepted es rs ws =>
    .accepted es (rs.map Relationship.unnumbered) (ws.map Warning.unnumbered)
  | .rejected error ws => .rejected error (ws.map Warning.unnumbered)

/-- The outcomes are the same up to ids and line numbers. -/
inductive ParseOutcome.Alike : ParseOutcome → ParseOutcome → Prop where
  /-- Both texts are rejected for the same reason and with the same warnings. -/
  | rejected {error : ParseError} {ws ws' : List Warning}
      (warnings : ws'.map Warning.unnumbered = ws.map Warning.unnumbered) :
      Alike (.rejected error ws) (.rejected error ws')
  /-- The same entities with the same links are read, the same relationships are stated, and the
  same is warned about. -/
  | accepted {es es' : List Entity} {rs rs' : List Relationship} {ws ws' : List Warning}
      (entities : sketch es' = sketch es)
      (relationships : rs'.map Relationship.unnumbered = rs.map Relationship.unnumbered)
      (warnings : ws'.map Warning.unnumbered = ws.map Warning.unnumbered) :
      Alike (.accepted es rs ws) (.accepted es' rs' ws')

/-- The outcome of resolving the lines of a scan. -/
def Scan.outcome (resolver : Resolver) (s : Scan) : ParseOutcome :=
  match resolveLines resolver s.entities s.relationships with
  | .error reason => .rejected (.unexpected reason) []
  | .ok (es, ws) =>
    if es.isEmpty then .rejected .noEntities (s.warnings ++ ws)
    else .accepted es (s.relationships.map (·.2)) (s.warnings ++ ws)

/-- A text that starts as a diagram does is scanned, and its lines are resolved. -/
lemma parse_eq_outcome {text : String} (h : isDiagram (.text text) = true) (resolver : Resolver)
    (unlinked : Cardinality) (supply : Supply) :
    (parse resolver unlinked supply text).1
      = (scan unlinked supply text.toList).outcome resolver := by
  have hheader : hasHeader text.toList = true := h
  rw [parse, if_pos hheader]
  rfl

lemma unnumbered_outcome {resolver : Resolver} (hresolver : resolver.IgnoresNumbers) (s : Scan) :
    (s.outcome resolver).unnumbered = s.unnumbered.outcome resolver := by
  have hlines := resolveLines_unnumbered hresolver s.entities s.relationships
  have hentities : s.unnumbered.entities = s.entities := rfl
  have hrelationships : s.unnumbered.relationships
      = s.relationships.map fun p => (0, p.2.unnumbered) := rfl
  have hwarnings : s.unnumbered.warnings = s.warnings.map Warning.unnumbered := rfl
  rw [Scan.outcome, Scan.outcome, hentities, hrelationships, hwarnings, hlines]
  cases resolveLines resolver s.entities s.relationships with
  | error reason => rfl
  | ok p =>
    simp only [Except.map]
    split_ifs
    · simp [ParseOutcome.unnumbered]
    · simp [ParseOutcome.unnumbered, Function.comp_def]

/-- **Texts whose scans are the same but for line numbers are read alike**, whatever new ids are
given out. -/
theorem alike_parse {resolver : Resolver} (hresolver : resolver.IsBuiltIn) {unlinked : Cardinality}
    {supply supply' : Supply} (hfresh : supply.IsFresh) (hfresh' : supply'.IsFresh)
    {text text' : String} (h : isDiagram (.text text) = true) (h' : isDiagram (.text text') = true)
    (hscan : (scan unlinked supply text'.toList).unnumbered
      = (scan unlinked supply text.toList).unnumbered) :
    ParseOutcome.Alike (parse resolver unlinked supply text).1
      (parse resolver unlinked supply' text').1 := by
  have hsame : (parse resolver unlinked supply text').1.unnumbered
      = (parse resolver unlinked supply text).1.unnumbered := by
    rw [parse_eq_outcome h, parse_eq_outcome h', unnumbered_outcome hresolver.ignoresNumbers,
      unnumbered_outcome hresolver.ignoresNumbers, hscan]
  have hids := @sketch_parse resolver unlinked supply supply' (fun _ hg => hresolver.ignoresIds hg)
    hresolver.picksForeign hfresh hfresh' text'
  rcases hids with ⟨error, ws, hparse, hparse'⟩ | ⟨es, es', rs, ws, hparse, hparse', hsketch⟩
  · rw [hparse] at hsame
    rw [hparse']
    cases hfirst : (parse resolver unlinked supply text).1 with
    | accepted es₁ rs₁ ws₁ => simp [hfirst, ParseOutcome.unnumbered] at hsame
    | rejected error₁ ws₁ =>
      rw [hfirst] at hsame
      obtain ⟨rfl, hwarnings⟩ := ParseOutcome.rejected.inj hsame
      exact .rejected hwarnings
  · rw [hparse] at hsame
    rw [hparse']
    cases hfirst : (parse resolver unlinked supply text).1 with
    | rejected error₁ ws₁ => simp [hfirst, ParseOutcome.unnumbered] at hsame
    | accepted es₁ rs₁ ws₁ =>
      rw [hfirst] at hsame
      obtain ⟨rfl, hrelationships, hwarnings⟩ := ParseOutcome.accepted.inj hsame
      exact .accepted hsketch hrelationships hwarnings

end DiagramSync
