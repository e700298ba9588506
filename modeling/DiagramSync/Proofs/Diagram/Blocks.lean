import DiagramSync.Proofs.Diagram.ReadTexts

/-!
# The blocks of a text

Which block a statement belongs to depends on the last statement before it that opens or closes
one.  So one can tell, without scanning, which entities a text declares, which field lines belong to
each of them, and which blocks are interrupted by others.

* `bodyStatements`, `situated` — the statements after the header, each with the block it stands in
* `declaredNames`, `fieldLines`, `openedOver` — what they declare
* `linesOf` — the field lines of an entity, over all its blocks
* `FieldLine.SaidBy` — a field that is what a line says of it
* `situated_concat` and what follows it — what one statement more adds
* `declared_of_open`, `linesOf_eq_nil` — an entity is declared before it has fields
-/

namespace DiagramSync

open Text

/-! ## Statements and blocks -/

/-- The statements without the header, which is the first one that starts as a header does. -/
def bodyStatements (sts : List (Nat × List Char)) : List (Nat × List Char) :=
  sts.eraseP fun st => isHeader st.2

/-- What a statement that opens or closes a block leaves open: nothing if it closes one, if it opens
one without a name, or if the block is closed on the same line. -/
def leavesOpen? (st : Nat × List Char) : Option (Option OpenBlock) :=
  match insideForm st.2 with
  | .closing => some none
  | _ =>
    match outsideForm st.2 with
    | .opening written closed =>
      some (if keptName written = "" ∨ closed then none else some ⟨keptName written, st.1⟩)
    | _ => none

/-- The block that is open after some statements: what the last of those left open that open or
close one. -/
def openAfter (sts : List (Nat × List Char)) : Option OpenBlock :=
  (sts.filterMap leavesOpen?).getLast?.join

/-- A statement with the block that is open when it comes. -/
structure Situated where
  /-- The block. -/
  block : Option OpenBlock
  /-- The number of the line. -/
  line : Nat
  /-- The line. -/
  text : List Char

/-- The statements, each with the block that is open when it comes. -/
def situated (sts : List (Nat × List Char)) : List Situated :=
  (withBefore sts).map fun p => ⟨openAfter p.1, p.2.1, p.2.2⟩

/-! ## What is declared -/

/-- The name, if it is one. -/
def nonempty? (name : String) : Option String :=
  if name = "" then none else some name

/-- The name that a statement declares: that of a block it opens, or outside a block its own. -/
def Situated.declared? (s : Situated) : Option String :=
  match outsideForm s.text with
  | .opening written _ => nonempty? (keptName written)
  | .bare written => if s.block.isNone then nonempty? (keptName written) else none
  | _ => none

/-- The names that statements declare, with repetitions. -/
def declaredNames (sts : List (Nat × List Char)) : List String :=
  (situated sts).filterMap Situated.declared?

/-- A field line with the entity that it belongs to. -/
structure FieldLine where
  /-- The number of the line. -/
  line : Nat
  /-- The name of the entity. -/
  entity : String
  /-- What the line says. -/
  parts : LineForm.FieldParts

/-- The name of the field. -/
def FieldLine.name (l : FieldLine) : String :=
  String.ofList (fieldNameChars l.parts.name)

/-- What tells a field line apart: its entity, and its name without regard to case. -/
def FieldLine.key (l : FieldLine) : String × String :=
  (l.entity, foldName l.name)

/-- The field line that a statement in a block is, if it has a name. -/
def Situated.fieldLine? (s : Situated) : Option FieldLine :=
  match s.block, insideForm s.text with
  | some block, .field parts =>
    (nonempty? (String.ofList (fieldNameChars parts.name))).map fun _ =>
      ⟨s.line, block.entity, parts⟩
  | _, _ => none

/-- The field lines among some statements. -/
def fieldLines (sts : List (Nat × List Char)) : List FieldLine :=
  (situated sts).filterMap Situated.fieldLine?

/-- The field lines of an entity, each name once, over all its blocks. -/
def linesOf (entity : String) (sts : List (Nat × List Char)) : List FieldLine :=
  (firsts FieldLine.key (fieldLines sts)).filter fun l => l.entity == entity

/-- The block that a statement interrupts by opening another one. -/
def Situated.opensOver? (s : Situated) : Option OpenBlock :=
  match insideForm s.text with
  | .opening => s.block
  | _ => none

/-- The blocks that are interrupted by others. -/
def openedOver (sts : List (Nat × List Char)) : List OpenBlock :=
  (situated sts).filterMap Situated.opensOver?

/-- The field is what the line says of it; its id and where it points are another matter. -/
def FieldLine.SaidBy (unlinked : Cardinality) (l : FieldLine) (f : Field) : Prop :=
  f.bare = (keptField unlinked f.id l.parts).bare

/-- The warning about a field line whose name its entity has already. -/
def FieldLine.repeated (l : FieldLine) : Warning :=
  .duplicateField l.line l.name l.entity

/-- The warning about a block that is never closed. -/
def OpenBlock.unclosed (b : OpenBlock) : Warning :=
  .neverClosed b.line b.entity

/-- The warning is about a repeated field line. -/
def Warning.isRepeated : Warning → Bool
  | duplicateField .. => true
  | _ => false

/-- The warning is about a block that is never closed. -/
def Warning.isUnclosed : Warning → Bool
  | neverClosed .. => true
  | _ => false

/-! ## One statement more -/

section Concat

variable (sts : List (Nat × List Char)) (n : Nat) (line : List Char)

lemma situated_concat :
    situated (sts ++ [(n, line)]) = situated sts ++ [⟨openAfter sts, n, line⟩] := by
  rw [situated, withBefore_concat, List.map_append]
  rfl

lemma openAfter_concat :
    openAfter (sts ++ [(n, line)]) = (leavesOpen? (n, line)).getD (openAfter sts) := by
  rw [openAfter, filterMap_concat, List.getLast?_append]
  cases leavesOpen? (n, line) with
  | none => rfl
  | some left => rfl

lemma declaredNames_concat : declaredNames (sts ++ [(n, line)])
    = declaredNames sts ++ (Situated.declared? ⟨openAfter sts, n, line⟩).toList := by
  rw [declaredNames, situated_concat, filterMap_concat]
  rfl

lemma fieldLines_concat : fieldLines (sts ++ [(n, line)])
    = fieldLines sts ++ (Situated.fieldLine? ⟨openAfter sts, n, line⟩).toList := by
  rw [fieldLines, situated_concat, filterMap_concat]
  rfl

lemma openedOver_concat : openedOver (sts ++ [(n, line)])
    = openedOver sts ++ (Situated.opensOver? ⟨openAfter sts, n, line⟩).toList := by
  rw [openedOver, situated_concat, filterMap_concat]
  rfl

end Concat

section Lines

variable {sts : List (Nat × List Char)} {n : Nat} {line : List Char}

/-- A line that opens a block does so outside blocks and inside them. -/
lemma insideForm_of_opening {written : List Char} {closed : Bool}
    (h : outsideForm line = .opening written closed) : insideForm line = .opening := by
  have hopening := blockOpening?_of_outsideForm h
  rw [insideForm]
  split_ifs with hclosing hopens
  · subst hclosing
    have hnone : LineForm.blockOpening? ['}'] = none := by decide
    exact absurd (hnone.symm.trans hopening) (Option.some_ne_none _).symm
  · rfl
  · rw [hopening] at hopens
    exact absurd rfl hopens

/-- A line that opens a block inside another one opens it outside, too. -/
lemma outsideForm_of_opening (h : insideForm line = .opening) :
    ∃ written closed, outsideForm line = .opening written closed := by
  rw [insideForm] at h
  split_ifs at h with hclosing hopens
  · obtain ⟨⟨written, closed⟩, hopening⟩ := Option.isSome_iff_exists.mp hopens
    refine ⟨written, closed, ?_⟩
    rw [outsideForm, hopening]
  · cases hfield : LineForm.field? line with
    | none => simp [hfield] at h
    | some parts => simp [hfield] at h

/-- What a line that opens a block leaves open. -/
lemma leavesOpen?_opening {written : List Char} {closed : Bool}
    (h : outsideForm line = .opening written closed) : leavesOpen? (n, line)
      = some (if keptName written = "" ∨ closed then none else some ⟨keptName written, n⟩) := by
  rw [leavesOpen?, insideForm_of_opening h, h]

/-- A line that neither closes nor opens a block leaves things as they are. -/
lemma leavesOpen?_eq_none (hclosing : insideForm line ≠ .closing)
    (hopening : insideForm line ≠ .opening) : leavesOpen? (n, line) = none := by
  have hother : ∀ written closed, outsideForm line ≠ .opening written closed :=
    fun _ _ h => hopening (insideForm_of_opening h)
  rw [leavesOpen?]
  split
  · exact absurd ‹_› hclosing
  · split
    · exact absurd ‹_› (hother _ _)
    · rfl

/-- Where no block is open, only a line that opens one changes that. -/
lemma openAfter_concat_none (hnone : openAfter sts = none)
    (hopening : insideForm line ≠ .opening) : openAfter (sts ++ [(n, line)]) = none := by
  rw [openAfter_concat, hnone]
  by_cases hclosing : insideForm line = .closing
  · rw [leavesOpen?, hclosing]
    rfl
  · rw [leavesOpen?_eq_none hclosing hopening]
    rfl

/-! ## What is declared before it is used -/

/-- The entity of an open block has been declared. -/
lemma declared_of_open {b : OpenBlock} (h : openAfter sts = some b) :
    b.entity ∈ declaredNames sts := by
  induction sts using List.reverseRecOn generalizing b with
  | nil => exact absurd h (Option.some_ne_none b).symm
  | append_singleton sts st ih =>
    obtain ⟨n, line⟩ := st
    rw [openAfter_concat] at h
    rw [declaredNames_concat]
    cases hleaves : leavesOpen? (n, line) with
    | none =>
      rw [hleaves, Option.getD_none] at h
      exact List.mem_append_left _ (ih h)
    | some left =>
      rw [hleaves, Option.getD_some] at h
      subst h
      rw [leavesOpen?] at hleaves
      split at hleaves
      · exact absurd (Option.some.inj hleaves) (Option.some_ne_none b).symm
      · split at hleaves
        · rename_i written closed hopening
          split_ifs at hleaves with hnone
          · exact absurd (Option.some.inj hleaves) (Option.some_ne_none b).symm
          · obtain rfl := Option.some.inj (Option.some.inj hleaves)
            have hname : keptName written ≠ "" := fun heq => hnone (Or.inl heq)
            have hdeclared :
                Situated.declared? ⟨openAfter sts, n, line⟩ = some (keptName written) := by
              simp only [Situated.declared?, hopening, nonempty?, if_neg hname]
            rw [hdeclared]
            exact List.mem_append_right _ (List.mem_singleton.mpr rfl)
        · exact absurd hleaves.symm (Option.some_ne_none _)

/-- A field line is one of the open block. -/
lemma fieldLine?_eq_some {s : Situated} {l : FieldLine} (h : s.fieldLine? = some l) :
    ∃ b, s.block = some b ∧ l.entity = b.entity := by
  rw [Situated.fieldLine?] at h
  split at h
  · rename_i b parts hblock hform
    obtain ⟨name, -, rfl⟩ := Option.map_eq_some_iff.mp h
    exact ⟨b, hblock, rfl⟩
  · exact absurd h.symm (Option.some_ne_none l)

/-- In a block only a line that opens one declares an entity. -/
lemma declared?_inside {b : OpenBlock} (hopen : openAfter sts = some b)
    (hform : insideForm line ≠ .opening) : Situated.declared? ⟨openAfter sts, n, line⟩ = none := by
  rw [Situated.declared?]
  split
  · rename_i hopening
    exact absurd (insideForm_of_opening hopening) hform
  · simp [hopen]
  · rfl

/-- The entity of a field line has been declared. -/
lemma declared_of_mem_fieldLines {l : FieldLine} (h : l ∈ fieldLines sts) :
    l.entity ∈ declaredNames sts := by
  induction sts using List.reverseRecOn with
  | nil => exact absurd h List.not_mem_nil
  | append_singleton sts st ih =>
    rw [declaredNames_concat]
    rw [fieldLines_concat] at h
    refine List.mem_append_left _ ?_
    rcases List.mem_append.mp h with h | h
    · exact ih h
    · obtain ⟨b, hopen, hentity⟩ := fieldLine?_eq_some (Option.mem_toList.mp h)
      exact hentity ▸ declared_of_open hopen

/-- An entity that has not been declared has no field lines. -/
lemma linesOf_eq_nil {entity : String} (h : entity ∉ declaredNames sts) :
    linesOf entity sts = [] := by
  refine List.filter_eq_nil_iff.mpr fun l hl hentity => h ?_
  have hmem : l ∈ fieldLines sts := by
    obtain ⟨p, hp, hsome⟩ := List.mem_filterMap.mp hl
    split_ifs at hsome
    obtain rfl := Option.some.inj hsome
    obtain ⟨i, hi, hget⟩ := List.mem_mapIdx.mp hp
    exact hget ▸ List.getElem_mem hi
  exact beq_iff_eq.mp hentity ▸ declared_of_mem_fieldLines hmem

/-- A statement that is no field line adds none. -/
lemma linesOf_concat_none (h : Situated.fieldLine? ⟨openAfter sts, n, line⟩ = none)
    (entity : String) : linesOf entity (sts ++ [(n, line)]) = linesOf entity sts := by
  rw [linesOf, fieldLines_concat, h, Option.toList_none, List.append_nil]
  rfl

/-- A field line is added to those of its entity, unless it repeats one. -/
lemma linesOf_concat_some {l : FieldLine}
    (h : Situated.fieldLine? ⟨openAfter sts, n, line⟩ = some l) (entity : String) :
    linesOf entity (sts ++ [(n, line)]) = linesOf entity sts ++
      if l.key ∈ (fieldLines sts).map FieldLine.key ∨ l.entity ≠ entity then [] else [l] := by
  rw [linesOf, fieldLines_concat, h, Option.toList_some, firsts_concat, List.filter_append]
  refine congrArg (linesOf entity sts ++ ·) ?_
  by_cases hkey : l.key ∈ (fieldLines sts).map FieldLine.key
  · rw [if_pos hkey, if_pos (Or.inl hkey)]
    rfl
  · by_cases hentity : l.entity = entity
    · rw [if_neg hkey, if_neg fun hor => hor.elim hkey fun hne => hne hentity,
        List.filter_singleton, beq_iff_eq.mpr hentity]
      rfl
    · rw [if_neg hkey, if_pos (Or.inr hentity), List.filter_singleton, beq_false_of_ne hentity]
      rfl

end Lines

end DiagramSync
