import DiagramSync.Proofs.Diagram.Declared
import DiagramSync.Proofs.Diagram.Header
import DiagramSync.Proofs.Diagram.Rescan

/-!
# Where relationship lines stand

A relationship line that is read outside a block opens and closes nothing, declares nothing and
draws no id; it is put aside until the whole text has been scanned.  So the scan of a text falls into
two parts that know nothing of each other: the scan of its other lines, and the relationships in
their order.  What is read does not depend on where between the blocks they stand.

* `bodyLines` — the lines after the header that say something
* `relationshipLines`, `otherLines` — those that are read as relationships outside blocks, and the
  others
* `otherLines_insert`, `relationshipLines_insert` — a relationship line between two others
* `IsRearranged`, `isRearranged_of_moved` — a text with its relationship lines in other places
* `read_apart` — the two parts of a scan
* **`alike_rearranged`** — such a text is read alike
-/

namespace DiagramSync

open Text

/-! ## Two kinds of lines -/

/-- The lines after the header that say something. -/
def bodyLines (text : List Char) : List (List Char) :=
  (bodyStatements (statements text)).map Prod.snd

/-- The block that is open after some lines. -/
def blockAfter (ls : List (List Char)) : Option OpenBlock :=
  openAfter (ls.map (Prod.mk 0))

/-- The statement is read as a relationship, which it only is where no block is open. -/
def Situated.isRelationship (s : Situated) : Bool :=
  match s.block, outsideForm s.text with
  | none, .relationship _ => true
  | _, _ => false

/-- The lines that are read as relationships outside blocks. -/
def relationshipLines (ls : List (List Char)) : List (List Char) :=
  ((situated (ls.map (Prod.mk 0))).filter Situated.isRelationship).map Situated.text

/-- The lines that are read as something else, or as nothing. -/
def otherLines (ls : List (List Char)) : List (List Char) :=
  ((situated (ls.map (Prod.mk 0))).filter (!·.isRelationship)).map Situated.text

section Concat

variable (ls : List (List Char)) (l : List Char)

lemma relationshipLines_concat : relationshipLines (ls ++ [l])
    = relationshipLines ls ++ if Situated.isRelationship ⟨blockAfter ls, 0, l⟩ then [l] else [] := by
  rw [relationshipLines, List.map_append, List.map_singleton, situated_concat, List.filter_append,
    List.map_append, ← relationshipLines, ← blockAfter, List.filter_singleton]
  cases Situated.isRelationship ⟨blockAfter ls, 0, l⟩ <;> rfl

lemma otherLines_concat : otherLines (ls ++ [l])
    = otherLines ls ++ if Situated.isRelationship ⟨blockAfter ls, 0, l⟩ then [] else [l] := by
  rw [otherLines, List.map_append, List.map_singleton, situated_concat, List.filter_append,
    List.map_append, ← otherLines, ← blockAfter, List.filter_singleton]
  cases Situated.isRelationship ⟨blockAfter ls, 0, l⟩ <;> rfl

end Concat

/-! ## Other places -/

section Insert

variable {pre : List (List Char)} {l : List Char} {stated : StatedRelationship}
  (hform : outsideForm l = .relationship stated)
include hform

/-- A line that states a relationship neither opens nor closes a block. -/
lemma blockAfter_insert (post : List (List Char)) :
    blockAfter (pre ++ l :: post) = blockAfter (pre ++ post) := by
  have hclosing : insideForm l ≠ .closing := by
    intro hclosing
    rw [insideForm] at hclosing
    split_ifs at hclosing with hbrace
    · subst hbrace
      have hother : outsideForm ['}'] = .other := by decide
      exact OutsideForm.noConfusion (hother.symm.trans hform)
    · cases hfield : LineForm.field? l <;> simp [hfield] at hclosing
  have hopening : insideForm l ≠ .opening := by
    intro hopening
    obtain ⟨_, _, hopens⟩ := outsideForm_of_opening hopening
    exact OutsideForm.noConfusion (hopens.symm.trans hform)
  have hnone : leavesOpen? (0, l) = none := leavesOpen?_eq_none hclosing hopening
  simp [blockAfter, openAfter, hnone]

/-- A relationship line between blocks does not change how the other lines are read. -/
lemma otherLines_insert (hopen : blockAfter pre = none) (post : List (List Char)) :
    otherLines (pre ++ l :: post) = otherLines (pre ++ post) := by
  have hrelationship : Situated.isRelationship ⟨blockAfter pre, 0, l⟩ = true := by
    simp [Situated.isRelationship, hopen, hform]
  induction post using List.reverseRecOn with
  | nil => rw [otherLines_concat, hrelationship, if_pos rfl, List.append_nil, List.append_nil]
  | append_singleton post m ih =>
    rw [← List.cons_append, ← List.append_assoc, ← List.append_assoc, otherLines_concat,
      otherLines_concat, ih, blockAfter_insert hform]

/-- A relationship line between blocks comes after those before it and before those after it. -/
lemma relationshipLines_insert (hopen : blockAfter pre = none) (post : List (List Char)) :
    ∃ later, relationshipLines (pre ++ post) = relationshipLines pre ++ later ∧
      relationshipLines (pre ++ l :: post) = relationshipLines pre ++ l :: later := by
  have hrelationship : Situated.isRelationship ⟨blockAfter pre, 0, l⟩ = true := by
    simp [Situated.isRelationship, hopen, hform]
  induction post using List.reverseRecOn with
  | nil => exact ⟨[], by simp, by rw [relationshipLines_concat, hrelationship, if_pos rfl]⟩
  | append_singleton post m ih =>
    obtain ⟨later, hwithout, hwith⟩ := ih
    refine ⟨later ++ if Situated.isRelationship ⟨blockAfter (pre ++ post), 0, m⟩ then [m] else [],
      ?_, ?_⟩
    · rw [← List.append_assoc, relationshipLines_concat, hwithout, List.append_assoc]
    · rw [← List.cons_append, ← List.append_assoc, relationshipLines_concat, hwith,
        blockAfter_insert hform, List.append_assoc, List.cons_append]

end Insert

/-- The second text is the first one with its relationship lines in other places.  Both start with
the header, and the lines that are read as relationships outside blocks are the same in the same
order, and so are all other lines. -/
structure IsRearranged (text text' : String) : Prop where
  /-- The first text starts as a diagram does. -/
  header : isDiagram (.text text) = true
  /-- The second one does, too. -/
  header' : isDiagram (.text text') = true
  /-- The relationship lines are the same, in order. -/
  relationships : relationshipLines (bodyLines text'.toList)
    = relationshipLines (bodyLines text.toList)
  /-- The other lines are the same, in order. -/
  others : otherLines (bodyLines text'.toList) = otherLines (bodyLines text.toList)

/-- A relationship line can be taken from one place between blocks to another one, over lines that
are read as something else. -/
lemma isRearranged_of_moved {text text' : String} {pre mid post : List (List Char)} {l : List Char}
    {stated : StatedRelationship} (hform : outsideForm l = .relationship stated)
    (hheader : isDiagram (.text text) = true) (hheader' : isDiagram (.text text') = true)
    (htext : bodyLines text.toList = pre ++ l :: (mid ++ post))
    (htext' : bodyLines text'.toList = pre ++ mid ++ l :: post) (hbefore : blockAfter pre = none)
    (hafter : blockAfter (pre ++ mid) = none)
    (hmid : relationshipLines (pre ++ mid) = relationshipLines pre) :
    IsRearranged text text' := by
  obtain ⟨later, hwithout, hwith⟩ := relationshipLines_insert hform hbefore (mid ++ post)
  obtain ⟨later', hwithout', hwith'⟩ := relationshipLines_insert hform hafter post
  refine ⟨hheader, hheader', ?_, ?_⟩
  · rw [← List.append_assoc, hwithout', hmid] at hwithout
    rw [htext, htext', hwith, hwith', hmid, List.append_cancel_left hwithout]
  · rw [htext, htext', otherLines_insert hform hbefore, otherLines_insert hform hafter,
      List.append_assoc]

/-! ## The two parts of a scan -/

namespace Scan

/-- The scan with other relationships. -/
def withRelationships (rs : List (Nat × Relationship)) (s : Scan) : Scan :=
  { s with relationships := rs }

variable (unlinked : Cardinality) (s : Scan) (rs : List (Nat × Relationship)) (n : Nat)
  (line : List Char)

lemma withRelationships_declare (name : String) :
    (s.withRelationships rs).declare name = (s.declare name).withRelationships rs := by
  have hsame : (s.withRelationships rs).entity? name = s.entity? name := rfl
  rw [declare, declare, hsame]
  split_ifs
  · rfl
  · rfl

/-- What is no relationship leaves the relationships alone, and does not look at them. -/
lemma withRelationships_stepOutside (h : ∀ stated, outsideForm line ≠ .relationship stated) :
    (s.withRelationships rs).stepOutside n line = (s.stepOutside n line).withRelationships rs := by
  rw [stepOutside, stepOutside]
  cases hform : outsideForm line with
  | opening written closed =>
    dsimp only
    split_ifs
    · rfl
    · exact withRelationships_declare s rs _
    · rw [withRelationships_declare]
      rfl
  | relationship stated => exact absurd hform (h stated)
  | bare written =>
    dsimp only
    split_ifs
    · rfl
    · exact withRelationships_declare s rs _
  | other => rfl

lemma withRelationships_stepInside (block : OpenBlock) :
    (s.withRelationships rs).stepInside unlinked n block line
      = (s.stepInside unlinked n block line).withRelationships rs := by
  rw [stepInside, stepInside]
  cases hform : insideForm line with
  | closing => rfl
  | opening =>
    have hother : ∀ stated, outsideForm line ≠ .relationship stated := by
      intro stated hstated
      obtain ⟨written, closed, hopens⟩ := outsideForm_of_opening hform
      simp [hopens] at hstated
    exact withRelationships_stepOutside
      { s.warn (.neverClosed block.line block.entity) with current := none } rs n line hother
  | field parts =>
    have hsame : (s.withRelationships rs).entity? block.entity = s.entity? block.entity := rfl
    dsimp only
    rw [stepField, stepField, hsame]
    split_ifs <;> rfl
  | other => rfl

/-- A line that is not read as a relationship. -/
lemma withRelationships_step (hseen : s.headerSeen = true)
    (h : Situated.isRelationship ⟨s.current, n, line⟩ = false) :
    (s.withRelationships rs).step unlinked (n, line)
      = (s.step unlinked (n, line)).withRelationships rs := by
  have hkeep : (s.withRelationships rs).headerSeen = true := hseen
  have hsame : (s.withRelationships rs).current = s.current := rfl
  rw [step, step, hkeep, hseen, hsame]
  cases hcurrent : s.current with
  | none =>
    refine withRelationships_stepOutside s rs n line fun stated hstated => ?_
    simp [Situated.isRelationship, hcurrent, hstated] at h
  | some block => exact withRelationships_stepInside unlinked s rs n line block

end Scan

/-- The relationship that a line states, on line zero. -/
def lineRelationship? (l : List Char) : Option (Nat × Relationship) :=
  match outsideForm l with
  | .relationship stated => some (0, stated.keep 0)
  | _ => none

/-- The scan knows that the header has been seen, and which block is open. -/
lemma read_tells (unlinked : Cardinality) (supply : Supply) (ls : List (List Char)) :
    let s := ({ headerSeen := true, supply } : Scan).read unlinked ls
    s.headerSeen = true ∧ s.Tells unlinked (ls.map (Prod.mk 0)) := by
  induction ls using List.reverseRecOn with
  | nil => exact ⟨rfl, (Scan.Tells.initial unlinked supply).seeHeader⟩
  | append_singleton ls l ih =>
    obtain ⟨hseen, htells⟩ := ih
    rw [Scan.read_concat, List.map_append, List.map_singleton]
    refine ⟨by rw [Scan.headerSeen_step, hseen, Bool.true_or], htells.step ?_⟩
    rw [hseen, Bool.not_true, Bool.false_and]

/-- **A scan has two parts that know nothing of each other**: the scan of the other lines, and the
relationships in their order. -/
theorem read_apart (unlinked : Cardinality) (supply : Supply) (ls : List (List Char)) :
    ({ headerSeen := true, supply } : Scan).read unlinked ls
      = (({ headerSeen := true, supply } : Scan).read unlinked (otherLines ls)).withRelationships
          ((relationshipLines ls).filterMap lineRelationship?) := by
  induction ls using List.reverseRecOn with
  | nil => rfl
  | append_singleton ls l ih =>
    obtain ⟨hseen, htells⟩ := read_tells unlinked supply ls
    have hcurrent := htells.current
    rw [← blockAfter] at hcurrent
    rw [Scan.read_concat, relationshipLines_concat, otherLines_concat]
    rw [ih] at hseen hcurrent ⊢
    cases hrelationship : Situated.isRelationship ⟨blockAfter ls, 0, l⟩ with
    | true =>
      have hread : blockAfter ls = none ∧ ∃ stated, outsideForm l = .relationship stated := by
        rw [Situated.isRelationship] at hrelationship
        split at hrelationship
        · exact ⟨by assumption, _, by assumption⟩
        · exact absurd hrelationship Bool.false_ne_true
      obtain ⟨hopen, stated, hform⟩ := hread
      rw [Scan.step_outside unlinked hseen (hcurrent.trans hopen), Scan.stepOutside, hform]
      simp [lineRelationship?, hform, Scan.withRelationships]
    | false =>
      have hother := Scan.withRelationships_step unlinked
        (({ headerSeen := true, supply } : Scan).read unlinked (otherLines ls))
        ((relationshipLines ls).filterMap lineRelationship?) 0 l hseen (hcurrent ▸ hrelationship)
      simp [hother, Scan.read_concat]

/-- The scan of a diagram, but for line numbers. -/
lemma unnumbered_scan_body {text : String} (h : isDiagram (.text text) = true)
    (unlinked : Cardinality) (supply : Supply) :
    (scan unlinked supply text.toList).unnumbered
      = (({ headerSeen := true, supply } : Scan).read unlinked (bodyLines text.toList)).finish := by
  obtain ⟨p, hp, hheader⟩ := (hasHeader_iff_firstLine text.toList).mp h
  rw [scan_of_header hp hheader, Scan.unnumbered_finish, Scan.unnumbered_foldl]
  rfl

/-- **Relationship lines may stand anywhere outside blocks.**  A text in which they stand in other
places between the blocks, in the same order, is read alike: it is rejected for the same reason, or
the same entities with the same links are read, the same relationships are stated and the same is
warned about, but for line numbers. -/
theorem alike_rearranged {resolver : Resolver} (hresolver : resolver.IsBuiltIn)
    (unlinked : Cardinality) {supply supply' : Supply} (hfresh : supply.IsFresh)
    (hfresh' : supply'.IsFresh) {text text' : String} (h : IsRearranged text text') :
    ParseOutcome.Alike (parse resolver unlinked supply text).1
      (parse resolver unlinked supply' text').1 := by
  refine alike_parse hresolver hfresh hfresh' h.header h.header' ?_
  rw [unnumbered_scan_body h.header, unnumbered_scan_body h.header', read_apart, h.relationships,
    h.others, ← read_apart]

/-- Two relationships are stated before the blocks, one of them of an entity that no block declares. -/
def forwardText : String :=
  "erDiagram\nPosts \x7do--|| Users : author\nPosts \x7do--|| Ghosts\n" ++
    "Posts \x7b\nint user_id FK\n\x7d\nUsers \x7b\nint id PK\n\x7d"

/-- The same two stand between the blocks and after them. -/
def settledText : String :=
  "erDiagram\nPosts \x7b\nint user_id FK\n\x7d\nPosts \x7do--|| Users : author\n" ++
    "Users \x7b\nint id PK\n\x7d\nPosts \x7do--|| Ghosts"

/-- Wherever they stand, the first one links a field and the second one is warned about. -/
theorem alike_rearranged_forwardText :
    ParseOutcome.Alike (parse .byLabel .oneToOne .strokes settledText).1
        (parse .byLabel .oneToOne .strokes forwardText).1 ∧
      (parse .byLabel .oneToOne .strokes settledText).1.warnings
        = [.unknownEntity 9 "Ghosts"] ∧
      (parse .byLabel .oneToOne .strokes forwardText).1.warnings
        = [.unknownEntity 3 "Ghosts"] ∧
      (parse .byLabel .oneToOne .strokes forwardText).1.entities.map (·.fields.map Field.isLinked)
        = [[true], [false]] := by
  have hrearranged : IsRearranged settledText forwardText := by
    constructor <;> decide +kernel
  refine ⟨alike_rearranged (Or.inr rfl) .oneToOne Supply.isFresh_strokes Supply.isFresh_strokes
    hrearranged, ?_⟩
  decide +kernel

end DiagramSync
