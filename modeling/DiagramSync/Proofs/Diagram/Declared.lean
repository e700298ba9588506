import DiagramSync.Proofs.Diagram.Blocks

/-!
# What the blocks of a text declare

The scan keeps one open block, the entities so far and the warnings so far.  Each of these can be
told from the statements that have been scanned, and a statement more keeps that.  Relationship
lines change references only, so what is read of a text is what its statements declare.

* `DeclaredBy` — entities that are what statements declare
* `Scan.Tells` — a scan that tells what statements say
* `Tells.stepOutside`, `Tells.stepInside`, `Tells.step` — what a statement keeps
* `Scan.tells_foldl` — what a scan of many statements tells
* `bare_resolveLines` — what relationship lines leave as it is, with any resolver
* **`declares_exactly`** — what is read of a text is what its statements declare
-/

namespace DiagramSync

open Text

/-! ## What a scan tells -/

/-- The entities are what the statements declare, with the fields that their field lines say. -/
structure DeclaredBy (unlinked : Cardinality) (sts : List (Nat × List Char)) (es : List Entity) :
    Prop where
  /-- They have the declared names, each once, in order of the first declaration. -/
  names : es.map Entity.name = (declaredNames sts).eraseDups
  /-- Each of them has the fields that its lines say. -/
  fields : ∀ e ∈ es, List.Forall₂ (FieldLine.SaidBy unlinked) (linesOf e.name sts) e.fields

namespace DeclaredBy

variable {unlinked : Cardinality} {sts : List (Nat × List Char)} {n : Nat} {line : List Char}
  {s : Scan}

/-- A statement that declares nothing. -/
lemma silent {es : List Entity} (h : DeclaredBy unlinked sts es)
    (hdeclared : Situated.declared? ⟨openAfter sts, n, line⟩ = none)
    (hline : Situated.fieldLine? ⟨openAfter sts, n, line⟩ = none) :
    DeclaredBy unlinked (sts ++ [(n, line)]) es := by
  refine ⟨?_, fun e he => ?_⟩
  · rw [declaredNames_concat, hdeclared, Option.toList_none, List.append_nil]
    exact h.names
  · rw [linesOf_concat_none hline]
    exact h.fields e he

/-- A statement that declares an entity. -/
lemma declare {name : String} (h : DeclaredBy unlinked sts s.entities)
    (hdeclared : Situated.declared? ⟨openAfter sts, n, line⟩ = some name)
    (hline : Situated.fieldLine? ⟨openAfter sts, n, line⟩ = none) :
    DeclaredBy unlinked (sts ++ [(n, line)]) (s.declare name).entities := by
  have hnames : declaredNames (sts ++ [(n, line)]) = declaredNames sts ++ [name] := by
    rw [declaredNames_concat, hdeclared, Option.toList_some]
  have hknown : name ∈ s.entities.map Entity.name ↔ name ∈ declaredNames sts := by
    rw [h.names, List.mem_eraseDups]
  cases hfound : s.entity? name with
  | some e =>
    have hmem : name ∈ s.entities.map Entity.name := by
      by_contra hnone
      rw [Scan.entity?, find?_key_eq_none.mpr hnone] at hfound
      exact (Option.some_ne_none e).symm hfound
    rw [Scan.declare_known hfound]
    refine ⟨?_, fun e he => ?_⟩
    · rw [hnames, eraseDups_concat, if_pos (hknown.mp hmem), List.append_nil]
      exact h.names
    · rw [linesOf_concat_none hline]
      exact h.fields e he
  | none =>
    have hnew : name ∉ declaredNames sts := fun hmem =>
      find?_key_eq_none.mp hfound (hknown.mpr hmem)
    rw [Scan.declare_new hfound]
    refine ⟨?_, fun e he => ?_⟩
    · rw [hnames, eraseDups_concat, if_neg hnew, List.map_append, h.names]
      rfl
    · rw [linesOf_concat_none hline]
      rcases List.mem_append.mp he with he | he
      · exact h.fields e he
      · obtain rfl := List.mem_singleton.mp he
        rw [linesOf_eq_nil hnew]
        exact .nil

/-- A field line of a name that its entity does not have yet. -/
lemma extend {l : FieldLine} (h : DeclaredBy unlinked sts s.entities)
    (hdeclared : Situated.declared? ⟨openAfter sts, n, line⟩ = none)
    (hline : Situated.fieldLine? ⟨openAfter sts, n, line⟩ = some l)
    (hnew : l.key ∉ (fieldLines sts).map FieldLine.key) :
    DeclaredBy unlinked (sts ++ [(n, line)])
      (s.addField l.entity fun id => keptField unlinked id l.parts).entities := by
  have hentities : (s.addField l.entity fun id => keptField unlinked id l.parts).entities
      = s.entities.map
        (Scan.IsSound.extend l.entity (keptField unlinked s.supply.draw.1 l.parts)) :=
    rfl
  rw [hentities]
  refine ⟨?_, fun e' he' => ?_⟩
  · rw [declaredNames_concat, hdeclared, Option.toList_none, List.append_nil, ← h.names,
      List.map_map]
    exact List.map_congr_left fun e _ => Scan.IsSound.name_extend _ _ e
  · obtain ⟨e, he, rfl⟩ := List.mem_map.mp he'
    rw [Scan.IsSound.name_extend, linesOf_concat_some hline, Scan.IsSound.extend]
    by_cases hentity : l.entity = e.name
    · rw [if_neg fun hor => hor.elim hnew fun hne => hne hentity,
        if_pos (beq_iff_eq.mpr hentity.symm)]
      exact List.rel_append (h.fields e he) (.cons rfl .nil)
    · rw [if_pos (Or.inr hentity), if_neg fun heq => hentity (beq_iff_eq.mp heq).symm,
        List.append_nil]
      exact h.fields e he

/-- A field line of a name that its entity has already. -/
lemma repeated {es : List Entity} {l : FieldLine} (h : DeclaredBy unlinked sts es)
    (hdeclared : Situated.declared? ⟨openAfter sts, n, line⟩ = none)
    (hline : Situated.fieldLine? ⟨openAfter sts, n, line⟩ = some l)
    (hknown : l.key ∈ (fieldLines sts).map FieldLine.key) :
    DeclaredBy unlinked (sts ++ [(n, line)]) es := by
  refine ⟨?_, fun e he => ?_⟩
  · rw [declaredNames_concat, hdeclared, Option.toList_none, List.append_nil]
    exact h.names
  · rw [linesOf_concat_some hline, if_pos (Or.inl hknown), List.append_nil]
    exact h.fields e he

end DeclaredBy

/-- Fields that lines say have the names that the lines give. -/
lemma map_name_of_saidBy {unlinked : Cardinality} {ls : List FieldLine} {fs : List Field}
    (h : List.Forall₂ (FieldLine.SaidBy unlinked) ls fs) :
    fs.map Field.name = ls.map FieldLine.name := by
  induction h with
  | nil => rfl
  | cons hsaid hrest ih =>
    rename_i l f ls fs
    have hname : f.name = l.name := congrArg Field.name hsaid
    rw [List.map_cons, List.map_cons, ih, hname]

namespace Scan

variable {unlinked : Cardinality} {sts : List (Nat × List Char)} {n : Nat} {line : List Char}
  {s : Scan}

/-- The scan tells what the statements say. -/
structure Tells (unlinked : Cardinality) (sts : List (Nat × List Char)) (s : Scan) : Prop extends
    DeclaredBy unlinked sts s.entities where
  /-- The block that is open. -/
  current : s.current = openAfter sts
  /-- One warning for each field line that repeats another one. -/
  repeated : s.warnings.filter Warning.isRepeated
    = (repeats FieldLine.key (fieldLines sts)).map FieldLine.repeated
  /-- One warning for each block that is interrupted by another one. -/
  unclosed : s.warnings.filter Warning.isUnclosed = (openedOver sts).map OpenBlock.unclosed

/-! ### Statements outside a block -/

/-- A statement where no block is open, and one that opens a block, describes no field. -/
lemma fieldLine?_outside (h : openAfter sts = none ∨ insideForm line = .opening) :
    Situated.fieldLine? ⟨openAfter sts, n, line⟩ = none := by
  rw [Situated.fieldLine?]
  split
  · rename_i block parts hblock hform
    rcases h with h | h
    · exact absurd (h.symm.trans hblock) (Option.some_ne_none block).symm
    · exact InsideForm.noConfusion (h.symm.trans hform)
  · rfl

/-- Declaring an entity changes the entities and the supply only. -/
lemma declare_frame (name : String) :
    ∃ es supply, s.declare name = { s with entities := es, supply := supply } := by
  cases hfound : s.entity? name with
  | none => exact ⟨_, _, declare_new hfound⟩
  | some e => exact ⟨s.entities, s.supply, declare_known hfound⟩

lemma current_declare (name : String) : (s.declare name).current = s.current := by
  obtain ⟨es, supply, hframe⟩ := declare_frame (s := s) name
  rw [hframe]

/-- A statement outside a block leaves the header and the warnings as they are. -/
lemma stepOutside_frame : (s.stepOutside n line).headerSeen = s.headerSeen ∧
    (s.stepOutside n line).warnings = s.warnings := by
  rw [stepOutside]
  cases outsideForm line with
  | opening written closed =>
    obtain ⟨es, supply, hframe⟩ := declare_frame (s := s) (keptName written)
    dsimp only
    rw [hframe]
    split_ifs <;> exact ⟨rfl, rfl⟩
  | relationship stated => exact ⟨rfl, rfl⟩
  | bare written =>
    obtain ⟨es, supply, hframe⟩ := declare_frame (s := s) (keptName written)
    dsimp only
    rw [hframe]
    split_ifs <;> exact ⟨rfl, rfl⟩
  | other => exact ⟨rfl, rfl⟩

/-- A statement is the header or leaves it as it is. -/
lemma headerSeen_step (st : Nat × List Char) :
    (s.step unlinked st).headerSeen = (s.headerSeen || isHeader st.2) := by
  rw [step]
  split_ifs with hheader
  · rw [(Bool.and_eq_true_iff.mp hheader).2, Bool.or_true]
  · have hkept : (s.headerSeen || isHeader st.2) = s.headerSeen := by
      cases hseen : s.headerSeen with
      | true => rfl
      | false =>
        rw [hseen, Bool.not_false, Bool.true_and] at hheader
        rw [Bool.false_or, eq_false_of_ne_true hheader]
    rw [hkept]
    cases s.current with
    | none => exact stepOutside_frame.1
    | some block =>
      dsimp only
      rw [stepInside]
      cases insideForm st.2 with
      | closing => rfl
      | opening => exact stepOutside_frame.1
      | field parts =>
        dsimp only
        rw [stepField]
        split_ifs <;> rfl
      | other => rfl

/-- What is declared after a statement outside a block. -/
lemma declaredBy_stepOutside (h : DeclaredBy unlinked sts s.entities)
    (hout : openAfter sts = none ∨ insideForm line = .opening) :
    DeclaredBy unlinked (sts ++ [(n, line)]) (s.stepOutside n line).entities := by
  have hline := fieldLine?_outside (n := n) hout
  rw [stepOutside]
  cases hform : outsideForm line with
  | opening written closed =>
    have hdeclared :
        Situated.declared? ⟨openAfter sts, n, line⟩ = nonempty? (keptName written) := by
      simp only [Situated.declared?, hform]
    dsimp only
    split_ifs with hname
    · exact h.silent (hdeclared.trans (if_pos hname)) hline
    · exact h.declare (hdeclared.trans (if_neg hname)) hline
    · exact h.declare (hdeclared.trans (if_neg hname)) hline
  | relationship stated => exact h.silent (by simp only [Situated.declared?, hform]) hline
  | bare written =>
    have hnone : openAfter sts = none := hout.resolve_right fun hopening => by
      obtain ⟨_, _, hform'⟩ := outsideForm_of_opening hopening
      exact OutsideForm.noConfusion (hform.symm.trans hform')
    have hdeclared :
        Situated.declared? ⟨openAfter sts, n, line⟩ = nonempty? (keptName written) := by
      simp only [Situated.declared?, hform, hnone, Option.isNone_none, if_true]
    dsimp only
    split_ifs with hname
    · exact h.silent (hdeclared.trans (if_pos hname)) hline
    · exact h.declare (hdeclared.trans (if_neg hname)) hline
  | other => exact h.silent (by simp only [Situated.declared?, hform]) hline

/-- Which block is open after a statement outside a block. -/
lemma current_stepOutside (h : s.current = none)
    (hout : openAfter sts = none ∨ insideForm line = .opening) :
    (s.stepOutside n line).current = openAfter (sts ++ [(n, line)]) := by
  rw [stepOutside]
  cases hform : outsideForm line with
  | opening written closed =>
    rw [openAfter_concat, leavesOpen?_opening hform, Option.getD_some]
    dsimp only
    by_cases hname : keptName written = ""
    · rw [if_pos hname, if_pos (Or.inl hname), h]
    · by_cases hclosed : closed = true
      · rw [if_neg hname, if_pos hclosed, if_pos (Or.inr hclosed), current_declare, h]
      · rw [if_neg hname, if_neg hclosed, if_neg fun hor => hor.elim hname hclosed]
  | relationship stated => ?_
  | bare written => ?_
  | other => ?_
  all_goals
    have hnot : insideForm line ≠ .opening := fun hopening => by
      obtain ⟨_, _, hform'⟩ := outsideForm_of_opening hopening
      exact OutsideForm.noConfusion (hform.symm.trans hform')
    rw [openAfter_concat_none (hout.resolve_right hnot) hnot]
  · exact h
  · dsimp only
    split_ifs
    · exact h
    · exact (current_declare _).trans h
  · exact h

namespace Tells

/-- A statement where no block is open. -/
lemma stepOutside (h : s.Tells unlinked sts) (hnone : openAfter sts = none) :
    (s.stepOutside n line).Tells unlinked (sts ++ [(n, line)]) where
  toDeclaredBy := declaredBy_stepOutside h.toDeclaredBy (Or.inl hnone)
  current := current_stepOutside (h.current.trans hnone) (Or.inl hnone)
  repeated := by
    rw [stepOutside_frame.2, fieldLines_concat, fieldLine?_outside (Or.inl hnone),
      Option.toList_none, List.append_nil]
    exact h.repeated
  unclosed := by
    have hover : Situated.opensOver? ⟨openAfter sts, n, line⟩ = none := by
      rw [Situated.opensOver?, hnone]
      split <;> rfl
    rw [stepOutside_frame.2, openedOver_concat, hover, Option.toList_none, List.append_nil]
    exact h.unclosed

/-! ### Statements inside a block -/

/-- Whether the entity of the open block has a field of that name can be told from the lines. -/
lemma isSome_field_iff (h : s.Tells unlinked sts) {b : OpenBlock} (hopen : openAfter sts = some b)
    {l : FieldLine} (hentity : l.entity = b.entity) :
    ((s.entity? b.entity).bind (·.findFieldNamed? l.name)).isSome
      ↔ l.key ∈ (fieldLines sts).map FieldLine.key := by
  have hmem : b.entity ∈ s.entities.map Entity.name := by
    rw [h.names, List.mem_eraseDups]
    exact declared_of_open hopen
  cases hfound : s.entity? b.entity with
  | none => exact absurd hmem (find?_key_eq_none.mp hfound)
  | some e =>
    have hfind := List.find?_some hfound
    have hname : e.name = b.entity := beq_iff_eq.mp hfind
    have hfields := h.fields e (List.mem_of_find?_eq_some hfound)
    have hnames : e.fields.map (foldName ·.name)
        = (linesOf e.name sts).map fun l => foldName l.name := by
      have hmap := congrArg (List.map foldName) (map_name_of_saidBy hfields)
      rwa [List.map_map, List.map_map] at hmap
    have hfirsts : l.key ∈ (firsts FieldLine.key (fieldLines sts)).map FieldLine.key
        ↔ l.key ∈ (fieldLines sts).map FieldLine.key := mem_map_firsts
    rw [Option.bind_some, ← Option.ne_none_iff_isSome, ne_eq, findFieldNamed?_eq_none, not_not,
      hnames, ← hfirsts, hname]
    constructor
    · intro hfold
      obtain ⟨m, hm, hsame⟩ := List.mem_map.mp hfold
      obtain ⟨hfirst, hof⟩ := List.mem_filter.mp hm
      refine List.mem_map.mpr ⟨m, hfirst, Prod.ext ?_ hsame⟩
      exact (beq_iff_eq.mp hof).trans hentity.symm
    · intro hkey
      obtain ⟨m, hfirst, hsame⟩ := List.mem_map.mp hkey
      rw [FieldLine.key, FieldLine.key, Prod.mk.injEq] at hsame
      obtain ⟨hsource, hfold⟩ := hsame
      have hm : m ∈ linesOf b.entity sts :=
        List.mem_filter.mpr ⟨hfirst, beq_iff_eq.mpr (hsource.trans hentity)⟩
      exact hfold ▸ List.mem_map_of_mem hm

/-- A field line of the open block. -/
lemma stepField (h : s.Tells unlinked sts) {b : OpenBlock} (hopen : openAfter sts = some b)
    {parts : LineForm.FieldParts} (hform : insideForm line = .field parts) :
    (s.stepField unlinked n b parts).Tells unlinked (sts ++ [(n, line)]) := by
  have hleaves : openAfter (sts ++ [(n, line)]) = openAfter sts := by
    rw [openAfter_concat, leavesOpen?_eq_none (by simp [hform]) (by simp [hform]),
      Option.getD_none]
  have hdeclared : Situated.declared? ⟨openAfter sts, n, line⟩ = none :=
    declared?_inside hopen (by simp [hform])
  have hover : Situated.opensOver? ⟨openAfter sts, n, line⟩ = none := by
    simp only [Situated.opensOver?, hform]
  have hline : Situated.fieldLine? ⟨openAfter sts, n, line⟩
      = (nonempty? (String.ofList (fieldNameChars parts.name))).map fun _ =>
        ⟨n, b.entity, parts⟩ := by
    simp only [Situated.fieldLine?, hopen, hform]
  have hopened : openedOver (sts ++ [(n, line)]) = openedOver sts := by
    rw [openedOver_concat, hover, Option.toList_none, List.append_nil]
  rw [Scan.stepField]
  split_ifs with hname hknown
  · have hnone : Situated.fieldLine? ⟨openAfter sts, n, line⟩ = none := by
      rw [hline, nonempty?, if_pos hname, Option.map_none]
    refine ⟨h.toDeclaredBy.silent hdeclared hnone, hleaves ▸ h.current, ?_, hopened ▸ h.unclosed⟩
    rw [fieldLines_concat, hnone, Option.toList_none, List.append_nil]
    exact h.repeated
  all_goals
    have hsome : Situated.fieldLine? ⟨openAfter sts, n, line⟩ = some ⟨n, b.entity, parts⟩ := by
      rw [hline, nonempty?, if_neg hname, Option.map_some]
    have hkey := h.isSome_field_iff hopen (l := ⟨n, b.entity, parts⟩) rfl
    have hlines : fieldLines (sts ++ [(n, line)]) = fieldLines sts ++ [⟨n, b.entity, parts⟩] := by
      rw [fieldLines_concat, hsome, Option.toList_some]
  · refine ⟨h.toDeclaredBy.repeated hdeclared hsome (hkey.mp hknown), hleaves ▸ h.current, ?_, ?_⟩
    · rw [hlines, repeats_concat, if_pos (hkey.mp hknown), List.map_append, ← h.repeated]
      exact List.filter_append ..
    · rw [hopened, ← h.unclosed]
      exact (List.filter_append ..).trans (List.append_nil _)
  · have hnew := fun hmem => hknown (hkey.mpr hmem)
    refine ⟨h.toDeclaredBy.extend hdeclared hsome hnew, hleaves ▸ h.current, ?_,
      hopened ▸ h.unclosed⟩
    rw [hlines, repeats_concat, if_neg hnew, List.append_nil]
    exact h.repeated

/-- A statement in a block. -/
lemma stepInside (h : s.Tells unlinked sts) {b : OpenBlock} (hopen : openAfter sts = some b) :
    (s.stepInside unlinked n b line).Tells unlinked (sts ++ [(n, line)]) := by
  rw [Scan.stepInside]
  cases hform : insideForm line with
  | closing => ?_
  | opening =>
    have hover : Situated.opensOver? ⟨openAfter sts, n, line⟩ = some b := by
      simp only [Situated.opensOver?, hform, hopen]
    refine ⟨declaredBy_stepOutside h.toDeclaredBy (Or.inr hform),
      current_stepOutside rfl (Or.inr hform), ?_, ?_⟩
    · rw [stepOutside_frame.2, fieldLines_concat, fieldLine?_outside (Or.inr hform),
        Option.toList_none, List.append_nil, ← h.repeated]
      exact (List.filter_append ..).trans (List.append_nil _)
    · rw [stepOutside_frame.2, openedOver_concat, hover, Option.toList_some, List.map_append,
        ← h.unclosed]
      exact List.filter_append ..
  | field parts => exact h.stepField hopen hform
  | other => ?_
  all_goals
    have hline : Situated.fieldLine? ⟨openAfter sts, n, line⟩ = none := by
      simp [Situated.fieldLine?, hform]
    have hover : Situated.opensOver? ⟨openAfter sts, n, line⟩ = none := by
      simp only [Situated.opensOver?, hform]
    have hdeclared : Situated.declared? ⟨openAfter sts, n, line⟩ = none :=
      declared?_inside hopen (by simp [hform])
    have hrepeated : s.warnings.filter Warning.isRepeated
        = (repeats FieldLine.key (fieldLines (sts ++ [(n, line)]))).map FieldLine.repeated := by
      rw [fieldLines_concat, hline, Option.toList_none, List.append_nil]
      exact h.repeated
    have hunclosed : s.warnings.filter Warning.isUnclosed
        = (openedOver (sts ++ [(n, line)])).map OpenBlock.unclosed := by
      rw [openedOver_concat, hover, Option.toList_none, List.append_nil]
      exact h.unclosed
    refine ⟨h.toDeclaredBy.silent hdeclared hline, ?_, hrepeated, hunclosed⟩
    rw [openAfter_concat]
  · rw [leavesOpen?, hform, Option.getD_some]
  · rw [leavesOpen?_eq_none (by simp [hform]) (by simp [hform]), Option.getD_none]
    exact h.current

/-! ### Whole texts -/

/-- A statement that is not the header. -/
lemma step (h : s.Tells unlinked sts) (hheader : (!s.headerSeen && isHeader line) = false) :
    (s.step unlinked (n, line)).Tells unlinked (sts ++ [(n, line)]) := by
  rw [Scan.step, hheader, if_neg Bool.false_ne_true, h.current]
  cases hopen : openAfter sts with
  | some block => exact h.stepInside hopen
  | none => exact h.stepOutside hopen

/-- Before the first statement nothing has been said. -/
lemma initial (unlinked : Cardinality) (supply : Supply) :
    ({ supply } : Scan).Tells unlinked [] where
  names := rfl
  fields := by simp
  current := rfl
  repeated := rfl
  unclosed := rfl

/-- Only the entities, the open block and the warnings matter. -/
lemma seeHeader (h : s.Tells unlinked sts) :
    ({ s with headerSeen := true } : Scan).Tells unlinked sts :=
  ⟨h.toDeclaredBy, h.current, h.repeated, h.unclosed⟩

end Tells

/-- Statement by statement, the scan tells what the statements after the header say. -/
lemma tells_foldl (unlinked : Cardinality) (supply : Supply) (sts : List (Nat × List Char)) :
    (sts.foldl (Scan.step unlinked) { supply }).headerSeen = sts.any (isHeader ·.2) ∧
      (sts.foldl (Scan.step unlinked) { supply }).Tells unlinked (bodyStatements sts) := by
  induction sts using List.reverseRecOn with
  | nil => exact ⟨rfl, Tells.initial unlinked supply⟩
  | append_singleton sts st ih =>
    obtain ⟨hseen, htells⟩ := ih
    rw [List.foldl_append, List.foldl_cons, List.foldl_nil]
    refine ⟨?_, ?_⟩
    · rw [headerSeen_step, hseen, List.any_append, List.any_cons, List.any_nil, Bool.or_false]
    · rw [bodyStatements, List.eraseP_append]
      cases hany : sts.any (isHeader ·.2) with
      | true =>
        rw [if_pos rfl]
        exact htells.step (by rw [hseen, hany]; rfl)
      | false =>
        have hbody : bodyStatements sts = sts := List.eraseP_of_forall_not (by simpa using hany)
        rw [hbody] at htells
        rw [if_neg Bool.false_ne_true, List.eraseP_cons]
        cases hheader : isHeader st.2 with
        | true =>
          rw [step, hseen, hany, hheader]
          simpa using htells.seeHeader
        | false => exact htells.step (by rw [hheader, Bool.and_false])

/-- The end of the text leaves the last block unclosed, if one is open. -/
lemma unclosed_finish (h : s.Tells unlinked sts) : s.finish.warnings.filter Warning.isUnclosed
    = (openedOver sts ++ (openAfter sts).toList).map OpenBlock.unclosed := by
  rw [finish, h.current, List.map_append, ← h.unclosed]
  cases openAfter sts with
  | some b => exact List.filter_append ..
  | none => exact (List.append_nil _).symm

lemma repeated_finish (h : s.Tells unlinked sts) : s.finish.warnings.filter Warning.isRepeated
    = (repeats FieldLine.key (fieldLines sts)).map FieldLine.repeated := by
  rw [finish, ← h.repeated]
  cases s.current with
  | some b => exact (List.filter_append ..).trans (List.append_nil _)
  | none => rfl

lemma entities_finish : s.finish.entities = s.entities := by
  rw [finish]
  split <;> rfl

end Scan

/-! ## What is read -/

section Reading

variable {resolver : Resolver} {unlinked : Cardinality}

/-- What there is to warn about a relationship line is neither a field nor a block. -/
lemma warnings_resolveLine {es es' : List Entity} {n : Nat} {r : Relationship} {ws : List Warning}
    (h : resolveLine resolver es n r = .ok (es', ws)) :
    ws.filter Warning.isRepeated = [] ∧ ws.filter Warning.isUnclosed = [] := by
  rw [resolveLine] at h
  cases hsource : entityNamed? es r.source with
  | none =>
    rw [hsource] at h
    obtain ⟨-, rfl⟩ := Prod.mk.inj (Except.ok.inj h)
    exact ⟨rfl, rfl⟩
  | some s =>
    cases htarget : entityNamed? es r.target with
    | none =>
      rw [hsource, htarget] at h
      obtain ⟨-, rfl⟩ := Prod.mk.inj (Except.ok.inj h)
      exact ⟨rfl, rfl⟩
    | some t =>
      rw [hsource, htarget] at h
      cases hlink : resolver.link s t r with
      | error reason => simp [hlink, bind, Except.bind] at h
      | ok linked =>
        cases linked with
        | none =>
          simp only [hlink, bind, Except.bind] at h
          obtain ⟨-, rfl⟩ := Prod.mk.inj (Except.ok.inj h)
          exact ⟨rfl, rfl⟩
        | some p =>
          simp only [hlink, bind, Except.bind] at h
          obtain ⟨-, rfl⟩ := Prod.mk.inj (Except.ok.inj h)
          exact ⟨rfl, rfl⟩

/-- Relationship lines keep what there is to a model besides its references, and there is nothing
about fields or blocks to warn about. -/
lemma bare_resolveLines {es es' : List Entity} (hnames : (es.map Entity.name).Nodup)
    {lines : List (Nat × Relationship)} {ws : List Warning}
    (h : resolveLines resolver es lines = .ok (es', ws)) :
    es'.map Entity.bare = es.map Entity.bare ∧
      ws.filter Warning.isRepeated = [] ∧ ws.filter Warning.isUnclosed = [] := by
  induction lines generalizing es ws with
  | nil =>
    obtain ⟨rfl, rfl⟩ := Prod.mk.inj (Except.ok.inj h)
    exact ⟨rfl, rfl, rfl⟩
  | cons line lines ih =>
    obtain ⟨n, r⟩ := line
    obtain ⟨es₁, ws₁, ws₂, hline, hrest, rfl⟩ := resolveLines_cons_eq_ok h
    have hbare := bare_resolveLine hnames hline
    obtain ⟨hrepeated, hunclosed⟩ := warnings_resolveLine hline
    have hnames₁ : (es₁.map Entity.name).Nodup := by
      rw [map_bare_congr hbare Entity.name fun _ => rfl]
      exact hnames
    obtain ⟨hbare₂, hrepeated₂, hunclosed₂⟩ := ih hnames₁ hrest
    refine ⟨hbare₂.trans hbare, ?_, ?_⟩
    · rw [List.filter_append, hrepeated, hrepeated₂, List.append_nil]
    · rw [List.filter_append, hunclosed, hunclosed₂, List.append_nil]

/-- What lines say of fields can be asked of the fields without their references. -/
lemma saidBy_of_bare {ls : List FieldLine} {fs fs' : List Field}
    (h : List.Forall₂ (FieldLine.SaidBy unlinked) ls fs)
    (hbare : fs'.map Field.bare = fs.map Field.bare) :
    List.Forall₂ (FieldLine.SaidBy unlinked) ls fs' := by
  induction h generalizing fs' with
  | nil =>
    rw [List.map_eq_nil_iff.mp hbare]
    exact .nil
  | cons hsaid hrest ih =>
    rename_i l f ls fs
    obtain ⟨f', fs', rfl, hsame, hrest'⟩ := List.map_eq_cons_iff.mp hbare
    have hid : f'.bare.id = f.bare.id := congrArg Field.id hsame
    refine .cons ?_ (ih hrest')
    rw [FieldLine.SaidBy, hsame, show f'.id = f.id from hid]
    exact hsaid

/-- Without references an entity has the name and the fields that lines say of it. -/
lemma DeclaredBy.of_bare {sts : List (Nat × List Char)} {es es' : List Entity}
    (h : DeclaredBy unlinked sts es) (hbare : es'.map Entity.bare = es.map Entity.bare) :
    DeclaredBy unlinked sts es' := by
  refine ⟨?_, fun e' he' => ?_⟩
  · rw [map_bare_congr hbare Entity.name fun _ => rfl]
    exact h.names
  · obtain ⟨e, he, hsame⟩ := exists_bare hbare.symm he'
    have hname : e'.name = e.name := (bare_eq_bare hsame).2.1.symm
    have hfields : e.fields.map Field.bare = e'.fields.map Field.bare :=
      congrArg Entity.fields hsame
    rw [hname]
    exact saidBy_of_bare (h.fields e he) hfields.symm

variable {supply supply' : Supply} {text : String} {es : List Entity} {rs : List Relationship}
  {ws : List Warning}

/-- **What is read of a text is what its statements declare, and nothing else.**  The entities have
the declared names, each once and in order of the first declaration; the fields of each are those
that its lines say, in order, each name once but for case, over all of its blocks; each line that
repeats a name is warned about once, and so is each block that another one or the end of the text
interrupts. -/
theorem declares_exactly (h : parse resolver unlinked supply text = (.accepted es rs ws, supply')) :
    let body := bodyStatements (statements text.toList)
    es.map Entity.name = (declaredNames body).eraseDups ∧
      (∀ e ∈ es, List.Forall₂ (FieldLine.SaidBy unlinked) (linesOf e.name body) e.fields) ∧
      ws.filter Warning.isRepeated
        = (repeats FieldLine.key (fieldLines body)).map FieldLine.repeated ∧
      ws.filter Warning.isUnclosed
        = (openedOver body ++ (openAfter body).toList).map OpenBlock.unclosed := by
  obtain ⟨-, -, ws', hlines, rfl⟩ := parse_eq_accepted h
  obtain ⟨-, htells⟩ := Scan.tells_foldl unlinked supply (statements text.toList)
  set s := (statements text.toList).foldl (Scan.step unlinked) { supply } with hs
  have hscan : scan unlinked supply text.toList = s.finish := rfl
  rw [hscan, Scan.entities_finish] at hlines
  have hnames : (s.entities.map Entity.name).Nodup := htells.names ▸ nodup_eraseDups _
  obtain ⟨hbare, hrepeated, hunclosed⟩ := bare_resolveLines hnames hlines
  have hdeclared := htells.toDeclaredBy.of_bare hbare
  refine ⟨hdeclared.names, hdeclared.fields, ?_, ?_⟩
  · rw [hscan, List.filter_append, Scan.repeated_finish htells, hrepeated, List.append_nil]
  · rw [hscan, List.filter_append, Scan.unclosed_finish htells, hunclosed, List.append_nil]

end Reading

/-- A block of users that is interrupted, then another one that repeats a field and is interrupted,
too, and a block of tags at the end. -/
def interruptedText : String :=
  "erDiagram\n  Users \x7b\n    int id PK\n  Posts \x7b\n    int id PK\n  \x7d\n  Users \x7b\n" ++
    "    string ID\n    string name\n  Tags \x7b\n"

/-- The users are there once, and what is repeated or interrupted is warned about. -/
theorem declares_exactly_interruptedText : ∃ es rs ws supply',
    parse .byName .manyToOne .strokes interruptedText = (.accepted es rs ws, supply') ∧
      es.map Entity.name = ["Users", "Posts", "Tags"] ∧
      (∀ e ∈ es, e.name = "Users" → e.fields.map Field.name = ["id", "name"]) ∧
      ws.filter Warning.isRepeated = [.duplicateField 8 "ID" "Users"] ∧
      ws.filter Warning.isUnclosed
        = [.neverClosed 2 "Users", .neverClosed 7 "Users", .neverClosed 10 "Tags"] := by
  have hread : (parse .byName .manyToOne .strokes interruptedText).1.isAccepted = true ∧
      (declaredNames (bodyStatements (statements interruptedText.toList))).eraseDups
        = ["Users", "Posts", "Tags"] ∧
      (linesOf "Users" (bodyStatements (statements interruptedText.toList))).map FieldLine.name
        = ["id", "name"] ∧
      (repeats FieldLine.key
          (fieldLines (bodyStatements (statements interruptedText.toList)))).map FieldLine.repeated
        = [.duplicateField 8 "ID" "Users"] ∧
      (openedOver (bodyStatements (statements interruptedText.toList)) ++
          (openAfter (bodyStatements (statements interruptedText.toList))).toList).map
          OpenBlock.unclosed
        = [.neverClosed 2 "Users", .neverClosed 7 "Users", .neverClosed 10 "Tags"] := by
    decide +kernel
  obtain ⟨haccepted, hdeclared, hlines, hrepeats, hopened⟩ := hread
  cases hparse : parse .byName .manyToOne .strokes interruptedText with
  | mk outcome supply' =>
    cases outcome with
    | rejected e ws =>
      rw [hparse] at haccepted
      exact absurd haccepted Bool.false_ne_true
    | accepted es rs ws =>
      obtain ⟨hnames, hfields, hrepeated, hunclosed⟩ := declares_exactly hparse
      refine ⟨es, rs, ws, supply', rfl, hnames.trans hdeclared, fun e he hname => ?_,
        hrepeated.trans hrepeats, hunclosed.trans hopened⟩
      rw [map_name_of_saidBy (hfields e he), hname]
      exact hlines

end DiagramSync
