import DiagramSync.Proofs.Diagram.Accepted
import DiagramSync.Proofs.Diagram.Parts

/-!
# The texts in what is read

Names, descriptions and labels are taken from the lines of a text and cleaned, so that whatever a
text says, the entities that are scanned of it can be written again, and every relationship stays on
one line.  Resolving the relationships keeps that, for a label is cleaned once more when a field
gets it.

* `Scan.IsWritable` — the invariant of a scan
* `IsWritable.declare`, `IsWritable.addField` — the two ways in which a scan grows
* `IsWritable.step` — what a statement keeps
* **`isWritable_scan`** — what holds of every text
* `isWritable_resolveLine`, **`isWritable_resolveLines`** — what relationships keep
-/

namespace DiagramSync

open Text

/-! ## The forms of a statement -/

lemma blockOpening?_of_outsideForm {line written : List Char} {closed : Bool}
    (h : outsideForm line = .opening written closed) :
    LineForm.blockOpening? line = some (written, closed) := by
  rw [outsideForm] at h
  cases hblock : LineForm.blockOpening? line with
  | some p =>
    obtain ⟨name, c⟩ := p
    simp only [hblock, OutsideForm.opening.injEq] at h
    rw [h.1, h.2]
  | none =>
    simp only [hblock] at h
    split at h
    · exact OutsideForm.noConfusion h
    · split at h
      · exact OutsideForm.noConfusion h
      · exact OutsideForm.noConfusion h

lemma statedRelationship?_of_outsideForm {line : List Char} {stated : StatedRelationship}
    (h : outsideForm line = .relationship stated) : statedRelationship? line = some stated := by
  rw [outsideForm] at h
  split at h
  · exact OutsideForm.noConfusion h
  · split at h
    · rename_i hstated
      rw [hstated, OutsideForm.relationship.inj h]
    · split at h
      · exact OutsideForm.noConfusion h
      · exact OutsideForm.noConfusion h

lemma bareEntity?_of_outsideForm {line written : List Char}
    (h : outsideForm line = .bare written) : LineForm.bareEntity? line = some written := by
  rw [outsideForm] at h
  split at h
  · exact OutsideForm.noConfusion h
  · split at h
    · exact OutsideForm.noConfusion h
    · split at h
      · rename_i hbare
        rw [hbare, OutsideForm.bare.inj h]
      · exact OutsideForm.noConfusion h

lemma field?_of_insideForm {line : List Char} {parts : LineForm.FieldParts}
    (h : insideForm line = .field parts) : LineForm.field? line = some parts := by
  rw [insideForm] at h
  split_ifs at h
  split at h
  · rename_i hfield
    rw [hfield, InsideForm.field.inj h]
  · exact InsideForm.noConfusion h

/-- A statement is one line. -/
lemma isLine_of_mem_statements {text : List Char} {statement : Nat × List Char}
    (h : statement ∈ statements text) : IsLine statement.2 := by
  have hmem : statement.2 ∈ (lines text).filterMap lineStatement? := by
    rw [← map_snd_numberedStatements 1]
    exact List.mem_map_of_mem h
  obtain ⟨l, hl, hstatement⟩ := List.mem_filterMap.mp hmem
  rw [lineStatement?] at hstatement
  split_ifs at hstatement
  rw [← Option.some.inj hstatement]
  exact fun c hc => isLine_of_mem_lines hl c (mem_of_mem_trim hc)

/-! ## The invariant -/

namespace Scan

/-- What has been scanned can be written again. -/
structure IsWritable (s : Scan) : Prop where
  /-- The entities can be written. -/
  entities : ∀ e ∈ s.entities, e.IsWritable
  /-- The relationships stay on one line. -/
  relationships : ∀ p ∈ s.relationships, p.2.StaysOnLine

namespace IsWritable

variable {unlinked : Cardinality} {s s' : Scan}

/-- Only entities and relationships matter. -/
lemma congr (h : s.IsWritable) (hentities : s'.entities = s.entities)
    (hrelationships : s'.relationships = s.relationships) : s'.IsWritable := by
  obtain ⟨entities, relationships⟩ := h
  constructor
  · rwa [hentities]
  · rwa [hrelationships]

/-- An entity that is declared by a name on one line. -/
lemma declare (h : s.IsWritable) {written : List Char} (hline : IsLine written)
    (hname : keptName written ≠ "") : (s.declare (keptName written)).IsWritable := by
  cases hfound : s.entity? (keptName written) with
  | some e =>
    rw [declare_known hfound]
    exact h
  | none =>
    rw [declare_new hfound]
    refine ⟨fun e he => ?_, h.relationships⟩
    rcases List.mem_append.mp he with he | he
    · exact h.entities e he
    · rw [List.mem_singleton.mp he]
      exact ⟨cleanEntityName_keptName written, hname, isLineText_keptName hline,
        fun f hf => absurd hf List.not_mem_nil⟩

/-- A field that is added to some entity. -/
lemma addField (h : s.IsWritable) (name : String) {f : Id → Field}
    (hf : ∀ id, (f id).IsWritable) : (s.addField name f).IsWritable := by
  refine ⟨fun e' he' => ?_, h.relationships⟩
  obtain ⟨e, he, rfl⟩ := List.mem_map.mp he'
  have hwritable := h.entities e he
  split_ifs
  · refine ⟨hwritable.name, hwritable.named, hwritable.nameLine, fun g hg => ?_⟩
    rcases List.mem_append.mp hg with hg | hg
    · exact hwritable.fields g hg
    · rw [List.mem_singleton.mp hg]
      exact hf _
  · exact hwritable

/-! ### Statements -/

/-- What a statement outside a block keeps. -/
lemma stepOutside (h : s.IsWritable) (n : Nat) {line : List Char} (hline : IsLine line) :
    (s.stepOutside n line).IsWritable := by
  rw [Scan.stepOutside]
  cases hform : outsideForm line with
  | opening written closed =>
    have hwritten : IsLine written := isLine_of_subset hline
      (LineForm.blockOpening?_subset (blockOpening?_of_outsideForm hform))
    dsimp only
    split_ifs with hname
    · exact h
    · exact h.declare hwritten hname
    · exact (h.declare hwritten hname).congr rfl rfl
  | relationship stated =>
    refine ⟨h.entities, fun p hp => ?_⟩
    rcases List.mem_append.mp hp with hp | hp
    · exact h.relationships p hp
    · rw [List.mem_singleton.mp hp]
      exact staysOnLine_keep hline (statedRelationship?_of_outsideForm hform) n
  | bare written =>
    have hwritten : IsLine written := isLine_of_subset hline
      (LineForm.bareEntity?_subset (bareEntity?_of_outsideForm hform))
    dsimp only
    split_ifs with hname
    · exact h
    · exact h.declare hwritten hname
  | other => exact h

/-- What a field line keeps. -/
lemma stepField (h : s.IsWritable) (n : Nat) (block : OpenBlock) {line : List Char}
    (hline : IsLine line) {parts : LineForm.FieldParts}
    (hparts : LineForm.field? line = some parts) :
    (s.stepField unlinked n block parts).IsWritable := by
  rw [Scan.stepField]
  split_ifs with hname
  · exact h
  · exact h.congr rfl rfl
  · exact h.addField block.entity fun id => isWritable_keptField hline hparts hname unlinked id

/-- What a statement inside a block keeps. -/
lemma stepInside (h : s.IsWritable) (n : Nat) (block : OpenBlock) {line : List Char}
    (hline : IsLine line) : (s.stepInside unlinked n block line).IsWritable := by
  rw [Scan.stepInside]
  cases hform : insideForm line with
  | closing => exact h.congr rfl rfl
  | opening =>
    have hclosed : IsWritable
        { s.warn (.neverClosed block.line block.entity) with current := none } := h.congr rfl rfl
    exact hclosed.stepOutside n hline
  | field parts => exact h.stepField n block hline (field?_of_insideForm hform)
  | other => exact h

/-- What a statement keeps. -/
lemma step (h : s.IsWritable) {statement : Nat × List Char} (hline : IsLine statement.2) :
    (s.step unlinked statement).IsWritable := by
  rw [Scan.step]
  split_ifs
  · exact h.congr rfl rfl
  · cases s.current with
    | some block => exact h.stepInside statement.1 block hline
    | none => exact h.stepOutside statement.1 hline

lemma foldl_step (h : s.IsWritable) {sts : List (Nat × List Char)}
    (hlines : ∀ st ∈ sts, IsLine st.2) : (sts.foldl (Scan.step unlinked) s).IsWritable := by
  induction sts generalizing s with
  | nil => exact h
  | cons st sts ih =>
    exact ih (h.step (hlines st List.mem_cons_self)) fun x hx =>
      hlines x (List.mem_cons_of_mem st hx)

lemma finish (h : s.IsWritable) : s.finish.IsWritable := by
  rw [Scan.finish]
  split
  · exact h.congr rfl rfl
  · exact h

end IsWritable

/-- **Whatever the text, what is scanned of it can be written again.** -/
theorem isWritable_scan (unlinked : Cardinality) (supply : Supply) (text : List Char) :
    (scan unlinked supply text).IsWritable := by
  have hstart : ({ supply } : Scan).IsWritable :=
    ⟨fun e he => absurd he List.not_mem_nil, fun p hp => absurd hp List.not_mem_nil⟩
  exact (hstart.foldl_step fun st hst => isLine_of_mem_statements hst).finish

end Scan

/-! ## Relationships -/

section Lines

variable {resolver : Resolver} {es es' : List Entity}

/-- A foreign key that gets a link can still be written. -/
lemma isWritable_link {f : Field} (hf : f.IsWritable) (hforeign : f.isForeign = true) (t : Entity)
    {r : Relationship} (hr : r.StaysOnLine) : (f.link t r).IsWritable where
  name := hf.name
  description := hf.description
  reference := hforeign.symm
  label q hq := by
    obtain rfl := Option.some.inj hq
    rw [linkedReference]
    split_ifs
    · rfl
    · exact cleanRemark_idem r.label
  named := hf.named
  nameLine := hf.nameLine
  descriptionLine := hf.descriptionLine
  labelLine q hq l hl := by
    obtain rfl := Option.some.inj hq
    rw [linkedReference] at hl
    split_ifs at hl
    · exact absurd hl (Option.not_mem_none l)
    · exact isLineText_cleanRemark hr.label l hl

/-- What a relationship keeps. -/
lemma isWritable_resolveLine (hes : ∀ e ∈ es, e.IsWritable) (hresolver : resolver.PicksForeign)
    {n : Nat} {r : Relationship} (hr : r.StaysOnLine) {ws : List Warning}
    (h : resolveLine resolver es n r = .ok (es', ws)) : ∀ e ∈ es', e.IsWritable := by
  rcases resolveLine_cases hresolver h with rfl | ⟨s, hs, t, -, i, f, hget, hforeign, rfl⟩
  · exact hes
  intro e' he'
  obtain ⟨e, he, rfl⟩ := List.mem_map.mp he'
  split_ifs
  · have hsource := hes s hs
    refine ⟨hsource.name, hsource.named, hsource.nameLine, fun g hg => ?_⟩
    rcases List.mem_or_eq_of_mem_set hg with hg | rfl
    · exact hsource.fields g hg
    · exact isWritable_link (hsource.fields f (List.mem_of_getElem? hget)) hforeign t hr
  · exact hes e he

/-- **What all relationships together keep**: the entities can be written again. -/
theorem isWritable_resolveLines (hes : ∀ e ∈ es, e.IsWritable) (hresolver : resolver.PicksForeign)
    {lines : List (Nat × Relationship)} (hlines : ∀ p ∈ lines, p.2.StaysOnLine) {ws : List Warning}
    (h : resolveLines resolver es lines = .ok (es', ws)) : ∀ e ∈ es', e.IsWritable := by
  induction lines generalizing es ws with
  | nil =>
    obtain rfl := (Prod.mk.inj (Except.ok.inj h)).1
    exact hes
  | cons line lines ih =>
    obtain ⟨n, r⟩ := line
    obtain ⟨es₁, ws₁, ws₂, hline, hrest, -⟩ := resolveLines_cons_eq_ok h
    exact ih (isWritable_resolveLine hes hresolver (hlines _ List.mem_cons_self) hline)
      (fun p hp => hlines p (List.mem_cons_of_mem _ hp)) hrest

end Lines

end DiagramSync
