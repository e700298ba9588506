import DiagramSync.Proofs.Diagram.Layout

/-!
# Scanning a written model

The statements of a written model are scanned into a copy of it: the same entities and fields in the
same order, under new ids and with no foreign key linked yet, and the relationship lines as they
were written.  No statement is warned about.

* `Field.copy`, `Entity.Copies` — what a written field and a written entity are scanned into
* `Emission.StatedBy` — what a written relationship is scanned into
* `foldl_fieldStatements`, `foldl_entityStatements`, `foldl_emissionStatements` — the three parts
* **`scan_modelStatements`** — the whole text
-/

namespace DiagramSync

open Text LineForm

/-! ## Copies -/

/-- What a written field is scanned into.  A primary key does not show that it is a foreign key
too, and a reference points nowhere yet. -/
def Field.copy (unlinked : Cardinality) (id : Id) (f : Field) : Field :=
  let isForeign := !f.isPrimary && f.isForeign
  { f with id, isForeign, reference := if isForeign then some { cardinality := unlinked } else none }

/-- The second entity is what the first one is scanned into. -/
structure Entity.Copies (unlinked : Cardinality) (e c : Entity) : Prop where
  /-- The names agree. -/
  name : c.name = e.name
  /-- Each field is what the field at its place is scanned into. -/
  fields : List.Forall₂ (fun f g => g = f.copy unlinked g.id) e.fields c.fields

/-- The relationship is what the line is scanned into. -/
structure Emission.StatedBy (em : Emission) (r : Relationship) : Prop where
  /-- The names on the left agree. -/
  source : r.source = em.source
  /-- The names on the right agree. -/
  target : r.target = em.target
  /-- The cardinalities agree. -/
  cardinality : r.cardinality = em.cardinality
  /-- The labels agree. -/
  label : r.label = some em.label

/-! ## Single statements -/

section Step

variable (unlinked : Cardinality) {s : Scan} {block : OpenBlock}

lemma Scan.step_outside (hs : s.headerSeen = true) (hc : s.current = none) (n : Nat)
    (line : List Char) : s.step unlinked (n, line) = s.stepOutside n line := by
  simp [Scan.step, hs, hc]

lemma Scan.step_inside (hs : s.headerSeen = true) (hc : s.current = some block) (n : Nat)
    (line : List Char) : s.step unlinked (n, line) = s.stepInside unlinked n block line := by
  simp [Scan.step, hs, hc]

end Step

/-- A field that can be written is read of its statement as its copy. -/
lemma keptField_written {f : Field} (h : f.IsWritable) (unlinked : Cardinality) (id : Id) :
    keptField unlinked id ⟨f.type.word.toList, f.name.toList,
      markerTokens f.isPrimary f.isForeign, f.description.map String.toList⟩
        = f.copy unlinked id := by
  obtain ⟨hpk, hfk⟩ := hasMarker_markerTokens f.type.word.toList f.name.toList f.isPrimary
    f.isForeign (f.description.map String.toList)
  have htype : FieldType.ofToken f.type.word = f.type := by
    cases f.type <;> rfl
  have hname : cleanFieldName f.name = f.name := h.name
  have hdescription : cleanRemark ((f.description.map String.toList).map String.ofList)
      = f.description := by
    rw [Option.map_map]
    have hcomp : String.ofList ∘ String.toList = (fun s => s) := funext fun s => String.ofList_toList
    rw [hcomp, Option.map_id']
    exact h.description
  rw [cleanFieldName] at hname
  simp only [keptField, hpk, hfk, hname, hdescription, String.ofList_toList, htype, Field.copy]

/-! ## Fields -/

/-- The entity of a name that stands at the end and nowhere before. -/
lemma Scan.entity?_last {s : Scan} {pre : List Entity} {e : Entity}
    (hs : s.entities = pre ++ [e]) (h : e.name ∉ pre.map Entity.name) :
    s.entity? e.name = some e := by
  have hpre : pre.find? (fun x => x.name == e.name) = none := by
    rw [List.find?_eq_none]
    intro x hx heq
    exact h (List.mem_map.mpr ⟨x, hx, by simpa using heq⟩)
  rw [Scan.entity?, hs, List.find?_append, hpre]
  simp

/-- A field is added to the entity at the end. -/
lemma Scan.addField_last {s : Scan} {pre : List Entity} {e : Entity}
    (hs : s.entities = pre ++ [e]) (h : e.name ∉ pre.map Entity.name) (f : Id → Field) :
    s.addField e.name f = { s with
      entities := pre ++ [{ e with fields := e.fields ++ [f s.supply.draw.1] }]
      supply := s.supply.draw.2 } := by
  have hpre : pre.map (fun x => if x.name == e.name
      then { x with fields := x.fields ++ [f s.supply.draw.1] } else x) = pre := by
    refine (List.map_congr_left fun x hx => ?_).trans (List.map_id pre)
    rw [if_neg, id]
    intro heq
    exact h (List.mem_map.mpr ⟨x, hx, by simpa using heq⟩)
  rw [Supply.draw] at hpre ⊢
  simp only [Scan.addField, Supply.draw, hs, List.map_append, List.map_cons, List.map_nil,
    beq_self_eq_true, if_true, hpre]

/-- The statement of a field adds its copy to the entity whose block is open. -/
lemma Scan.step_fieldStatement (unlinked : Cardinality) {s : Scan} {pre : List Entity} {e : Entity}
    {opened n : Nat} {f : Field} (hheader : s.headerSeen = true)
    (hcurrent : s.current = some ⟨e.name, opened⟩) (hs : s.entities = pre ++ [e])
    (hpre : e.name ∉ pre.map Entity.name) (hf : f.IsWritable)
    (hnew : foldName f.name ∉ e.fields.map (foldName ·.name)) :
    s.step unlinked (n, f.statement) = { s with
      entities := pre ++ [{ e with fields := e.fields ++ [f.copy unlinked s.supply.draw.1] }]
      supply := s.supply.draw.2 } := by
  have htoken : IsTokenText f.name.toList :=
    ⟨fun c hc => (fieldName_char hf.name hc).1, fun c hc => (fieldName_char hf.name hc).2.1⟩
  have hnamed : fieldNameChars f.name.toList ≠ [] := by
    rw [fieldNameChars_of_clean hf.name]
    exact fun hn => hf.named (String.toList_eq_nil_iff.mp hn)
  have hremark : ∀ r ∈ f.description.map String.toList, IsUnquoted r := by
    intro r hr
    obtain ⟨d, hd, rfl⟩ := Option.map_eq_some_iff.mp hr
    have hclean := hf.description
    rw [hd] at hclean
    exact fun c hc => remark_char hclean hc
  have hform := insideForm_field f.type f.isPrimary f.isForeign htoken hnamed hremark
  have hname : String.ofList (fieldNameChars f.name.toList) = f.name := hf.name
  have hfound : e.findFieldNamed? f.name = none := by
    rw [Entity.findFieldNamed?, List.find?_eq_none]
    intro g hg heq
    exact hnew (List.mem_map.mpr ⟨g, hg, by simpa using heq⟩)
  rw [step_inside unlinked hheader hcurrent, stepInside, Field.statement, hform]
  simp only [stepField, hname, if_neg hf.named, entity?_last hs hpre, Option.bind_some, hfound,
    Option.isSome_none, Bool.false_eq_true, if_false, keptField_written hf]
  exact addField_last hs hpre _

/-- The statements of some fields add their copies. -/
lemma foldl_fieldStatements (unlinked : Cardinality) {fs : List Field} {s : Scan}
    {pre : List Entity} {e : Entity} {opened : Nat} {sts : List (Nat × List Char)}
    (hheader : s.headerSeen = true) (hcurrent : s.current = some ⟨e.name, opened⟩)
    (hs : s.entities = pre ++ [e]) (hpre : e.name ∉ pre.map Entity.name)
    (hfs : ∀ f ∈ fs, f.IsWritable) (hnew : ((e.fields ++ fs).map (foldName ·.name)).Nodup)
    (hsts : sts.map Prod.snd = fs.map Field.statement) :
    ∃ gs supply, sts.foldl (Scan.step unlinked) s
        = { s with entities := pre ++ [{ e with fields := e.fields ++ gs }], supply }
      ∧ List.Forall₂ (fun f g => g = f.copy unlinked g.id) fs gs := by
  induction fs generalizing s e sts with
  | nil =>
    obtain rfl := List.map_eq_nil_iff.mp hsts
    refine ⟨[], s.supply, ?_, List.Forall₂.nil⟩
    rw [List.append_nil, ← hs]
    rfl
  | cons f fs ih =>
    obtain ⟨⟨n, l⟩, sts, rfl, rfl, hrest⟩ := List.map_eq_cons_iff.mp hsts
    set g := f.copy unlinked s.supply.draw.1 with hg
    have hname : g.name = f.name := rfl
    have hfresh : foldName f.name ∉ e.fields.map (foldName ·.name) := by
      intro hmem
      rw [List.map_append, List.map_cons, List.nodup_append] at hnew
      exact hnew.2.2 _ hmem _ List.mem_cons_self rfl
    have hstep := Scan.step_fieldStatement unlinked (n := n) hheader hcurrent hs hpre
      (hfs f List.mem_cons_self) hfresh
    obtain ⟨gs, supply, hfold, hcopies⟩ := ih
      (s := { s with entities := pre ++ [{ e with fields := e.fields ++ [g] }],
                     supply := s.supply.draw.2 })
      (e := { e with fields := e.fields ++ [g] }) hheader hcurrent rfl hpre
      (fun x hx => hfs x (List.mem_cons_of_mem f hx))
      (by simpa [hname] using hnew) hrest
    refine ⟨g :: gs, supply, ?_, List.Forall₂.cons rfl hcopies⟩
    rw [List.foldl_cons, hstep, hfold]
    simp [List.append_assoc]

/-! ## Blocks -/

/-- The statement that opens a block declares its entity. -/
lemma Scan.step_openingStatement (unlinked : Cardinality) {s : Scan} {e : Entity} {n : Nat}
    (hheader : s.headerSeen = true) (hcurrent : s.current = none) (he : e.IsWritable)
    (hnew : e.name ∉ s.entities.map Entity.name) :
    s.step unlinked (n, openingStatement e.name.toList) = { s with
      entities := s.entities ++ [{ id := s.supply.draw.1, name := e.name }]
      supply := s.supply.draw.2, current := some ⟨e.name, n⟩ } := by
  have hunquoted : IsUnquoted e.name.toList := fun c hc => (entityName_char he.name hc).1
  have hform := outsideForm_opening hunquoted (fun hn => he.named (String.toList_eq_nil_iff.mp hn))
  have hname : keptName e.name.toList = e.name := he.name
  have hfound : s.entity? e.name = none := by
    rw [Scan.entity?, List.find?_eq_none]
    intro x hx heq
    exact hnew (List.mem_map.mpr ⟨x, hx, by simpa using heq⟩)
  rw [step_outside unlinked hheader hcurrent, stepOutside, hform]
  simp only [hname, if_neg he.named, Bool.false_eq_true, if_false, declare, hfound,
    Option.isSome_none, Supply.draw]

/-- A closing brace closes the block. -/
lemma Scan.step_closing (unlinked : Cardinality) {s : Scan} {block : OpenBlock} {n : Nat}
    (hheader : s.headerSeen = true) (hcurrent : s.current = some block) :
    s.step unlinked (n, ['}']) = { s with current := none } := by
  rw [step_inside unlinked hheader hcurrent, stepInside, insideForm, if_pos rfl]

/-- The statements of a block add the copy of its entity. -/
lemma foldl_blockStatements (unlinked : Cardinality) {e : Entity} {s : Scan}
    {sts : List (Nat × List Char)} (hheader : s.headerSeen = true) (hcurrent : s.current = none)
    (he : e.IsWritable) (hnew : e.name ∉ s.entities.map Entity.name)
    (hfields : (e.fields.map (foldName ·.name)).Nodup)
    (hsts : sts.map Prod.snd = e.statements) :
    ∃ c supply, sts.foldl (Scan.step unlinked) s
        = { s with entities := s.entities ++ [c], supply } ∧ e.Copies unlinked c := by
  obtain ⟨⟨n, l⟩, rest, rfl, rfl, hrest⟩ := List.map_eq_cons_iff.mp hsts
  obtain ⟨inner, closing, rfl, hinner, hclosing⟩ := List.map_eq_append_iff.mp hrest
  obtain ⟨⟨m, l⟩, last, rfl, rfl, hlast⟩ := List.map_eq_cons_iff.mp hclosing
  obtain rfl := List.map_eq_nil_iff.mp hlast
  obtain ⟨gs, supply, hfold, hcopies⟩ := foldl_fieldStatements unlinked
    (s := { s with entities := s.entities ++ [{ id := s.supply.draw.1, name := e.name }],
                   supply := s.supply.draw.2, current := some ⟨e.name, n⟩ })
    (e := { id := s.supply.draw.1, name := e.name }) hheader rfl rfl hnew he.fields
    (by simpa using hfields) hinner
  refine ⟨{ id := s.supply.draw.1, name := e.name, fields := gs }, supply, ?_, ⟨rfl, hcopies⟩⟩
  rw [List.foldl_cons, Scan.step_openingStatement unlinked hheader hcurrent he hnew,
    List.foldl_append, hfold, List.foldl_cons, List.foldl_nil, Scan.step_closing unlinked]
  · simp [hcurrent]
  · exact hheader
  · rfl

/-- The statements of some blocks add the copies of their entities. -/
lemma foldl_entityStatements (unlinked : Cardinality) {es : List Entity} {s : Scan}
    {sts : List (Nat × List Char)} (hheader : s.headerSeen = true) (hcurrent : s.current = none)
    (hes : ∀ e ∈ es, e.IsWritable) (hnew : ((s.entities ++ es).map Entity.name).Nodup)
    (hfields : ∀ e ∈ es, (e.fields.map (foldName ·.name)).Nodup)
    (hsts : sts.map Prod.snd = es.flatMap Entity.statements) :
    ∃ cs supply, sts.foldl (Scan.step unlinked) s
        = { s with entities := s.entities ++ cs, supply }
      ∧ List.Forall₂ (Entity.Copies unlinked) es cs := by
  induction es generalizing s sts with
  | nil =>
    obtain rfl := List.map_eq_nil_iff.mp hsts
    refine ⟨[], s.supply, ?_, List.Forall₂.nil⟩
    rw [List.append_nil]
    rfl
  | cons e es ih =>
    rw [List.flatMap_cons] at hsts
    obtain ⟨first, rest, rfl, hfirst, hrest⟩ := List.map_eq_append_iff.mp hsts
    have hfresh : e.name ∉ s.entities.map Entity.name := by
      intro hmem
      rw [List.map_append, List.map_cons, List.nodup_append] at hnew
      exact hnew.2.2 _ hmem _ List.mem_cons_self rfl
    obtain ⟨c, supply, hblock, hcopy⟩ := foldl_blockStatements unlinked hheader hcurrent
      (hes e List.mem_cons_self) hfresh (hfields e List.mem_cons_self) hfirst
    obtain ⟨cs, supply', hfold, hcopies⟩ := ih
      (s := { s with entities := s.entities ++ [c], supply }) hheader hcurrent
      (fun x hx => hes x (List.mem_cons_of_mem e hx)) (by simpa [hcopy.name] using hnew)
      (fun x hx => hfields x (List.mem_cons_of_mem e hx)) hrest
    refine ⟨c :: cs, supply', ?_, List.Forall₂.cons hcopy hcopies⟩
    rw [List.foldl_append, hblock, hfold]
    simp [List.append_assoc]

/-! ## Relationships -/

/-- A relationship line of a model whose entities can be written has clean parts, and its names are
not empty. -/
lemma emission_unquoted {es : List Entity} (hes : ∀ e ∈ es, e.IsWritable) {em : Emission}
    (hem : em ∈ modelEmissions es) :
    IsUnquoted em.label.toList ∧
      (cleanEntityName em.source = em.source ∧ em.source ≠ "") ∧
        cleanEntityName em.target = em.target ∧ em.target ≠ "" := by
  obtain ⟨e, he, f, hf, r, hr, t, ht, -, rfl⟩ := mem_modelEmissions hem
  have hf := (hes e he).fields f hf
  refine ⟨?_, ⟨(hes e he).name, (hes e he).named⟩, (hes t ht).name, (hes t ht).named⟩
  cases hl : r.label with
  | none => exact fun c hc => (fieldName_char hf.name hc).2.1
  | some l =>
    have hclean := hf.label r hr
    rw [hl] at hclean
    exact fun c hc => remark_char hclean hc

/-- The statement of a relationship line adds the relationship that it states. -/
lemma Scan.step_emissionStatement (unlinked : Cardinality) {es : List Entity}
    (hes : ∀ e ∈ es, e.IsWritable) {em : Emission} (hem : em ∈ modelEmissions es) {s : Scan}
    (hheader : s.headerSeen = true) (hcurrent : s.current = none) (n : Nat) :
    ∃ r, s.step unlinked (n, em.statement)
        = { s with relationships := s.relationships ++ [(n, r)] } ∧ em.StatedBy r := by
  obtain ⟨hlabel, ⟨hsource, hsourceNamed⟩, htarget, htargetNamed⟩ := emission_unquoted hes hem
  have hform := outsideForm_relationship (fun c hc => (entityName_char hsource hc).1)
    (fun c hc => (entityName_char htarget hc).1) hlabel
    (fun hn => hsourceNamed (String.toList_eq_nil_iff.mp hn))
    (fun hn => htargetNamed (String.toList_eq_nil_iff.mp hn)) em.cardinality
  rw [step_outside unlinked hheader hcurrent, stepOutside, Emission.statement, hform]
  refine ⟨_, rfl, hsource, htarget, rfl, ?_⟩
  exact congrArg some String.ofList_toList

/-- The statements of some relationship lines add the relationships that they state. -/
lemma foldl_emissionStatements (unlinked : Cardinality) {es : List Entity}
    (hes : ∀ e ∈ es, e.IsWritable) {ems : List Emission} (hems : ∀ em ∈ ems, em ∈ modelEmissions es)
    {s : Scan} {sts : List (Nat × List Char)} (hheader : s.headerSeen = true)
    (hcurrent : s.current = none) (hsts : sts.map Prod.snd = ems.map Emission.statement) :
    ∃ rs, sts.foldl (Scan.step unlinked) s = { s with relationships := s.relationships ++ rs } ∧
      List.Forall₂ (fun em r => Emission.StatedBy em r.2) ems rs := by
  induction ems generalizing s sts with
  | nil =>
    obtain rfl := List.map_eq_nil_iff.mp hsts
    refine ⟨[], ?_, List.Forall₂.nil⟩
    rw [List.append_nil]
    rfl
  | cons em ems ih =>
    obtain ⟨⟨n, l⟩, rest, rfl, rfl, hrest⟩ := List.map_eq_cons_iff.mp hsts
    obtain ⟨r, hstep, hstated⟩ := Scan.step_emissionStatement unlinked hes
      (hems em List.mem_cons_self) hheader hcurrent n
    obtain ⟨rs, hfold, hall⟩ := ih (s := { s with relationships := s.relationships ++ [(n, r)] })
      (fun x hx => hems x (List.mem_cons_of_mem em hx)) hheader hcurrent hrest
    refine ⟨(n, r) :: rs, ?_, List.Forall₂.cons hstated hall⟩
    rw [List.foldl_cons, hstep, hfold]
    simp [List.append_assoc]

/-! ## The whole text -/

/-- **A written model is scanned into a copy of it**, with the relationships that its lines state
and without warnings, whatever the layout of the text. -/
theorem scan_modelStatements (unlinked : Cardinality) (supply : Supply) {es : List Entity}
    {text : List Char} (hes : ∀ e ∈ es, e.IsWritable) (hnames : (es.map Entity.name).Nodup)
    (hfields : ∀ e ∈ es, (e.fields.map (foldName ·.name)).Nodup)
    (htext : List.Forall₂ ReadAlike ((statements text).map Prod.snd) (modelStatements es)) :
    ∃ cs rs supply', scan unlinked supply text
        = { headerSeen := true, entities := cs, relationships := rs, supply := supply' } ∧
      List.Forall₂ (Entity.Copies unlinked) es cs ∧
      List.Forall₂ (fun em r => Emission.StatedBy em r.2) (withoutMirrors [] (modelEmissions es))
        rs := by
  obtain ⟨sts, hsts, hread⟩ := exists_readAlike unlinked htext
  obtain ⟨⟨n, l⟩, rest, rfl, rfl, hblocks⟩ := List.map_eq_cons_iff.mp hsts
  obtain ⟨blocks, lines, rfl, hblocks, hlines⟩ := List.map_eq_append_iff.mp hblocks
  have hheader : ({ supply } : Scan).step unlinked (n, header.toList)
      = { headerSeen := true, supply } := by
    rw [Scan.step]
    rfl
  obtain ⟨cs, supply', hfold, hcopies⟩ := foldl_entityStatements unlinked
    (s := { headerSeen := true, supply }) rfl rfl hes (by simpa using hnames) hfields hblocks
  obtain ⟨rs, hfold', hstated⟩ := foldl_emissionStatements unlinked hes
    (fun em hem => (mem_withoutMirrors hem).resolve_left List.not_mem_nil)
    (s := { headerSeen := true, entities := [] ++ cs, supply := supply' }) rfl rfl hlines
  refine ⟨cs, rs, supply', ?_, hcopies, hstated⟩
  rw [scan, hread, List.foldl_cons, hheader, List.foldl_append, hfold, hfold']
  rfl

end DiagramSync
