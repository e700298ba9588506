import DiagramSync.Proofs.Diagram.Statements

/-!
# The parts of a line

Whatever form a line has, its parts are made of its own characters.  So a line that is one line has
parts that stay on one line, and so does everything that is kept of it.

* `quoted?_subset`, `name?_subset` — quoted texts and names
* `blockOpening?_subset`, `bareEntity?_subset`, `relationship?_subset`, `field?_subset` — the forms
  of a line
* `isLineText_keptName` — the names that are kept
* `Relationship.StaysOnLine`, `staysOnLine_keep` — the relationships that are kept
* `isWritable_keptField` — the fields that are kept
-/

namespace DiagramSync

open Text

namespace LineForm

variable {cs rest : List Char}

/-! ## Names -/

lemma trimLeft_subset (cs : List Char) : trimLeft cs ⊆ cs := fun _ hc => mem_of_mem_trimLeft hc

/-- A text in quotes and what follows it. -/
lemma quoted?_subset {q : List Char} (h : quoted? cs = some (q, rest)) : q ⊆ cs ∧ rest ⊆ cs := by
  cases cs with
  | nil => exact absurd h (by simp [quoted?])
  | cons d ds =>
    rw [quoted?.eq_def] at h
    split at h
    · rename_i heq
      obtain ⟨-, rfl⟩ := List.cons.inj heq
      split at h
      · rename_i hdrop
        obtain ⟨rfl, rfl⟩ := Prod.mk.inj (Option.some.inj h)
        refine ⟨fun c hc => ?_, fun c hc => ?_⟩
        · exact List.mem_cons_of_mem _ ((List.takeWhile_sublist _).subset hc)
        · refine List.mem_cons_of_mem _ ((List.dropWhile_sublist isUnquote).subset ?_)
          rw [hdrop]
          exact List.mem_cons_of_mem _ hc
      · exact absurd h (Option.some_ne_none _).symm
    · exact absurd h (Option.some_ne_none _).symm

/-- A name at the start and what follows it. -/
lemma name?_subset {name : List Char} (h : name? cs = some (name, rest)) :
    name ⊆ cs ∧ rest ⊆ cs := by
  rw [name?.eq_def] at h
  split at h
  · split at h
    · exact absurd h (Option.some_ne_none _).symm
    · exact quoted?_subset h
  · split at h
    · exact absurd h (Option.some_ne_none _).symm
    · obtain ⟨rfl, rfl⟩ := Prod.mk.inj (Option.some.inj h)
      exact ⟨(List.takeWhile_sublist _).subset, (List.dropWhile_sublist _).subset⟩

/-! ## Entities -/

lemma blockOpening?_subset {name : List Char} {closed : Bool}
    (h : blockOpening? cs = some (name, closed)) : name ⊆ cs := by
  simp only [blockOpening?, Option.bind_eq_bind, Option.bind_eq_some_iff] at h
  obtain ⟨⟨found, rest⟩, hname, h⟩ := h
  have hfound : found = name := by
    split at h
    · split at h
      · exact (Prod.mk.inj (Option.some.inj h)).1
      · exact (Prod.mk.inj (Option.some.inj h)).1
      · exact absurd h (Option.some_ne_none _).symm
    · exact absurd h (Option.some_ne_none _).symm
  exact hfound ▸ (name?_subset hname).1

lemma bareEntity?_subset {name : List Char} (h : bareEntity? cs = some name) : name ⊆ cs := by
  rw [bareEntity?.eq_def] at h
  split at h
  · split at h
    · rename_i hname
      exact Option.some.inj h ▸ (name?_subset hname).1
    · exact absurd h (Option.some_ne_none _).symm
  · split_ifs at h
    exact (Option.some.inj h) ▸ fun _ hc => hc
  · exact absurd h (Option.some_ne_none _).symm

/-! ## Relationships -/

/-- The names and the label of a relationship from its symbol on. -/
lemma label?_subset {label : Option (List Char)} (h : label? cs = some label) :
    ∀ l ∈ label, l ⊆ cs := by
  have hafter : ∀ ds : List Char, ∀ l ∈ labelAfterColon ds, l ⊆ ds := by
    intro ds l hl
    rw [labelAfterColon] at hl
    have hplain : (if ds.isEmpty then none else some (trimRight ds)) = some l → l ⊆ ds := by
      intro hl
      split_ifs at hl
      obtain rfl := Option.some.inj hl
      exact fun c hc => mem_of_mem_trimRight hc
    split at hl
    · rename_i found after hquoted
      by_cases hblank : isBlankText after = true
      · rw [if_pos hblank] at hl
        exact Option.some.inj hl ▸ (quoted?_subset hquoted).1
      · rw [if_neg hblank] at hl
        exact hplain hl
    · exact hplain hl
  intro l hl
  rw [label?] at h
  split at h
  · obtain rfl := Option.some.inj h
    exact absurd hl (Option.not_mem_none l)
  · rename_i ds hds
    obtain rfl := Option.some.inj h
    intro c hc
    refine trimLeft_subset cs ?_
    rw [hds]
    exact List.mem_cons_of_mem _ (trimLeft_subset ds (hafter _ l hl hc))
  · exact absurd h (Option.some_ne_none _).symm

lemma symbol?_subset {symbol : List Char} (h : symbol? cs = some (symbol, rest)) : rest ⊆ cs := by
  rw [symbol?.eq_def] at h
  split at h
  · split_ifs at h
    obtain ⟨-, rfl⟩ := Prod.mk.inj (Option.some.inj h)
    intro c hc
    simp only [List.mem_cons]
    exact Or.inr (Or.inr (Or.inr (Or.inr (Or.inr (Or.inr hc)))))
  · exact absurd h (Option.some_ne_none _).symm

lemma fromSymbol?_subset {tail : RelationshipTail} (h : fromSymbol? cs = some tail) :
    tail.target ⊆ cs ∧ ∀ l ∈ tail.label, l ⊆ cs := by
  simp only [fromSymbol?, Option.bind_eq_bind, Option.bind_eq_some_iff] at h
  obtain ⟨⟨symbol, afterSymbol⟩, hsymbol, ⟨target, afterTarget⟩, htarget, label, hlabel, h⟩ := h
  obtain rfl := Option.some.inj h
  obtain ⟨hname, hafter⟩ := name?_subset htarget
  have hrest : trimLeft afterSymbol ⊆ cs := fun c hc =>
    symbol?_subset hsymbol (trimLeft_subset afterSymbol hc)
  exact ⟨fun c hc => hrest (hname hc), fun l hl c hc =>
    hrest (hafter (label?_subset hlabel l hl hc))⟩

lemma fromName?_subset {name : List Char} {tail : RelationshipTail}
    (h : fromName? cs = some (name, tail)) :
    name ⊆ cs ∧ tail.target ⊆ cs ∧ ∀ l ∈ tail.label, l ⊆ cs := by
  induction cs generalizing name with
  | nil => exact absurd h (Option.some_ne_none _).symm
  | cons d ds ih =>
    rw [fromName?] at h
    split_ifs at h
    split at h
    · rename_i longer tail' hlonger
      obtain ⟨rfl, rfl⟩ := Prod.mk.inj (Option.some.inj h)
      obtain ⟨hname, htarget, hlabel⟩ := ih hlonger
      exact ⟨List.cons_subset_cons d hname, fun c hc => List.mem_cons_of_mem d (htarget hc),
        fun l hl c hc => List.mem_cons_of_mem d (hlabel l hl hc)⟩
    · obtain ⟨tail', htail, hpair⟩ := Option.map_eq_some_iff.mp h
      obtain ⟨rfl, rfl⟩ := Prod.mk.inj hpair
      obtain ⟨htarget, hlabel⟩ := fromSymbol?_subset htail
      refine ⟨fun c hc => List.mem_singleton.mp hc ▸ List.mem_cons_self, fun c hc => ?_,
        fun l hl c hc => ?_⟩
      · exact List.mem_cons_of_mem d (trimLeft_subset ds (htarget hc))
      · exact List.mem_cons_of_mem d (trimLeft_subset ds (hlabel l hl hc))

lemma relationship?_subset {parts : RelationshipParts} (h : relationship? cs = some parts) :
    parts.source ⊆ cs ∧ parts.target ⊆ cs ∧ ∀ l ∈ parts.label, l ⊆ cs := by
  rw [relationship?.eq_def] at h
  split at h
  · simp only [Option.bind_eq_bind, Option.bind_eq_some_iff] at h
    obtain ⟨⟨source, rest⟩, hsource, tail, htail, h⟩ := h
    obtain rfl := Option.some.inj h
    obtain ⟨hname, hrest⟩ := name?_subset hsource
    obtain ⟨htarget, hlabel⟩ := fromSymbol?_subset htail
    exact ⟨hname, fun c hc => hrest (trimLeft_subset rest (htarget hc)),
      fun l hl c hc => hrest (trimLeft_subset rest (hlabel l hl hc))⟩
  · simp only [Option.bind_eq_bind, Option.bind_eq_some_iff] at h
    obtain ⟨⟨source, tail⟩, hfound, h⟩ := h
    obtain rfl := Option.some.inj h
    exact fromName?_subset hfound

/-! ## Fields -/

lemma description?_subset {before : List Char} {description : Option (List Char)}
    (h : description? cs = (before, description)) : ∀ d ∈ description, d ⊆ cs := by
  intro d hd
  rw [description?] at h
  split at h
  · rename_i back hback
    split at h
    · obtain ⟨-, rfl⟩ := Prod.mk.inj h
      obtain rfl := Option.some.inj hd
      intro c hc
      have hmem : c ∈ back := (List.takeWhile_sublist _).subset (List.mem_reverse.mp hc)
      refine List.mem_reverse.mp (trimLeft_subset cs.reverse ?_)
      rw [hback]
      exact List.mem_cons_of_mem _ hmem
    · obtain ⟨-, rfl⟩ := Prod.mk.inj h
      exact absurd hd (Option.not_mem_none d)
  · obtain ⟨-, rfl⟩ := Prod.mk.inj h
    exact absurd hd (Option.not_mem_none d)

lemma field?_subset {parts : FieldParts} (h : field? cs = some parts) :
    ∀ d ∈ parts.description, d ⊆ cs := by
  intro d hd
  cases cs with
  | nil => exact absurd h (Option.some_ne_none _).symm
  | cons a as =>
    rw [field?] at h
    split_ifs at h
    dsimp only at h
    split at h
    · exact absurd h (Option.some_ne_none _).symm
    · obtain rfl := Option.some.inj h
      intro c hc
      have hrest := description?_subset rfl d hd hc
      refine List.mem_cons_of_mem a ((List.dropWhile_sublist isTokenChar).subset ?_)
      exact trimLeft_subset _ ((List.dropWhile_sublist isTokenChar).subset hrest)

end LineForm

/-! ## What is kept of a line -/

/-- Part of a line is one line. -/
lemma isLine_of_subset {part line : List Char} (h : IsLine line) (hpart : part ⊆ line) :
    IsLine part := fun c hc => h c (hpart hc)

/-- A name that is kept is clean. -/
lemma cleanEntityName_keptName (written : List Char) :
    cleanEntityName (keptName written) = keptName written := by
  rw [cleanEntityName, keptName, String.toList_ofList, entityNameChars_idem]

/-- A name that is kept of a line stays on it. -/
lemma isLineText_keptName {written : List Char} (h : IsLine written) :
    IsLineText (keptName written) := by
  rw [IsLineText, keptName, String.toList_ofList]
  exact isLine_entityNameChars h

/-- The texts of a relationship stay on one line. -/
structure Relationship.StaysOnLine (r : Relationship) : Prop where
  /-- The name on the left stays on one line. -/
  source : IsLineText r.source
  /-- The name on the right stays on one line. -/
  target : IsLineText r.target
  /-- The label stays on one line. -/
  label : ∀ l ∈ r.label, IsLineText l

/-- A relationship that is kept of a line stays on it. -/
lemma staysOnLine_keep {line : List Char} (hline : IsLine line) {stated : StatedRelationship}
    (h : statedRelationship? line = some stated) (n : Nat) : (stated.keep n).StaysOnLine := by
  simp only [statedRelationship?, Option.bind_eq_bind, Option.bind_eq_some_iff] at h
  obtain ⟨parts, hparts, ⟨cardinality, style⟩, -, h⟩ := h
  obtain rfl := Option.some.inj h
  obtain ⟨hsource, htarget, hlabel⟩ := LineForm.relationship?_subset hparts
  refine ⟨isLineText_keptName (isLine_of_subset hline hsource),
    isLineText_keptName (isLine_of_subset hline htarget), fun l hl => ?_⟩
  obtain ⟨written, hwritten, rfl⟩ := Option.map_eq_some_iff.mp hl
  rw [IsLineText, String.toList_ofList]
  exact isLine_of_subset hline (hlabel written hwritten)

/-- A cleaned remark that is on one line stays there. -/
lemma isLineText_cleanRemark {remark : Option String} (h : ∀ r ∈ remark, IsLineText r) :
    ∀ r ∈ cleanRemark remark, IsLineText r := by
  intro r hr
  obtain ⟨s, hs, hclean⟩ := Option.bind_eq_some_iff.mp hr
  obtain ⟨cs, hcs, rfl⟩ := Option.map_eq_some_iff.mp hclean
  rw [IsLineText, String.toList_ofList]
  exact isLine_remarkChars (h s hs) hcs

/-- A reference that is kept of a line points nowhere. -/
lemma reference_keptField {unlinked : Cardinality} {id : Id} {parts : LineForm.FieldParts}
    {r : Reference} (h : (keptField unlinked id parts).reference = some r) :
    r = { cardinality := unlinked } := by
  have h : (if parts.hasMarker "FK" then some { cardinality := unlinked } else none) = some r := h
  split_ifs at h
  exact (Option.some.inj h).symm

/-- A field that is kept of a line can be written, if it has a name. -/
lemma isWritable_keptField {line : List Char} (hline : IsLine line) {parts : LineForm.FieldParts}
    (h : LineForm.field? line = some parts) (hname : String.ofList (fieldNameChars parts.name) ≠ "")
    (unlinked : Cardinality) (id : Id) : (keptField unlinked id parts).IsWritable where
  name := by
    change cleanFieldName (String.ofList (fieldNameChars parts.name))
      = String.ofList (fieldNameChars parts.name)
    rw [cleanFieldName, String.toList_ofList, fieldNameChars_idem]
  description := cleanRemark_idem _
  reference := by
    change (if parts.hasMarker "FK" then some _ else none).isSome = parts.hasMarker "FK"
    cases parts.hasMarker "FK" <;> rfl
  label r hr := by
    rw [reference_keptField hr]
    rfl
  named := hname
  nameLine := by
    change IsLine (String.ofList (fieldNameChars parts.name)).toList
    rw [String.toList_ofList]
    exact isLine_fieldNameChars parts.name
  descriptionLine := by
    refine isLineText_cleanRemark fun d hd => ?_
    obtain ⟨written, hwritten, rfl⟩ := Option.map_eq_some_iff.mp hd
    rw [IsLineText, String.toList_ofList]
    exact isLine_of_subset hline (LineForm.field?_subset h written hwritten)
  labelLine r hr l hl := by
    rw [reference_keptField hr] at hl
    exact absurd hl (Option.not_mem_none l)

end DiagramSync
