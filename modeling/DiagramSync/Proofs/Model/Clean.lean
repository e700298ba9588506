import DiagramSync.Model.Entity
import DiagramSync.Model.Wording
import DiagramSync.Proofs.Text.Lines

/-!
# What cleaned texts hold, and valid entities

Cleaning takes out of a name or a remark what would end it early in a diagram.  This file says which
characters are left, and what an entity looks like whose texts have been cleaned.

* `entityNameChars_clean`, `fieldNameChars_clean`, `remarkChars_clean` — the characters left
* `cleanEntityName_idem`, `cleanFieldName_idem`, `cleanRemark_idem` — a text is cleaned once and for
  all
* `isLine_entityNameChars`, `isLine_fieldNameChars`, `isLine_remarkChars` — what is on one line stays
  there
* `Field.IsValid`, `Entity.IsValid` — the texts are cleaned, and a field has a reference exactly
  when it is a foreign key
-/

namespace DiagramSync

open Text

/-! ## Characters of cleaned texts -/

/-- No cleaned entity name holds a double quote or a delimiter. -/
lemma entityNameChars_clean {cs : List Char} {c : Char} (h : c ∈ entityNameChars cs) :
    c ≠ '"' ∧ isDelimiter c = false := by
  have hc := mem_of_mem_trim h
  rw [List.mem_filter, List.mem_map] at hc
  obtain ⟨⟨d, -, rfl⟩, hdelim⟩ := hc
  refine ⟨?_, by simpa using hdelim⟩
  rw [singleQuote]
  split_ifs with hd
  · decide
  · exact hd

/-- The characters of a text in which the blanks have become underscores. -/
lemma mem_underscoreBlanks {cs : List Char} {c : Char} (h : c ∈ underscoreBlanks cs) :
    c = '_' ∨ c ∈ cs ∧ isBlank c = false := by
  fun_induction underscoreBlanks cs with
  | case1 => cases h
  | case2 d =>
    obtain rfl := List.mem_singleton.mp h
    split_ifs with hd
    · exact Or.inl rfl
    · exact Or.inr ⟨List.mem_singleton.mpr rfl, by simpa using hd⟩
  | case3 b d cs hb hd ih => exact (ih h).imp_right fun ⟨hm, hc⟩ => ⟨List.mem_cons_of_mem _ hm, hc⟩
  | case4 b d cs hb hd ih =>
    rcases List.mem_cons.mp h with rfl | h
    · exact Or.inl rfl
    · exact (ih h).imp_right fun ⟨hm, hc⟩ => ⟨List.mem_cons_of_mem _ hm, hc⟩
  | case5 b d cs hb ih =>
    rcases List.mem_cons.mp h with rfl | h
    · exact Or.inr ⟨List.mem_cons_self, by simpa using hb⟩
    · exact (ih h).imp_right fun ⟨hm, hc⟩ => ⟨List.mem_cons_of_mem _ hm, hc⟩

/-- No cleaned field name holds a blank, a double quote or a delimiter. -/
lemma fieldNameChars_clean {cs : List Char} {c : Char} (h : c ∈ fieldNameChars cs) :
    isBlank c = false ∧ c ≠ '"' ∧ isDelimiter c = false := by
  rcases mem_underscoreBlanks h with rfl | ⟨hm, hb⟩
  · decide
  · rw [List.mem_filter, List.mem_filter] at hm
    exact ⟨hb, by simpa using hm.1.2, by simpa using hm.2⟩

/-- No cleaned remark holds a double quote. -/
lemma remarkChars_clean {cs r : List Char} (h : remarkChars cs = some r) {c : Char} (hc : c ∈ r) :
    c ≠ '"' := by
  simp only [remarkChars, Option.ite_none_left_eq_some, Option.some.injEq] at h
  obtain ⟨-, rfl⟩ := h
  obtain ⟨d, -, rfl⟩ := List.mem_map.mp hc
  rw [singleQuote]
  split_ifs with hd
  · decide
  · exact hd

/-! ## Cleaning twice -/

lemma plainSpace_plainSpace (c : Char) : plainSpace (plainSpace c) = plainSpace c := by
  by_cases hc : c = '\u00a0'
  · subst hc
    decide
  · have hplain : plainSpace c = c := if_neg hc
    rw [hplain, hplain]

/-- Where there is no blank, there is no space that would have to be made plain. -/
lemma map_plainSpace_eq_self {cs : List Char} (h : ∀ c ∈ cs, isBlank c = false) :
    cs.map plainSpace = cs := by
  refine (List.map_congr_left fun c hc => if_neg ?_).trans (List.map_id _)
  rintro rfl
  exact absurd (h _ hc) (by decide)

/-- A character of a cleaned entity name is none that cleaning replaces. -/
lemma entityNameChars_plain {cs : List Char} {c : Char} (h : c ∈ entityNameChars cs) :
    plainSpace c = c ∧ c ≠ '\r' ∧ c ≠ '\n' := by
  obtain ⟨hmem, -⟩ := List.mem_filter.mp (mem_of_mem_trim h)
  obtain ⟨d, hd, rfl⟩ := List.mem_map.mp hmem
  have hplain : plainSpace d = d ∧ d ≠ '\r' ∧ d ≠ '\n' := by
    rcases mem_joinBreaks (mem_of_mem_trim hd) with rfl | ⟨hd, hbreak⟩
    · decide
    · obtain ⟨b, -, rfl⟩ := List.mem_map.mp hd
      exact ⟨plainSpace_plainSpace b, hbreak⟩
  rw [singleQuote]
  split_ifs
  · decide
  · exact hplain

/-- A cleaned entity name is clean. -/
lemma entityNameChars_idem (cs : List Char) :
    entityNameChars (entityNameChars cs) = entityNameChars cs := by
  have hspaces : (entityNameChars cs).map plainSpace = entityNameChars cs := by
    refine (List.map_congr_left fun c hc => ?_).trans (List.map_id _)
    exact (entityNameChars_plain hc).1
  have hbreaks : joinBreaks (entityNameChars cs) = entityNameChars cs :=
    joinBreaks_eq_self fun c hc => (entityNameChars_plain hc).2
  have htrim : trim (entityNameChars cs) = entityNameChars cs := trim_trim _
  have hquotes : (entityNameChars cs).map singleQuote = entityNameChars cs := by
    refine (List.map_congr_left fun c hc => ?_).trans (List.map_id _)
    exact if_neg (entityNameChars_clean hc).1
  have hdelimiters : (entityNameChars cs).filter (fun c => !isDelimiter c)
      = entityNameChars cs := by
    refine List.filter_eq_self.mpr fun c hc => ?_
    rw [(entityNameChars_clean hc).2, Bool.not_false]
  conv_lhs => rw [entityNameChars, hspaces, hbreaks, htrim, hquotes, hdelimiters, htrim]

/-- A text without blanks has none to replace. -/
lemma underscoreBlanks_eq_self {cs : List Char} (h : ∀ c ∈ cs, isBlank c = false) :
    underscoreBlanks cs = cs := by
  fun_induction underscoreBlanks cs with
  | case1 => rfl
  | case2 c => rw [h c List.mem_cons_self, if_neg Bool.false_ne_true]
  | case3 c d cs hc => exact absurd hc (by rw [h c List.mem_cons_self]; exact Bool.false_ne_true)
  | case4 c d cs hc => exact absurd hc (by rw [h c List.mem_cons_self]; exact Bool.false_ne_true)
  | case5 c d cs _ ih => rw [ih fun x hx => h x (List.mem_cons_of_mem c hx)]

/-- A cleaned field name is clean. -/
lemma fieldNameChars_idem (cs : List Char) :
    fieldNameChars (fieldNameChars cs) = fieldNameChars cs := by
  have hblank : ∀ c ∈ fieldNameChars cs, isBlank c = false := fun c hc =>
    (fieldNameChars_clean hc).1
  have hspaces : (fieldNameChars cs).map plainSpace = fieldNameChars cs :=
    map_plainSpace_eq_self hblank
  have htrim : trim (fieldNameChars cs) = fieldNameChars cs :=
    trim_eq_self (fun c hc => hblank c (List.mem_of_mem_head? hc))
      fun c hc => hblank c (List.mem_of_mem_getLast? hc)
  have hquotes : (fieldNameChars cs).filter (· != '"') = fieldNameChars cs :=
    List.filter_eq_self.mpr fun c hc => bne_iff_ne.mpr (fieldNameChars_clean hc).2.1
  have hdelimiters : (fieldNameChars cs).filter (fun c => !isDelimiter c) = fieldNameChars cs := by
    refine List.filter_eq_self.mpr fun c hc => ?_
    rw [(fieldNameChars_clean hc).2.2, Bool.not_false]
  conv_lhs => rw [fieldNameChars, hspaces, htrim, hquotes, hdelimiters,
    underscoreBlanks_eq_self hblank]

/-- A cleaned remark is clean. -/
lemma remarkChars_idem {cs r : List Char} (h : remarkChars cs = some r) :
    remarkChars r = some r := by
  have hquote := fun {c} hc => remarkChars_clean h (c := c) hc
  simp only [remarkChars, Option.ite_none_left_eq_some, Option.some.injEq] at h
  obtain ⟨hblank, rfl⟩ := h
  have hbreak : ∀ c ∈ (joinBreaks cs).map singleQuote, c ≠ '\r' ∧ c ≠ '\n' := by
    intro c hc
    obtain ⟨d, hd, rfl⟩ := List.mem_map.mp hc
    rw [singleQuote]
    split_ifs
    · decide
    · rcases mem_joinBreaks hd with rfl | ⟨-, hd⟩
      · decide
      · exact hd
  have hquotes : ((joinBreaks cs).map singleQuote).map singleQuote
      = (joinBreaks cs).map singleQuote := by
    refine (List.map_congr_left fun c hc => ?_).trans (List.map_id _)
    exact if_neg (hquote hc)
  rw [remarkChars, joinBreaks_eq_self hbreak, hquotes]
  exact if_neg hblank

lemma cleanEntityName_idem (name : String) :
    cleanEntityName (cleanEntityName name) = cleanEntityName name := by
  rw [cleanEntityName, cleanEntityName, String.toList_ofList, entityNameChars_idem]

lemma cleanFieldName_idem (name : String) :
    cleanFieldName (cleanFieldName name) = cleanFieldName name := by
  rw [cleanFieldName, cleanFieldName, String.toList_ofList, fieldNameChars_idem]

lemma cleanRemark_idem (remark : Option String) :
    cleanRemark (cleanRemark remark) = cleanRemark remark := by
  cases hclean : cleanRemark remark with
  | none => rfl
  | some r =>
    obtain ⟨s, -, hs⟩ := Option.bind_eq_some_iff.mp hclean
    obtain ⟨cs, hcs, rfl⟩ := Option.map_eq_some_iff.mp hs
    rw [cleanRemark, Option.bind_some, String.toList_ofList, remarkChars_idem hcs, Option.map_some]

/-! ## On one line -/

/-- Cleaning an entity name adds no character that ends a line. -/
lemma isLine_entityNameChars {cs : List Char} (h : IsLine cs) : IsLine (entityNameChars cs) := by
  intro c hc
  obtain ⟨hmem, -⟩ := List.mem_filter.mp (mem_of_mem_trim hc)
  obtain ⟨d, hd, rfl⟩ := List.mem_map.mp hmem
  rw [singleQuote]
  split_ifs
  · decide
  · rcases mem_joinBreaks (mem_of_mem_trim hd) with rfl | ⟨hd, -⟩
    · decide
    · obtain ⟨b, hb, rfl⟩ := List.mem_map.mp hd
      rw [plainSpace]
      split_ifs
      · decide
      · exact h b hb

/-- A cleaned field name is on one line, whatever it was before. -/
lemma isLine_fieldNameChars (cs : List Char) : IsLine (fieldNameChars cs) := fun _ hc =>
  isLineBreak_of_not_blank (fieldNameChars_clean hc).1

/-- Cleaning a remark adds no character that ends a line. -/
lemma isLine_remarkChars {cs r : List Char} (h : IsLine cs) (hr : remarkChars cs = some r) :
    IsLine r := by
  simp only [remarkChars, Option.ite_none_left_eq_some, Option.some.injEq] at hr
  obtain ⟨-, rfl⟩ := hr
  intro c hc
  obtain ⟨d, hd, rfl⟩ := List.mem_map.mp hc
  rw [singleQuote]
  split_ifs
  · decide
  · rcases mem_joinBreaks hd with rfl | ⟨hd, -⟩
    · decide
    · exact h d hd

/-! ## Names and remarks that are clean already -/

lemma entityNameChars_of_clean {name : String} (h : cleanEntityName name = name) :
    entityNameChars name.toList = name.toList := by
  rw [← String.ofList_inj, String.ofList_toList]
  exact h

lemma fieldNameChars_of_clean {name : String} (h : cleanFieldName name = name) :
    fieldNameChars name.toList = name.toList := by
  rw [← String.ofList_inj, String.ofList_toList]
  exact h

lemma remarkChars_of_clean {r : String} (h : cleanRemark (some r) = some r) :
    remarkChars r.toList = some r.toList := by
  simp only [cleanRemark, Option.bind_some, Option.map_eq_some_iff] at h
  obtain ⟨cs, hcs, rfl⟩ := h
  rw [hcs, String.toList_ofList]

lemma entityName_char {name : String} (h : cleanEntityName name = name) {c : Char}
    (hc : c ∈ name.toList) : c ≠ '"' ∧ isDelimiter c = false :=
  entityNameChars_clean (entityNameChars_of_clean h ▸ hc)

lemma fieldName_char {name : String} (h : cleanFieldName name = name) {c : Char}
    (hc : c ∈ name.toList) : isBlank c = false ∧ c ≠ '"' ∧ isDelimiter c = false :=
  fieldNameChars_clean (fieldNameChars_of_clean h ▸ hc)

lemma remark_char {r : String} (h : cleanRemark (some r) = some r) {c : Char}
    (hc : c ∈ r.toList) : c ≠ '"' :=
  remarkChars_clean (remarkChars_of_clean h) hc

/-! ## Valid entities -/

/-- A field as validation leaves it: its texts are clean, and it has a reference exactly when it is
a foreign key. -/
structure Field.IsValid (f : Field) : Prop where
  /-- The name is clean. -/
  name : cleanFieldName f.name = f.name
  /-- The description is clean. -/
  description : cleanRemark f.description = f.description
  /-- The field has a reference exactly when it is a foreign key. -/
  reference : f.reference.isSome = f.isForeign
  /-- The label of its reference is clean. -/
  label : ∀ r ∈ f.reference, cleanRemark r.label = r.label

instance (f : Field) : Decidable f.IsValid :=
  decidable_of_iff
    (cleanFieldName f.name = f.name ∧ cleanRemark f.description = f.description ∧
      f.reference.isSome = f.isForeign ∧ ∀ r ∈ f.reference, cleanRemark r.label = r.label)
    ⟨fun ⟨hname, hdescription, hreference, hlabel⟩ => ⟨hname, hdescription, hreference, hlabel⟩,
      fun h => ⟨h.name, h.description, h.reference, h.label⟩⟩

/-- An entity as validation leaves it. -/
structure Entity.IsValid (e : Entity) : Prop where
  /-- The name is clean. -/
  name : cleanEntityName e.name = e.name
  /-- The fields are valid. -/
  fields : ∀ f ∈ e.fields, f.IsValid

instance (e : Entity) : Decidable e.IsValid :=
  decidable_of_iff (cleanEntityName e.name = e.name ∧ ∀ f ∈ e.fields, f.IsValid)
    ⟨fun ⟨hname, hfields⟩ => ⟨hname, hfields⟩, fun h => ⟨h.name, h.fields⟩⟩

end DiagramSync
