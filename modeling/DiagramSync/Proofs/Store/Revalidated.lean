import DiagramSync.Proofs.Model.Ids
import DiagramSync.Proofs.Store.Updated

/-!
# Texts that can be written, and models that are read once more

Cleaning takes any text to one that can be written into a diagram, and it leaves alone exactly the
texts that can be written already.  So a model that has been read is read back from its record as it
is, and so is a field of it from the record that an update starts from.

* `IsEmittableName`, `IsEmittableToken`, `IsEmittableRemark` — the texts that can be written
* `cleanEntityName_eq_self_iff`, `cleanFieldName_eq_self_iff`, `cleanRemark_eq_self_iff` — they are
  the ones that cleaning leaves alone
* `Entity.dump` — the record that an entity is read back from
* `updatedAttributes_nil` — the record that an update without updates starts from
* `readField_dump`, `readEntity_dump` — what is valid is read back
* **`cleaning_projects`** — cleaning is a projection, and so is reading
-/

namespace DiagramSync

open Text

/-! ## Texts that can be written -/

/-- A name that can be written between the quotes of a block. -/
structure IsEmittableName (cs : List Char) : Prop where
  /-- Nothing in it ends the name, its line or its block. -/
  chars : ∀ c ∈ cs, c ∉ ['"', '{', '}', '|', '\r', '\n', '\u00a0']
  /-- There is no blank at its start. -/
  first : ∀ c ∈ cs.head?, isBlank c = false
  /-- There is no blank at its end. -/
  last : ∀ c ∈ cs.getLast?, isBlank c = false

/-- A name that can be written as a single token. -/
def IsEmittableToken (cs : List Char) : Prop :=
  ∀ c ∈ cs, c ∉ ['"', '{', '}', '|'] ∧ isBlank c = false

/-- A remark that can be written between quotes at the end of a line. -/
structure IsEmittableRemark (cs : List Char) : Prop where
  /-- It says something. -/
  nonblank : isBlankText cs = false
  /-- Nothing in it ends the remark or its line. -/
  chars : ∀ c ∈ cs, c ∉ ['"', '\r', '\n']

lemma isDelimiter_eq_false {c : Char} :
    isDelimiter c = false ↔ c ≠ '{' ∧ c ≠ '}' ∧ c ≠ '|' := by
  simp [isDelimiter, and_assoc]

lemma filter_isDelimiter_eq_self {cs : List Char} (h : ∀ c ∈ cs, isDelimiter c = false) :
    cs.filter (fun c => !isDelimiter c) = cs :=
  List.filter_eq_self.mpr fun c hc => by rw [h c hc, Bool.not_false]

lemma map_singleQuote_eq_self {cs : List Char} (h : ∀ c ∈ cs, c ≠ '"') :
    cs.map singleQuote = cs :=
  (List.map_congr_left fun c hc => if_neg (h c hc)).trans (List.map_id _)

lemma isEmittableName_entityNameChars (cs : List Char) : IsEmittableName (entityNameChars cs) where
  chars c hc := by
    obtain ⟨hquote, hdelimiter⟩ := entityNameChars_clean hc
    obtain ⟨hspace, hreturn, hfeed⟩ := entityNameChars_plain hc
    obtain ⟨hopening, hclosing, hbar⟩ := isDelimiter_eq_false.mp hdelimiter
    have hnbsp : c ≠ '\u00a0' := by
      rintro rfl
      exact absurd hspace (by decide)
    simp [hquote, hopening, hclosing, hbar, hreturn, hfeed, hnbsp]
  first := isBlank_head?_trim
  last := isBlank_getLast?_trim

/-- A name that can be written is clean. -/
lemma IsEmittableName.entityNameChars_eq {cs : List Char} (h : IsEmittableName cs) :
    entityNameChars cs = cs := by
  have hspaces : cs.map plainSpace = cs := by
    refine (List.map_congr_left fun c hc => if_neg ?_).trans (List.map_id _)
    rintro rfl
    exact h.chars _ hc (by simp)
  have hbreaks : joinBreaks cs = cs := by
    refine joinBreaks_eq_self fun c hc => ⟨?_, ?_⟩ <;> rintro rfl <;> exact h.chars _ hc (by simp)
  have htrim : trim cs = cs := trim_eq_self h.first h.last
  have hquotes : cs.map singleQuote = cs := by
    refine map_singleQuote_eq_self fun c hc => ?_
    rintro rfl
    exact h.chars _ hc (by simp)
  have hdelimiters : cs.filter (fun c => !isDelimiter c) = cs := by
    refine filter_isDelimiter_eq_self fun c hc => isDelimiter_eq_false.mpr ⟨?_, ?_, ?_⟩ <;>
      rintro rfl <;> exact h.chars _ hc (by simp)
  rw [entityNameChars, hspaces, hbreaks, htrim, hquotes, hdelimiters, htrim]

/-- A cleaned entity name can be written. -/
lemma isEmittableName_clean (name : String) : IsEmittableName (cleanEntityName name).toList := by
  rw [cleanEntityName, String.toList_ofList]
  exact isEmittableName_entityNameChars name.toList

/-- The names that can be written are the ones that cleaning leaves alone. -/
lemma cleanEntityName_eq_self_iff {name : String} :
    cleanEntityName name = name ↔ IsEmittableName name.toList := by
  refine ⟨fun h => h ▸ isEmittableName_clean name, fun h => ?_⟩
  rw [cleanEntityName, h.entityNameChars_eq, String.ofList_toList]

/-- A token that can be written is clean. -/
lemma IsEmittableToken.fieldNameChars_eq {cs : List Char} (h : IsEmittableToken cs) :
    fieldNameChars cs = cs := by
  have hblank : ∀ c ∈ cs, isBlank c = false := fun c hc => (h c hc).2
  have htrim : trim cs = cs :=
    trim_eq_self (fun c hc => hblank c (List.mem_of_mem_head? hc))
      fun c hc => hblank c (List.mem_of_mem_getLast? hc)
  have hquotes : cs.filter (· != '"') = cs := by
    refine List.filter_eq_self.mpr fun c hc => bne_iff_ne.mpr ?_
    rintro rfl
    exact (h _ hc).1 (by simp)
  have hdelimiters : cs.filter (fun c => !isDelimiter c) = cs := by
    refine filter_isDelimiter_eq_self fun c hc => isDelimiter_eq_false.mpr ⟨?_, ?_, ?_⟩ <;>
      rintro rfl <;> exact (h _ hc).1 (by simp)
  rw [fieldNameChars, map_plainSpace_eq_self hblank, htrim, hquotes, hdelimiters,
    underscoreBlanks_eq_self hblank]

/-- A cleaned field name can be written. -/
lemma isEmittableToken_clean (name : String) : IsEmittableToken (cleanFieldName name).toList := by
  rw [cleanFieldName, String.toList_ofList]
  intro c hc
  obtain ⟨hblank, hquote, hdelimiter⟩ := fieldNameChars_clean hc
  obtain ⟨hopening, hclosing, hbar⟩ := isDelimiter_eq_false.mp hdelimiter
  exact ⟨by simp [hquote, hopening, hclosing, hbar], hblank⟩

/-- The tokens that can be written are the ones that cleaning leaves alone. -/
lemma cleanFieldName_eq_self_iff {name : String} :
    cleanFieldName name = name ↔ IsEmittableToken name.toList := by
  refine ⟨fun h => h ▸ isEmittableToken_clean name, fun h => ?_⟩
  rw [cleanFieldName, h.fieldNameChars_eq, String.ofList_toList]

/-- A cleaned remark says something, and it is on one line as far as it was guarded. -/
lemma isEmittableRemark_remarkChars {cs r : List Char} (h : remarkChars cs = some r) :
    IsEmittableRemark r := by
  have hquote := fun c hc => remarkChars_clean h (c := c) hc
  simp only [remarkChars, Option.ite_none_left_eq_some, Option.some.injEq] at h
  obtain ⟨hblank, rfl⟩ := h
  refine ⟨eq_false_of_ne_true hblank, fun c hc => ?_⟩
  obtain ⟨d, hd, rfl⟩ := List.mem_map.mp hc
  have hplain : singleQuote d ≠ '\r' ∧ singleQuote d ≠ '\n' := by
    rw [singleQuote]
    split_ifs
    · decide
    · rcases mem_joinBreaks hd with rfl | ⟨-, hd⟩
      · decide
      · exact hd
  simp [hquote _ hc, hplain.1, hplain.2]

/-- A remark that can be written is clean. -/
lemma IsEmittableRemark.remarkChars_eq {cs : List Char} (h : IsEmittableRemark cs) :
    remarkChars cs = some cs := by
  have hbreaks : joinBreaks cs = cs := by
    refine joinBreaks_eq_self fun c hc => ⟨?_, ?_⟩ <;> rintro rfl <;> exact h.chars _ hc (by simp)
  have hquotes : cs.map singleQuote = cs := by
    refine map_singleQuote_eq_self fun c hc => ?_
    rintro rfl
    exact h.chars _ hc (by simp)
  rw [remarkChars, hbreaks, hquotes, if_neg (by rw [h.nonblank]; exact Bool.false_ne_true)]

/-- What is left of a remark can be written. -/
lemma isEmittableRemark_clean {remark : Option String} {r : String}
    (h : cleanRemark remark = some r) : IsEmittableRemark r.toList := by
  obtain ⟨s, -, hs⟩ := Option.bind_eq_some_iff.mp h
  obtain ⟨cs, hcs, rfl⟩ := Option.map_eq_some_iff.mp hs
  rw [String.toList_ofList]
  exact isEmittableRemark_remarkChars hcs

/-- The remarks that can be written are the ones that cleaning leaves alone. -/
lemma cleanRemark_eq_self_iff {r : String} :
    cleanRemark (some r) = some r ↔ IsEmittableRemark r.toList := by
  refine ⟨isEmittableRemark_clean, fun h => ?_⟩
  rw [cleanRemark, Option.bind_some, h.remarkChars_eq, Option.map_some, String.ofList_toList]

/-! ## Reading once more -/

/-- The record that an entity is read back from. -/
def Entity.dump (e : Entity) : Value :=
  .record
    [("id", .text e.id.text), ("name", .text e.name),
     ("fields", .list (e.fields.map fun f => .record f.dump))]

section Fields

variable {f : Field}

/-- A field with a reference exactly when it is a foreign key is settled. -/
lemma settle_eq_self (h : f.reference.isSome = f.isForeign) : f.settle = f := by
  cases f with
  | mk id name type isPrimary isForeign description reference =>
    obtain rfl : reference.isSome = isForeign := h
    cases reference <;> rfl

/-- A valid field is read back from its record, whatever id is at hand. -/
lemma fieldCheck_dump (hf : f.IsValid) (fresh : Id) : Field.check fresh (.record f.dump) = .good f := by
  have hdescription : Checked.optionalText ((f.description.map Value.text).getD .null)
      = .good f.description := by
    cases f.description <;> rfl
  have hreference : Reference.checkOptional ((f.reference.map Reference.dump).getD .null)
      = .good f.reference := by
    cases hr : f.reference with
    | none => rfl
    | some r =>
      change some <$> Reference.check r.dump = _
      rw [check_dump_of_clean (hf.label r hr)]
      rfl
  have hfind : Value.find? f.dump "type" = some (.text f.type.word) := rfl
  have hclean : { f with name := cleanFieldName f.name
                         description := cleanRemark f.description } = f := by
    rw [hf.name, hf.description]
  rw [Field.check, optional_of_find? rfl, optional_of_find? rfl, optional_of_find? rfl,
    optional_of_find? rfl, optional_of_find? rfl, hdescription, hreference, hfind, Option.map_some,
    Option.getD_some, ofValue_word]
  exact congrArg Checked.good ((congrArg Field.settle hclean).trans (settle_eq_self hf.reference))

/-- Without updates an update starts from the record of the field. -/
lemma updatedAttributes_nil (hf : f.IsValid) (unlinked : Cardinality) :
    updatedAttributes unlinked f [] = f.dump := by
  have hmerged : overwrite f.dump [] = f.dump := rfl
  have hmark : (Value.get "is_fk" (.record f.dump)).isTruthy = f.isForeign := rfl
  rw [updatedAttributes, hmerged]
  refine (List.map_congr_left fun a ha => ?_).trans (List.map_id _)
  split
  · -- where there is no reference, the field is no foreign key
    have hnone : f.reference = none := by
      by_contra hsome
      obtain ⟨r, hr⟩ := Option.ne_none_iff_exists'.mp hsome
      simp [Field.dump, hr, Reference.dump] at ha
    rw [hmark, ← hf.reference, hnone, Option.isSome_none, if_neg Bool.false_ne_true]
    rfl
  · rfl

end Fields

section Entities

/-- What is good is collected from any position on. -/
lemma collect_good {α : Type} (position : Nat) (ys : List α) :
    Checked.collect position (ys.map Checked.good) = .good ys := by
  induction ys generalizing position with
  | nil => rfl
  | cons y ys ih =>
    rw [List.map_cons, Checked.collect, ih]
    rfl

/-- What was collected was good item by item. -/
lemma good_mem_of_collect {α : Type} {position : Nat} {xs : List (Checked α)} {ys : List α}
    (h : Checked.collect position xs = .good ys) {y : α} (hy : y ∈ ys) : .good y ∈ xs := by
  induction xs generalizing position ys with
  | nil =>
    obtain rfl := Checked.good.inj h
    exact absurd hy List.not_mem_nil
  | cons x xs ih =>
    rw [Checked.collect, seq_eq_good] at h
    obtain ⟨_, rest, hfirst, hrest, rfl⟩ := h
    obtain ⟨y', hy', rfl⟩ := map_eq_good.mp hfirst
    rcases List.mem_cons.mp hy with rfl | hy
    · exact List.mem_cons.mpr (Or.inl (within_eq_good hy').symm)
    · exact List.mem_cons_of_mem x (ih hrest hy)

variable {e : Entity} {v : Value} {fresh : Id} {freshFields : List Id} {s s' : Supply}

/-- Names that are texts are demanded in vain. -/
lemma demandNames_texts (names : List String) (s : Supply) :
    Reader.demandNames (names.map Value.text) s = .ok ((), s) := by
  induction names with
  | nil => rfl
  | cons name names ih => exact ih

/-- As many ids are drawn as there are items. -/
lemma exists_draws {α : Type} (xs : List α) (s : Supply) :
    ∃ ids s', (xs.mapM fun _ => Reader.draw) s = .ok (ids, s') ∧ ids.length = xs.length := by
  induction xs generalizing s with
  | nil => exact ⟨[], s, rfl, rfl⟩
  | cons x xs ih =>
    obtain ⟨ids, s', hdraws, hlength⟩ := ih s.draw.2
    refine ⟨s.draw.1 :: ids, s', ?_, by rw [List.length_cons, hlength, List.length_cons]⟩
    rw [List.mapM_cons, supply_bind_eq_ok]
    refine ⟨s.draw.1, s.draw.2, rfl, ?_⟩
    rw [supply_bind_eq_ok]
    exact ⟨ids, s', hdraws, rfl⟩

/-- A record of a field that was read was a record. -/
lemma exists_attributes {f : Field} (h : Field.check fresh v = .good f) : ∃ as, v = .record as := by
  cases v with
  | record as => exact ⟨as, rfl⟩
  | _ => cases h

/-- An entity that was read is valid. -/
lemma isValid_of_checkEntity (h : Entity.check fresh freshFields v = .good e) : e.IsValid := by
  cases v with
  | record as =>
    simp only [Entity.check, seq_eq_good, map_eq_good] at h
    obtain ⟨_, fields, ⟨_, name, ⟨id, -, rfl⟩, hname, rfl⟩, hfields, rfl⟩ := h
    constructor
    · rw [Checked.required] at hname
      split at hname
      · obtain rfl := Checked.good.inj hname
        exact cleanEntityName_idem _
      · cases hname
    · intro f hf
      rw [Checked.optional] at hfields
      split at hfields
      · rename_i list _
        have hread := within_eq_good hfields
        cases list with
        | list items =>
          obtain ⟨p, -, hp⟩ := List.mem_map.mp (good_mem_of_collect hread hf)
          obtain ⟨as', hrecord⟩ := exists_attributes hp
          exact isValid_of_check (hrecord ▸ hp)
        | _ => cases hread
      · obtain rfl := Checked.good.inj hfields
        exact absurd hf List.not_mem_nil
  | _ => cases h

/-- Valid fields are read back from their records one by one. -/
lemma checkFields_dump {fs : List Field} (hfs : ∀ f ∈ fs, f.IsValid)
    (hlength : freshFields.length = fs.length) :
    (freshFields.zip (fs.map fun f => Value.record f.dump)).map (fun p => Field.check p.1 p.2)
      = fs.map Checked.good := by
  induction fs generalizing freshFields with
  | nil => rw [List.map_nil, List.zip_nil_right, List.map_nil, List.map_nil]
  | cons f fs ih =>
    obtain ⟨fresh, rest, rfl⟩ := List.exists_cons_of_length_eq_add_one hlength
    have hrest := ih (fun g hg => hfs g (List.mem_cons_of_mem f hg)) (Nat.succ.inj hlength)
    rw [List.map_cons, List.zip_cons_cons, List.map_cons, hrest,
      fieldCheck_dump (hfs f List.mem_cons_self), List.map_cons]

/-- A valid entity is read back from its record, whatever ids are at hand. -/
lemma checkEntity_dump (he : e.IsValid) (fresh : Id)
    (hlength : freshFields.length = e.fields.length) :
    Entity.check fresh freshFields e.dump = .good e := by
  have hfields : Entity.checkFields freshFields (.list (e.fields.map fun f => .record f.dump))
      = .good e.fields := by
    rw [Entity.checkFields, checkFields_dump he.fields hlength, collect_good]
  rw [Entity.dump, Entity.check, optional_of_find? rfl, optional_of_find? rfl, hfields]
  exact congrArg (fun name => Checked.good { e with name }) he.name

/-- A valid field is read back from its record. -/
lemma readField_dump {f : Field} (hf : f.IsValid) (s : Supply) :
    Field.read (.record f.dump) s = .ok (f, s.draw.2) := by
  rw [Field.read, supply_bind_eq_ok]
  refine ⟨(), s, rfl, ?_⟩
  rw [supply_bind_eq_ok]
  exact ⟨s.draw.1, s.draw.2, rfl, ofChecked_eq_ok.mpr ⟨fieldCheck_dump hf _, rfl⟩⟩

/-- A valid entity is read back from its record. -/
lemma readEntity_dump (he : e.IsValid) (s : Supply) :
    ∃ s', Entity.read e.dump s = .ok (e, s') := by
  have hnames : Entity.names e.dump = (e.name :: e.fields.map Field.name).map Value.text := by
    have hfields : (e.fields.map fun f => Value.record f.dump).map (·.get "name")
        = (e.fields.map Field.name).map Value.text := by
      rw [List.map_map, List.map_map]
      rfl
    exact congrArg (Value.text e.name :: ·) hfields
  obtain ⟨ids, s', hdraws, hlength⟩ := exists_draws (Entity.names e.dump).tail s.draw.2
  have hcount : ids.length = e.fields.length := by
    rw [hlength, hnames, List.map_cons, List.tail_cons, List.length_map, List.length_map]
  refine ⟨s', ?_⟩
  rw [Entity.read, supply_bind_eq_ok]
  refine ⟨(), s, by rw [hnames]; exact demandNames_texts _ s, ?_⟩
  rw [supply_bind_eq_ok]
  refine ⟨s.draw.1, s.draw.2, rfl, ?_⟩
  rw [supply_bind_eq_ok]
  exact ⟨ids, s', hdraws, ofChecked_eq_ok.mpr ⟨checkEntity_dump he _ hcount, rfl⟩⟩

/-- A field that was read is valid. -/
lemma isValid_of_readField {f : Field} (h : Field.read v s = .ok (f, s')) : f.IsValid := by
  obtain ⟨hcheck, -⟩ := readField_eq_ok (ofReader_eq_ok.mpr h)
  obtain ⟨as, rfl⟩ := exists_attributes hcheck
  exact isValid_of_check hcheck

/-- An entity that was read is valid. -/
lemma isValid_of_readEntity (h : Entity.read v s = .ok (e, s')) : e.IsValid := by
  obtain ⟨_, s₁, -, h⟩ := supply_bind_eq_ok.mp h
  obtain ⟨fresh, s₂, -, h⟩ := supply_bind_eq_ok.mp h
  obtain ⟨freshFields, s₃, -, h⟩ := supply_bind_eq_ok.mp h
  exact isValid_of_checkEntity (ofChecked_eq_ok.mp h).1

end Entities

/-- **Cleaning is a projection onto the texts that can be written**: what it gives can be written,
it leaves alone exactly what can be written already, and so it changes nothing the second time.  A
remark of which nothing is left is none.  The entities and the fields that can be read from anything
at all are the valid ones, and a valid one is read back from its record as it is, whatever ids are
at hand; and the record that an update without updates starts from is that of the field. -/
theorem cleaning_projects :
    (∀ name : String, IsEmittableName (cleanEntityName name).toList ∧
      (cleanEntityName name = name ↔ IsEmittableName name.toList) ∧
      cleanEntityName (cleanEntityName name) = cleanEntityName name) ∧
    (∀ name : String, IsEmittableToken (cleanFieldName name).toList ∧
      (cleanFieldName name = name ↔ IsEmittableToken name.toList) ∧
      cleanFieldName (cleanFieldName name) = cleanFieldName name) ∧
    (∀ text : String, (∀ r, cleanRemark (some text) = some r → IsEmittableRemark r.toList) ∧
      (cleanRemark (some text) = some text ↔ IsEmittableRemark text.toList) ∧
      cleanRemark (cleanRemark (some text)) = cleanRemark (some text)) ∧
    (∀ e : Entity, (e.IsValid ↔ ∃ v s s', Entity.read v s = .ok (e, s')) ∧
      (e.IsValid → ∀ s, ∃ s', Entity.read e.dump s = .ok (e, s'))) ∧
    (∀ f : Field, (f.IsValid ↔ ∃ v s s', Field.read v s = .ok (f, s')) ∧
      (f.IsValid → ∀ s, Field.read (.record f.dump) s = .ok (f, s.draw.2) ∧
        ∀ unlinked, updatedAttributes unlinked f [] = f.dump)) := by
  refine ⟨fun name => ?_, fun name => ?_, fun text => ?_, fun e => ⟨⟨fun he => ?_, ?_⟩, ?_⟩,
    fun f => ⟨⟨fun hf => ?_, ?_⟩, ?_⟩⟩
  · exact ⟨isEmittableName_clean name, cleanEntityName_eq_self_iff, cleanEntityName_idem name⟩
  · exact ⟨isEmittableToken_clean name, cleanFieldName_eq_self_iff, cleanFieldName_idem name⟩
  · exact ⟨fun r => isEmittableRemark_clean, cleanRemark_eq_self_iff, cleanRemark_idem (some text)⟩
  · obtain ⟨s', hread⟩ := readEntity_dump he .strokes
    exact ⟨e.dump, _, s', hread⟩
  · rintro ⟨v, s, s', hread⟩
    exact isValid_of_readEntity hread
  · exact fun he s => readEntity_dump he s
  · exact ⟨.record f.dump, _, _, readField_dump hf .strokes⟩
  · rintro ⟨v, s, s', hread⟩
    exact isValid_of_readField hread
  · exact fun hf s => ⟨readField_dump hf s, updatedAttributes_nil hf⟩

/-- A record with untidy texts: quotes, braces, bars, blanks and line breaks. -/
def untidyUsers : Value :=
  .record
    [("id", .text "u"), ("name", .text " \x7bThe \"Users\"\r\n"),
     ("fields", .list
       [.record [("id", .text "a"), ("name", .text " is\tactive|"),
         ("description", .text "\"yes\"\r\nor no")]])]

/-- What that record says, with tidy texts. -/
def tidyUsers : Entity where
  id := ⟨"u"⟩
  name := "The 'Users'"
  fields := [{ id := ⟨"a"⟩, name := "is_active", description := some "'yes' or no" }]

/-- Untidy texts are tidied when they are read, and what was read is read back as it is. -/
theorem readAgain_untidyUsers :
    (∃ s, Entity.read untidyUsers .strokes = .ok (tidyUsers, s)) ∧
      ∀ s, ∃ s', Entity.read tidyUsers.dump s = .ok (tidyUsers, s') := by
  have hread : ∃ s, Entity.read untidyUsers .strokes = .ok (tidyUsers, s) := ⟨_, rfl⟩
  have hentity := cleaning_projects.2.2.2.1 tidyUsers
  obtain ⟨s, hs⟩ := hread
  exact ⟨⟨s, hs⟩, hentity.2 (hentity.1.mpr ⟨_, _, _, hs⟩)⟩

end DiagramSync
