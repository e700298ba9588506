import DiagramSync.Proofs.List.Keyed
import DiagramSync.Proofs.Store.Edits

/-!
# Fields that are updated

A field is updated as a whole: all that it says is written down, the updates are put over that, and
the record is read like one that comes from outside.  So whatever the updates leave out has to come
through being read, and it does, because a field that was read before is valid: its texts are clean
already, and it has a reference exactly when it is a foreign key.

* `isValid_of_check` — a field that was read is valid
* `ofValue_word`, `check_dump_of_clean`, `isTruthy_of_flag` — types, references and flags that are
  read again
* `find?_updatedAttributes_of_absent` — what updates leave out stands in the record as before
* `Field.IsUpdate` — what updates may change
* **`isUpdate_of_check`** — they change nothing else
-/

namespace DiagramSync

/-! ## Fields that were read -/

section Reading

variable {fresh : Id} {as : List (String × Value)} {f : Field}

/-- An attribute that is there is read. -/
lemma optional_of_find? {α : Type} {name : String} {v : Value} (h : Value.find? as name = some v)
    (default : α) (read : Value → Checked α) :
    Checked.optional as name default read = (read v).within name := by
  rw [Checked.optional, h]

/-- The label of a reference that was read is clean. -/
lemma cleanRemark_of_check {v : Value} {r : Reference} (h : Reference.check v = .good r) :
    cleanRemark r.label = r.label := by
  cases v with
  | record as =>
    simp only [Reference.check, seq_eq_good, map_eq_good] at h
    obtain ⟨_, label, ⟨_, _, ⟨_, _, ⟨_, -, rfl⟩, -, rfl⟩, -, rfl⟩, -, rfl⟩ := h
    exact cleanRemark_idem label
  | _ => cases h

lemma cleanRemark_of_checkOptional {v : Value} {r : Reference}
    (h : Reference.checkOptional v = .good (some r)) : cleanRemark r.label = r.label := by
  cases v with
  | null => cases h
  | _ =>
    obtain ⟨r', hr', heq⟩ := map_eq_good.mp h
    exact Option.some.inj heq ▸ cleanRemark_of_check hr'

/-- A field that was read is valid. -/
lemma isValid_of_check (h : Field.check fresh (.record as) = .good f) : f.IsValid := by
  have hsettled := (check_eq_good h).1
  obtain ⟨id, name, isPrimary, isForeign, description, reference, -, hname, -, -, -, hreference,
    rfl⟩ := fieldCheck_eq_good h
  refine ⟨?_, cleanRemark_idem description, hsettled, fun r hr => ?_⟩
  · rw [Checked.required] at hname
    split at hname
    · obtain rfl := Checked.good.inj hname
      exact cleanFieldName_idem _
    · cases hname
  · simp only [Field.settle, Option.mem_def] at hr
    split_ifs at hr
    obtain rfl := Option.some.inj hr
    cases reference with
    | none => rfl
    | some r =>
      rw [Checked.optional] at hreference
      split at hreference
      · exact cleanRemark_of_checkOptional (within_eq_good hreference)
      · cases hreference

end Reading

/-! ## Reading again -/

/-- The written name of a type stands for it. -/
lemma ofValue_word (t : FieldType) : FieldType.ofValue (.text t.word) = t := by
  cases t <;> decide +kernel

/-- A reference with a clean label is read back from its record. -/
lemma check_dump_of_clean {r : Reference} (h : cleanRemark r.label = r.label) :
    Reference.check r.dump = .good r := by
  have hlabel : Checked.optionalText ((r.label.map Value.text).getD .null) = .good r.label := by
    cases r.label <;> rfl
  have hcardinality : Checked.word Cardinality.ofWord? (.text r.cardinality.word)
      = .good r.cardinality := by
    rw [Checked.word, Cardinality.ofWord?_word]
    rfl
  rw [Reference.dump, Reference.check, optional_of_find? rfl, optional_of_find? rfl,
    optional_of_find? rfl, optional_of_find? rfl, hlabel, hcardinality]
  exact congrArg (fun label => Checked.good { r with label }) h

/-- The only number that means yes is one. -/
lemma flagOfInt?_eq_some_true {n : Int} (h : Checked.flagOfInt? n = some true) : n = 1 := by
  rw [Checked.flagOfInt?] at h
  split_ifs at h with hzero hone
  · exact absurd h (by decide)
  · exact hone

/-- A value that is read as a yes counts as given. -/
lemma isTruthy_of_flag {v : Value} (h : Checked.flag v = .good true) : v.isTruthy = true := by
  have hgood : ∀ {o : Option Bool} {kind : IssueKind},
      (o.map Checked.good).getD (Checked.issue [] kind) = .good true → o = some true := by
    intro o kind h
    cases o with
    | none => cases h
    | some b => exact congrArg some (Checked.good.inj h)
  cases v with
  | flag b => exact Checked.good.inj h
  | text w =>
    refine bne_iff_ne.mpr fun hempty => ?_
    subst hempty
    have hnone : Checked.flagOfWord? "" = none := by decide
    simp [Checked.flag, hnone, Checked.issue] at h
  | whole n =>
    simp only [Checked.flag] at h
    split_ifs at h
    · rw [flagOfInt?_eq_some_true (hgood h)]
      rfl
    · cases h
  | decimal x =>
    simp only [Checked.flag, Checked.integerOfDecimal] at h
    cases hwhole : wholeOf? x with
    | none => simp [hwhole, Checked.issue] at h
    | some n =>
      simp only [hwhole] at h
      split_ifs at h
      · rw [Value.isTruthy, hwhole, flagOfInt?_eq_some_true (hgood h)]
        rfl
      · cases h
  | _ => cases h

/-! ## Updates -/

section Updates

variable {unlinked : Cardinality} {updates : List (String × Value)} {f f' : Field} {fresh : Id}
  {name : String}

lemma find?_eq_none_of_absent (h : name ∉ updates.map Prod.fst) :
    Value.find? updates name = none :=
  Option.map_eq_none_iff.mpr (find?_key_eq_none.mpr h)

/-- What the updates leave out stands in the record as before, unless it is the reference. -/
lemma find?_updatedAttributes_of_absent (hname : name ≠ "fk_reference")
    (habsent : name ∉ updates.map Prod.fst) :
    Value.find? (updatedAttributes unlinked f updates) name = Value.find? f.dump name := by
  rw [find?_updatedAttributes, find?_overwrite, find?_eq_none_of_absent habsent]
  simp only [Option.getD_none, hname, if_false, Option.map_id']

/-- What updates of a field may change: what they mention, and nothing else.  The reference, if they
do not mention it, goes with the mark of a foreign key: without the mark there is none, a field that
has just got the mark points nowhere yet, and otherwise the reference is as before. -/
structure Field.IsUpdate (unlinked : Cardinality) (updates : List (String × Value)) (f f' : Field) :
    Prop where
  /-- The id is the same. -/
  id : f'.id = f.id
  /-- The name is the same if the updates do not mention it. -/
  name : "name" ∉ updates.map Prod.fst → f'.name = f.name
  /-- The type is the same if the updates do not mention it. -/
  type : "type" ∉ updates.map Prod.fst → f'.type = f.type
  /-- The mark of a primary key is the same if the updates do not mention it. -/
  isPrimary : "is_pk" ∉ updates.map Prod.fst → f'.isPrimary = f.isPrimary
  /-- The mark of a foreign key is the same if the updates do not mention it. -/
  isForeign : "is_fk" ∉ updates.map Prod.fst → f'.isForeign = f.isForeign
  /-- The description is the same if the updates do not mention it. -/
  description : "description" ∉ updates.map Prod.fst → f'.description = f.description
  /-- The reference follows the mark of a foreign key if the updates do not mention it. -/
  reference : "fk_reference" ∉ updates.map Prod.fst → f'.reference =
    if f'.isForeign then
      if f.isForeign then f.reference else some { cardinality := unlinked }
    else none

/-- The reference that is read of a field after updates that do not mention it. -/
lemma reference_of_absent (hf : f.IsValid) (habsent : "fk_reference" ∉ updates.map Prod.fst)
    {isForeign : Bool} {reference : Option Reference}
    (hforeign : Checked.optional (updatedAttributes unlinked f updates) "is_fk" false Checked.flag
      = .good isForeign)
    (hreference : Checked.optional (updatedAttributes unlinked f updates) "fk_reference" none
      Reference.checkOptional = .good reference) (hmarked : isForeign = true) :
    reference = if f.isForeign then f.reference else some { cardinality := unlinked } := by
  set merged := overwrite f.dump updates with hmerged
  have hfind : Value.find? (updatedAttributes unlinked f updates) "fk_reference"
      = some (filledIn unlinked (Value.get "is_fk" (.record merged))
          ((f.reference.map Reference.dump).getD .null)) := by
    rw [find?_updatedAttributes, find?_overwrite, find?_eq_none_of_absent habsent]
    rfl
  rw [optional_of_find? hfind] at hreference
  have hread := within_eq_good hreference
  rw [← hf.reference]
  cases hold : f.reference with
  | some r =>
    rw [hold] at hread
    have hdump : Reference.check r.dump = .good r := check_dump_of_clean (hf.label r hold)
    change some <$> Reference.check r.dump = _ at hread
    rw [hdump] at hread
    exact (Checked.good.inj hread).symm
  | none =>
    -- The field has just got the mark, so the record was filled in.
    have hflag : (Value.get "is_fk" (.record merged)).isTruthy = true := by
      have hvalue : Value.find? (updatedAttributes unlinked f updates) "is_fk"
          = some (Value.get "is_fk" (.record merged)) := by
        rw [find?_updatedAttributes, Value.get, Value.lookup?, find?_overwrite]
        rfl
      rw [optional_of_find? hvalue, hmarked] at hforeign
      exact isTruthy_of_flag (within_eq_good hforeign)
    rw [hold, Option.map_none, Option.getD_none, filledIn, if_pos hflag] at hread
    change some <$> Reference.check (unlinkedReference unlinked).dump = _ at hread
    rw [check_dump_of_clean rfl] at hread
    exact (Checked.good.inj hread).symm

/-- **An update of a valid field changes nothing that the updates do not mention.** -/
theorem isUpdate_of_check (hf : f.IsValid) (hknown : ∀ u ∈ updates, u.1 ∈ updatableAttributes)
    (h : Field.check fresh (.record (updatedAttributes unlinked f updates)) = .good f') :
    f.IsUpdate unlinked updates f' := by
  obtain ⟨id, name, isPrimary, isForeign, description, reference, hid, hname, hprimary, hforeign,
    hdescription, hreference, rfl⟩ := fieldCheck_eq_good h
  have hsame : ∀ {key : String} {v : Value}, key ≠ "fk_reference" →
      key ∉ updates.map Prod.fst → Value.find? f.dump key = some v →
      Value.find? (updatedAttributes unlinked f updates) key = some v :=
    fun hkey habsent hv => (find?_updatedAttributes_of_absent hkey habsent).trans hv
  constructor
  · have habsent : "id" ∉ updates.map Prod.fst := by
      intro hmem
      obtain ⟨u, hu, heq⟩ := List.mem_map.mp hmem
      exact absurd (heq ▸ hknown u hu) (by decide)
    rw [optional_of_find? (hsame (by decide) habsent rfl)] at hid
    exact congrArg Id.mk (Checked.good.inj hid).symm
  · intro habsent
    rw [Checked.required, hsame (by decide) habsent rfl] at hname
    exact (Checked.good.inj hname).symm.trans hf.name
  · intro habsent
    have hvalue : Value.find? (updatedAttributes unlinked f updates) "type"
        = some (.text f.type.word) := hsame (by decide) habsent rfl
    simp only [Field.settle, hvalue, Option.map_some, Option.getD_some, ofValue_word]
  · intro habsent
    rw [optional_of_find? (hsame (by decide) habsent rfl)] at hprimary
    exact (Checked.good.inj hprimary).symm
  · intro habsent
    rw [optional_of_find? (hsame (by decide) habsent rfl)] at hforeign
    exact (Checked.good.inj hforeign).symm
  · intro habsent
    rw [optional_of_find? (hsame (by decide) habsent rfl)] at hdescription
    have hread : description = f.description := by
      have hread := within_eq_good hdescription
      cases hd : f.description <;> rw [hd] at hread <;> exact (Checked.good.inj hread).symm
    exact hread ▸ hf.description
  · intro habsent
    change (if isForeign then some (reference.getD {}) else none) = _
    cases hmarked : isForeign with
    | false => rfl
    | true =>
      have hread := reference_of_absent hf habsent hforeign hreference hmarked
      have hsome : reference.isSome = true := by
        rw [hread]
        cases hf' : f.isForeign with
        | false => rfl
        | true => rw [if_pos rfl, hf.reference, hf']
      obtain ⟨r, hr⟩ := Option.isSome_iff_exists.mp hsome
      rw [if_pos rfl, hr, Option.getD_some, ← hr, hread]
      rfl

end Updates

end DiagramSync
