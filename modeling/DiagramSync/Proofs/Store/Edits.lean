import DiagramSync.Proofs.Model.Clean
import DiagramSync.Store.Edit
import Mathlib.Data.List.Nodup

/-!
# What edits do

An edit that is not refused was checked first: the entity and the field that it names are there, a
new name is free, and a new reference points at an entity.  Here each edit is taken apart once, into
what was checked and what the entities are afterwards.

* `supply_bind_eq_ok` — how a computation that is not refused came about
* `IsFreeName`, `Field.Fits` — what is checked of a name and of a field
* `Edit.Made` — what was checked and what was done, edit by edit
* `fieldCheck_eq_good` — how a field was read from its attributes
* `find?_updatedAttributes` — the record of a field after updates
* `demandDistinct_cases` — when the names of a whole model are refused
* **`made_of_run`** — an edit that is not refused was made in this way
* `apply_of_run`, `apply_eq_ok` — the store before and after an edit
-/

namespace DiagramSync

/-! ## Computations that are not refused -/

section Editing

variable {ε α β : Type} {s s' : Supply}

lemma supply_bind_eq_ok {x : StateT Supply (Except ε) α} {f : α → StateT Supply (Except ε) β}
    {b : β} :
    (x >>= f) s = .ok (b, s') ↔ ∃ a s₁, x s = .ok (a, s₁) ∧ f a s₁ = .ok (b, s') := by
  simp only [bind, StateT.bind]
  cases hx : x s with
  | error e => simp [Except.bind]
  | ok p =>
    obtain ⟨a, s₁⟩ := p
    simp [Except.bind]

lemma supply_pure_eq_ok {a b : α} :
    (pure a : StateT Supply (Except ε) α) s = .ok (b, s') ↔ a = b ∧ s = s' := by
  show (Except.ok (a, s) : Except ε (α × Supply)) = .ok (b, s') ↔ _
  simp

lemma editing_throw_eq_ok {f : Fault} {b : α} : (throw f : Editing α) s = .ok (b, s') ↔ False := by
  simp [throw, throwThe, MonadExceptOf.throw, StateT.lift, bind, Except.bind]

lemma ofReader_eq_ok {x : Reader α} {a : α} :
    Editing.ofReader x s = .ok (a, s') ↔ x s = .ok (a, s') := by
  rw [Editing.ofReader]
  cases x s with
  | error reason => simp
  | ok p => simp

lemma demandNames_eq_ok {vs : List Value} (h : Reader.demandNames vs s = .ok ((), s')) : s = s' := by
  induction vs with
  | nil => exact (supply_pure_eq_ok.mp h).2
  | cons v vs ih =>
    rw [Reader.demandNames] at h
    cases hname : v.nameText with
    | ok text =>
      rw [hname] at h
      exact ih h
    | error shape =>
      simp [hname, throw, throwThe, MonadExceptOf.throw, StateT.lift, bind, Except.bind] at h

lemma ofChecked_eq_ok {x : Checked α} {a : α} :
    Reader.ofChecked x s = .ok (a, s') ↔ x = .good a ∧ s = s' := by
  cases x with
  | good a' => simp [Reader.ofChecked]
  | bad issues => simp [Reader.ofChecked]

lemma editing_draw_eq_ok {id : Id} :
    Editing.ofReader Reader.draw s = .ok (id, s') ↔ s.mint s.drawn = id ∧ s.draw.2 = s' := by
  simp [Editing.ofReader, Reader.draw, Supply.draw]

lemma demandEntity_eq_ok {es : List Entity} {id : Option Id} {e : Entity} :
    demandEntity es id s = .ok (e, s') ↔ findEntity? es id = some e ∧ s = s' := by
  rw [demandEntity]
  cases findEntity? es id with
  | none => simp [editing_throw_eq_ok]
  | some e' => simp [supply_pure_eq_ok]

lemma demandField_eq_ok {e : Entity} {id : Option Id} {f : Field} :
    demandField e id s = .ok (f, s') ↔ e.fields.find? (fun f => some f.id == id) = some f ∧ s = s' := by
  rw [demandField]
  cases e.fields.find? fun f => some f.id == id with
  | none => simp [editing_throw_eq_ok]
  | some f' => simp [supply_pure_eq_ok]

end Editing

/-! ## The item that is changed -/

lemma modifyFirst_append {α : Type} {p : α → Bool} {pre post : List α} {x : α}
    (hpre : ∀ y ∈ pre, p y = false) (hx : p x = true) (g : α → α) :
    modifyFirst p g (pre ++ x :: post) = pre ++ g x :: post := by
  induction pre with
  | nil => simp [modifyFirst, hx]
  | cons y pre ih =>
    rw [List.cons_append, modifyFirst, hpre y List.mem_cons_self, if_neg Bool.false_ne_true,
      ih fun z hz => hpre z (List.mem_cons_of_mem y hz)]
    rfl

/-- Changing the first item with a property leaves what stands before and behind it. -/
lemma modifyFirst_eq {α : Type} {p : α → Bool} {xs : List α} {x : α} (h : xs.find? p = some x) :
    ∃ pre post, xs = pre ++ x :: post ∧
      ∀ g : α → α, modifyFirst p g xs = pre ++ g x :: post := by
  obtain ⟨hx, pre, post, rfl, hpre⟩ := List.find?_eq_some_iff_append.mp h
  exact ⟨pre, post, rfl, modifyFirst_append (fun y hy => by simpa using hpre y hy) hx⟩

lemma findEntity?_eq_some {es : List Entity} {id : Option Id} {e : Entity}
    (h : findEntity? es id = some e) : e ∈ es ∧ id = some e.id := by
  refine ⟨List.mem_of_find?_eq_some h, ?_⟩
  have hid := List.find?_some h
  exact (beq_iff_eq.mp hid).symm

/-- Changing the entity that was found leaves all others. -/
lemma modifyEntity_eq {es : List Entity} {id : Option Id} {e : Entity}
    (h : findEntity? es id = some e) :
    ∃ pre post, es = pre ++ e :: post ∧
      ∀ g : Entity → Entity, modifyEntity e.id g es = pre ++ g e :: post := by
  obtain ⟨-, rfl⟩ := findEntity?_eq_some h
  exact modifyFirst_eq h

/-- Changing the field that was found leaves all others. -/
lemma modifyField_eq {fs : List Field} {id : Option Id} {f : Field}
    (h : fs.find? (fun f => some f.id == id) = some f) :
    ∃ pre post, fs = pre ++ f :: post ∧
      ∀ g : Field → Field, modifyFirst (fun x => x.id == f.id) g fs = pre ++ g f :: post := by
  have hid := List.find?_some h
  obtain rfl := beq_iff_eq.mp hid
  exact modifyFirst_eq h

/-! ## Checks -/

/-- The name may be given to the entity with that id, or to a new one: it says something, and no
other entity has it. -/
structure IsFreeName (es : List Entity) (renamed : Option Id) (name : String) : Prop where
  /-- The name is not empty. -/
  named : name ≠ ""
  /-- No other entity has the name. -/
  free : ∀ e ∈ es, some e.id ≠ renamed → Text.foldName e.name ≠ Text.foldName name

/-- The field may stand in the entity, in place of the field with the id `replaced` or as a
new one. -/
structure Field.Fits (es : List Entity) (e : Entity) (replaced : Option Id) (f : Field) : Prop where
  /-- The name is not empty. -/
  named : f.name ≠ ""
  /-- No other field of the entity has the name. -/
  free : ∀ g ∈ e.fields, some g.id ≠ replaced → Text.foldName g.name ≠ Text.foldName f.name
  /-- Its reference points nowhere or at an entity. -/
  linked : ∀ r ∈ f.reference, r.isLinked = true → ∃ t ∈ es, t.id = r.target

lemma validEntityName_eq_ok {es : List Entity} {renamed : Option Id} {name : Value}
    {cleaned : String}
    {s s' : Supply} (h : validEntityName es renamed name s = .ok (cleaned, s')) :
    IsFreeName es renamed cleaned ∧ s = s' := by
  rw [validEntityName] at h
  cases hname : name.nameText with
  | error shape => simp [hname, editing_throw_eq_ok] at h
  | ok text =>
    simp only [hname] at h
    split_ifs at h with hempty
    · obtain ⟨_, _, hthrow, -⟩ := supply_bind_eq_ok.mp h
      exact (editing_throw_eq_ok.mp hthrow).elim
    · cases hother : es.find? fun e =>
          some e.id != renamed && Text.foldName e.name == Text.foldName (cleanEntityName text) with
      | some e => simp [hother, editing_throw_eq_ok] at h
      | none =>
        simp only [hother] at h
        obtain ⟨rfl, hs⟩ := supply_pure_eq_ok.mp h
        refine ⟨⟨hempty, fun e he hid heq => ?_⟩, hs⟩
        have hnot := List.find?_eq_none.mp hother e he
        simp [hid, heq] at hnot

lemma demandFits_eq_ok {es : List Entity} {e : Entity} {replaced : Option Id} {f : Field}
    {s s' : Supply} (h : demandFits es e replaced f s = .ok ((), s')) :
    f.Fits es e replaced ∧ s = s' := by
  rw [demandFits] at h
  split_ifs at h with hempty
  · obtain ⟨_, _, hthrow, -⟩ := supply_bind_eq_ok.mp h
    exact (editing_throw_eq_ok.mp hthrow).elim
  · cases hother : e.fields.find? fun g =>
        some g.id != replaced && Text.foldName g.name == Text.foldName f.name with
    | some g => simp [hother, supply_bind_eq_ok, editing_throw_eq_ok] at h
    | none =>
      simp only [hother] at h
      have hfree : ∀ g ∈ e.fields, some g.id ≠ replaced →
          Text.foldName g.name ≠ Text.foldName f.name := by
        intro g hg hid heq
        have hnot := List.find?_eq_none.mp hother g hg
        simp [hid, heq] at hnot
      cases hreference : f.reference with
      | none =>
        simp only [hreference] at h
        exact ⟨⟨hempty, hfree, by simp [hreference]⟩, (supply_pure_eq_ok.mp h).2⟩
      | some r =>
        simp only [hreference] at h
        split_ifs at h with hlinked
        · obtain ⟨t, s₁, htarget, hend⟩ := supply_bind_eq_ok.mp h
          obtain ⟨hfind, rfl⟩ := demandEntity_eq_ok.mp htarget
          obtain ⟨ht, hid⟩ := findEntity?_eq_some hfind
          refine ⟨⟨hempty, hfree, fun r' hr' _ => ?_⟩, (supply_pure_eq_ok.mp hend).2⟩
          obtain rfl : r = r' := by simpa [hreference] using hr'
          exact ⟨t, ht, (Option.some.inj hid).symm⟩
        · refine ⟨⟨hempty, hfree, fun r' hr' hlinked' => ?_⟩, (supply_pure_eq_ok.mp h).2⟩
          obtain rfl : r = r' := by simpa [hreference] using hr'
          exact absurd hlinked' hlinked

/-! ## Fields that were read -/

lemma seq_eq_good {α β : Type} {g : Checked (α → β)} {x : Checked α} {b : β} :
    g <*> x = .good b ↔ ∃ k a, g = .good k ∧ x = .good a ∧ k a = b := by
  cases g <;> cases x <;> simp [Seq.seq]

lemma map_eq_good {α β : Type} {k : α → β} {x : Checked α} {b : β} :
    k <$> x = .good b ↔ ∃ a, x = .good a ∧ k a = b := by
  cases x <;> simp [Functor.map]

lemma within_eq_good {α : Type} {step : String} {x : Checked α} {a : α}
    (h : x.within step = .good a) : x = .good a := by
  cases x with
  | good a' => exact h
  | bad issues => cases h

lemma isSome_settle (f : Field) : f.settle.reference.isSome = f.settle.isForeign := by
  cases hforeign : f.isForeign <;> simp [Field.settle, hforeign]

/-- A field was read from its attributes one by one. -/
lemma fieldCheck_eq_good {fresh : Id} {as : List (String × Value)} {f : Field}
    (h : Field.check fresh (.record as) = .good f) :
    ∃ id name isPrimary isForeign description reference,
      Checked.optional as "id" fresh.text Checked.text = .good id ∧
      Checked.required as "name" (fun v => .good (cleanFieldName (nameOf v))) = .good name ∧
      Checked.optional as "is_pk" false Checked.flag = .good isPrimary ∧
      Checked.optional as "is_fk" false Checked.flag = .good isForeign ∧
      Checked.optional as "description" none Checked.optionalText = .good description ∧
      Checked.optional as "fk_reference" none Reference.checkOptional = .good reference ∧
      f = Field.settle
        { id := ⟨id⟩, name
          type := ((Value.find? as "type").map FieldType.ofValue).getD .string
          isPrimary, isForeign, description := cleanRemark description, reference } := by
  simp only [Field.check, seq_eq_good, map_eq_good] at h
  obtain ⟨_, reference, ⟨_, description, ⟨_, isForeign, ⟨_, isPrimary, ⟨_, name, ⟨id, hid, rfl⟩,
    hname, rfl⟩, hprimary, rfl⟩, hforeign, rfl⟩, hdescription, rfl⟩, hreference, rfl⟩ := h
  exact ⟨id, name, isPrimary, isForeign, description, reference, hid, hname, hprimary, hforeign,
    hdescription, hreference, rfl⟩

/-- A field that was read is settled, and its id is the one that came with it or else the
fresh one. -/
lemma check_eq_good {fresh : Id} {as : List (String × Value)} {f : Field}
    (h : Field.check fresh (.record as) = .good f) :
    f.reference.isSome = f.isForeign ∧
      Checked.optional as "id" fresh.text Checked.text = .good f.id.text := by
  obtain ⟨id, name, isPrimary, isForeign, description, reference, hid, -, -, -, -, -, rfl⟩ :=
    fieldCheck_eq_good h
  exact ⟨isSome_settle _, hid⟩

/-- What stands under an attribute of a record of which every attribute has been replaced. -/
lemma find?_map_keyed (h : String → Value → Value) (as : List (String × Value)) (name : String) :
    Value.find? (as.map fun a => (a.1, h a.1 a.2)) name = (Value.find? as name).map (h name) := by
  induction as with
  | nil => rfl
  | cons a as ih =>
    rw [List.map_cons, Value.find?, Value.find?, List.find?_cons, List.find?_cons]
    dsimp only
    cases hname : a.1 == name with
    | false => exact ih
    | true =>
      rw [← beq_iff_eq.mp hname]
      rfl

/-- What stands under an attribute that updates may overwrite. -/
lemma find?_overwrite (as updates : List (String × Value)) (name : String) :
    Value.find? (overwrite as updates) name
      = (Value.find? as name).map fun v => (Value.find? updates name).getD v :=
  find?_map_keyed (fun key v => (Value.find? updates key).getD v) as name

/-- The reference of a field after updates; where there is none and the field is a foreign key, it
is one that points nowhere yet. -/
def filledIn (unlinked : Cardinality) (isForeign : Value) : Value → Value
  | .null => if isForeign.isTruthy then (unlinkedReference unlinked).dump else .null
  | v => v

/-- What stands under an attribute of a field after updates. -/
lemma find?_updatedAttributes (unlinked : Cardinality) (f : Field)
    (updates : List (String × Value)) (name : String) :
    Value.find? (updatedAttributes unlinked f updates) name
      = (Value.find? (overwrite f.dump updates) name).map fun v =>
        if name = "fk_reference" then
          filledIn unlinked (Value.get "is_fk" (.record (overwrite f.dump updates))) v
        else v := by
  rw [updatedAttributes]
  generalize overwrite f.dump updates = merged
  rw [← find?_map_keyed (fun key v => if key = "fk_reference" then
    filledIn unlinked (Value.get "is_fk" (.record merged)) v else v)]
  refine congrArg (Value.find? · name) (List.map_congr_left fun a _ => ?_)
  obtain ⟨key, v⟩ := a
  by_cases hkey : key = "fk_reference"
  · subst hkey
    rw [if_pos rfl]
    cases v with
    | null => rw [filledIn]; split_ifs <;> rfl
    | _ => rfl
  · rw [if_neg hkey]
    split
    · rename_i heq
      exact absurd (Prod.mk.inj heq).1 hkey
    · rfl

/-- Updates that are accepted bring no id. -/
lemma find?_id_of_known {updates : List (String × Value)}
    (hknown : ∀ u ∈ updates, u.1 ∈ updatableAttributes) : Value.find? updates "id" = none := by
  rw [Value.find?, Option.map_eq_none_iff, List.find?_eq_none]
  intro u hu heq
  have hmem := hknown u hu
  rw [beq_iff_eq.mp heq] at hmem
  exact absurd hmem (by decide)

/-- A field that is read takes one new id from the supply. -/
lemma readField_eq_ok {v : Value} {f : Field} {s s' : Supply}
    (h : Editing.ofReader (Field.read v) s = .ok (f, s')) :
    Field.check s.draw.1 v = .good f ∧ s.draw.2 = s' := by
  obtain ⟨_, s₁, hnames, h⟩ := supply_bind_eq_ok.mp (ofReader_eq_ok.mp h)
  obtain rfl := demandNames_eq_ok hnames
  obtain ⟨fresh, s₂, hdraw, h⟩ := supply_bind_eq_ok.mp h
  obtain ⟨rfl, rfl⟩ := Prod.mk.inj (Except.ok.inj hdraw)
  exact ofChecked_eq_ok.mp h

/-- The names of a whole model are accepted, or one is empty, or two are the same but for case. -/
lemma demandDistinct_cases (seen : List String) (es : List Entity) (s : Supply) :
    (demandDistinct seen es s = .ok ((), s) ∧ (∀ e ∈ es, e.name ≠ "") ∧
        (es.map fun e => Text.foldName e.name).Nodup ∧
        ∀ n ∈ seen, ∀ e ∈ es, Text.foldName n ≠ Text.foldName e.name) ∨
      (demandDistinct seen es s = .error .emptyEntityName ∧ ∃ e ∈ es, e.name = "") ∨
      (∃ first second, demandDistinct seen es s = .error (.sameButForCase first second) ∧
        ¬ ((es.map fun e => Text.foldName e.name).Nodup ∧
          ∀ n ∈ seen, ∀ e ∈ es, Text.foldName n ≠ Text.foldName e.name)) := by
  induction es generalizing seen with
  | nil => exact Or.inl ⟨rfl, by simp, by simp, by simp⟩
  | cons e es ih =>
    rw [demandDistinct]
    by_cases hempty : e.name = ""
    · exact Or.inr (Or.inl ⟨by rw [if_pos hempty]; rfl, e, List.mem_cons_self, hempty⟩)
    · rw [if_neg hempty]
      cases hsame : seen.find? fun n => Text.foldName n == Text.foldName e.name with
      | some n =>
        refine Or.inr (Or.inr ⟨n, e.name, rfl, fun h => ?_⟩)
        have hname := List.find?_some hsame
        exact h.2 n (List.mem_of_find?_eq_some hsame) e List.mem_cons_self (beq_iff_eq.mp hname)
      | none =>
        have hseen : ∀ n ∈ seen, Text.foldName n ≠ Text.foldName e.name := fun n hn heq =>
          List.find?_eq_none.mp hsame n hn (beq_iff_eq.mpr heq)
        have hiff : ((es.map fun e => Text.foldName e.name).Nodup ∧
            ∀ n ∈ seen ++ [e.name], ∀ e ∈ es, Text.foldName n ≠ Text.foldName e.name) ↔
            (((e :: es).map fun e => Text.foldName e.name).Nodup ∧
              ∀ n ∈ seen, ∀ e' ∈ e :: es, Text.foldName n ≠ Text.foldName e'.name) := by
          simp only [List.map_cons, List.nodup_cons, List.mem_map, List.mem_append,
            List.mem_cons, List.not_mem_nil, or_false, not_exists, not_and]
          constructor
          · rintro ⟨hnodup, hall⟩
            refine ⟨⟨fun x hx heq => hall e.name (Or.inr rfl) x hx heq.symm, hnodup⟩, ?_⟩
            rintro n hn e' (rfl | he')
            · exact hseen n hn
            · exact hall n (Or.inl hn) e' he'
          · rintro ⟨⟨hnew, hnodup⟩, hall⟩
            refine ⟨hnodup, ?_⟩
            rintro n (hn | rfl) e' he' heq
            · exact hall n hn e' (Or.inr he') heq
            · exact hnew e' he' heq.symm
        show (demandDistinct (seen ++ [e.name]) es s = _ ∧ _) ∨ _ ∨ _
        rcases ih (seen ++ [e.name]) with ⟨hok, hnamed, hdistinct⟩ | ⟨herror, e', he', hname⟩ |
            ⟨first, second, herror, hnot⟩
        · refine Or.inl ⟨hok, ?_, hiff.mp hdistinct⟩
          rintro e' (_ | ⟨_, he'⟩)
          · exact hempty
          · exact hnamed e' he'
        · exact Or.inr (Or.inl ⟨herror, e', List.mem_cons_of_mem e he', hname⟩)
        · exact Or.inr (Or.inr ⟨first, second, herror, fun h => hnot (hiff.mpr h)⟩)

/-! ## Edits one by one -/

/-- The entities that an edit puts in place of all others. -/
def Edit.given : Edit → List Entity
  | .setEntities es => es
  | _ => []

/-- The edit adds an entity. -/
def Edit.isAddition : Edit → Bool
  | .addEntity _ => true
  | _ => false

/-- How an edit of the entities `es` is made: what was checked, and the entities and the supply
afterwards. -/
inductive Edit.Made (unlinked : Cardinality) (es : List Entity) (s : Supply) :
    Edit → List Entity → Supply → Prop
  | addEntity {value : Value} {name : String} (free : IsFreeName es none name) :
    Made unlinked es s (.addEntity value) (es ++ [{ id := s.draw.1, name }]) s.draw.2
  | renameEntity {id : Option Id} {value : Value} {e : Entity} {name : String}
      (found : findEntity? es id = some e) (free : IsFreeName es id name) :
    Made unlinked es s (.renameEntity id value)
      (modifyEntity e.id (fun _ => { e with name }) es) s
  | deleteEntity {id : Option Id} {e : Entity} (found : findEntity? es id = some e) :
    Made unlinked es s (.deleteEntity id)
      (unlinkEntity e.id (es.eraseP fun x => x.id == e.id)) s
  | addField {id : Option Id} {attributes : NewField} {e : Entity} {f : Field}
      (found : findEntity? es id = some e)
      (read : Field.check s.draw.1 (.record (attributes.attributes unlinked)) = .good f)
      (fits : f.Fits es e none) :
    Made unlinked es s (.addField id attributes)
      (modifyEntity e.id (fun e => { e with fields := e.fields ++ [f] }) es) s.draw.2
  | updateField {id fieldId : Option Id} {updates : List (String × Value)} {e : Entity}
      {f updated : Field} (found : findEntity? es id = some e)
      (foundField : e.fields.find? (fun f => some f.id == fieldId) = some f)
      (known : ∀ u ∈ updates, u.1 ∈ updatableAttributes)
      (read : Field.check s.draw.1 (.record (updatedAttributes unlinked f updates)) = .good updated)
      (fits : updated.Fits es e fieldId) :
    Made unlinked es s (.updateField id fieldId updates)
      (modifyEntity e.id
        (fun e => { e with fields := modifyFirst (fun g => g.id == f.id) (fun _ => updated) e.fields })
        es) s.draw.2
  | deleteField {id fieldId : Option Id} {e : Entity} {f : Field}
      (found : findEntity? es id = some e)
      (foundField : e.fields.find? (fun f => some f.id == fieldId) = some f) :
    Made unlinked es s (.deleteField id fieldId)
      (unlinkField f.id
        (modifyEntity e.id (fun e => { e with fields := e.fields.eraseP fun g => g.id == f.id }) es)) s
  | setEntities {replacement : List Entity} (named : ∀ e ∈ replacement, e.name ≠ "")
      (distinct : (replacement.map fun e => Text.foldName e.name).Nodup) :
    Made unlinked es s (.setEntities replacement) (unlinkStrangers replacement) s

/-- **An edit that is not refused was made in this way.** -/
theorem made_of_run {unlinked : Cardinality} {es es' : List Entity} {edit : Edit} {edited : Edited}
    {s s' : Supply} (h : edit.run unlinked es s = .ok ((es', edited), s')) :
    edit.Made unlinked es s es' s' := by
  cases edit with
  | addEntity value =>
    obtain ⟨name, s₁, hname, h⟩ := supply_bind_eq_ok.mp h
    obtain ⟨hfree, rfl⟩ := validEntityName_eq_ok hname
    obtain ⟨id, s₂, hdraw, h⟩ := supply_bind_eq_ok.mp h
    obtain ⟨rfl, rfl⟩ := editing_draw_eq_ok.mp hdraw
    obtain ⟨hes, rfl⟩ := supply_pure_eq_ok.mp h
    obtain ⟨rfl, -⟩ := Prod.mk.inj hes
    exact .addEntity hfree
  | renameEntity id value =>
    obtain ⟨e, s₁, hdemand, h⟩ := supply_bind_eq_ok.mp h
    obtain ⟨hfound, rfl⟩ := demandEntity_eq_ok.mp hdemand
    obtain ⟨name, s₂, hname, h⟩ := supply_bind_eq_ok.mp h
    obtain ⟨hfree, rfl⟩ := validEntityName_eq_ok hname
    obtain ⟨hes, rfl⟩ := supply_pure_eq_ok.mp h
    obtain ⟨rfl, -⟩ := Prod.mk.inj hes
    exact .renameEntity hfound hfree
  | deleteEntity id =>
    obtain ⟨e, s₁, hdemand, h⟩ := supply_bind_eq_ok.mp h
    obtain ⟨hfound, rfl⟩ := demandEntity_eq_ok.mp hdemand
    obtain ⟨hes, rfl⟩ := supply_pure_eq_ok.mp h
    obtain ⟨rfl, -⟩ := Prod.mk.inj hes
    exact .deleteEntity hfound
  | addField id attributes =>
    obtain ⟨e, s₁, hdemand, h⟩ := supply_bind_eq_ok.mp h
    obtain ⟨hfound, rfl⟩ := demandEntity_eq_ok.mp hdemand
    obtain ⟨f, s₂, hread, h⟩ := supply_bind_eq_ok.mp h
    obtain ⟨hcheck, rfl⟩ := readField_eq_ok hread
    obtain ⟨_, s₃, hallowed, h⟩ := supply_bind_eq_ok.mp h
    obtain ⟨hfits, rfl⟩ := demandFits_eq_ok hallowed
    obtain ⟨hes, rfl⟩ := supply_pure_eq_ok.mp h
    obtain ⟨rfl, -⟩ := Prod.mk.inj hes
    exact .addField hfound hcheck hfits
  | updateField id fieldId updates =>
    obtain ⟨e, s₁, hdemand, h⟩ := supply_bind_eq_ok.mp h
    obtain ⟨hfound, rfl⟩ := demandEntity_eq_ok.mp hdemand
    obtain ⟨f, s₂, hfield, h⟩ := supply_bind_eq_ok.mp h
    obtain ⟨hfieldFound, rfl⟩ := demandField_eq_ok.mp hfield
    dsimp only at h
    split_ifs at h with hunknown
    · obtain ⟨_, _, hthrow, -⟩ := supply_bind_eq_ok.mp h
      exact (editing_throw_eq_ok.mp hthrow).elim
    · obtain ⟨updated, s₃, hread, h⟩ := supply_bind_eq_ok.mp h
      obtain ⟨hcheck, rfl⟩ := readField_eq_ok hread
      obtain ⟨_, s₄, hallowed, h⟩ := supply_bind_eq_ok.mp h
      obtain ⟨hfits, rfl⟩ := demandFits_eq_ok hallowed
      obtain ⟨hes, rfl⟩ := supply_pure_eq_ok.mp h
      obtain ⟨rfl, -⟩ := Prod.mk.inj hes
      have hnone : (updates.map (·.1)).filter (fun a => !updatableAttributes.contains a) = [] := by
        simpa using hunknown
      refine .updateField hfound hfieldFound (fun u hu => ?_) hcheck hfits
      have hknown := List.filter_eq_nil_iff.mp hnone u.1 (List.mem_map.mpr ⟨u, hu, rfl⟩)
      simpa using hknown
  | deleteField id fieldId =>
    obtain ⟨e, s₁, hdemand, h⟩ := supply_bind_eq_ok.mp h
    obtain ⟨hfound, rfl⟩ := demandEntity_eq_ok.mp hdemand
    obtain ⟨f, s₂, hfield, h⟩ := supply_bind_eq_ok.mp h
    obtain ⟨hfieldFound, rfl⟩ := demandField_eq_ok.mp hfield
    obtain ⟨hes, rfl⟩ := supply_pure_eq_ok.mp h
    obtain ⟨rfl, -⟩ := Prod.mk.inj hes
    exact .deleteField hfound hfieldFound
  | setEntities replacement =>
    obtain ⟨_, s₁, hdistinct, h⟩ := supply_bind_eq_ok.mp h
    obtain ⟨hes, rfl⟩ := supply_pure_eq_ok.mp h
    obtain ⟨rfl, -⟩ := Prod.mk.inj hes
    rcases demandDistinct_cases [] replacement s with ⟨hok, hnamed, hnodup, -⟩ | ⟨herror, -⟩ |
        ⟨_, _, herror, -⟩
    · rw [hok] at hdistinct
      obtain ⟨-, rfl⟩ := Prod.mk.inj (Except.ok.inj hdistinct)
      exact .setEntities hnamed hnodup
    · simp [herror] at hdistinct
    · simp [herror] at hdistinct

/-! ## Ids afterwards -/

lemma map_id_mapReferences (g : Reference → Reference) (es : List Entity) :
    (es.map (·.mapReferences g)).map Entity.id = es.map Entity.id := by
  rw [List.map_map]
  rfl

lemma map_id_replace {pre post : List Entity} {e e' : Entity} (hid : e'.id = e.id) :
    (pre ++ e' :: post).map Entity.id = (pre ++ e :: post).map Entity.id := by
  simp [hid]

lemma nodup_id_replace {pre post : List Entity} {e e' : Entity}
    (h : ((pre ++ e :: post).map Entity.id).Nodup) (hid : e'.id = e.id) :
    ((pre ++ e' :: post).map Entity.id).Nodup := by
  rwa [map_id_replace hid]

/-- The entities have distinct ids after an edit, if a new entity gets a new id. -/
lemma nodup_ids_of_made {unlinked : Cardinality} {es es' : List Entity} {edit : Edit}
    {s s' : Supply}
    (h : (es.map Entity.id).Nodup) (hmade : edit.Made unlinked es s es' s')
    (hnew : edit.isAddition = true → s.draw.1 ∉ es.map Entity.id)
    (hset : (edit.given.map Entity.id).Nodup) : (es'.map Entity.id).Nodup := by
  cases hmade with
  | @addEntity value name free =>
    rw [List.map_append, List.nodup_append]
    refine ⟨h, List.nodup_singleton _, fun id hid id' hid' heq => ?_⟩
    rw [heq, List.mem_singleton.mp hid'] at hid
    exact hnew rfl hid
  | @renameEntity id value e name found free =>
    obtain ⟨pre, post, rfl, hmodify⟩ := modifyEntity_eq found
    rw [hmodify]
    exact nodup_id_replace h rfl
  | @deleteEntity id e found =>
    rw [unlinkEntity, map_id_mapReferences]
    exact h.sublist (List.eraseP_sublist.map Entity.id)
  | @addField id attributes e f found read fits =>
    obtain ⟨pre, post, rfl, hmodify⟩ := modifyEntity_eq found
    rw [hmodify]
    exact nodup_id_replace h rfl
  | @updateField id fieldId updates e f updated found foundField known read fits =>
    obtain ⟨pre, post, rfl, hmodify⟩ := modifyEntity_eq found
    rw [hmodify]
    exact nodup_id_replace h rfl
  | @deleteField id fieldId e f found foundField =>
    obtain ⟨pre, post, rfl, hmodify⟩ := modifyEntity_eq found
    rw [hmodify, unlinkField, map_id_mapReferences]
    exact nodup_id_replace h rfl
  | @setEntities replacement named distinct =>
    rw [unlinkStrangers, map_id_mapReferences]
    exact hset

/-! ## Stores -/

/-- An edit that depends on no version is made on the store if it can be made on its entities. -/
lemma apply_of_run {unlinked : Cardinality} {edit : Edit} {s : Store} {es : List Entity}
    {edited : Edited} {supply supply' : Supply}
    (h : edit.run unlinked s.entities supply = .ok ((es, edited), supply')) :
    s.apply unlinked none edit supply
      = .ok (({ entities := es, version := s.version + 1 }, edited), supply') :=
  supply_bind_eq_ok.mpr ⟨(es, edited), supply', h, rfl⟩

lemma apply_of_run_error {unlinked : Cardinality} {edit : Edit} {s : Store} {f : Fault}
    {supply : Supply} (h : edit.run unlinked s.entities supply = .error f) :
    s.apply unlinked none edit supply = .error f := by
  have hbind : s.apply unlinked none edit supply = (edit.run unlinked s.entities >>= fun r =>
      (pure ({ entities := r.1, version := s.version + 1 }, r.2) : Editing (Store × Edited)))
        supply := rfl
  rw [hbind]
  simp only [bind, StateT.bind, h, Except.bind]

/-- What an accepted edit makes of a store. -/
lemma apply_eq_ok {unlinked : Cardinality} {expected : Option Int} {edit : Edit} {s s' : Store}
    {edited : Edited} {supply supply' : Supply}
    (h : s.apply unlinked expected edit supply = .ok ((s', edited), supply')) :
    edit.run unlinked s.entities supply = .ok ((s'.entities, edited), supply') ∧
      s'.version = s.version + 1 := by
  have hmade : (edit.run unlinked s.entities >>= fun r =>
      (pure ({ entities := r.1, version := s.version + 1 }, r.2) : Editing (Store × Edited))) supply
        = .ok ((s', edited), supply') := by
    cases expected with
    | none => exact h
    | some v =>
      by_cases hv : v = s.version
      · subst hv
        simp only [Store.apply, ne_eq, not_true_eq_false, if_false] at h
        exact h
      · simp only [Store.apply, ne_eq, hv, not_false_eq_true, if_true] at h
        obtain ⟨_, _, hthrow, -⟩ := supply_bind_eq_ok.mp h
        exact (editing_throw_eq_ok.mp hthrow).elim
  obtain ⟨r, s₁, hrun, hend⟩ := supply_bind_eq_ok.mp hmade
  obtain ⟨hstore, rfl⟩ := supply_pure_eq_ok.mp hend
  obtain ⟨rfl, rfl⟩ := Prod.mk.inj hstore
  exact ⟨hrun, rfl⟩

end DiagramSync
