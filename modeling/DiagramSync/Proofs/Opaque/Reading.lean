import DiagramSync.Proofs.Opaque.Model
import DiagramSync.Proofs.Store.Edits
import Mathlib.Data.List.Forall2

/-!
# Reading loose values under other ids

In a loose record the ids are the texts under certain attributes.  Whatever stands under another
attribute is read without regard to the ids in it, so that a record under other ids is read as what
it was, under other ids; and where it is refused, it is refused for the same reason.

* `Value.mapUnder`, `find?_mapAttributes` — what stands under an attribute, under other ids
* `map_read_congr` — what is read without regard to ids
* `Checked.Alike` — two readings that agree on the issues; `Alike.seq`, `Alike.collect`
* `Draws` — two computations that draw ids and agree but for these; `Draws.bind`
* `fieldCheck_alike`, `entityCheck_alike` — the attributes of a record
* **`readField_draws`**, **`readAll_draws`** — fields and entities
-/

namespace DiagramSync

variable {g : Id → Id}

/-! ## Attributes -/

/-- What stands under the attribute of that name, with the ids in it replaced by their images. -/
def Value.mapUnder (g : Id → Id) (name : String) : Value → Value
  | .text s => if idAttributes.contains name then .text (g ⟨s⟩).text else .text s
  | v => v.mapIds g

/-- The attributes of a record with the ids in them replaced by their images. -/
def Value.mapAttributes (g : Id → Id) (as : List (String × Value)) : List (String × Value) :=
  Value.renameAttributes idAttributes (fun s => (g ⟨s⟩).text) as

lemma mapAttributes_cons (name : String) (v : Value) (as : List (String × Value)) :
    Value.mapAttributes g ((name, v) :: as)
      = (name, v.mapUnder g name) :: Value.mapAttributes g as := by
  cases v <;> rfl

lemma mapAttributes_eq (as : List (String × Value)) :
    Value.mapAttributes g as = as.map fun a => (a.1, a.2.mapUnder g a.1) := by
  induction as with
  | nil => rfl
  | cons a as ih => rw [mapAttributes_cons, ih, List.map_cons]

/-- A record under other ids has the same attributes, under other ids. -/
lemma find?_mapAttributes (as : List (String × Value)) (name : String) :
    Value.find? (Value.mapAttributes g as) name
      = (Value.find? as name).map (·.mapUnder g name) := by
  rw [mapAttributes_eq]
  exact find?_map_keyed (fun key v => v.mapUnder g key) as name

/-- Only texts under certain attributes are ids. -/
lemma mapUnder_of_not_id {name : String} (hname : idAttributes.contains name = false) (v : Value) :
    v.mapUnder g name = v.mapIds g := by
  cases v with
  | text s =>
    rw [Value.mapUnder, hname, if_neg Bool.false_ne_true]
    rfl
  | _ => rfl

lemma find?_mapAttributes_plain (as : List (String × Value)) (name : String)
    (hname : idAttributes.contains name = false) :
    Value.find? (Value.mapAttributes g as) name = (Value.find? as name).map (·.mapIds g) := by
  rw [find?_mapAttributes]
  exact congrArg (Option.map · _) (funext fun v => mapUnder_of_not_id hname v)

lemma mapIds_record (as : List (String × Value)) :
    (Value.record as).mapIds g
      = .record (Value.mapAttributes g as) := rfl

lemma mapItems (vs : List Value) :
    Value.renameItems idAttributes (fun s => (g ⟨s⟩).text) vs = vs.map (·.mapIds g) := by
  induction vs with
  | nil => rfl
  | cons v vs ih =>
    rw [Value.renameItems, ih]
    rfl

lemma mapIds_list (vs : List Value) :
    (Value.list vs).mapIds g = .list (vs.map (·.mapIds g)) :=
  congrArg Value.list (mapItems vs)

/-- The attribute of that name of any value under other ids. -/
lemma get_mapIds {name : String} (hname : idAttributes.contains name = false) (v : Value) :
    (v.mapIds g).get name = (v.get name).mapIds g := by
  cases v with
  | record as =>
    rw [mapIds_record, Value.get, Value.get, Value.lookup?, Value.lookup?, find?_mapAttributes]
    cases Value.find? as name with
    | none => rfl
    | some v => exact mapUnder_of_not_id hname v
  | _ => rfl

/-! ## Values without regard to ids -/

section Surface

variable (g) (v : Value)

lemma nameText_mapIds : (v.mapIds g).nameText = v.nameText := by
  cases v with
  | list vs => cases vs <;> rfl
  | record as => cases as <;> rfl
  | _ => rfl

lemma nameOf_mapIds : nameOf (v.mapIds g) = nameOf v := by
  rw [nameOf, nameOf, nameText_mapIds]

lemma isTruthy_mapIds : (v.mapIds g).isTruthy = v.isTruthy := by
  cases v with
  | list vs => cases vs <;> rfl
  | record as => cases as <;> rfl
  | _ => rfl

lemma typeOf_mapIds : FieldType.ofValue (v.mapIds g) = FieldType.ofValue v := by
  cases v <;> rfl

lemma flag_mapIds : Checked.flag (v.mapIds g) = Checked.flag v := by
  cases v <;> rfl

lemma optionalText_mapIds : Checked.optionalText (v.mapIds g) = Checked.optionalText v := by
  cases v <;> rfl

lemma word_mapIds {α : Type} (ofWord? : String → Option α) :
    Checked.word ofWord? (v.mapIds g) = Checked.word ofWord? v := by
  cases v <;> rfl

end Surface

/-- What stands under two attributes is read alike without regard to ids, if it is the same or the
same under other ids. -/
lemma map_read_congr {α : Type} (read : Value → α)
    (hread : ∀ v, read (v.mapIds g) = read v) {o o' : Option Value}
    (h : o' = o ∨ o' = o.map (·.mapIds g)) : o'.map read = o.map read := by
  rcases h with rfl | rfl
  · rfl
  · rw [Option.map_map]
    exact congrArg (o.map ·) (funext hread)

/-! ## Readings that agree -/

namespace Checked

variable {α α' β β' : Type}

/-- Two readings find the same issues, or values that are related. -/
inductive Alike (R : α → α' → Prop) : Checked α → Checked α' → Prop
  | good {a : α} {a' : α'} (h : R a a') : Alike R (.good a) (.good a')
  | bad (issues : List Issue) : Alike R (.bad issues) (.bad issues)

namespace Alike

variable {R : α → α' → Prop} {S : β → β' → Prop}

lemma of_eq (x : Checked α) : Alike Eq x x := by
  cases x with
  | good a => exact .good rfl
  | bad issues => exact .bad issues

lemma imp {Q : α → α' → Prop} {x : Checked α} {x' : Checked α'} (hx : Alike R x x')
    (h : ∀ a a', R a a' → Q a a') : Alike Q x x' := by
  cases hx with
  | good hr => exact .good (h _ _ hr)
  | bad issues => exact .bad issues

lemma map {k : α → β} {k' : α' → β'} {x : Checked α} {x' : Checked α'}
    (hk : ∀ a a', R a a' → S (k a) (k' a')) (hx : Alike R x x') :
    Alike S (k <$> x) (k' <$> x') := by
  cases hx with
  | good h => exact .good (hk _ _ h)
  | bad issues => exact .bad issues

lemma seq {x : Checked α} {x' : Checked α'} {k : Checked (α → β)} {k' : Checked (α' → β')}
    (hk : Alike (fun f f' => ∀ a a', R a a' → S (f a) (f' a')) k k') (hx : Alike R x x') :
    Alike S (k <*> x) (k' <*> x') := by
  cases hk with
  | good hf =>
    cases hx with
    | good h => exact .good (hf _ _ h)
    | bad issues => exact .bad issues
  | bad issues =>
    cases hx with
    | good _ => exact .bad issues
    | bad issues' => exact .bad (issues ++ issues')

lemma within {x : Checked α} {x' : Checked α'} (hx : Alike R x x') (step : String) :
    Alike R (x.within step) (x'.within step) := by
  cases hx with
  | good h => exact .good h
  | bad issues => exact .bad _

/-- Lists are read alike if their items are. -/
lemma collect {xs : List (Checked α)} {xs' : List (Checked α')}
    (hxs : List.Forall₂ (Alike R) xs xs') (position : Nat) :
    Alike (List.Forall₂ R) (Checked.collect position xs) (Checked.collect position xs') := by
  induction hxs generalizing position with
  | nil => exact .good .nil
  | cons hx _ ih =>
    refine seq (map ?_ (hx.within (toString position))) (ih (position + 1))
    exact fun a a' h as as' hs => .cons h hs

end Alike

lemma optional_eq (as : List (String × Value)) (name : String) (default : α)
    (read : Value → Checked α) : Checked.optional as name default read
      = ((Value.find? as name).map fun v => (read v).within name).getD (.good default) := by
  rw [Checked.optional]
  cases Value.find? as name <;> rfl

lemma required_eq (as : List (String × Value)) (name : String) (read : Value → Checked α) :
    Checked.required as name read
      = ((Value.find? as name).map fun v => (read v).within name).getD
        (.issue [name] .missing) := by
  rw [Checked.required]
  cases Value.find? as name <;> rfl

section Plain

variable {as as' : List (String × Value)} {name : String} (read : Value → Checked α)
  (hread : ∀ v, read (v.mapIds g) = read v)
  (hfind : Value.find? as' name = Value.find? as name ∨
    Value.find? as' name = (Value.find? as name).map (·.mapIds g))
include hread hfind

/-- What is read without regard to ids is read alike whether or not the ids are replaced. -/
lemma optional_alike (default : α) :
    Alike Eq (Checked.optional as name default read) (Checked.optional as' name default read) := by
  have hmap := map_read_congr (fun v => (read v).within name)
    (fun v => congrArg (Checked.within name) (hread v)) hfind
  rw [optional_eq, optional_eq, hmap]
  exact .of_eq _

/-- The same for an attribute that must be present. -/
lemma required_alike :
    Alike Eq (Checked.required as name read) (Checked.required as' name read) := by
  have hmap := map_read_congr (fun v => (read v).within name)
    (fun v => congrArg (Checked.within name) (hread v)) hfind
  rw [required_eq, required_eq, hmap]
  exact .of_eq _

end Plain

/-- An id that a record brings, or the one that it is given, is read under its other id. -/
lemma id_alike {as as' : List (String × Value)} {name : String}
    (hname : idAttributes.contains name = true)
    (hfind : Value.find? as' name = (Value.find? as name).map (·.mapUnder g name)) (default : Id) :
    Alike (fun s s' => (g ⟨s⟩).text = s') (Checked.optional as name default.text Checked.text)
      (Checked.optional as' name (g default).text Checked.text) := by
  rw [Checked.optional, Checked.optional, hfind]
  cases Value.find? as name with
  | none => exact .good rfl
  | some v =>
    cases v with
    | text s =>
      simp only [Option.map_some, Value.mapUnder, hname, if_true]
      exact .good rfl
    | _ => exact .bad _

end Checked

/-! ## References -/

open Checked in
/-- A reference under other ids is read as the reference under other ids. -/
lemma referenceCheck_alike (hg : IsRelabeling g) (v : Value) :
    Alike (fun r r' => r.mapIds g = r') (Reference.check v) (Reference.check (v.mapIds g)) := by
  cases v with
  | record as =>
    have htarget := id_alike (g := g) (by decide) (find?_mapAttributes as "target_entity_id")
      Id.unresolved
    have hfield := id_alike (g := g) (by decide) (find?_mapAttributes as "target_field_id")
      Id.unresolved
    have hcardinality := optional_alike _ (word_mapIds g · Cardinality.ofWord?)
      (Or.inr (find?_mapAttributes_plain as "cardinality" rfl)) .manyToOne
    have hlabel := optional_alike Checked.optionalText (optionalText_mapIds g)
      (Or.inr (find?_mapAttributes_plain as "relationship_label" rfl)) none
    rw [hg.unresolved] at htarget hfield
    rw [mapIds_record, Reference.check, Reference.check]
    refine (((Alike.map ?_ htarget).seq hfield).seq hcardinality).seq hlabel
    rintro t _ rfl k _ rfl c _ rfl l _ rfl
    rfl
  | _ => exact .bad _

open Checked in
lemma referenceCheckOptional_alike (hg : IsRelabeling g) (v : Value) :
    Alike (fun r r' => r.map (·.mapIds g) = r') (Reference.checkOptional v)
      (Reference.checkOptional (v.mapIds g)) := by
  cases v with
  | null => exact .good rfl
  | _ => exact .map (fun r r' h => congrArg some h) (referenceCheck_alike hg _)

/-- A reference under other ids is written as what it was written as, under other ids. -/
lemma dump_mapIds (r : Reference) : (r.mapIds g).dump = r.dump.mapIds g := by
  obtain ⟨t, k, c, label⟩ := r
  cases label <;> rfl

/-! ## Fields and entities -/

/-- The attributes of a field of which ids are no part. -/
def plainAttributes : List String :=
  ["name", "type", "is_pk", "is_fk", "description"]

/-- The second record is that of the same field under other ids; what its plain attributes say of
ids does not matter. -/
structure IsFieldUnder (g : Id → Id) (as as' : List (String × Value)) : Prop where
  /-- The id is under other ids. -/
  id : Value.find? as' "id" = (Value.find? as "id").map (·.mapUnder g "id")
  /-- The plain attributes are the same, perhaps under other ids. -/
  plain : ∀ name ∈ plainAttributes, Value.find? as' name = Value.find? as name ∨
    Value.find? as' name = (Value.find? as name).map (·.mapIds g)
  /-- The reference is under other ids. -/
  reference : Value.find? as' "fk_reference" = (Value.find? as "fk_reference").map (·.mapIds g)

lemma isFieldUnder_mapAttributes (as : List (String × Value)) :
    IsFieldUnder g as (Value.mapAttributes g as) := by
  have hplain : ∀ name ∈ plainAttributes, idAttributes.contains name = false := by decide
  exact ⟨find?_mapAttributes as "id",
    fun name hname => Or.inr (find?_mapAttributes_plain as name (hplain name hname)),
    find?_mapAttributes_plain as _ rfl⟩

lemma settle_mapIds (hg : IsRelabeling g) (f : Field) :
    f.settle.mapIds g = (f.mapIds g).settle := by
  have hdefault : (({} : Reference).mapIds g) = {} := by
    simp only [Reference.mapIds, hg.unresolved]
  rw [Field.settle, Field.settle, Field.mapIds, Field.mapIds]
  dsimp only
  split_ifs
  · cases f.reference with
    | none => simp only [Option.getD_none, Option.map_some, Option.map_none, hdefault]
    | some r => rfl
  · rfl

open Checked in
/-- The record of a field under other ids is read as the field under other ids. -/
lemma fieldCheck_alike (hg : IsRelabeling g) {as as' : List (String × Value)}
    (h : IsFieldUnder g as as') (fresh : Id) :
    Alike (fun f f' => f.mapIds g = f') (Field.check fresh (.record as))
      (Field.check (g fresh) (.record as')) := by
  have hid := id_alike (by decide) h.id fresh
  have hname := required_alike (fun v => .good (cleanFieldName (nameOf v)))
    (fun v => by rw [nameOf_mapIds]) (h.plain "name" (by decide))
  have hprimary := optional_alike Checked.flag (flag_mapIds g) (h.plain "is_pk" (by decide)) false
  have hforeign := optional_alike Checked.flag (flag_mapIds g) (h.plain "is_fk" (by decide)) false
  have hdescription := optional_alike Checked.optionalText (optionalText_mapIds g)
    (h.plain "description" (by decide)) none
  have htype : (Value.find? as' "type").map FieldType.ofValue
      = (Value.find? as "type").map FieldType.ofValue :=
    map_read_congr FieldType.ofValue (typeOf_mapIds g) (h.plain "type" (by decide))
  have hreference : Alike (fun r r' => r.map (·.mapIds g) = r')
      (Checked.optional as "fk_reference" none Reference.checkOptional)
      (Checked.optional as' "fk_reference" none Reference.checkOptional) := by
    rw [Checked.optional, Checked.optional, h.reference]
    cases Value.find? as "fk_reference" with
    | none => exact .good rfl
    | some v => exact (referenceCheckOptional_alike hg v).within _
  rw [Field.check, Field.check, htype]
  refine (((((Alike.map ?_ hid).seq hname).seq hprimary).seq hforeign).seq hdescription).seq
    hreference
  rintro id _ rfl name _ rfl isPrimary _ rfl isForeign _ rfl description _ rfl reference _ rfl
  exact settle_mapIds hg _

open Checked in
lemma fieldCheck_mapIds (hg : IsRelabeling g) (fresh : Id) (v : Value) :
    Alike (fun f f' => f.mapIds g = f') (Field.check fresh v)
      (Field.check (g fresh) (v.mapIds g)) := by
  cases v with
  | record as => exact fieldCheck_alike hg (isFieldUnder_mapAttributes as) fresh
  | _ => exact .bad _

open Checked in
lemma checkFields_mapIds (hg : IsRelabeling g) (fresh : List Id) (v : Value) :
    Alike (fun fs fs' => fs.map (·.mapIds g) = fs') (Entity.checkFields fresh v)
      (Entity.checkFields (fresh.map g) (v.mapIds g)) := by
  cases v with
  | list vs =>
    have hitems : List.Forall₂ (Alike fun f f' => f.mapIds g = f')
        ((fresh.zip vs).map fun p => Field.check p.1 p.2)
        (((fresh.map g).zip (vs.map (·.mapIds g))).map fun p => Field.check p.1 p.2) := by
      rw [List.zip_map, List.map_map, List.forall₂_map_left_iff, List.forall₂_map_right_iff,
        List.forall₂_same]
      exact fun p _ => fieldCheck_mapIds hg p.1 p.2
    rw [mapIds_list, Entity.checkFields, Entity.checkFields]
    have hcollect := Alike.collect hitems 0
    refine hcollect.imp fun fs fs' hfs => ?_
    rwa [← List.forall₂_eq_eq_eq, List.forall₂_map_left_iff]
  | _ => exact .bad _

open Checked in
/-- The record of an entity under other ids is read as the entity under other ids. -/
lemma entityCheck_mapIds (hg : IsRelabeling g) (fresh : Id) (freshFields : List Id) (v : Value) :
    Alike (fun e e' => e.mapIds g = e') (Entity.check fresh freshFields v)
      (Entity.check (g fresh) (freshFields.map g) (v.mapIds g)) := by
  cases v with
  | record as =>
    have hid := id_alike (g := g) (by decide) (find?_mapAttributes as "id") fresh
    have hname := required_alike (fun v => .good (cleanEntityName (nameOf v)))
      (fun v => by rw [nameOf_mapIds g]) (Or.inr (find?_mapAttributes_plain as "name" rfl))
    have hfields : Alike (fun fs fs' => fs.map (·.mapIds g) = fs')
        (Checked.optional as "fields" [] (Entity.checkFields freshFields))
        (Checked.optional (Value.mapAttributes g as) "fields" []
          (Entity.checkFields (freshFields.map g))) := by
      rw [Checked.optional, Checked.optional, find?_mapAttributes_plain as "fields" rfl]
      cases Value.find? as "fields" with
      | none => exact .good rfl
      | some v => exact (checkFields_mapIds hg freshFields v).within _
    rw [mapIds_record, Entity.check, Entity.check]
    refine ((Alike.map ?_ hid).seq hname).seq hfields
    rintro id _ rfl name _ rfl fields _ rfl
    rfl
  | _ => exact .bad _

/-! ## Computations that draw ids -/

/-- Two computations draw ids and go alike: from the supply under other ids, the second one gives
the image of what the first one gives, or fails for the image of its reason. -/
def Draws {ε α β : Type} (g : Id → Id) (φ : ε → ε) (f : α → β) (x : StateT Supply (Except ε) α)
    (y : StateT Supply (Except ε) β) : Prop :=
  ∀ s : Supply, y (s.mapIds g) = match x s with
    | .ok (a, t) => .ok (f a, t.mapIds g)
    | .error e => .error (φ e)

namespace Draws

variable {ε α α' β β' : Type} {φ : ε → ε}

lemma pure {f : α → α'} (a : α) :
    Draws g φ f (Pure.pure a : StateT Supply (Except ε) α) (Pure.pure (f a)) := fun _ => rfl

lemma bind {f : α → α'} {h : β → β'} {x : StateT Supply (Except ε) α}
    {x' : StateT Supply (Except ε) α'} {k : α → StateT Supply (Except ε) β}
    {k' : α' → StateT Supply (Except ε) β'} (hx : Draws g φ f x x')
    (hk : ∀ a, Draws g φ h (k a) (k' (f a))) : Draws g φ h (x >>= k) (x' >>= k') := by
  intro s
  show (x' (s.mapIds g) >>= fun p => k' p.1 p.2) = match (x s >>= fun p => k p.1 p.2) with
    | .ok (b, t) => .ok (h b, t.mapIds g)
    | .error e => .error (φ e)
  rw [hx s]
  cases x s with
  | error e => rfl
  | ok p => exact hk p.1 p.2

lemma mapM {f : β → β'} {k : α → StateT Supply (Except ε) β}
    {k' : α' → StateT Supply (Except ε) β'} {h : α → α'}
    (hk : ∀ a, Draws g φ f (k a) (k' (h a))) (xs : List α) :
    Draws g φ (List.map f) (xs.mapM k) ((xs.map h).mapM k') := by
  induction xs with
  | nil => exact pure []
  | cons x xs ih =>
    rw [List.map_cons, List.mapM_cons, List.mapM_cons]
    exact (hk x).bind fun b => ih.bind fun bs => pure (b :: bs)

end Draws

lemma draw_draws : Draws g id g Reader.draw Reader.draw := fun _ => rfl

open Checked in
lemma ofChecked_draws {α α' : Type} {f : α → α'} {x : Checked α} {x' : Checked α'}
    (h : Alike (fun a a' => f a = a') x x') :
    Draws g id f (Reader.ofChecked x) (Reader.ofChecked x') := by
  intro s
  cases h with
  | good h => exact congrArg (fun a => Except.ok (a, s.mapIds g)) h.symm
  | bad issues => rfl

/-- Names are demanded without regard to ids. -/
lemma demandNames_draws {vs vs' : List Value} (h : vs'.map Value.nameText = vs.map Value.nameText) :
    Draws g id id (Reader.demandNames vs) (Reader.demandNames vs') := by
  induction vs generalizing vs' with
  | nil =>
    obtain rfl := List.map_eq_nil_iff.mp h
    exact Draws.pure ()
  | cons v vs ih =>
    obtain ⟨v', vs', rfl, hname, hnames⟩ := List.map_eq_cons_iff.mp h
    rw [Reader.demandNames, Reader.demandNames, hname]
    cases v.nameText with
    | ok text => exact ih hnames
    | error shape => exact fun _ => rfl

/-- **A field is read alike under other ids.** -/
theorem readField_draws (hg : IsRelabeling g) {as as' : List (String × Value)}
    (h : IsFieldUnder g as as') :
    Draws g id (·.mapIds g) (Field.read (.record as)) (Field.read (.record as')) := by
  have hname : ((Value.record as').get "name").nameText
      = ((Value.record as).get "name").nameText := by
    have hmap := map_read_congr Value.nameText (nameText_mapIds g) (h.plain "name" (by decide))
    rw [Value.get, Value.get, Value.lookup?, Value.lookup?, ← Option.getD_map Value.nameText, hmap,
      Option.getD_map]
  rw [Field.read, Field.read]
  have hnames : [(Value.record as').get "name"].map Value.nameText
      = [(Value.record as).get "name"].map Value.nameText := congrArg (fun n => [n]) hname
  refine (demandNames_draws hnames).bind fun _ => draw_draws.bind fun fresh => ?_
  exact ofChecked_draws (fieldCheck_alike hg h fresh)

/-- The names in a record under other ids are those in the record. -/
lemma names_mapIds (v : Value) : Entity.names (v.mapIds g) = (Entity.names v).map (·.mapIds g) := by
  have hname (v : Value) : (v.mapIds g).get "name" = (v.get "name").mapIds g :=
    get_mapIds (by decide) v
  rw [Entity.names, Entity.names, hname, get_mapIds (by decide)]
  refine congrArg (_ :: ·) ?_
  cases v.get "fields" with
  | list vs =>
    rw [mapIds_list]
    dsimp only
    rw [List.map_map, List.map_map]
    exact List.map_congr_left fun v _ => hname v
  | _ => rfl

/-- An entity is read alike under other ids. -/
lemma readEntity_draws (hg : IsRelabeling g) (v : Value) :
    Draws g id (·.mapIds g) (Entity.read v) (Entity.read (v.mapIds g)) := by
  have hnames : (Entity.names (v.mapIds g)).map Value.nameText
      = (Entity.names v).map Value.nameText := by
    rw [names_mapIds, List.map_map]
    exact List.map_congr_left fun v _ => nameText_mapIds g v
  rw [Entity.read, Entity.read]
  refine (demandNames_draws hnames).bind fun _ => draw_draws.bind fun fresh => ?_
  rw [names_mapIds, ← List.map_tail]
  refine (Draws.mapM (fun _ => draw_draws) _).bind fun freshFields => ?_
  exact ofChecked_draws (entityCheck_mapIds hg fresh freshFields v)

/-- **Entities are read alike under other ids.** -/
theorem readAll_draws (hg : IsRelabeling g) (vs : List Value) :
    Draws g id (List.map (·.mapIds g)) (Entity.readAll vs)
      (Entity.readAll (vs.map (·.mapIds g))) :=
  Draws.mapM (fun v => readEntity_draws hg v) vs

end DiagramSync
