import DiagramSync.Diagram.Resolution
import DiagramSync.Proofs.Diagram.Statements
import DiagramSync.Proofs.List.Keyed

/-!
# Models that their diagram determines

A relationship line names two entities and carries a label; which field it was written for is not
said.  These are the models of which the written text determines everything but the ids: names tell
entities and fields apart, and every label leads back to the field that it was written for.

* `Field.link?` — the reference of a field, with the entity of the model that it points at
* `Legible` — the models whose entities and fields are told apart by what is written of them
* `LeadsBack` — the label of a link is found again among the fields of its owner
* `Recoverable` — the models that their diagram determines
* `emission?_eq_link?` — a field is written a relationship line for exactly when it has a link
* `withoutMirrors_modelEmissions` — no line of such a model is left out as the mirror of another
-/

namespace DiagramSync

open Text

/-! ## Links -/

/-- The reference of a field, with the entity of the model that it points at, if it points at
one. -/
def Field.link? (es : List Entity) (f : Field) : Option (Reference × Entity) := do
  let r ← f.reference
  let t ← es.find? fun t => t.id == r.target
  return (r, t)

lemma Field.link?_eq_some {es : List Entity} {f : Field} {r : Reference} {t : Entity}
    (h : f.link? es = some (r, t)) : f.reference = some r ∧ t ∈ es ∧ t.id = r.target := by
  simp only [Field.link?, Option.bind_eq_bind, Option.bind_eq_some_iff] at h
  obtain ⟨r', hr, t', ht, hpair⟩ := h
  obtain ⟨rfl, rfl⟩ := Prod.mk.inj (Option.some.inj hpair)
  exact ⟨hr, List.mem_of_find?_eq_some ht, by simpa using List.find?_some ht⟩

/-- A reference without a link points at no entity of the model. -/
lemma Field.link?_eq_none {es : List Entity} {f : Field} {r : Reference} (h : f.link? es = none)
    (hr : f.reference = some r) : ∀ t ∈ es, t.id ≠ r.target := by
  intro t ht htarget
  simp only [Field.link?, hr, Option.bind_eq_bind, Option.bind_some, Option.bind_eq_none_iff] at h
  cases hfind : es.find? fun t => t.id == r.target with
  | none => exact List.find?_eq_none.mp hfind t ht (beq_iff_eq.mpr htarget)
  | some u => exact absurd (h u hfind) (Option.some_ne_none _)

/-- The fields of an entity that stand before a field. -/
def Entity.fieldsBefore (e : Entity) (f : Field) : List Field :=
  e.fields.takeWhile fun g => g ≠ f

/-- The label of a link from the field `f` of `e` to the entity `t` leads back to `f`.  Either it is
the name of `f` in another case of letters, or it names no foreign key of `e`, and then `f` has to
be the first field whose name speaks of `t` and that has not been linked by a line before. -/
def LeadsBack (es : List Entity) (e : Entity) (f : Field) (t : Entity) (label : String) : Prop :=
  label ≠ f.name ∧
    (foldName label = foldName f.name ∨
      (∀ g ∈ e.fields, g.isForeign = true → foldName g.name ≠ foldName label) ∧
        isCandidate t f = true ∧
        ∀ g ∈ e.fieldsBefore f, isCandidate t g = true → (g.link? es).isSome = true)

instance (es : List Entity) (e : Entity) (f : Field) (t : Entity) (label : String) :
    Decidable (LeadsBack es e f t label) :=
  inferInstanceAs (Decidable (_ ∧ _))

/-- A model that can be written, and whose entities and fields are told apart by their names. -/
structure Legible (es : List Entity) : Prop where
  /-- Entities and fields are valid, have names, and keep to one line. -/
  writable : ∀ e ∈ es, e.IsWritable
  /-- The ids of the entities are distinct. -/
  ids : (es.map Entity.id).Nodup
  /-- The names of the entities are distinct. -/
  names : (es.map Entity.name).Nodup
  /-- The names of the fields of an entity are distinct, without regard to case. -/
  fieldNames : ∀ e ∈ es, (e.fields.map (foldName ·.name)).Nodup

instance (es : List Entity) : Decidable (Legible es) :=
  decidable_of_iff
    ((∀ e ∈ es, e.IsWritable) ∧ (es.map Entity.id).Nodup ∧ (es.map Entity.name).Nodup ∧
      ∀ e ∈ es, (e.fields.map fun f : Field => foldName f.name).Nodup)
    ⟨fun ⟨hwritable, hids, hnames, hfieldNames⟩ => ⟨hwritable, hids, hnames, hfieldNames⟩,
      fun h => ⟨h.writable, h.ids, h.names, h.fieldNames⟩⟩

/-- A model that its diagram determines up to ids. -/
structure Recoverable (es : List Entity) : Prop where
  /-- Entities and fields are valid, have names, and keep to one line. -/
  writable : ∀ e ∈ es, e.IsWritable
  /-- The ids of the entities are distinct. -/
  ids : (es.map Entity.id).Nodup
  /-- The ids of the fields of an entity are distinct. -/
  fieldIds : ∀ e ∈ es, (e.fields.map Field.id).Nodup
  /-- No entity has the id of none. -/
  resolved : ∀ e ∈ es, e.id ≠ .unresolved
  /-- No field has the id of none. -/
  fieldResolved : ∀ e ∈ es, ∀ f ∈ e.fields, f.id ≠ .unresolved
  /-- The names of the entities are distinct. -/
  names : (es.map Entity.name).Nodup
  /-- The names of the fields of an entity are distinct, without regard to case. -/
  fieldNames : ∀ e ∈ es, (e.fields.map (foldName ·.name)).Nodup
  /-- No field is a primary key and a foreign key at once. -/
  singleKey : ∀ e ∈ es, ∀ f ∈ e.fields, f.isForeign = true → f.isPrimary = false
  /-- A link points at the first primary key of its target, if there is one. -/
  targets : ∀ e ∈ es, ∀ f ∈ e.fields, ∀ r t, f.link? es = some (r, t) →
    r.targetField = (t.primaryKey?.map (·.id)).getD .unresolved
  /-- Two entities that point at each other do so with different cardinalities. -/
  oneSided : ∀ e ∈ es, ∀ f ∈ e.fields, ∀ r t, f.link? es = some (r, t) →
    ∀ g ∈ t.fields, ∀ s, g.link? es = some (s, e) → t ≠ e → s.cardinality ≠ r.cardinality
  /-- The label of a link leads back to its field. -/
  labels : ∀ e ∈ es, ∀ f ∈ e.fields, ∀ r t, f.link? es = some (r, t) →
    ∀ l, r.label = some l → LeadsBack es e f t l

set_option synthInstance.maxSize 512 in
/-- Whether a model is recoverable can be computed. -/
instance (es : List Entity) : Decidable (Recoverable es) :=
  decidable_of_iff
    ((∀ e ∈ es, e.IsWritable) ∧ (es.map Entity.id).Nodup ∧
      (∀ e ∈ es, (e.fields.map Field.id).Nodup) ∧ (∀ e ∈ es, e.id ≠ .unresolved) ∧
      (∀ e ∈ es, ∀ f ∈ e.fields, f.id ≠ .unresolved) ∧ (es.map Entity.name).Nodup ∧
      (∀ e ∈ es, (e.fields.map fun f : Field => foldName f.name).Nodup) ∧
      (∀ e ∈ es, ∀ f ∈ e.fields, f.isForeign = true → f.isPrimary = false) ∧
      (∀ e ∈ es, ∀ f ∈ e.fields, ∀ p ∈ f.link? es,
        p.1.targetField = (p.2.primaryKey?.map (·.id)).getD .unresolved) ∧
      (∀ e ∈ es, ∀ f ∈ e.fields, ∀ p ∈ f.link? es, ∀ g ∈ p.2.fields, ∀ q ∈ g.link? es,
        q.2 = e → p.2 ≠ e → q.1.cardinality ≠ p.1.cardinality) ∧
      ∀ e ∈ es, ∀ f ∈ e.fields, ∀ p ∈ f.link? es, ∀ l ∈ p.1.label, LeadsBack es e f p.2 l)
    (by
      constructor
      · rintro ⟨hw, hi, hfi, hr, hfr, hn, hfn, hk, ht, ho, hl⟩
        refine ⟨hw, hi, hfi, hr, hfr, hn, hfn, hk, ?_, ?_, ?_⟩
        · intro e he f hf r t hlink
          exact ht e he f hf (r, t) hlink
        · intro e he f hf r t hlink g hg s hback
          exact ho e he f hf (r, t) hlink g hg (s, e) hback rfl
        · intro e he f hf r t hlink l hlabel
          exact hl e he f hf (r, t) hlink l hlabel
      · intro h
        refine ⟨h.writable, h.ids, h.fieldIds, h.resolved, h.fieldResolved, h.names, h.fieldNames,
          h.singleKey, ?_, ?_, ?_⟩
        · intro e he f hf p hlink
          exact h.targets e he f hf p.1 p.2 hlink
        · intro e he f hf p hlink g hg q hback hsame hother
          exact h.oneSided e he f hf p.1 p.2 hlink g hg q.1 (hsame ▸ hback) hother
        · intro e he f hf p hlink l hlabel
          exact h.labels e he f hf p.1 p.2 hlink l hlabel)

section Names

variable {es : List Entity}

lemma Recoverable.legible (h : Recoverable es) : Legible es :=
  ⟨h.writable, h.ids, h.names, h.fieldNames⟩

lemma Legible.eq_of_name (h : Legible es) {e t : Entity} (he : e ∈ es) (ht : t ∈ es)
    (hname : e.name = t.name) : e = t :=
  List.inj_on_of_nodup_map h.names he ht hname

lemma Legible.eq_of_fieldName (h : Legible es) {e : Entity} {f g : Field} (he : e ∈ es)
    (hf : f ∈ e.fields) (hg : g ∈ e.fields) (hname : foldName f.name = foldName g.name) : f = g :=
  List.inj_on_of_nodup_map (h.fieldNames e he) hf hg hname

end Names

/-- Where names tell fields apart, the fields before a field are those in front of it. -/
lemma fieldsBefore_eq {e : Entity} (hnames : (e.fields.map (foldName ·.name)).Nodup)
    {pre post : List Field} {f : Field} (hfields : e.fields = pre ++ f :: post) :
    e.fieldsBefore f = pre := by
  rw [hfields, List.map_append, List.map_cons, List.nodup_append] at hnames
  have hpre : ∀ g ∈ pre, decide (g ≠ f) = true := by
    intro g hg
    refine decide_eq_true fun heq => ?_
    exact hnames.2.2 _ (List.mem_map_of_mem hg) _ List.mem_cons_self (by rw [heq])
  rw [Entity.fieldsBefore, hfields, List.takeWhile_append_of_pos hpre,
    List.takeWhile_cons_of_neg (by simp), List.append_nil]

/-! ## The lines of links -/

/-- A valid field is written a relationship line for exactly when it has a link. -/
lemma emission?_eq_link? {es : List Entity} (hids : (es.map Entity.id).Nodup) {f : Field}
    (hf : f.IsValid) (source : String) :
    f.emission? es source = (f.link? es).map fun p =>
      { source, target := p.2.name, cardinality := p.1.cardinality
        label := p.1.label.getD f.name } := by
  rw [Field.emission?, Field.link?]
  cases hr : f.reference with
  | none => rfl
  | some r =>
    have hforeign : f.isForeign = true := by
      rw [← hf.reference, hr, Option.isSome_some]
    simp only [Option.bind_eq_bind, Option.bind_some, hforeign, if_true, find?_key_reverse hids]
    cases es.find? fun t => t.id == r.target <;> rfl

/-- Lines of which none mirrors an earlier one are all kept. -/
lemma withoutMirrors_eq_append {kept ems : List Emission}
    (h : ∀ earlier ∈ kept ++ ems, ∀ later ∈ ems, earlier.mirrors later = false) :
    withoutMirrors kept ems = kept ++ ems := by
  induction ems generalizing kept with
  | nil => rw [withoutMirrors, List.append_nil]
  | cons em ems ih =>
    have hnone : kept.any (·.mirrors em) = false := by
      rw [List.any_eq_false]
      intro x hx
      rw [h x (List.mem_append_left _ hx) em List.mem_cons_self]
      exact Bool.false_ne_true
    rw [withoutMirrors, hnone, if_neg Bool.false_ne_true, ih]
    · rw [List.append_assoc, List.singleton_append]
    · intro earlier hearlier later hlater
      rw [List.append_assoc, List.singleton_append] at hearlier
      exact h earlier hearlier later (List.mem_cons_of_mem em hlater)

/-- A relationship line of a legible model is written for a link. -/
lemma exists_link_of_mem {es : List Entity} (h : Legible es) {em : Emission}
    (hem : em ∈ modelEmissions es) :
    ∃ e ∈ es, ∃ f ∈ e.fields, ∃ r t, f.link? es = some (r, t) ∧
      em = ⟨e.name, t.name, r.cardinality, r.label.getD f.name⟩ := by
  obtain ⟨e, he, hem⟩ := List.mem_flatMap.mp hem
  obtain ⟨f, hf, hem⟩ := List.mem_filterMap.mp hem
  rw [emission?_eq_link? h.ids ((h.writable e he).fields f hf).toIsValid] at hem
  obtain ⟨⟨r, t⟩, hlink, rfl⟩ := Option.map_eq_some_iff.mp hem
  exact ⟨e, he, f, hf, r, t, hlink, rfl⟩

/-- No relationship line of a recoverable model is left out. -/
lemma withoutMirrors_modelEmissions {es : List Entity} (h : Recoverable es) :
    withoutMirrors [] (modelEmissions es) = modelEmissions es := by
  refine withoutMirrors_eq_append fun earlier hearlier later hlater => ?_
  obtain ⟨e, he, f, hf, r, t, hlink, rfl⟩ := exists_link_of_mem h.legible hearlier
  obtain ⟨e', he', f', hf', r', t', hlink', rfl⟩ := exists_link_of_mem h.legible hlater
  rw [Bool.eq_false_iff]
  intro hmirror
  simp only [Emission.mirrors, Bool.and_eq_true, bne_iff_ne, beq_iff_eq] at hmirror
  obtain ⟨⟨⟨hdistinct, hsource⟩, htarget⟩, hcardinality⟩ := hmirror
  obtain rfl := h.legible.eq_of_name he (Field.link?_eq_some hlink').2.1 hsource
  obtain rfl := h.legible.eq_of_name (Field.link?_eq_some hlink).2.1 he' htarget
  exact h.oneSided e he f hf r t hlink f' hf' r' hlink' (fun heq => hdistinct (heq ▸ rfl))
    hcardinality.symm

end DiagramSync
