import DiagramSync.Proofs.Diagram.LabelsFound
import DiagramSync.Proofs.Diagram.Recovery
import DiagramSync.Proofs.Diagram.SketchText
import DiagramSync.Proofs.Store.WellRead

/-!
# Writing what was read

A text may declare its entities and relationships in any order and layout.  Writing the model that
was read of it brings them into one order, and once more reading and writing changes nothing.

The lines that are written stand in the order of the fields, not in that of the text.  A label that
names no field is bound to the first field that is free, so with the lines in another order it could
be bound to another one.  It is not, because of what a text that was read says about its own labels:
all fields before the one that was bound have been linked as well, and their lines come first.

* `HasSingleKeys`, `IsOneSided` — the models that a diagram can show
* `isRead_byLabel` — what is read of a text by labels, with every label found
* `recoverable_of_labelsFound` — such a model is determined by its diagram
* `detached_of_isWellRead` — its diagram shows all of it
* **`generate_parse_generate`** — reading what was written and writing it again changes nothing
-/

namespace DiagramSync

open Text

/-! ## What a diagram can show -/

/-- No field is a primary key and a foreign key at once. -/
def HasSingleKeys (es : List Entity) : Prop :=
  ∀ e ∈ es, ∀ f ∈ e.fields, ¬ (f.isPrimary = true ∧ f.isForeign = true)

instance (es : List Entity) : Decidable (HasSingleKeys es) :=
  inferInstanceAs (Decidable (∀ e ∈ es, ∀ f ∈ e.fields, ¬ (f.isPrimary = true ∧ f.isForeign = true)))

/-- No two links of different entities point at each other with the same cardinality. -/
def IsOneSided (es : List Entity) : Prop :=
  ∀ e ∈ es, ∀ f ∈ e.fields, ∀ p ∈ f.link? es, ∀ g ∈ p.2.fields, ∀ q ∈ g.link? es,
    q.2 = e → p.2 ≠ e → q.1.cardinality ≠ p.1.cardinality

instance (es : List Entity) : Decidable (IsOneSided es) :=
  inferInstanceAs (Decidable (∀ e ∈ es, ∀ f ∈ e.fields, ∀ p ∈ f.link? es, ∀ g ∈ p.2.fields,
    ∀ q ∈ g.link? es, q.2 = e → p.2 ≠ e → q.1.cardinality ≠ p.1.cardinality))

/-! ## Models that were read -/

section WellRead

variable {unlinked : Cardinality} {es : List Entity}

/-- In a model that was read a field that is linked has a link. -/
lemma isSome_link? (h : IsWellRead unlinked es) {e : Entity} (he : e ∈ es) {f : Field}
    (hf : f ∈ e.fields) (hlinked : f.isLinked = true) : (f.link? es).isSome = true := by
  rw [Field.isLinked] at hlinked
  cases hr : f.reference with
  | none => simp [hr] at hlinked
  | some r =>
    rw [hr] at hlinked
    obtain ⟨t, ht, htarget, -⟩ := h.linked e he f hf r hr hlinked
    rw [Option.isSome_iff_ne_none]
    exact fun hnone => Field.link?_eq_none hnone hr t ht htarget.symm

/-- In a model that was read a label that finds its field leads back to it. -/
lemma leadsBack_of_findsField (h : IsWellRead unlinked es) {e : Entity} (he : e ∈ es) {f : Field}
    {pre post : List Field} (hfields : e.fields = pre ++ f :: post) {t : Entity} {l : String}
    (hne : l ≠ f.name) (hfinds : FindsField e t pre.length f l) : LeadsBack es e f t l := by
  refine ⟨hne, hfinds.imp_right ?_⟩
  rintro ⟨hnone, hcandidate, hbefore⟩
  refine ⟨hnone, hcandidate, fun g hg hcand => ?_⟩
  rw [fieldsBefore_eq (h.fieldNames e he) hfields] at hg
  obtain ⟨j, hj⟩ := List.mem_iff_getElem?.mp hg
  obtain ⟨hlt, -⟩ := List.getElem?_eq_some_iff.mp hj
  have hget : e.fields[j]? = some g := by
    rw [hfields, List.getElem?_append_left hlt, hj]
  exact isSome_link? h he (List.mem_of_getElem? hget) (hbefore j g hlt hget hcand)

/-- **A model that was read, with every label found, is determined by its diagram.** -/
theorem recoverable_of_labelsFound (h : IsWellRead unlinked es) (hids : (modelIds es).Nodup)
    (hresolved : ∀ id ∈ modelIds es, id ≠ .unresolved) (hlabels : LabelsFound es)
    (hkeys : HasSingleKeys es) (honeSided : IsOneSided es) : Recoverable es where
  writable := h.writable
  ids := nodup_entityIds hids
  fieldIds _ he := nodup_fieldIds hids he
  resolved _ he := hresolved _ (entityId_mem_modelIds he)
  fieldResolved _ he _ hf := hresolved _ (fieldId_mem_modelIds he hf)
  names := h.names
  fieldNames := h.fieldNames
  singleKey e he f hf hforeign := Bool.eq_false_iff.mpr fun hprimary =>
    hkeys e he f hf ⟨hprimary, hforeign⟩
  targets e he f hf r t hlink := by
    obtain ⟨hr, ht, htarget⟩ := Field.link?_eq_some hlink
    have hlinked : r.isLinked = true :=
      bne_iff_ne.mpr (htarget ▸ hresolved _ (entityId_mem_modelIds ht))
    obtain ⟨t', ht', htarget', hfield⟩ := h.linked e he f hf r hr hlinked
    obtain rfl : t' = t :=
      List.inj_on_of_nodup_map (nodup_entityIds hids) ht' ht (htarget'.symm.trans htarget.symm)
    exact hfield
  oneSided e he f hf r t hlink g hg s hback hother :=
    honeSided e he f hf (r, t) hlink g hg (s, e) hback rfl hother
  labels e he f hf r t hlink l hl := by
    obtain ⟨hr, ht, htarget⟩ := Field.link?_eq_some hlink
    obtain ⟨pre, post, hfields⟩ := List.append_of_mem hf
    have hget : e.fields[pre.length]? = some f := by
      rw [hfields, List.getElem?_append_right (Nat.le_refl _), Nat.sub_self, List.getElem?_cons_zero]
    obtain ⟨hne, hfinds⟩ := hlabels e he pre.length f hget r hr t ht htarget l hl
    exact leadsBack_of_findsField h he hfields hne hfinds

/-- The diagram of a model that was read shows all of it. -/
lemma detached_of_isWellRead (h : IsWellRead unlinked es) : detached unlinked es = es := by
  refine (List.map_congr_left fun e he => ?_).trans (List.map_id es)
  have hfields : e.fields.map (·.mapReference (·.detach unlinked es)) = e.fields := by
    refine (List.map_congr_left fun f hf => ?_).trans (List.map_id e.fields)
    have hreference : f.reference.map (·.detach unlinked es) = f.reference := by
      cases hr : f.reference with
      | none => rfl
      | some r =>
        refine congrArg some ?_
        simp only [Reference.detach]
        split_ifs with hany
        · rfl
        · refine (h.unlinked e he f hf r hr (Bool.eq_false_iff.mpr fun hlinked => hany ?_)).symm
          obtain ⟨t, ht, htarget, -⟩ := h.linked e he f hf r hr hlinked
          exact List.any_eq_true.mpr ⟨t, ht, beq_iff_eq.mpr htarget.symm⟩
    rw [Field.mapReference, hreference, id]
  rw [Entity.mapReferences, hfields, id]

end WellRead

/-! ## Texts -/

section Texts

variable {unlinked : Cardinality} {supply : Supply} {text : String} {es : List Entity}
  {rs : List Relationship} {ws : List Warning}

/-- What is read of a text by labels is well read, has ids of its own, and every label of it is
found, if none of its relationship lines has a label with a double quote. -/
lemma isRead_byLabel (hfresh : supply.IsFresh)
    (h : (parse .byLabel unlinked supply text).1 = .accepted es rs ws)
    (hplain : ∀ r ∈ rs, r.HasPlainLabel) :
    IsWellRead unlinked es ∧ (modelIds es).Nodup ∧ (∀ id ∈ modelIds es, id ≠ .unresolved) ∧
      LabelsFound es := by
  obtain ⟨hnonempty, rfl, ws', hlines⟩ := resolveLines_of_accepted isTotal_byLabel h
  obtain ⟨hwell, hids, hresolved⟩ := isWellRead_resolveLines picksForeign_byLabel hfresh hnonempty
    hlines
  refine ⟨hwell, hids, hresolved, ?_⟩
  have hscan := Scan.isSound_scan unlinked hfresh text.toList
  have hstart : LabelsFound (scan unlinked supply text.toList).entities := by
    refine labelsFound_of_no_labels fun e he f hf r hr => ?_
    rw [hscan.references e he f hf] at hr
    split_ifs at hr
    rw [← Option.some.inj hr]
  refine labelsFound_resolveLines hstart hscan.isRead (nodup_entityIds hscan.ids) (fun e he => ?_)
    (Scan.isWritable_scan unlinked supply text.toList).relationships
    (fun p hp => hplain p.2 (List.mem_map_of_mem hp)) hlines
  exact (hscan.given _ (entityId_mem_modelIds he)).ne_unresolved hfresh

/-- What is read of any text can be written, and is told apart by names and ids. -/
lemma legible_of_builtIn {resolver : Resolver} (hresolver : resolver.IsBuiltIn)
    (hfresh : supply.IsFresh) (h : (parse resolver unlinked supply text).1 = .accepted es rs ws) :
    Legible es := by
  obtain ⟨hnonempty, -, ws', hlines⟩ := resolveLines_of_accepted hresolver.isTotal h
  obtain ⟨hwell, hids, -⟩ := isWellRead_resolveLines hresolver.picksForeign hfresh hnonempty hlines
  exact ⟨hwell.writable, nodup_entityIds hids, hwell.names, hwell.fieldNames⟩

lemma legible_of_accepted (hfresh : supply.IsFresh)
    (h : (parse .byLabel unlinked supply text).1 = .accepted es rs ws) : Legible es :=
  legible_of_builtIn (Or.inr rfl) hfresh h

/-- **A text that was written of what was read is read without a warning, and writing what is read
of it gives the same text.**  The text that was read first may say the same in any order and layout;
what is asked of it is that no label of its relationship lines holds a double quote, which reading
would change, and that a diagram can show what was read of it. -/
theorem generate_parse_generate (hfresh : supply.IsFresh)
    (h : (parse .byLabel unlinked supply text).1 = .accepted es rs ws)
    (hkeys : HasSingleKeys es) (honeSided : IsOneSided es) (hplain : ∀ r ∈ rs, r.HasPlainLabel)
    {later : Supply} (hlater : later.IsFresh) :
    ∃ es' rs', (parse .byLabel unlinked later (generate es)).1 = .accepted es' rs' [] ∧
      generate es' = generate es := by
  obtain ⟨hwell, hids, hresolved, hlabels⟩ := isRead_byLabel hfresh h hplain
  have hrecoverable := recoverable_of_labelsFound hwell hids hresolved hlabels hkeys honeSided
  obtain ⟨ν, rs', later', hparse, hids', hgiven⟩ := parse_relaid hrecoverable hwell.nonempty hlater
    unlinked (isRelaid_generate es)
  have haccepted := congrArg Prod.fst hparse
  refine ⟨es.map (·.rebuilt ν unlinked es), rs', haccepted, ?_⟩
  refine generate_eq_of_sketch hrecoverable.legible (legible_of_accepted hlater haccepted) ?_
  rw [sketch_map_rebuilt hrecoverable hids' fun id hid => (hgiven id hid).ne_unresolved hlater,
    detached_of_isWellRead hwell]

/-- Posts before the users that they refer to, and their relationships before both.  Two lines speak
of the author, and only once he has been linked the other label is left for the editor. -/
def postsFirst : String :=
  "erDiagram\nPosts \x7do--|| Users : author_id\nPosts \x7do--|| Users : \"edited by\"\n" ++
    "Posts \x7do--o| Users : AUTHOR_ID\nPosts \x7b\n  int id PK\n  int author_id FK\n" ++
    "  int editor_id FK\n\x7d\nUsers \x7b\n  int id PK\n\x7d"

/-- The posts are written in one way and stay as they are. -/
theorem generate_parse_generate_postsFirst :
    ∃ es rs ws, (parse .byLabel .manyToOne .strokes postsFirst).1 = .accepted es rs ws ∧
      ∃ es' rs', (parse .byLabel .manyToOne .strokes (generate es)).1 = .accepted es' rs' [] ∧
        generate es' = generate es := by
  have hread : (parse .byLabel .manyToOne .strokes postsFirst).1.isAccepted = true ∧
      HasSingleKeys (parse .byLabel .manyToOne .strokes postsFirst).1.entities ∧
      IsOneSided (parse .byLabel .manyToOne .strokes postsFirst).1.entities ∧
      ∀ r ∈ (parse .byLabel .manyToOne .strokes postsFirst).1.relationships, r.HasPlainLabel := by
    decide +kernel
  cases hparse : (parse .byLabel .manyToOne .strokes postsFirst).1 with
  | accepted es rs ws =>
    rw [hparse] at hread
    obtain ⟨-, hkeys, honeSided, hplain⟩ := hread
    exact ⟨es, rs, ws, rfl, generate_parse_generate Supply.isFresh_strokes hparse hkeys honeSided
      hplain Supply.isFresh_strokes⟩
  | rejected error ws =>
    rw [hparse] at hread
    exact absurd hread.1 Bool.false_ne_true

end Texts

end DiagramSync
