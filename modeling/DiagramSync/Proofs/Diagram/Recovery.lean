import DiagramSync.Proofs.Diagram.Accepted
import DiagramSync.Proofs.Diagram.Relink
import DiagramSync.Proofs.Model.Sketch

/-!
# Reading what was written

A recoverable model is read back from its diagram, under new ids.  What the diagram does not show is
lost on the way, and that is little: a reference that points at no entity of the model is read back
as one that has never been linked.

* `detached` — the model as far as its diagram shows it
* `isRelaid_generate`, `isRelaid_append` — a diagram as it is written, and with a further line
* `exists_scan_relaid`, `parse_relaid` — what is scanned and read of the diagram of a model, in any
  layout
* **`parse_generate`** — writing and reading gives the same model up to ids
-/

namespace DiagramSync

open Text

/-! ## What is shown of a model -/

/-- The reference as far as the diagram of a model shows it: one that points at no entity of the
model is one that has never been linked. -/
def Reference.detach (unlinked : Cardinality) (es : List Entity) (r : Reference) : Reference :=
  if es.any (fun t => t.id == r.target) then r else { cardinality := unlinked }

/-- The model as far as its diagram shows it. -/
def detached (unlinked : Cardinality) (es : List Entity) : List Entity :=
  es.map fun e => e.mapReferences (·.detach unlinked es)

/-! ## Reading -/

section Reading

variable {es : List Entity} {unlinked : Cardinality} {ν : Numbering}

/-- A written diagram begins with the header token. -/
lemma exists_generate_eq_append (es : List Entity) :
    ∃ rest, (generate es).toList = header.toList ++ rest := by
  rw [generate, generateTables]
  split_ifs
  · exact ⟨[], (List.append_nil _).symm⟩
  · rw [diagramLines, String.toList_intercalate, List.map_cons]
    cases (((Table.showFrom 0 (es.map Entity.toTable)).flatMap tableLines
        ++ (emissions (Table.showFrom 0 (es.map Entity.toTable))).map relationshipLine).map
          String.toList) with
    | nil => exact ⟨[], by rw [List.intercalate_singleton, List.append_nil]⟩
    | cons l ls => exact ⟨_, by rw [List.intercalate_cons_cons, List.append_assoc]⟩

/-- A diagram that is written is laid out as it is written. -/
lemma isRelaid_generate (es : List Entity) :
    IsRelaid (generate es).toList (generate es).toList := by
  obtain ⟨rest, hrest⟩ := exists_generate_eq_append es
  refine isRelaid_of_statements ?_ rfl
  rw [hrest]
  exact hasHeader_append rest

/-- A line that says nothing can follow a diagram. -/
lemma isRelaid_append (hne : es ≠ []) (h : ∀ e ∈ es, e.IsWritable) {l : List Char} (hl : IsLine l)
    (hsilent : lineStatement? l = none) :
    IsRelaid ((generate es).toList ++ '\n' :: l) (generate es).toList := by
  have hlines := isLine_diagramLines h
  have hcons : (diagramLines (es.map Entity.shown)).map String.toList ≠ [] := by
    rw [diagramLines_shown h]
    exact List.cons_ne_nil _ _
  have hjoin : (generate es).toList ++ '\n' :: l
      = ['\n'].intercalate ((diagramLines (es.map Entity.shown)).map String.toList ++ [l]) := by
    rw [toList_generate hne h, intercalate_concat hcons]
  have hheader : hasHeader ((generate es).toList ++ '\n' :: l) = true := by
    obtain ⟨rest, hrest⟩ := exists_generate_eq_append es
    rw [hrest, List.append_assoc]
    exact hasHeader_append (rest ++ '\n' :: l)
  rw [hjoin] at hheader
  have hinsert := isRelaid_insert (by rwa [List.append_nil]) hl hsilent hheader
  rwa [← hjoin, List.append_nil, ← toList_generate hne h] at hinsert

/-- Linking does not touch ids. -/
lemma modelIds_rebuilt (es xs : List Entity) :
    modelIds (xs.map (·.rebuilt ν unlinked es)) = modelIds (xs.map (·.copy ν unlinked)) := by
  have hids : ∀ e : Entity, (e.rebuilt ν unlinked es).allIds = (e.copy ν unlinked).allIds := by
    intro e
    have hfields : ((e.rebuilt ν unlinked es).fields).map Field.id
        = ((e.copy ν unlinked).fields).map Field.id := by
      rw [Entity.rebuilt, Entity.copy, List.map_map, List.map_map]
      exact List.map_congr_left fun f _ => f.id_rebuilt e.name
    rw [Entity.allIds, Entity.allIds, hfields]
    rfl
  rw [modelIds, modelIds, List.flatMap_map, List.flatMap_map]
  exact List.flatMap_congr fun e _ => hids e

/-- The diagram of a legible model, in whatever layout, is scanned into a copy under new ids, with the
lines that were written. -/
lemma exists_scan_relaid (h : Legible es) (hne : es ≠ []) {supply : Supply}
    (hfresh : supply.IsFresh) (unlinked : Cardinality) {text : String}
    (htext : IsRelaid text.toList (generate es).toList) :
    ∃ ν rs supply', scan unlinked supply text.toList
        = { headerSeen := true, entities := es.map (·.copy ν unlinked), relationships := rs,
            supply := supply' } ∧
      List.Forall₂ (fun em r => Emission.StatedBy em r.2) (withoutMirrors [] (modelEmissions es))
        rs ∧
      (modelIds (es.map (·.copy ν unlinked))).Nodup ∧
      ∀ id ∈ modelIds (es.map (·.copy ν unlinked)), supply.Gave supply' id := by
  have hread := htext.statements
  rw [statements_generate hne h.writable] at hread
  obtain ⟨cs, rs, supply', hscan, hcopies, hstated⟩ := scan_modelStatements unlinked supply
    h.writable h.names h.fieldNames hread
  have hnames : ∀ e ∈ es, (e.fields.map Field.name).Nodup := by
    intro e he
    refine List.Nodup.of_map foldName ?_
    rw [List.map_map]
    exact h.fieldNames e he
  obtain ⟨ν, rfl⟩ := exists_numbering h.names hnames hcopies
  have hsound := Scan.isSound_scan unlinked hfresh text.toList
  rw [hscan] at hsound
  exact ⟨ν, rs, supply', hscan, hstated, hsound.ids, hsound.given⟩

/-- The new ids are ids of something. -/
lemma entity_ne_unresolved {supply supply' : Supply} (hfresh : supply.IsFresh)
    (hgiven : ∀ id ∈ modelIds (es.map (·.copy ν unlinked)), supply.Gave supply' id) :
    ∀ t ∈ es, ν.entity t.name ≠ .unresolved := by
  intro t ht
  have hmem := entityId_mem_modelIds (List.mem_map_of_mem (f := (·.copy ν unlinked)) ht)
  exact (hgiven _ hmem).ne_unresolved hfresh

/-- Of the diagram of a recoverable model, in whatever layout, the model is read back under new ids,
without any warning. -/
theorem parse_relaid (h : Recoverable es) (hne : es ≠ []) {supply : Supply}
    (hfresh : supply.IsFresh) (unlinked : Cardinality) {text : String}
    (htext : IsRelaid text.toList (generate es).toList) :
    ∃ ν rs supply', parse .byLabel unlinked supply text
        = (.accepted (es.map (·.rebuilt ν unlinked es)) rs [], supply') ∧
      (modelIds (es.map (·.rebuilt ν unlinked es))).Nodup ∧
      ∀ id ∈ modelIds (es.map (·.rebuilt ν unlinked es)), supply.Gave supply' id := by
  obtain ⟨ν, rs, supply', hscan, hstated, hids, hgiven⟩ := exists_scan_relaid h.legible hne hfresh
    unlinked htext
  rw [withoutMirrors_modelEmissions h] at hstated
  have hlines : resolveLines .byLabel (es.map (·.copy ν unlinked)) rs = _ :=
    resolveLines_copy h (entity_ne_unresolved hfresh hgiven) hstated
  refine ⟨ν, rs.map (·.2), supply', ?_, ?_, ?_⟩
  · have hnonempty : (es.map (·.rebuilt ν unlinked es)).isEmpty = false := by
      simpa using hne
    rw [parse, if_pos htext.header, hscan]
    simp only [hlines, hnonempty, Bool.false_eq_true, if_false, List.append_nil]
  · rw [modelIds_rebuilt]
    exact hids
  · rw [modelIds_rebuilt]
    exact hgiven

/-! ## The same model -/

/-- A field of a recoverable model is scanned as it is, up to its id and its reference. -/
lemma copy_eq (h : Recoverable es) {e : Entity} (he : e ∈ es) {f : Field} (hf : f ∈ e.fields)
    (id : Id) :
    f.copy unlinked id
      = { f with id, reference := if f.isForeign then some { cardinality := unlinked } else none } := by
  have hforeign : (!f.isPrimary && f.isForeign) = f.isForeign := by
    cases hfk : f.isForeign with
    | false => exact Bool.and_false _
    | true => rw [h.singleKey e he f hf hfk, Bool.not_false, Bool.and_self]
  simp only [Field.copy, hforeign]

/-- What a link says in the model that is read back. -/
lemma sketch_relink (hids : (modelIds (es.map (·.rebuilt ν unlinked es))).Nodup)
    (hresolved : ∀ id ∈ modelIds (es.map (·.rebuilt ν unlinked es)), id ≠ .unresolved)
    {t : Entity} (ht : t ∈ es) (r : Reference) :
    (ν.relink r t).sketch (es.map (·.rebuilt ν unlinked es))
      = ⟨some (t.name, t.primaryKey?.map (·.name)), r.cardinality, r.label⟩ := by
  have hkey : (t.rebuilt ν unlinked es).primaryKey?
      = t.primaryKey?.map (·.rebuilt ν unlinked es t.name) := by
    have hprimary : (fun f : Field => f.isPrimary) ∘ Field.rebuilt ν unlinked es t.name
        = fun f : Field => f.isPrimary := funext fun f => f.isPrimary_rebuilt t.name
    rw [Entity.primaryKey?, Entity.rebuilt, List.find?_map, hprimary]
    rfl
  have hmem : t.rebuilt ν unlinked es ∈ es.map (·.rebuilt ν unlinked es) := List.mem_map_of_mem ht
  have hfield : (ν.relink r t).targetField
      = ((t.rebuilt ν unlinked es).primaryKey?.map (·.id)).getD .unresolved := by
    rw [hkey, Option.map_map]
    refine congrArg (fun k => Option.getD (Option.map k t.primaryKey?) Id.unresolved) ?_
    exact funext fun p => (p.id_rebuilt t.name).symm
  have hname : (t.rebuilt ν unlinked es).primaryKey?.map (·.name)
      = t.primaryKey?.map (·.name) := by
    rw [hkey, Option.map_map]
    exact congrArg (Option.map · t.primaryKey?) (funext fun p => p.name_rebuilt t.name)
  rw [sketch_of_target (nodup_entityIds hids) hmem (nodup_fieldIds hids hmem)
    (fun f hf => hresolved _ (fieldId_mem_modelIds hmem hf)) rfl hfield, hname]
  rfl

/-- What a link says in the model as its diagram shows it. -/
lemma sketch_link (h : Recoverable es) {e : Entity} (he : e ∈ es) {f : Field} (hf : f ∈ e.fields)
    {r : Reference} {t : Entity} (hlink : f.link? es = some (r, t)) :
    r.sketch (detached unlinked es)
      = ⟨some (t.name, t.primaryKey?.map (·.name)), r.cardinality, r.label⟩ := by
  obtain ⟨-, ht, htarget⟩ := Field.link?_eq_some hlink
  have hids : ((detached unlinked es).map Entity.id).Nodup := by
    rw [detached, List.map_map]
    exact h.ids
  set d : Entity := t.mapReferences (·.detach unlinked es) with hd
  have hmem : d ∈ detached unlinked es := List.mem_map.mpr ⟨t, ht, rfl⟩
  have hfieldIds : (d.fields.map Field.id).Nodup := by
    rw [hd, Entity.mapReferences, List.map_map]
    exact h.fieldIds t ht
  have hkey : ∀ {α : Type} (g : Field → α), (∀ (q : Reference → Reference) f,
      g (f.mapReference q) = g f) → d.primaryKey?.map g = t.primaryKey?.map g := by
    intro α g hg
    rw [Entity.primaryKey?, hd, Entity.mapReferences, List.find?_map, Option.map_map]
    exact congrArg (Option.map · t.primaryKey?) (funext fun p => hg _ p)
  have hresolved : ∀ p ∈ d.fields, p.id ≠ .unresolved := by
    intro p hp
    obtain ⟨q, hq, rfl⟩ := List.mem_map.mp hp
    exact h.fieldResolved t ht q hq
  have hfield : r.targetField = (d.primaryKey?.map (·.id)).getD .unresolved := by
    rw [hkey Field.id fun _ _ => rfl]
    exact h.targets e he f hf r t hlink
  rw [sketch_of_target hids hmem hfieldIds hresolved htarget.symm hfield,
    hkey Field.name fun _ _ => rfl]
  rfl

/-- A field is read back as its diagram shows it. -/
lemma sketch_rebuilt (h : Recoverable es)
    (hids : (modelIds (es.map (·.rebuilt ν unlinked es))).Nodup)
    (hresolved : ∀ id ∈ modelIds (es.map (·.rebuilt ν unlinked es)), id ≠ .unresolved)
    {e : Entity} (he : e ∈ es) {f : Field} (hf : f ∈ e.fields) :
    (f.rebuilt ν unlinked es e.name).sketch (es.map (·.rebuilt ν unlinked es))
      = (f.mapReference (·.detach unlinked es)).sketch (detached unlinked es) := by
  have hreference := ((h.writable e he).fields f hf).reference
  cases hlink : f.link? es with
  | some p =>
    obtain ⟨r, t⟩ := p
    obtain ⟨hr, ht, htarget⟩ := Field.link?_eq_some hlink
    have hany : es.any (fun t => t.id == r.target) = true :=
      List.any_eq_true.mpr ⟨t, ht, beq_iff_eq.mpr htarget⟩
    rw [Field.rebuilt_of_link? hlink, Field.sketch, Field.sketch, Field.mapReference, hr,
      Option.map_some, Option.map_some, Option.map_some, Reference.detach, if_pos hany,
      sketch_link h he hf hlink, sketch_relink hids hresolved ht, copy_eq h he hf]
  | none =>
    rw [Field.rebuilt_of_none hlink, Field.sketch, Field.sketch, Field.mapReference, copy_eq h he hf]
    dsimp only
    cases hr : f.reference with
    | none =>
      rw [hr, Option.isSome_none] at hreference
      rw [← hreference]
      rfl
    | some r =>
      rw [hr, Option.isSome_some] at hreference
      have hany : es.any (fun t => t.id == r.target) = false := by
        rw [List.any_eq_false]
        exact fun t ht htarget => Field.link?_eq_none hlink hr t ht (beq_iff_eq.mp htarget)
      have hleft : Reference.sketch (es.map (·.rebuilt ν unlinked es)) { cardinality := unlinked }
          = ⟨none, unlinked, none⟩ :=
        sketch_of_unlinked (fun x hx => hresolved _ (entityId_mem_modelIds hx)) rfl
      have hright : Reference.sketch (detached unlinked es) { cardinality := unlinked }
          = ⟨none, unlinked, none⟩ := by
        refine sketch_of_unlinked (fun x hx => ?_) rfl
        obtain ⟨y, hy, rfl⟩ := List.mem_map.mp hx
        exact h.resolved y hy
      rw [← hreference, if_pos rfl, Option.map_some, Option.map_some, Option.map_some,
        Reference.detach, hany, if_neg Bool.false_ne_true, hleft, hright]

/-- The model that is read back says what the diagram shows. -/
lemma sketch_map_rebuilt (h : Recoverable es)
    (hids : (modelIds (es.map (·.rebuilt ν unlinked es))).Nodup)
    (hresolved : ∀ id ∈ modelIds (es.map (·.rebuilt ν unlinked es)), id ≠ .unresolved) :
    sketch (es.map (·.rebuilt ν unlinked es)) = sketch (detached unlinked es) := by
  have hentity : ∀ e ∈ es, (e.rebuilt ν unlinked es).sketch (es.map (·.rebuilt ν unlinked es))
      = (e.mapReferences (·.detach unlinked es)).sketch (detached unlinked es) := by
    intro e he
    refine congrArg (EntitySketch.mk e.name) ?_
    rw [Entity.rebuilt, Entity.mapReferences, List.map_map, List.map_map]
    exact List.map_congr_left fun f hf => sketch_rebuilt h hids hresolved he hf
  calc sketch (es.map (·.rebuilt ν unlinked es))
      = es.map fun e => (e.rebuilt ν unlinked es).sketch (es.map (·.rebuilt ν unlinked es)) :=
        List.map_map
    _ = es.map fun e => (e.mapReferences (·.detach unlinked es)).sketch (detached unlinked es) :=
        List.map_congr_left hentity
    _ = sketch (detached unlinked es) := by
        rw [sketch, detached, List.map_map]
        rfl

/-- **A recoverable model that is written and read again is the same model up to ids**, and nothing
is warned about.  Of a reference to an entity that is not in the model the diagram shows nothing. -/
theorem parse_generate (h : Recoverable es) (hne : es ≠ []) {supply : Supply}
    (hfresh : supply.IsFresh) (unlinked : Cardinality) :
    ∃ es' rs supply', parse .byLabel unlinked supply (generate es)
        = (.accepted es' rs [], supply') ∧ sketch es' = sketch (detached unlinked es) := by
  obtain ⟨ν, rs, supply', hparse, hids, hgiven⟩ := parse_relaid h hne hfresh unlinked
    (isRelaid_generate es)
  exact ⟨es.map (·.rebuilt ν unlinked es), rs, supply', hparse,
    sketch_map_rebuilt h hids fun id hid => (hgiven id hid).ne_unresolved hfresh⟩

end Reading

/-- Posts and the users who wrote them.  One label names no field, and one reference points at an
entity that is not there. -/
def postsOfUsers : List Entity :=
  [{ id := ⟨"users"⟩, name := "Users"
     fields := [{ id := ⟨"users.id"⟩, name := "id", type := .int, isPrimary := true }] },
   { id := ⟨"posts"⟩, name := "Blog Posts"
     fields :=
      [{ id := ⟨"posts.id"⟩, name := "id", type := .int, isPrimary := true
         description := some "the post's 'number'" },
       { id := ⟨"posts.user_id"⟩, name := "user_id", type := .int, isForeign := true
         reference := some
           { target := ⟨"users"⟩, targetField := ⟨"users.id"⟩, label := some "written by" } },
       { id := ⟨"posts.site_id"⟩, name := "site_id", type := .uuid, isForeign := true
         reference := some { target := ⟨"sites"⟩, label := some "shown on" } }] }]

lemma recoverable_postsOfUsers : Recoverable postsOfUsers := by
  decide +kernel

/-- The posts are read back with their link to the users, and the link to a site is gone. -/
theorem parse_generate_postsOfUsers :
    ∃ es' rs supply', parse .byLabel .oneToOne .strokes (generate postsOfUsers)
        = (.accepted es' rs [], supply') ∧
      sketch es' = sketch (detached .oneToOne postsOfUsers) :=
  parse_generate recoverable_postsOfUsers (List.cons_ne_nil _ _) Supply.isFresh_strokes .oneToOne

end DiagramSync
