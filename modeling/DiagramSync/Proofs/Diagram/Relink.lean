import DiagramSync.Proofs.Diagram.Recoverable
import DiagramSync.Proofs.Diagram.Rescan
import DiagramSync.Proofs.Diagram.Selection

/-!
# Linking the copy of a model again

The relationship lines of a written model are resolved one after the other on its copy, and each of
them links the field that it was written for.  While they are, the fields whose lines have been
resolved have their links again and the others are unlinked still; `Entity.linkedUpTo` is an entity
in the midst of this.

* `Numbering` — the ids of a copy, by the names of its entities and fields
* `Field.rebuilt` — what becomes of a field in the end
* `Entity.linkedUpTo` — an entity of which some fields have been linked
* `resolveLine_link` — the line of a link links the field that it was written for
* **`resolveLines_copy`** — all lines together rebuild every field
-/

namespace DiagramSync

open Text

/-! ## Ids by name -/

/-- The ids of the entities and fields of a copy, by their names. -/
structure Numbering where
  /-- The id of the entity of that name. -/
  entity : String → Id
  /-- The id of a field, by the name of its entity and its own. -/
  field : String → String → Id

/-- A link under new ids: it points at the first primary key of its target. -/
def Numbering.relink (ν : Numbering) (r : Reference) (t : Entity) : Reference :=
  { r with
    target := ν.entity t.name
    targetField := (t.primaryKey?.map fun p => ν.field t.name p.name).getD .unresolved }

section Progress

variable (ν : Numbering) (unlinked : Cardinality) (es : List Entity)

/-- What becomes of a field in the end: its copy, with its link if it has one. -/
def Field.rebuilt (owner : String) (f : Field) : Field :=
  let copy := f.copy unlinked (ν.field owner f.name)
  match f.link? es with
  | some (r, t) => { copy with reference := some (ν.relink r t) }
  | none => copy

/-- What has become of a field when the fields listed have been linked. -/
def Field.linkedUpTo (done : List (String × String)) (owner : String) (f : Field) : Field :=
  if (owner, f.name) ∈ done then f.rebuilt ν unlinked es owner
  else f.copy unlinked (ν.field owner f.name)

/-- What has become of an entity when the fields listed have been linked. -/
def Entity.linkedUpTo (done : List (String × String)) (e : Entity) : Entity where
  id := ν.entity e.name
  name := e.name
  fields := e.fields.map (·.linkedUpTo ν unlinked es done e.name)

/-- What becomes of an entity in the end. -/
def Entity.rebuilt (e : Entity) : Entity where
  id := ν.entity e.name
  name := e.name
  fields := e.fields.map (·.rebuilt ν unlinked es e.name)

variable {ν unlinked es}

/-! ## What stays while lines are resolved -/

@[simp] lemma Field.name_rebuilt (owner : String) (f : Field) :
    (f.rebuilt ν unlinked es owner).name = f.name := by
  rw [Field.rebuilt]
  split <;> rfl

@[simp] lemma Field.id_rebuilt (owner : String) (f : Field) :
    (f.rebuilt ν unlinked es owner).id = ν.field owner f.name := by
  rw [Field.rebuilt]
  split <;> rfl

@[simp] lemma Field.isPrimary_rebuilt (owner : String) (f : Field) :
    (f.rebuilt ν unlinked es owner).isPrimary = f.isPrimary := by
  rw [Field.rebuilt]
  split <;> rfl

lemma Field.rebuilt_of_link? {f : Field} {r : Reference} {t : Entity} (h : f.link? es = some (r, t))
    (owner : String) :
    f.rebuilt ν unlinked es owner
      = { f.copy unlinked (ν.field owner f.name) with reference := some (ν.relink r t) } := by
  rw [Field.rebuilt, h]

lemma Field.rebuilt_of_none {f : Field} (h : f.link? es = none) (owner : String) :
    f.rebuilt ν unlinked es owner = f.copy unlinked (ν.field owner f.name) := by
  rw [Field.rebuilt, h]

variable {done : List (String × String)}

@[simp] lemma Field.name_linkedUpTo (owner : String) (f : Field) :
    (f.linkedUpTo ν unlinked es done owner).name = f.name := by
  rw [Field.linkedUpTo]
  split_ifs
  · exact f.name_rebuilt owner
  · rfl

@[simp] lemma Field.id_linkedUpTo (owner : String) (f : Field) :
    (f.linkedUpTo ν unlinked es done owner).id = ν.field owner f.name := by
  rw [Field.linkedUpTo]
  split_ifs
  · exact f.id_rebuilt owner
  · rfl

@[simp] lemma Field.isPrimary_linkedUpTo (owner : String) (f : Field) :
    (f.linkedUpTo ν unlinked es done owner).isPrimary = f.isPrimary := by
  rw [Field.linkedUpTo, Field.rebuilt]
  split_ifs
  · split <;> rfl
  · rfl

lemma Field.isForeign_linkedUpTo (owner : String) {f : Field}
    (h : f.isForeign = true → f.isPrimary = false) :
    (f.linkedUpTo ν unlinked es done owner).isForeign = f.isForeign := by
  have hcopy : (!f.isPrimary && f.isForeign) = f.isForeign := by
    cases hf : f.isForeign with
    | false => exact Bool.and_false _
    | true => rw [h hf]; rfl
  rw [Field.linkedUpTo, Field.rebuilt]
  split_ifs
  · split <;> exact hcopy
  · exact hcopy

lemma isCandidate_linkedUpTo (owner : String) {f : Field} {t : Entity}
    (h : f.isForeign = true → f.isPrimary = false) :
    isCandidate (t.linkedUpTo ν unlinked es done) (f.linkedUpTo ν unlinked es done owner)
      = isCandidate t f := by
  rw [isCandidate, isCandidate, Field.isForeign_linkedUpTo owner h, Field.name_linkedUpTo]
  rfl

/-- The primary key stays where it is. -/
lemma primaryKey?_linkedUpTo (e : Entity) :
    (e.linkedUpTo ν unlinked es done).primaryKey?
      = e.primaryKey?.map (·.linkedUpTo ν unlinked es done e.name) := by
  have hprimary : (fun f : Field => f.isPrimary) ∘ Field.linkedUpTo ν unlinked es done e.name
      = fun f : Field => f.isPrimary := funext fun f => f.isPrimary_linkedUpTo e.name
  rw [Entity.primaryKey?, Entity.linkedUpTo, List.find?_map, hprimary]
  rfl

/-- Entities are found under their names as before. -/
lemma entityNamed?_linkedUpTo (h : Legible es) {e : Entity} (he : e ∈ es) :
    entityNamed? (es.map (·.linkedUpTo ν unlinked es done)) e.name
      = some (e.linkedUpTo ν unlinked es done) := by
  have hfind : es.find? (fun x => x.name == e.name) = some e :=
    (find?_key_eq_some h.names).mpr ⟨he, rfl⟩
  have hname : (fun x : Entity => x.name == e.name) ∘ Entity.linkedUpTo ν unlinked es done
      = fun x : Entity => x.name == e.name := rfl
  rw [entityNamed?, List.find?_map, hname, hfind]
  rfl

/-! ## One line -/

/-- A field that is listed and has a link is linked, if no entity has the id of none. -/
lemma isLinked_linkedUpTo (hν : ∀ t ∈ es, ν.entity t.name ≠ .unresolved) {owner : String}
    {f : Field} (hdone : (owner, f.name) ∈ done) (hlink : (f.link? es).isSome = true) :
    (f.linkedUpTo ν unlinked es done owner).isLinked = true := by
  obtain ⟨⟨r, t⟩, hlink⟩ := Option.isSome_iff_exists.mp hlink
  rw [Field.linkedUpTo, if_pos hdone, Field.rebuilt_of_link? hlink]
  exact bne_iff_ne.mpr (hν t (Field.link?_eq_some hlink).2.1)

/-- A copy is not linked. -/
lemma not_isLinked_copy (f : Field) (id : Id) : (f.copy unlinked id).isLinked = false := by
  rw [Field.copy, Field.isLinked]
  cases !f.isPrimary && f.isForeign <;> rfl

/-- A field that is not listed is not linked. -/
lemma not_isLinked_linkedUpTo {owner : String} {f : Field} (hdone : (owner, f.name) ∉ done) :
    (f.linkedUpTo ν unlinked es done owner).isLinked = false := by
  rw [Field.linkedUpTo, if_neg hdone, not_isLinked_copy]

/-- A line is resolved to the foreign key that its label names, or that is the first to come if it
names none. -/
lemma picks_of_found (h : Legible es) {e : Entity} (he : e ∈ es) {pre post : List Field}
    {f : Field} (hfields : e.fields = pre ++ f :: post) (hforeign : f.isForeign = true)
    (hprimary : f.isPrimary = false) (t : Entity) {label : String} (hlabel : label ≠ "")
    (hfound : foldName label = foldName (f.linkedUpTo ν unlinked es done e.name).name ∨
      (∀ g ∈ (e.linkedUpTo ν unlinked es done).fields, g.isForeign = true →
        foldName g.name ≠ foldName label) ∧
      isCandidate (t.linkedUpTo ν unlinked es done) (f.linkedUpTo ν unlinked es done e.name)
        = true ∧
      (f.linkedUpTo ν unlinked es done e.name).isLinked = false ∧
      ∀ g ∈ pre.map (·.linkedUpTo ν unlinked es done e.name),
        isCandidate (t.linkedUpTo ν unlinked es done) g = true → g.isLinked = true) :
    Picks (e.linkedUpTo ν unlinked es done) (t.linkedUpTo ν unlinked es done)
      (pre.map (·.linkedUpTo ν unlinked es done e.name)) (f.linkedUpTo ν unlinked es done e.name)
      (post.map (·.linkedUpTo ν unlinked es done e.name)) label where
  fields := by rw [Entity.linkedUpTo, hfields, List.map_append, List.map_cons]
  names := by
    rw [Entity.linkedUpTo, List.map_map]
    simpa [Function.comp_def] using h.fieldNames e he
  foreign := by rw [Field.isForeign_linkedUpTo _ fun _ => hprimary, hforeign]
  labelled := hlabel
  found := hfound

/-- The line of a link is resolved to the field that it was written for, if the links of the fields
before are there again and that of the field itself is not. -/
lemma picks_linkedUpTo (h : Recoverable es) (hν : ∀ t ∈ es, ν.entity t.name ≠ .unresolved)
    {e : Entity} (he : e ∈ es) {pre post : List Field} {f : Field}
    (hfields : e.fields = pre ++ f :: post) {r : Reference} {t : Entity}
    (hlink : f.link? es = some (r, t)) (hpre : ∀ g ∈ pre, (e.name, g.name) ∈ done)
    (hnew : (e.name, f.name) ∉ done) :
    Picks (e.linkedUpTo ν unlinked es done) (t.linkedUpTo ν unlinked es done)
      (pre.map (·.linkedUpTo ν unlinked es done e.name)) (f.linkedUpTo ν unlinked es done e.name)
      (post.map (·.linkedUpTo ν unlinked es done e.name)) (r.label.getD f.name) := by
  have hf : f ∈ e.fields := hfields ▸ List.mem_append_right pre List.mem_cons_self
  have hwritable := (h.writable e he).fields f hf
  have href := (Field.link?_eq_some hlink).1
  have hforeign : f.isForeign = true := by
    rw [← hwritable.reference, href, Option.isSome_some]
  refine picks_of_found h.legible he hfields hforeign (h.singleKey e he f hf hforeign) t ?_ ?_
  · cases hl : r.label with
    | none => exact hwritable.named
    | some l =>
      rintro rfl
      have hclean := hwritable.label r href
      rw [hl] at hclean
      exact absurd hclean (by decide)
  · cases hl : r.label with
    | none => exact Or.inl (by rw [Field.name_linkedUpTo, Option.getD_none])
    | some l =>
      rw [Option.getD_some, Field.name_linkedUpTo]
      refine (h.labels e he f hf r t hlink l hl).2.imp id ?_
      rintro ⟨hnone, hcandidate, hlinked⟩
      refine ⟨?_, ?_, not_isLinked_linkedUpTo hnew, ?_⟩
      · intro g' hg' hgforeign
        obtain ⟨g, hg, rfl⟩ := List.mem_map.mp hg'
        rw [Field.isForeign_linkedUpTo _ (h.singleKey e he g hg)] at hgforeign
        rw [Field.name_linkedUpTo]
        exact hnone g hg hgforeign
      · rw [isCandidate_linkedUpTo _ (h.singleKey e he f hf), hcandidate]
      · intro g' hg' hgcandidate
        obtain ⟨g, hg, rfl⟩ := List.mem_map.mp hg'
        have hgmem : g ∈ e.fields := hfields ▸ List.mem_append_left _ hg
        rw [isCandidate_linkedUpTo _ (h.singleKey e he g hgmem)] at hgcandidate
        rw [fieldsBefore_eq (h.fieldNames e he) hfields] at hlinked
        exact isLinked_linkedUpTo hν (hpre g hg) (hlinked g hg hgcandidate)

/-- What a line makes of the field that it links. -/
lemma link_linkedUpTo {owner : String} {f : Field} {r : Reference} {t : Entity}
    (hlink : f.link? es = some (r, t)) (hclean : cleanRemark r.label = r.label)
    (hdefault : r.label ≠ some f.name) {line : Relationship}
    (hcardinality : line.cardinality = r.cardinality)
    (hlabel : line.label = some (r.label.getD f.name)) :
    (f.linkedUpTo ν unlinked es done owner).link (t.linkedUpTo ν unlinked es done) line
      = f.rebuilt ν unlinked es owner := by
  have hkey : ((t.linkedUpTo ν unlinked es done).primaryKey?.map (·.id))
      = t.primaryKey?.map fun p => ν.field t.name p.name := by
    rw [primaryKey?_linkedUpTo, Option.map_map]
    exact congrArg (Option.map · t.primaryKey?) (funext fun p => p.id_linkedUpTo t.name)
  have hkept : (if some (r.label.getD f.name) = some f.name then none
      else cleanRemark (some (r.label.getD f.name))) = r.label := by
    cases hl : r.label with
    | none => exact if_pos rfl
    | some l =>
      rw [hl] at hclean hdefault
      rw [Option.getD_some, if_neg hdefault, hclean]
  have hreference : linkedReference (t.linkedUpTo ν unlinked es done) line
      (f.linkedUpTo ν unlinked es done owner) = ν.relink r t := by
    rw [linkedReference, hkey, hcardinality, hlabel, Field.name_linkedUpTo, hkept]
    rfl
  rw [Field.link, hreference, Field.rebuilt_of_link? hlink, Field.linkedUpTo]
  split_ifs
  · rw [Field.rebuilt_of_link? hlink]
  · rfl

/-- Linking one field more changes its entity alone. -/
lemma replaceNamed_linkedUpTo (h : Legible es) {e : Entity} (he : e ∈ es)
    {pre post : List Field} {f : Field} (hfields : e.fields = pre ++ f :: post) :
    replaceNamed e.name
        { e.linkedUpTo ν unlinked es done with
          fields := pre.map (·.linkedUpTo ν unlinked es done e.name)
            ++ f.rebuilt ν unlinked es e.name
              :: post.map (·.linkedUpTo ν unlinked es done e.name) }
        (es.map (·.linkedUpTo ν unlinked es done))
      = es.map (·.linkedUpTo ν unlinked es ((e.name, f.name) :: done)) := by
  have hother : ∀ g : Field, (g.name ≠ f.name) →
      g.linkedUpTo ν unlinked es done e.name
        = g.linkedUpTo ν unlinked es ((e.name, f.name) :: done) e.name := by
    intro g hg
    simp only [Field.linkedUpTo, List.mem_cons, Prod.mk.injEq, hg, and_false, false_or]
  have hnames : ((pre ++ f :: post).map Field.name).Nodup := by
    have hfold := h.fieldNames e he
    rw [hfields] at hfold
    exact List.Nodup.of_map foldName (by rwa [List.map_map])
  rw [List.map_append, List.map_cons, List.nodup_append, List.nodup_cons] at hnames
  rw [replaceNamed, List.map_map]
  refine List.map_congr_left fun x hx => ?_
  rw [Function.comp_apply]
  by_cases hname : x.name = e.name
  · obtain rfl := h.eq_of_name hx he hname
    have htest : ((x.linkedUpTo ν unlinked es done).name == x.name) = true :=
      beq_self_eq_true x.name
    rw [if_pos htest]
    refine congrArg (fun fs => (⟨ν.entity x.name, x.name, fs⟩ : Entity)) ?_
    rw [hfields, List.map_append, List.map_cons]
    congr 1
    · refine List.map_congr_left fun g hg => hother g fun heq => ?_
      exact hnames.2.2 _ (List.mem_map.mpr ⟨g, hg, rfl⟩) _ List.mem_cons_self heq
    · congr 1
      · rw [Field.linkedUpTo, if_pos List.mem_cons_self]
      · refine List.map_congr_left fun g hg => hother g fun heq => ?_
        exact hnames.2.1.1 (heq ▸ List.mem_map.mpr ⟨g, hg, rfl⟩)
  · have htest : ¬((x.linkedUpTo ν unlinked es done).name == e.name) = true :=
      fun heq => hname (beq_iff_eq.mp heq)
    rw [if_neg htest]
    refine congrArg (fun fs => (⟨ν.entity x.name, x.name, fs⟩ : Entity)) ?_
    refine List.map_congr_left fun g _ => ?_
    simp only [Field.linkedUpTo, List.mem_cons, Prod.mk.injEq, hname, false_and, false_or]

/-- A line that is resolved to the field that it was written for links this field, and changes
nothing else. -/
lemma resolveLine_of_picks (h : Legible es) {e : Entity} (he : e ∈ es) {pre post : List Field}
    {f : Field} (hfields : e.fields = pre ++ f :: post) {r : Reference} {t : Entity}
    (hlink : f.link? es = some (r, t)) (hdefault : r.label ≠ some f.name)
    (hpicks : Picks (e.linkedUpTo ν unlinked es done) (t.linkedUpTo ν unlinked es done)
      (pre.map (·.linkedUpTo ν unlinked es done e.name)) (f.linkedUpTo ν unlinked es done e.name)
      (post.map (·.linkedUpTo ν unlinked es done e.name)) (r.label.getD f.name))
    {n : Nat} {line : Relationship}
    (hline : Emission.StatedBy ⟨e.name, t.name, r.cardinality, r.label.getD f.name⟩ line) :
    resolveLine .byLabel (es.map (·.linkedUpTo ν unlinked es done)) n line
      = .ok (es.map (·.linkedUpTo ν unlinked es ((e.name, f.name) :: done)), []) := by
  have hf : f ∈ e.fields := hfields ▸ List.mem_append_right pre List.mem_cons_self
  obtain ⟨hr, ht, -⟩ := Field.link?_eq_some hlink
  have hclean : cleanRemark r.label = r.label := ((h.writable e he).fields f hf).label r hr
  have hsource : entityNamed? (es.map (·.linkedUpTo ν unlinked es done)) line.source
      = some (e.linkedUpTo ν unlinked es done) := by
    rw [hline.source, entityNamed?_linkedUpTo h he]
  have htarget : entityNamed? (es.map (·.linkedUpTo ν unlinked es done)) line.target
      = some (t.linkedUpTo ν unlinked es done) := by
    rw [hline.target, entityNamed?_linkedUpTo h ht]
  rw [resolveLine_byLabel hsource htarget hpicks hline.label,
    link_linkedUpTo hlink hclean hdefault hline.cardinality hline.label]
  exact congrArg (fun es => Except.ok (es, [])) (replaceNamed_linkedUpTo h he hfields)

/-- The line of a link links the field that it was written for, and changes nothing else. -/
lemma resolveLine_link (h : Recoverable es) (hν : ∀ t ∈ es, ν.entity t.name ≠ .unresolved)
    {e : Entity} (he : e ∈ es) {pre post : List Field} {f : Field}
    (hfields : e.fields = pre ++ f :: post) {r : Reference} {t : Entity}
    (hlink : f.link? es = some (r, t)) (hpre : ∀ g ∈ pre, (e.name, g.name) ∈ done)
    (hnew : (e.name, f.name) ∉ done) {n : Nat} {line : Relationship}
    (hline : Emission.StatedBy ⟨e.name, t.name, r.cardinality, r.label.getD f.name⟩ line) :
    resolveLine .byLabel (es.map (·.linkedUpTo ν unlinked es done)) n line
      = .ok (es.map (·.linkedUpTo ν unlinked es ((e.name, f.name) :: done)), []) := by
  have hf : f ∈ e.fields := hfields ▸ List.mem_append_right pre List.mem_cons_self
  have hdefault : r.label ≠ some f.name := fun hl =>
    (h.labels e he f hf r t hlink f.name hl).1 rfl
  exact resolveLine_of_picks h.legible he hfields hlink hdefault
    (picks_linkedUpTo h hν he hfields hlink hpre hnew) hline

/-! ## All lines -/

/-- A field without a link stays as it is when it is listed. -/
lemma linkedUpTo_cons_of_none (h : Recoverable es) {e : Entity} (he : e ∈ es) {f : Field}
    (hf : f ∈ e.fields) (hlink : f.link? es = none) :
    es.map (·.linkedUpTo ν unlinked es ((e.name, f.name) :: done))
      = es.map (·.linkedUpTo ν unlinked es done) := by
  refine List.map_congr_left fun x hx => ?_
  refine congrArg (fun fs => (⟨ν.entity x.name, x.name, fs⟩ : Entity)) ?_
  refine List.map_congr_left fun g hg => ?_
  by_cases hsame : (x.name, g.name) = (e.name, f.name)
  · obtain ⟨hxe, hgf⟩ := Prod.mk.inj hsame
    obtain rfl := h.legible.eq_of_name hx he hxe
    obtain rfl := h.legible.eq_of_fieldName hx hg hf (congrArg foldName hgf)
    rw [Field.linkedUpTo, if_pos List.mem_cons_self, Field.linkedUpTo, Field.rebuilt_of_none hlink,
      ite_self]
  · simp only [Field.linkedUpTo, List.mem_cons, hsame, false_or]

/-- The lines of some fields of an entity link these fields again. -/
lemma resolveLines_fields (h : Recoverable es) (hν : ∀ t ∈ es, ν.entity t.name ≠ .unresolved)
    {e : Entity} (he : e ∈ es) {pre fs : List Field} (hfields : e.fields = pre ++ fs)
    (hpre : ∀ g ∈ pre, (e.name, g.name) ∈ done) (hnew : ∀ g ∈ fs, (e.name, g.name) ∉ done)
    {lines : List (Nat × Relationship)}
    (hlines : List.Forall₂ (fun em r => Emission.StatedBy em r.2)
      (fs.filterMap (·.emission? es e.name)) lines) :
    resolveLines .byLabel (es.map (·.linkedUpTo ν unlinked es done)) lines
      = .ok (es.map (·.linkedUpTo ν unlinked es
          ((fs.map fun f => (e.name, f.name)).reverse ++ done)), []) := by
  induction fs generalizing pre done lines with
  | nil =>
    obtain rfl := List.forall₂_nil_left_iff.mp hlines
    rfl
  | cons f fs ih =>
    have hf : f ∈ e.fields := hfields ▸ List.mem_append_right pre List.mem_cons_self
    have hstep : e.fields = (pre ++ [f]) ++ fs := by
      rw [hfields, List.append_assoc, List.singleton_append]
    have hdone : ∀ g ∈ pre ++ [f], (e.name, g.name) ∈ (e.name, f.name) :: done := by
      intro g hg
      rcases List.mem_append.mp hg with hg | hg
      · exact List.mem_cons_of_mem _ (hpre g hg)
      · rw [List.mem_singleton.mp hg]
        exact List.mem_cons_self
    have hrest : ∀ g ∈ fs, (e.name, g.name) ∉ (e.name, f.name) :: done := by
      intro g hg hmem
      rcases List.mem_cons.mp hmem with hsame | hmem
      · have hnodup := h.fieldNames e he
        rw [hfields, List.map_append, List.nodup_append, List.map_cons, List.nodup_cons] at hnodup
        refine hnodup.2.1.1 (List.mem_map.mpr ⟨g, hg, ?_⟩)
        rw [(Prod.mk.inj hsame).2]
      · exact hnew g (List.mem_cons_of_mem f hg) hmem
    have hmark : (List.map (fun g : Field => (e.name, g.name)) (f :: fs)).reverse ++ done
        = (fs.map fun g => (e.name, g.name)).reverse ++ (e.name, f.name) :: done := by
      rw [List.map_cons, List.reverse_cons, List.append_assoc, List.singleton_append]
    rw [List.filterMap_cons,
      emission?_eq_link? h.ids ((h.writable e he).fields f hf).toIsValid] at hlines
    rw [hmark]
    cases hlink : f.link? es with
    | none =>
      rw [hlink] at hlines
      rw [← linkedUpTo_cons_of_none h he hf hlink]
      exact ih hstep hdone hrest hlines
    | some p =>
      obtain ⟨r, t⟩ := p
      rw [hlink] at hlines
      obtain ⟨⟨n, line⟩, rest, hline, hothers, rfl⟩ := List.forall₂_cons_left_iff.mp hlines
      exact resolveLines_cons
        (resolveLine_link h hν he hfields hlink hpre (hnew f List.mem_cons_self) hline)
        (ih hstep hdone hrest hothers)

lemma forall₂_append_left {α β : Type} {R : α → β → Prop} {xs xs' : List α} {ys : List β}
    (h : List.Forall₂ R (xs ++ xs') ys) :
    ∃ zs zs', ys = zs ++ zs' ∧ List.Forall₂ R xs zs ∧ List.Forall₂ R xs' zs' := by
  induction xs generalizing ys with
  | nil => exact ⟨[], ys, rfl, List.Forall₂.nil, h⟩
  | cons x xs ih =>
    obtain ⟨y, ys, hxy, hrest, rfl⟩ := List.forall₂_cons_left_iff.mp h
    obtain ⟨zs, zs', rfl, hzs, hzs'⟩ := ih hrest
    exact ⟨y :: zs, zs', rfl, List.Forall₂.cons hxy hzs, hzs'⟩

/-- The lines of some entities link all their fields again. -/
lemma resolveLines_entities (h : Recoverable es) (hν : ∀ t ∈ es, ν.entity t.name ≠ .unresolved)
    {pre xs : List Entity} (hes : es = pre ++ xs)
    (hdone : ∀ p ∈ done, p.1 ∈ pre.map Entity.name) {lines : List (Nat × Relationship)}
    (hlines : List.Forall₂ (fun em r => Emission.StatedBy em r.2)
      (xs.flatMap fun e => e.fields.filterMap (·.emission? es e.name)) lines) :
    ∃ done', resolveLines .byLabel (es.map (·.linkedUpTo ν unlinked es done)) lines
        = .ok (es.map (·.linkedUpTo ν unlinked es done'), []) ∧
      done ⊆ done' ∧ ∀ e ∈ xs, ∀ f ∈ e.fields, (e.name, f.name) ∈ done' := by
  induction xs generalizing pre done lines with
  | nil =>
    obtain rfl := List.forall₂_nil_left_iff.mp hlines
    exact ⟨done, rfl, List.Subset.refl done, by simp⟩
  | cons e xs ih =>
    have he : e ∈ es := hes ▸ List.mem_append_right pre List.mem_cons_self
    rw [List.flatMap_cons] at hlines
    obtain ⟨first, rest, rfl, hfirst, hrest⟩ := forall₂_append_left hlines
    have hnew : ∀ g ∈ e.fields, (e.name, g.name) ∉ done := by
      intro g _ hmem
      have hnodup := h.names
      rw [hes, List.map_append, List.nodup_append, List.map_cons] at hnodup
      exact hnodup.2.2 _ (hdone _ hmem) _ List.mem_cons_self rfl
    have hall : e.fields = [] ++ e.fields := rfl
    have hline : resolveLines .byLabel (es.map (·.linkedUpTo ν unlinked es done)) first = _ :=
      resolveLines_fields h hν he hall (by simp) hnew hfirst
    have hsplit : es = (pre ++ [e]) ++ xs := by
      rw [hes, List.append_assoc, List.singleton_append]
    have hdone' : ∀ p ∈ (e.fields.map fun f => (e.name, f.name)).reverse ++ done,
        p.1 ∈ (pre ++ [e]).map Entity.name := by
      intro p hp
      rw [List.map_append]
      rcases List.mem_append.mp hp with hp | hp
      · obtain ⟨f, -, rfl⟩ := List.mem_map.mp (List.mem_reverse.mp hp)
        exact List.mem_append_right _ (List.mem_singleton.mpr rfl)
      · exact List.mem_append_left _ (hdone p hp)
    obtain ⟨done', hlines', hsub, hmarked⟩ := ih hsplit hdone' hrest
    refine ⟨done', resolveLines_append hline hlines', fun p hp => ?_, fun x hx f hf => ?_⟩
    · exact hsub (List.mem_append_right _ hp)
    · rcases List.mem_cons.mp hx with rfl | hx
      · refine hsub (List.mem_append_left _ (List.mem_reverse.mpr ?_))
        exact List.mem_map.mpr ⟨f, hf, rfl⟩
      · exact hmarked x hx f hf

variable (ν unlinked) in
/-- The copy of an entity under the ids of a numbering. -/
def Entity.copy (e : Entity) : Entity where
  id := ν.entity e.name
  name := e.name
  fields := e.fields.map fun f => f.copy unlinked (ν.field e.name f.name)

/-- **The lines of a recoverable model rebuild every field of its copy**, and none of them is warned
about. -/
theorem resolveLines_copy (h : Recoverable es) (hν : ∀ t ∈ es, ν.entity t.name ≠ .unresolved)
    {lines : List (Nat × Relationship)}
    (hlines : List.Forall₂ (fun em r => Emission.StatedBy em r.2) (modelEmissions es) lines) :
    resolveLines .byLabel (es.map (·.copy ν unlinked)) lines
      = .ok (es.map (·.rebuilt ν unlinked es), []) := by
  have hsplit : es = [] ++ es := rfl
  have hnone : ∀ p ∈ ([] : List (String × String)), p.1 ∈ ([] : List Entity).map Entity.name := by
    simp
  obtain ⟨done, hresolved, -, hall⟩ := resolveLines_entities h hν hsplit hnone hlines
  have hstart : es.map (·.linkedUpTo ν unlinked es []) = es.map (·.copy ν unlinked) := by
    simp only [Entity.linkedUpTo, Entity.copy, Field.linkedUpTo, List.not_mem_nil, if_false]
  have hend : es.map (·.linkedUpTo ν unlinked es done) = es.map (·.rebuilt ν unlinked es) := by
    refine List.map_congr_left fun e he => ?_
    refine congrArg (fun fs => (⟨ν.entity e.name, e.name, fs⟩ : Entity)) ?_
    refine List.map_congr_left fun f hf => ?_
    rw [Field.linkedUpTo, if_pos (hall e he f hf)]
  rw [← hstart, hresolved, hend]

end Progress

/-! ## Numbering a copy -/

/-- What some fields are scanned into is numbered by their names. -/
lemma exists_fieldNumbering {unlinked : Cardinality} {fs gs : List Field}
    (hnames : (fs.map Field.name).Nodup)
    (h : List.Forall₂ (fun f g => g = f.copy unlinked g.id) fs gs) :
    ∃ φ : String → Id, gs = fs.map fun f => f.copy unlinked (φ f.name) := by
  induction h with
  | nil => exact ⟨fun _ => .unresolved, rfl⟩
  | cons hfg _ ih =>
    rename_i f g fs gs _
    rw [List.map_cons, List.nodup_cons] at hnames
    obtain ⟨φ, rfl⟩ := ih hnames.2
    refine ⟨Function.update φ f.name g.id, ?_⟩
    rw [List.map_cons, Function.update_self, ← hfg]
    refine congrArg (List.cons g) (List.map_congr_left fun x hx => ?_)
    rw [Function.update_of_ne]
    exact fun heq => hnames.1 (heq ▸ List.mem_map.mpr ⟨x, hx, rfl⟩)

/-- What a model is scanned into is its copy under some numbering. -/
lemma exists_numbering {unlinked : Cardinality} {es cs : List Entity}
    (hnames : (es.map Entity.name).Nodup) (hfields : ∀ e ∈ es, (e.fields.map Field.name).Nodup)
    (h : List.Forall₂ (Entity.Copies unlinked) es cs) :
    ∃ ν : Numbering, cs = es.map (·.copy ν unlinked) := by
  induction h with
  | nil => exact ⟨⟨fun _ => .unresolved, fun _ _ => .unresolved⟩, rfl⟩
  | cons hec _ ih =>
    rename_i e c es cs _
    rw [List.map_cons, List.nodup_cons] at hnames
    obtain ⟨ν, rfl⟩ := ih hnames.2 fun x hx => hfields x (List.mem_cons_of_mem e hx)
    obtain ⟨φ, hφ⟩ := exists_fieldNumbering (hfields e List.mem_cons_self) hec.fields
    refine ⟨⟨Function.update ν.entity e.name c.id, Function.update ν.field e.name φ⟩, ?_⟩
    rw [List.map_cons]
    congr 1
    · obtain ⟨id, name, fields⟩ := c
      obtain rfl : name = e.name := hec.name
      simp only [Entity.copy, Function.update_self]
      rw [← hφ]
    · refine List.map_congr_left fun x hx => ?_
      have hother : x.name ≠ e.name := fun heq => hnames.1 (heq ▸ List.mem_map.mpr ⟨x, hx, rfl⟩)
      simp only [Entity.copy, Function.update_of_ne hother]

end DiagramSync
