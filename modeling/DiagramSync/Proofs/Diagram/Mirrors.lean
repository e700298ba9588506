import DiagramSync.Proofs.Diagram.Recoverable
import DiagramSync.Proofs.Diagram.WrittenLines

/-!
# Which relationship lines are written

Every foreign key that points at an entity of the model is to be written as a line, in the order of
the entities and of their fields.  A line is left out if it mirrors one that has been written: it
joins the same two entities, which are different, by the same symbol the other way round.  What
counts are the lines that have been written, not those that were left out.

* `Link`, `links` — the foreign keys of a model that point at one of its entities, in order
* `shownNameIn`, `Link.line` — the name under which an entity is written, and the line of a link
* `allEmissions_eq_map` — before mirrors are left out there is one line for each link
* `Emission.IsReverseOf` — the same symbol between the same two names the other way round
* `pairwise_withoutMirrors`, `exists_kept` — what is left of a list of lines
* `WritesLinks` — which links are written
* **`exists_writesLinks`** — they are the lines of the diagram
-/

namespace DiagramSync

/-! ## Links -/

/-- A foreign key that points at an entity of the model. -/
structure Link where
  /-- The entity that has the field. -/
  owner : Entity
  /-- The position of the field, counted from zero. -/
  position : Nat
  /-- The field. -/
  field : Field
  /-- Its reference. -/
  reference : Reference
  /-- The entity that it points at. -/
  target : Entity
  deriving DecidableEq

/-- The link of the field at that position of an entity, if it has one. -/
def Field.linkFrom? (es : List Entity) (owner : Entity) (position : Nat) (f : Field) :
    Option Link :=
  if f.isForeign then (f.link? es).map fun p => ⟨owner, position, f, p.1, p.2⟩ else none

/-- The foreign keys of an entity that point at an entity of the model, in order. -/
def Entity.links (es : List Entity) (e : Entity) : List Link :=
  e.fields.zipIdx.filterMap fun p => p.1.linkFrom? es e p.2

/-- The foreign keys of a model that point at one of its entities, in order. -/
def links (es : List Entity) : List Link :=
  es.flatMap (Entity.links es)

section Links

variable {es : List Entity} {l : Link}

lemma linkFrom?_eq_some {owner : Entity} {position : Nat} {f : Field}
    (h : f.linkFrom? es owner position = some l) :
    l.owner = owner ∧ l.position = position ∧ l.field = f ∧ f.isForeign = true ∧
      f.link? es = some (l.reference, l.target) := by
  obtain ⟨hforeign, hl⟩ := Option.ite_none_right_eq_some.mp h
  obtain ⟨⟨r, t⟩, hlink, rfl⟩ := Option.map_eq_some_iff.mp hl
  exact ⟨rfl, rfl, rfl, hforeign, hlink⟩

lemma mem_entityLinks {e : Entity} (h : l ∈ e.links es) :
    l.owner = e ∧ e.fields[l.position]? = some l.field ∧ l.field.isForeign = true ∧
      l.field.link? es = some (l.reference, l.target) := by
  obtain ⟨⟨f, position⟩, hf, hl⟩ := List.mem_filterMap.mp h
  obtain ⟨howner, rfl, rfl, hlink⟩ := linkFrom?_eq_some hl
  exact ⟨howner, List.mem_zipIdx_iff_getElem?.mp hf, hlink⟩

lemma mem_links (h : l ∈ links es) :
    l.owner ∈ es ∧ l.owner.fields[l.position]? = some l.field ∧ l.field.isForeign = true ∧
      l.field.link? es = some (l.reference, l.target) := by
  obtain ⟨e, he, hl⟩ := List.mem_flatMap.mp h
  obtain ⟨rfl, hlink⟩ := mem_entityLinks hl
  exact ⟨he, hlink⟩

lemma target_mem_of_links (h : l ∈ links es) : l.target ∈ es := by
  obtain ⟨-, -, -, hlink⟩ := mem_links h
  exact (Field.link?_eq_some hlink).2.1

/-- Where no entity has the id of none, every link has a target. -/
lemma isLinked_of_links (hresolved : ∀ e ∈ es, e.id ≠ .unresolved) (h : l ∈ links es) :
    l.reference.isLinked = true := by
  obtain ⟨-, -, -, hlink⟩ := mem_links h
  obtain ⟨-, htarget, hid⟩ := Field.link?_eq_some hlink
  simp [Reference.isLinked, ← hid, hresolved l.target htarget]

/-- Different entities have different links, and so have different fields of an entity. -/
lemma nodup_links (hes : es.Nodup) : (links es).Nodup := by
  refine List.nodup_flatMap.mpr ⟨fun e _ => ?_, hes.imp fun hne l hl hl' => ?_⟩
  · refine List.Nodup.filterMap ?_ (List.Nodup.of_map Prod.snd ?_)
    · rintro ⟨f, i⟩ ⟨g, j⟩ l hf hg
      obtain ⟨-, rfl, rfl, -⟩ := linkFrom?_eq_some hf
      obtain ⟨-, rfl, rfl, -⟩ := linkFrom?_eq_some hg
      rfl
    · rw [List.zipIdx_map_snd]
      exact List.nodup_range'
  · exact hne ((mem_entityLinks hl).1.symm.trans (mem_entityLinks hl').1)

end Links

/-! ## Lines of links -/

/-- The name under which an entity of the model is written. -/
def shownNameIn (es : List Entity) (e : Entity) : String :=
  e.toTable.shownName (es.idxOf e)

/-- The line of a link: the names of its two entities, its cardinality, and its label or else the
name of its field. -/
def Link.line (es : List Entity) (l : Link) : Emission where
  source := shownNameIn es l.owner
  target := shownNameIn es l.target
  cardinality := l.reference.cardinality
  label := l.reference.label.getD (l.field.toColumn.shownName l.position)

@[simp] lemma line_source (es : List Entity) (l : Link) :
    (l.line es).source = shownNameIn es l.owner := by
  rw [Link.line]

@[simp] lemma line_target (es : List Entity) (l : Link) :
    (l.line es).target = shownNameIn es l.target := by
  rw [Link.line]

@[simp] lemma line_cardinality (es : List Entity) (l : Link) :
    (l.line es).cardinality = l.reference.cardinality := by
  rw [Link.line]

lemma showFrom_eq_zipIdx (ts : List Table) (position : Nat) :
    Table.showFrom position ts = (ts.zipIdx position).map fun p => ⟨p.1.shownName p.2, p.1⟩ := by
  induction ts generalizing position with
  | nil => rfl
  | cons t ts ih => rw [Table.showFrom, ih, List.zipIdx_cons, List.map_cons]

lemma columnEmissions_eq_zipIdx (tables : List ShownTable) (source : String) (cs : List Column)
    (position : Nat) :
    columnEmissions tables source position cs
      = (cs.zipIdx position).filterMap fun p => p.1.emission? tables source p.2 := by
  induction cs generalizing position with
  | nil => rfl
  | cons c cs ih =>
    rw [columnEmissions, ih, List.zipIdx_cons, List.filterMap_cons]
    cases c.emission? tables source position <;> rfl

/-- The entity as the table that is written of it in the model. -/
def Entity.shownIn (es : List Entity) (e : Entity) : ShownTable :=
  ⟨shownNameIn es e, e.toTable⟩

@[simp] lemma shownIn_name (es : List Entity) (e : Entity) :
    (e.shownIn es).name = shownNameIn es e := by
  rw [Entity.shownIn]

@[simp] lemma shownIn_columns (es : List Entity) (e : Entity) :
    (e.shownIn es).table.columns = e.fields.map Field.toColumn := by
  rw [Entity.shownIn, Entity.toTable]

section Lines

variable {es : List Entity}

/-- Each entity is written under its name in the model. -/
lemma showFrom_shownIn (hes : es.Nodup) :
    Table.showFrom 0 (es.map Entity.toTable) = es.map (Entity.shownIn es) := by
  rw [showFrom_eq_zipIdx]
  refine List.ext_getElem (by simp) fun i hi hi' => ?_
  simp [Entity.shownIn, shownNameIn, hes.idxOf_getElem]

variable (hids : (es.map Entity.id).Nodup)
include hids

/-- A field is written a line for if it is a foreign key that points at an entity of the model. -/
lemma emission?_shownIn {f : Field} (hf : f.IsValid) (e : Entity) (position : Nat) :
    f.toColumn.emission? (es.map (Entity.shownIn es)) (shownNameIn es e) position
      = (f.linkFrom? es e position).map (Link.line es) := by
  have hreference : f.toColumn.reference = f.reference := rfl
  have hforeign : f.toColumn.isForeign = f.isForeign := rfl
  have htable : ∀ id, targetTable? (es.map (Entity.shownIn es)) id
      = (es.find? fun t => t.id == id).map (Entity.shownIn es) := by
    intro id
    rw [targetTable?, ← List.map_reverse, List.find?_map, ← find?_key_reverse hids]
    rfl
  rw [Column.emission?, Field.linkFrom?, Field.link?, hreference, hforeign]
  cases hr : f.reference with
  | none => cases f.isForeign <;> rfl
  | some r =>
    simp only [Option.bind_eq_bind, Option.bind_some, htable, hf.label r hr, Option.bind_map]
    split_ifs
    · cases es.find? fun t => t.id == r.target with
      | none => rfl
      | some t => simp [Link.line]
    · rfl

/-- The lines of the fields of an entity are those of its links. -/
lemma columnEmissions_shownIn {e : Entity} (he : e.IsValid) :
    columnEmissions (es.map (Entity.shownIn es)) (shownNameIn es e) 0 (e.fields.map Field.toColumn)
      = (e.links es).map (Link.line es) := by
  rw [columnEmissions_eq_zipIdx, List.zipIdx_map, List.filterMap_map, Entity.links,
    List.map_filterMap]
  refine List.filterMap_congr fun p hp => ?_
  have hf : p.1.IsValid := he.fields p.1 (List.fst_mem_of_mem_zipIdx hp)
  rw [← emission?_shownIn hids hf]
  rfl

/-- **Before mirrors are left out there is one line for each link**, in order. -/
lemma allEmissions_eq_map (hvalid : ∀ e ∈ es, e.IsValid) :
    allEmissions (Table.showFrom 0 (es.map Entity.toTable)) = (links es).map (Link.line es) := by
  rw [showFrom_shownIn (hids.of_map Entity.id), allEmissions, links, List.flatMap_map,
    List.map_flatMap]
  refine List.flatMap_congr fun e he => ?_
  rw [shownIn_name, shownIn_columns, columnEmissions_shownIn hids (hvalid e he)]

end Lines

/-! ## Mirror images -/

/-- The two lines have the same symbol between the same names, the other way round. -/
def Emission.IsReverseOf (earlier later : Emission) : Prop :=
  earlier.source = later.target ∧ earlier.target = later.source ∧
    earlier.cardinality.symbol = later.cardinality.symbol

instance (earlier later : Emission) : Decidable (earlier.IsReverseOf later) :=
  inferInstanceAs (Decidable (_ ∧ _))

/-- Different cardinalities have different symbols. -/
lemma symbol_inj {c d : Cardinality} : c.symbol = d.symbol ↔ c = d := by
  refine ⟨fun h => ?_, congrArg Cardinality.symbol⟩
  have hread : some (c, LineStyle.solid) = some (d, LineStyle.solid) := by
    rw [← Cardinality.read?_symbol, ← Cardinality.read?_symbol, h]
  simpa using hread

lemma mirrors_iff {earlier later : Emission} :
    earlier.mirrors later = true ↔ later.source ≠ later.target ∧ earlier.IsReverseOf later := by
  simp only [Emission.mirrors, Emission.IsReverseOf, symbol_inj, Bool.and_eq_true, bne_iff_ne,
    beq_iff_eq, and_assoc]

/-- Mirroring is mutual. -/
lemma mirrors_comm {em em' : Emission} (h : em.mirrors em' = true) : em'.mirrors em = true := by
  obtain ⟨hne, hsource, htarget, hsymbol⟩ := mirrors_iff.mp h
  exact mirrors_iff.mpr ⟨by rw [hsource, htarget]; exact hne.symm, htarget.symm, hsource.symm,
    hsymbol.symm⟩

/-- One line more is kept if no line that was kept mirrors it. -/
lemma withoutMirrors_concat (kept ems : List Emission) (em : Emission) :
    withoutMirrors kept (ems ++ [em])
      = withoutMirrors kept ems
          ++ if (withoutMirrors kept ems).any (·.mirrors em) then [] else [em] := by
  induction ems generalizing kept with
  | nil =>
    rw [List.nil_append, withoutMirrors]
    cases hany : kept.any (·.mirrors em) <;> simp [withoutMirrors, hany]
  | cons x ems ih =>
    rw [List.cons_append, withoutMirrors, withoutMirrors]
    by_cases hx : kept.any (·.mirrors x) = true
    · rw [if_pos hx, if_pos hx, ih kept]
    · rw [if_neg hx, if_neg hx, ih (kept ++ [x])]

/-- Of the lines that are left none mirrors another one. -/
lemma pairwise_withoutMirrors (ems : List Emission) :
    (withoutMirrors [] ems).Pairwise fun earlier later => earlier.mirrors later = false := by
  induction ems using List.reverseRecOn with
  | nil => exact List.Pairwise.nil
  | append_singleton ems em ih =>
    rw [withoutMirrors_concat]
    split_ifs with hany
    · rwa [List.append_nil]
    · refine List.pairwise_append.mpr ⟨ih, List.pairwise_singleton _ _, fun x hx y hy => ?_⟩
      obtain rfl := List.mem_singleton.mp hy
      simp only [List.any_eq_true, not_exists, not_and, Bool.not_eq_true] at hany
      exact hany x hx

/-- No line that is left mirrors another one, whichever comes first. -/
lemma mirrors_eq_false {ems : List Emission} {em em' : Emission}
    (hem : em ∈ withoutMirrors [] ems) (hem' : em' ∈ withoutMirrors [] ems) :
    em.mirrors em' = false := by
  have hsymm : Std.Symm fun earlier later : Emission => earlier.mirrors later = false :=
    ⟨fun x y h => by
      rw [Bool.eq_false_iff] at h ⊢
      exact fun hback => h (mirrors_comm hback)⟩
  refine (pairwise_withoutMirrors ems).forall_of_forall (fun x _ => ?_) hem hem'
  rw [Bool.eq_false_iff]
  intro hself
  obtain ⟨hne, hsource, -⟩ := mirrors_iff.mp hself
  exact hne hsource

section Kept

variable {α : Type} (line : α → Emission) {xs kept : List α}

/-- The line of one item more is kept if no kept item mirrors it. -/
lemma exists_last (hlines : withoutMirrors [] (xs.map line) = kept.map line) (x : α) :
    ∃ last : List α, last.Sublist [x] ∧
      (x ∈ last ↔ ¬ ∃ y ∈ kept, (line y).mirrors (line x) = true) ∧
      withoutMirrors [] ((xs ++ [x]).map line) = (kept ++ last).map line := by
  have hany : (kept.map line).any (·.mirrors (line x)) = true
      ↔ ∃ y ∈ kept, (line y).mirrors (line x) = true := by simp
  rw [List.map_append, List.map_singleton, withoutMirrors_concat, hlines]
  by_cases hmirror : ∃ y ∈ kept, (line y).mirrors (line x) = true
  · rw [if_pos (hany.mpr hmirror)]
    exact ⟨[], List.nil_sublist _, by simpa using hmirror, by simp⟩
  · rw [if_neg (mt hany.mp hmirror)]
    exact ⟨[x], List.Sublist.refl _, by simpa using hmirror, by simp⟩

/-- **What is left of the lines of distinct items** are the lines of some of them, in order: those
that no kept item before them mirrors. -/
lemma exists_kept (hxs : xs.Nodup) :
    ∃ kept : List α, kept.Sublist xs ∧ withoutMirrors [] (xs.map line) = kept.map line ∧
      ∀ before x after, xs = before ++ x :: after →
        (x ∈ kept ↔ ¬ ∃ y ∈ before, y ∈ kept ∧ (line y).mirrors (line x) = true) := by
  induction xs using List.reverseRecOn with
  | nil => exact ⟨[], List.Sublist.refl [], rfl, by simp⟩
  | append_singleton xs x ih =>
    obtain ⟨hxs, -, hnew⟩ := List.nodup_append.mp hxs
    obtain ⟨kept, hsub, hlines, hkept⟩ := ih hxs
    obtain ⟨last, hlast, hmem, hline⟩ := exists_last line hlines x
    have hsame : ∀ y ∈ xs, (y ∈ kept ++ last ↔ y ∈ kept) := by
      intro y hy
      have hne : y ∉ last := fun h => hnew y hy x List.mem_cons_self
        (List.mem_singleton.mp (hlast.subset h))
      simp [hne]
    refine ⟨kept ++ last, hsub.append hlast, hline, fun before y after hsplit => ?_⟩
    rcases List.eq_nil_or_concat after with rfl | ⟨after, z, rfl⟩
    · -- the item that came last
      obtain ⟨rfl, heq⟩ := List.append_inj' hsplit rfl
      obtain rfl := List.singleton_inj.mp heq
      have hnot : x ∉ kept := fun h => hnew x (hsub.subset h) x List.mem_cons_self rfl
      rw [List.mem_append, or_iff_right hnot, hmem]
      refine not_congr (exists_congr fun y => ?_)
      constructor
      · rintro ⟨hy, hmirror⟩
        exact ⟨hsub.subset hy, List.mem_append_left _ hy, hmirror⟩
      · rintro ⟨hy, hkeep, hmirror⟩
        exact ⟨(hsame y hy).mp hkeep, hmirror⟩
    · -- an item before it
      rw [List.concat_eq_append, ← List.cons_append, ← List.append_assoc] at hsplit
      obtain ⟨rfl, -⟩ := List.append_inj' hsplit rfl
      rw [hsame y (by simp), hkept before y after rfl]
      refine not_congr (exists_congr fun w => and_congr_right fun hw => ?_)
      rw [hsame w (List.mem_append_left _ hw)]

end Kept

/-! ## Written links -/

/-- The links of a model that are written into its diagram. -/
structure WritesLinks (es : List Entity) (written : List Link) : Prop where
  /-- They come in the order of the entities and their fields. -/
  sublist : written.Sublist (links es)
  /-- A link that is written or not has a target. -/
  linked : ∀ l ∈ links es, l.reference.isLinked = true
  /-- Their lines are those of the diagram, and no other line is. -/
  lines : emissions (Table.showFrom 0 (es.map Entity.toTable)) = written.map (Link.line es)
  /-- A line without a label says the name of the field, if the field has one. -/
  labels : ∀ l ∈ links es, l.field.name ≠ "" →
    (l.line es).label = l.reference.label.getD l.field.name
  /-- In the text their lines come after the blocks. -/
  text : es ≠ [] → generate es = "\n".intercalate
    (header :: ((Table.showFrom 0 (es.map Entity.toTable)).flatMap tableLines
      ++ written.map fun l => relationshipLine (l.line es)))
  /-- A link is written unless it joins different entities and a link that was written before has
  the same symbol between the two names the other way round. -/
  written_iff : ∀ before l after, links es = before ++ l :: after →
    (l ∈ written ↔
      ¬ (l.owner ≠ l.target ∧ ∃ m ∈ before, m ∈ written ∧ (m.line es).IsReverseOf (l.line es)))
  /-- No two lines between different entities mirror each other. -/
  noMirrors : ∀ l ∈ written, ∀ m ∈ written, l.owner ≠ l.target →
    ¬ (m.line es).IsReverseOf (l.line es)
  /-- A link from an entity to itself is written. -/
  selfReferences : ∀ l ∈ links es, l.owner = l.target → l ∈ written
  /-- A link between the same entities in the same direction as one that is written is written, too,
  if it has the same cardinality. -/
  repeated : ∀ m ∈ written, ∀ l ∈ links es, l.owner = m.owner → l.target = m.target →
    l.reference.cardinality = m.reference.cardinality → l ∈ written
  /-- Where a link is not written, the earlier line that mirrors it is in the diagram. -/
  suppressed : ∀ before l after, links es = before ++ l :: after → l ∉ written →
    l.owner ≠ l.target ∧ ∃ m ∈ before,
      m.line es ∈ emissions (Table.showFrom 0 (es.map Entity.toTable)) ∧
      (m.line es).IsReverseOf (l.line es)

section Written

variable {es : List Entity} (hids : (es.map Entity.id).Nodup)
  (hnames : ((Table.showFrom 0 (es.map Entity.toTable)).map ShownTable.name).Nodup)
include hids hnames

/-- Names that are distinct tell the entities apart. -/
lemma shownNameIn_inj {e t : Entity} (he : e ∈ es) (ht : t ∈ es) :
    shownNameIn es e = shownNameIn es t ↔ e = t := by
  have hshown : ShownTable.name ∘ Entity.shownIn es = shownNameIn es := funext (shownIn_name es)
  rw [showFrom_shownIn (hids.of_map Entity.id), List.map_map, hshown] at hnames
  exact ⟨fun hname => List.inj_on_of_nodup_map hnames he ht hname, congrArg (shownNameIn es)⟩

/-- A line mirrors that of a link if the link joins different entities. -/
lemma mirrors_line_iff {l : Link} (hl : l ∈ links es) {em : Emission} :
    em.mirrors (l.line es) = true ↔ l.owner ≠ l.target ∧ em.IsReverseOf (l.line es) := by
  have hsame := shownNameIn_inj hids hnames (mem_links hl).1 (target_mem_of_links hl)
  rw [mirrors_iff, line_source, line_target, ne_eq, hsame]

/-- No line of the diagram mirrors that of a link that is in the diagram. -/
lemma not_isReverseOf_line {l : Link} (hl : l ∈ links es)
    (hline : l.line es ∈ emissions (Table.showFrom 0 (es.map Entity.toTable)))
    (hne : l.owner ≠ l.target) {em : Emission}
    (hem : em ∈ emissions (Table.showFrom 0 (es.map Entity.toTable))) :
    ¬ em.IsReverseOf (l.line es) := by
  intro hreverse
  have hmirror : em.mirrors (l.line es) = true := (mirrors_line_iff hids hnames hl).mpr ⟨hne, hreverse⟩
  rw [mirrors_eq_false hem hline] at hmirror
  exact Bool.false_ne_true hmirror

variable (hvalid : ∀ e ∈ es, e.IsValid)
include hvalid

/-- The links that are written, as the walk over all links finds them. -/
lemma exists_written :
    ∃ written : List Link, written.Sublist (links es) ∧
      emissions (Table.showFrom 0 (es.map Entity.toTable)) = written.map (Link.line es) ∧
      ∀ before l after, links es = before ++ l :: after →
        (l ∈ written ↔
          ¬ (l.owner ≠ l.target ∧ ∃ m ∈ before, m ∈ written ∧ (m.line es).IsReverseOf (l.line es))) := by
  obtain ⟨written, hsub, hlines, hwritten⟩ :=
    exists_kept (Link.line es) (nodup_links (hids.of_map Entity.id))
  refine ⟨written, hsub, ?_, fun before l after hsplit => ?_⟩
  · rw [emissions, allEmissions_eq_map hids hvalid, hlines]
  · have hl : l ∈ links es := by simp [hsplit]
    rw [hwritten before l after hsplit]
    refine not_congr ?_
    simp only [mirrors_line_iff hids hnames hl]
    constructor
    · rintro ⟨m, hm, hkept, hne, hreverse⟩
      exact ⟨hne, m, hm, hkept, hreverse⟩
    · rintro ⟨hne, m, hm, hkept, hreverse⟩
      exact ⟨m, hm, hkept, hne, hreverse⟩

/-- Of a link the line is in the diagram, or one that mirrors it is. -/
lemma line_mem_or_mirrored {l : Link} (hl : l ∈ links es) :
    l.line es ∈ emissions (Table.showFrom 0 (es.map Entity.toTable)) ∨
      l.owner ≠ l.target ∧ ∃ em ∈ emissions (Table.showFrom 0 (es.map Entity.toTable)),
        em.IsReverseOf (l.line es) := by
  obtain ⟨written, -, hlines, hwritten⟩ := exists_written hids hnames hvalid
  obtain ⟨before, after, hsplit⟩ := List.append_of_mem hl
  rw [hlines]
  by_cases hmem : l ∈ written
  · exact Or.inl (List.mem_map_of_mem hmem)
  · rw [hwritten before l after hsplit, not_not] at hmem
    obtain ⟨hne, m, -, hm, hreverse⟩ := hmem
    exact Or.inr ⟨hne, m.line es, List.mem_map_of_mem hm, hreverse⟩

end Written

/-- **The relationship lines of a diagram are those of its links**, but for links that mirror one
that has been written before. -/
theorem exists_writesLinks {es : List Entity} (hvalid : ∀ e ∈ es, e.IsValid)
    (hids : (es.map Entity.id).Nodup) (hresolved : ∀ e ∈ es, e.id ≠ .unresolved)
    (hnames : ((Table.showFrom 0 (es.map Entity.toTable)).map ShownTable.name).Nodup) :
    ∃ written, WritesLinks es written := by
  obtain ⟨written, hsub, hlines, hwritten⟩ := exists_written hids hnames hvalid
  have hmem : ∀ l ∈ written, l.line es ∈ emissions (Table.showFrom 0 (es.map Entity.toTable)) := by
    intro l hl
    rw [hlines]
    exact List.mem_map_of_mem hl
  have hsuppressed : ∀ before l after, links es = before ++ l :: after → l ∉ written →
      l.owner ≠ l.target ∧ ∃ m ∈ before,
        m.line es ∈ emissions (Table.showFrom 0 (es.map Entity.toTable)) ∧
        (m.line es).IsReverseOf (l.line es) := by
    intro before l after hsplit hl
    rw [hwritten before l after hsplit, not_not] at hl
    obtain ⟨hne, m, hm, hkept, hreverse⟩ := hl
    exact ⟨hne, m, hm, hmem m hkept, hreverse⟩
  refine ⟨written, {
    sublist := hsub
    linked := fun l hl => isLinked_of_links hresolved hl
    lines := hlines
    labels := fun l hl hnamed => ?labels
    text := fun hes => ?text
    written_iff := hwritten
    noMirrors := fun l hl m hm hne => not_isReverseOf_line hids hnames (hsub.subset hl)
      (hmem l hl) hne (hmem m hm)
    selfReferences := fun l hl hself => ?selfReferences
    repeated := fun m hm l hl howner htarget hcardinality => ?repeated
    suppressed := hsuppressed }⟩
  case labels =>
    obtain ⟨howner, hfield, -⟩ := mem_links hl
    have hname := ((hvalid l.owner howner).fields l.field (List.mem_of_getElem? hfield)).name
    rw [Link.line, shownName_toColumn hname hnamed]
  case text =>
    have hempty : (es.map Entity.toTable).isEmpty = false := by simpa using hes
    rw [generate, generateTables, hempty, if_neg Bool.false_ne_true, diagramLines, hlines,
      List.map_map]
    rfl
  case selfReferences =>
    obtain ⟨before, after, hsplit⟩ := List.append_of_mem hl
    exact (hwritten before l after hsplit).mpr fun h => h.1 hself
  case repeated =>
    obtain ⟨before, after, hsplit⟩ := List.append_of_mem hl
    by_contra hleft
    obtain ⟨hne, x, -, hx, hreverse⟩ := hsuppressed before l after hsplit hleft
    have hm' : m.owner ≠ m.target := by rwa [← howner, ← htarget]
    refine not_isReverseOf_line hids hnames (hsub.subset hm) (hmem m hm) hm' hx ?_
    simpa [Emission.IsReverseOf, howner, htarget, hcardinality] using hreverse

/-- Staff with their manager and mentor, and a team that has not been given a name yet. -/
def staffOfTeam : List Entity :=
  [{ id := ⟨"staff"⟩, name := "Staff"
     fields :=
      [{ id := ⟨"staff.manager"⟩, name := "manager_id", isForeign := true
         reference := some { target := ⟨"staff"⟩ } },
       { id := ⟨"staff.mentor"⟩, name := "mentor_id", isForeign := true
         reference := some { target := ⟨"staff"⟩ } },
       { id := ⟨"staff.team"⟩, name := "team_id", isForeign := true
         reference := some { target := ⟨"team"⟩, cardinality := .oneToOne } },
       { id := ⟨"staff.former"⟩, name := "former_id", isForeign := true
         reference := some { target := ⟨"team"⟩, cardinality := .oneToOne, label := some "left" } }] },
   { id := ⟨"team"⟩, name := ""
     fields :=
      [{ id := ⟨"team.lead"⟩, name := "lead_id", isForeign := true
         reference := some { target := ⟨"staff"⟩, cardinality := .oneToOne } },
       { id := ⟨"team.founder"⟩, name := "founder_id", isForeign := true
         reference := some { target := ⟨"staff"⟩ } },
       { id := ⟨"team.parent"⟩, name := "parent_id", isForeign := true
         reference := some { target := ⟨"division"⟩ } }] }]

/-- Of the seven foreign keys one points at no entity of the model, and one mirrors an earlier one. -/
theorem exists_writesLinks_staffOfTeam :
    (∃ written, WritesLinks staffOfTeam written) ∧
      (links staffOfTeam).map (·.field.name)
        = ["manager_id", "mentor_id", "team_id", "former_id", "lead_id", "founder_id"] ∧
      (emissions (Table.showFrom 0 (staffOfTeam.map Entity.toTable))).map relationshipLine
        = ["  \"Staff\" \x7do--|| \"Staff\" : \"manager_id\"",
          "  \"Staff\" \x7do--|| \"Staff\" : \"mentor_id\"",
          "  \"Staff\" ||--|| \"Entity_2\" : \"team_id\"",
          "  \"Staff\" ||--|| \"Entity_2\" : \"left\"",
          "  \"Entity_2\" \x7do--|| \"Staff\" : \"founder_id\""] := by
  refine ⟨exists_writesLinks (by decide +kernel) (by decide +kernel) (by decide +kernel)
    (by decide +kernel), ?_⟩
  decide +kernel

end DiagramSync
