import DiagramSync.Proofs.Diagram.Scanned
import DiagramSync.Proofs.Diagram.Selection
import DiagramSync.Proofs.Model.Sketch

/-!
# What is read of any text that is accepted

Resolving relationship lines changes references and nothing else, and it points each of them at an
entity of the text.  So what holds of the scan of a text holds of the model that is read of it, with
some foreign keys linked now.

* `Entity.bare` — an entity without its references, which is what resolving does not touch
* `Resolver.PicksForeign`, `Resolver.IsTotal` — a resolver that picks foreign keys only, and one that
  never fails, as both that are built in do
* `IsRead` — the models that reading gives
* `resolveLine_cases` — what a line can do
* **`isRead_parse`** — what holds of every text that is accepted
-/

namespace DiagramSync

open Text

/-! ## Without references -/

/-- The field without its reference. -/
def Field.bare (f : Field) : Field :=
  { f with reference := none }

/-- The entity without the references of its fields. -/
def Entity.bare (e : Entity) : Entity :=
  { e with fields := e.fields.map Field.bare }

/-- What an entity says without its references. -/
lemma bare_eq_bare {e e' : Entity} (h : e'.bare = e.bare) :
    e'.id = e.id ∧ e'.name = e.name ∧ e'.fields.map Field.id = e.fields.map Field.id ∧
      e'.fields.map Field.name = e.fields.map Field.name ∧
      e'.primaryKey?.map (·.id) = e.primaryKey?.map (·.id) := by
  have hfields : e'.fields.map Field.bare = e.fields.map Field.bare := congrArg Entity.fields h
  have hkey : ∀ x : Entity, x.primaryKey?.map (·.id)
      = ((x.fields.map Field.bare).find? fun f => f.isPrimary).map Field.id := by
    intro x
    rw [List.find?_map, Option.map_map]
    rfl
  refine ⟨(congrArg Entity.id h :), (congrArg Entity.name h :), ?_, ?_, ?_⟩
  · have hids := congrArg (List.map Field.id) hfields
    rwa [List.map_map, List.map_map] at hids
  · have hnames := congrArg (List.map Field.name) hfields
    rwa [List.map_map, List.map_map] at hnames
  · rw [hkey, hkey, hfields]

section SameBare

variable {es es' : List Entity}

lemma exists_bare (h : es'.map Entity.bare = es.map Entity.bare) {e : Entity} (he : e ∈ es) :
    ∃ e' ∈ es', e'.bare = e.bare := by
  have hmem : e.bare ∈ es'.map Entity.bare := h ▸ List.mem_map_of_mem he
  exact List.mem_map.mp hmem

lemma map_bare_congr {α : Type} (h : es'.map Entity.bare = es.map Entity.bare) (g : Entity → α)
    (hg : ∀ e, g e.bare = g e) : es'.map g = es.map g := by
  have hcomp : ∀ xs : List Entity, xs.map g = (xs.map Entity.bare).map g := by
    intro xs
    rw [List.map_map]
    exact List.map_congr_left fun e _ => (hg e).symm
  rw [hcomp es', hcomp es, h]

/-- Names do not depend on references. -/
lemma IsNamed.of_bare (hes : IsNamed es) (h : es'.map Entity.bare = es.map Entity.bare) :
    IsNamed es' := by
  have hback : ∀ e' ∈ es', ∃ e ∈ es, e'.name = e.name ∧
      e'.fields.map Field.name = e.fields.map Field.name := by
    intro e' he'
    obtain ⟨e, he, hbare⟩ := exists_bare h.symm he'
    obtain ⟨-, hname, -, hnames, -⟩ := bare_eq_bare hbare
    exact ⟨e, he, hname.symm, hnames.symm⟩
  constructor
  · intro e' he'
    obtain ⟨e, he, hname, -⟩ := hback e' he'
    exact hname ▸ hes.named e he
  · rw [map_bare_congr h Entity.name fun _ => rfl]
    exact hes.names
  · intro e' he' f' hf'
    obtain ⟨e, he, -, hnames⟩ := hback e' he'
    have hmem : f'.name ∈ e.fields.map Field.name := hnames ▸ List.mem_map_of_mem hf'
    obtain ⟨f, hf, hname⟩ := List.mem_map.mp hmem
    exact hname ▸ hes.fieldNamed e he f hf
  · intro e' he'
    obtain ⟨e, he, -, hnames⟩ := hback e' he'
    have hfold : e'.fields.map (foldName ·.name) = e.fields.map (foldName ·.name) := by
      have hmap := congrArg (List.map foldName) hnames
      rwa [List.map_map, List.map_map] at hmap
    rw [hfold]
    exact hes.fieldNames e he

/-- Ids do not depend on references. -/
lemma modelIds_of_bare (h : es'.map Entity.bare = es.map Entity.bare) :
    modelIds es' = modelIds es := by
  have hmap := map_bare_congr h Entity.allIds fun e => by
    rw [Entity.allIds, Entity.allIds, Entity.bare, List.map_map]
    rfl
  rw [modelIds, modelIds, List.flatMap_def, List.flatMap_def, hmap]

end SameBare

/-! ## Models that are read -/

/-- A reference as reading leaves it: it points nowhere, or at the first primary key of an
entity. -/
def Reference.IsRead (unlinked : Cardinality) (es : List Entity) (r : Reference) : Prop :=
  r = { cardinality := unlinked } ∨
    ∃ t ∈ es, r.target = t.id ∧ r.targetField = (t.primaryKey?.map (·.id)).getD .unresolved

/-- A model as reading leaves it. -/
structure IsRead (unlinked : Cardinality) (es : List Entity) : Prop extends IsNamed es where
  /-- Exactly the foreign keys have a reference. -/
  settled : ∀ e ∈ es, ∀ f ∈ e.fields, f.reference.isSome = f.isForeign
  /-- Every reference points nowhere or at the first primary key of an entity. -/
  references : ∀ e ∈ es, ∀ f ∈ e.fields, ∀ r, f.reference = some r → r.IsRead unlinked es

/-- What is read points nowhere or at an entity of its own. -/
lemma Reference.IsRead.isLocal {unlinked : Cardinality} {es : List Entity} {r : Reference}
    (h : r.IsRead unlinked es) : r.IsLocal es := by
  rcases h with rfl | ⟨t, ht, htarget, hfield⟩
  · exact Or.inl rfl
  · refine Or.inr ⟨t, ht, htarget, ?_⟩
    cases hkey : t.primaryKey? with
    | none => exact Or.inl (by rw [hfield, hkey]; rfl)
    | some p => exact Or.inr ⟨p, List.mem_of_find?_eq_some hkey, by rw [hfield, hkey]; rfl⟩

/-- A scan is a model of that kind, with nothing linked. -/
lemma Scan.IsSound.isRead {unlinked : Cardinality} {start : Supply} {s : Scan}
    (h : s.IsSound unlinked start) : IsRead unlinked s.entities where
  toIsNamed := h.named
  settled e he f hf := by
    rw [h.references e he f hf]
    cases f.isForeign <;> rfl
  references e he f hf r hr := by
    rw [h.references e he f hf] at hr
    cases hforeign : f.isForeign with
    | false => simp [hforeign] at hr
    | true =>
      rw [hforeign, if_pos rfl] at hr
      exact Or.inl (Option.some.inj hr).symm

/-- Where a reference may point does not depend on references. -/
lemma Reference.IsRead.of_bare {unlinked : Cardinality} {es es' : List Entity} {r : Reference}
    (hr : r.IsRead unlinked es) (h : es'.map Entity.bare = es.map Entity.bare) :
    r.IsRead unlinked es' := by
  rcases hr with hr | ⟨t, ht, htarget, hfield⟩
  · exact Or.inl hr
  · obtain ⟨t', ht', hbare⟩ := exists_bare h ht
    obtain ⟨hid, -, -, -, hkey⟩ := bare_eq_bare hbare
    exact Or.inr ⟨t', ht', htarget.trans hid.symm, by rw [hfield, hkey]⟩

/-! ## Resolvers that pick foreign keys -/

/-- The resolver picks foreign keys only. -/
def Resolver.PicksForeign (resolver : Resolver) : Prop :=
  ∀ s t r i, resolver.select s t r = .ok (some i) →
    ∀ f, s.fields[i]? = some f → f.isForeign = true

lemma isForeign_of_findIdx? {p : Field → Bool} (hp : ∀ f, p f = true → f.isForeign = true)
    {fs : List Field} {i : Nat} (h : fs.findIdx? p = some i) {f : Field} (hf : fs[i]? = some f) :
    f.isForeign = true := by
  obtain ⟨hi, hpi, -⟩ := List.findIdx?_eq_some_iff_getElem.mp h
  rw [List.getElem?_eq_getElem hi] at hf
  exact hp f (Option.some.inj hf ▸ hpi)

lemma isForeign_of_selectByName {s t : Entity} {i : Nat} (h : selectByName s t = some i) {f : Field}
    (hf : s.fields[i]? = some f) : f.isForeign = true := by
  have hcandidate : ∀ g, isCandidate t g = true → g.isForeign = true := fun g hg =>
    (Bool.and_eq_true_iff.mp hg).1
  rw [selectByName, Option.or_eq_some_iff] at h
  rcases h with h | ⟨-, h⟩
  · exact isForeign_of_findIdx? (fun g hg => hcandidate g (Bool.and_eq_true_iff.mp hg).1) h hf
  · exact isForeign_of_findIdx? hcandidate h hf

lemma isForeign_of_selectByLabel {s : Entity} {label : Option String} {i : Nat}
    (h : selectByLabel s label = some i) {f : Field} (hf : s.fields[i]? = some f) :
    f.isForeign = true := by
  simp only [selectByLabel, Option.bind_eq_bind, Option.bind_eq_some_iff] at h
  obtain ⟨wanted, -, h⟩ := h
  split_ifs at h
  simp only [Option.bind_eq_some_iff] at h
  obtain ⟨j, -, g, hg, h⟩ := h
  split_ifs at h with hforeign
  obtain rfl := Option.some.inj h
  rw [hg] at hf
  exact Option.some.inj hf ▸ hforeign

/-- Picking by name picks foreign keys only. -/
lemma picksForeign_byName : Resolver.byName.PicksForeign := fun _ _ _ _ h _ hf =>
  isForeign_of_selectByName (Except.ok.inj h) hf

/-- Picking by label picks foreign keys only. -/
lemma picksForeign_byLabel : Resolver.byLabel.PicksForeign := by
  intro s t r i h f hf
  rcases Option.or_eq_some_iff.mp (Except.ok.inj h) with h | ⟨-, h⟩
  · exact isForeign_of_selectByLabel h hf
  · exact isForeign_of_selectByName h hf

/-- The resolver never fails. -/
def Resolver.IsTotal (resolver : Resolver) : Prop :=
  ∀ s t r, ∃ i, resolver.select s t r = .ok i

lemma isTotal_byName : Resolver.byName.IsTotal := fun _ _ _ => ⟨_, rfl⟩

lemma isTotal_byLabel : Resolver.byLabel.IsTotal := fun _ _ _ => ⟨_, rfl⟩

/-! ## What a line can do -/

section Lines

variable {resolver : Resolver} {unlinked : Cardinality} {es es' : List Entity}

/-- What linking can do to the source. -/
lemma link_cases {s t linked : Entity} {r : Relationship} {g : Field}
    (h : resolver.link s t r = .ok (some (linked, g))) :
    ∃ i f, resolver.select s t r = .ok (some i) ∧ s.fields[i]? = some f ∧
      linked = { s with fields := s.fields.set i (f.link t r) } := by
  rw [Resolver.link] at h
  cases hselect : resolver.select s t r with
  | error reason => simp [hselect, bind, Except.bind] at h
  | ok picked =>
    cases picked with
    | none => simp [hselect, bind, Except.bind, pure, Except.pure] at h
    | some i =>
      cases hget : s.fields[i]? with
      | none => simp [hselect, hget, bind, Except.bind, pure, Except.pure] at h
      | some f =>
        simp only [hselect, hget, bind, Except.bind, pure, Except.pure, Except.ok.injEq,
          Option.some.injEq, Prod.mk.injEq] at h
        exact ⟨i, f, rfl, hget, h.1.symm⟩

/-- A line changes nothing, or it points the field that the resolver picks at another entity. -/
lemma resolveLine_picked {n : Nat} {r : Relationship} {ws : List Warning}
    (h : resolveLine resolver es n r = .ok (es', ws)) :
    es' = es ∨ ∃ s ∈ es, ∃ t ∈ es, ∃ i f, resolver.select s t r = .ok (some i) ∧
      s.fields[i]? = some f ∧
      es' = replaceNamed s.name { s with fields := s.fields.set i (f.link t r) } es := by
  rw [resolveLine] at h
  cases hsource : entityNamed? es r.source with
  | none =>
    rw [hsource] at h
    exact Or.inl (Prod.mk.inj (Except.ok.inj h)).1.symm
  | some s =>
    cases htarget : entityNamed? es r.target with
    | none =>
      rw [hsource, htarget] at h
      exact Or.inl (Prod.mk.inj (Except.ok.inj h)).1.symm
    | some t =>
      rw [hsource, htarget] at h
      cases hlink : resolver.link s t r with
      | error reason => simp [hlink, bind, Except.bind] at h
      | ok result =>
        cases result with
        | none =>
          simp only [hlink, bind, Except.bind, pure, Except.pure, Except.ok.injEq,
            Prod.mk.injEq] at h
          exact Or.inl h.1.symm
        | some p =>
          obtain ⟨linked, g⟩ := p
          simp only [hlink, bind, Except.bind, pure, Except.pure, Except.ok.injEq,
            Prod.mk.injEq] at h
          obtain ⟨i, f, hselect, hget, rfl⟩ := link_cases hlink
          exact Or.inr ⟨s, List.mem_of_find?_eq_some hsource, t, List.mem_of_find?_eq_some htarget,
            i, f, hselect, hget, h.1.symm⟩

/-- A line changes nothing, or it points one foreign key of one entity at another entity. -/
lemma resolveLine_cases (hresolver : resolver.PicksForeign) {n : Nat} {r : Relationship}
    {ws : List Warning} (h : resolveLine resolver es n r = .ok (es', ws)) :
    es' = es ∨ ∃ s ∈ es, ∃ t ∈ es, ∃ i f, s.fields[i]? = some f ∧ f.isForeign = true ∧
      es' = replaceNamed s.name { s with fields := s.fields.set i (f.link t r) } es := by
  refine (resolveLine_picked h).imp_right ?_
  rintro ⟨s, hs, t, ht, i, f, hselect, hget, hline⟩
  exact ⟨s, hs, t, ht, i, f, hget, hresolver s t r i hselect f hget, hline⟩

lemma bare_link {s t : Entity} {i : Nat} {f : Field} (hf : s.fields[i]? = some f)
    (r : Relationship) :
    ({ s with fields := s.fields.set i (f.link t r) } : Entity).bare = s.bare := by
  have hsame : (s.fields.map Field.bare)[i]? = some f.bare := by
    rw [List.getElem?_map, hf, Option.map_some]
  have hset : (s.fields.map Field.bare).set i f.bare = s.fields.map Field.bare := by
    obtain ⟨hi, hget⟩ := List.getElem?_eq_some_iff.mp hsame
    rw [← hget, List.set_getElem_self]
  have hlink : (f.link t r).bare = f.bare := rfl
  refine congrArg (fun fs => (⟨s.id, s.name, fs⟩ : Entity)) ?_
  rw [List.map_set, hlink, hset]

/-- A line keeps what there is to a model besides its references. -/
lemma bare_resolveLine (hnames : (es.map Entity.name).Nodup) {n : Nat} {r : Relationship}
    {ws : List Warning} (h : resolveLine resolver es n r = .ok (es', ws)) :
    es'.map Entity.bare = es.map Entity.bare := by
  rcases resolveLine_picked h with rfl | ⟨s, hs, t, -, i, f, -, hget, rfl⟩
  · rfl
  · rw [replaceNamed, List.map_map]
    refine List.map_congr_left fun e he => ?_
    rw [Function.comp_apply]
    split_ifs with hname
    · rw [bare_link hget, List.inj_on_of_nodup_map hnames he hs (beq_iff_eq.mp hname)]
    · rfl

/-- A line leaves a model as reading leaves it. -/
lemma isRead_resolveLine (hes : IsRead unlinked es) (hresolver : resolver.PicksForeign) {n : Nat}
    {r : Relationship} {ws : List Warning} (h : resolveLine resolver es n r = .ok (es', ws)) :
    IsRead unlinked es' := by
  have hbare := bare_resolveLine hes.names h
  rcases resolveLine_cases hresolver h with rfl | ⟨s, hs, t, ht, i, f, hget, hforeign, rfl⟩
  · exact hes
  set linked : Entity := { s with fields := s.fields.set i (f.link t r) } with hlinked
  have hfield : ∀ e' ∈ replaceNamed s.name linked es, ∀ g ∈ e'.fields,
      (∃ e ∈ es, g ∈ e.fields) ∨ g = f.link t r := by
    intro e' he' g hg
    obtain ⟨e, he, rfl⟩ := List.mem_map.mp he'
    split_ifs at hg with hname
    · rcases List.mem_or_eq_of_mem_set hg with hg | hg
      · exact Or.inl ⟨s, hs, hg⟩
      · exact Or.inr hg
    · exact Or.inl ⟨e, he, hg⟩
  refine ⟨hes.toIsNamed.of_bare hbare, ?_, ?_⟩
  · intro e' he' g hg
    rcases hfield e' he' g hg with ⟨e, he, hg⟩ | rfl
    · exact hes.settled e he g hg
    · exact hforeign.symm
  · intro e' he' g hg q hq
    rcases hfield e' he' g hg with ⟨e, he, hg⟩ | rfl
    · exact (hes.references e he g hg q hq).of_bare hbare
    · have hread : (linkedReference t r f).IsRead unlinked es := Or.inr ⟨t, ht, rfl, rfl⟩
      exact Option.some.inj hq ▸ hread.of_bare hbare

/-- All lines together leave a model as reading leaves it, and keep what there is to it besides its
references. -/
lemma isRead_resolveLines (hes : IsRead unlinked es) (hresolver : resolver.PicksForeign)
    {lines : List (Nat × Relationship)} {ws : List Warning}
    (h : resolveLines resolver es lines = .ok (es', ws)) :
    IsRead unlinked es' ∧ es'.map Entity.bare = es.map Entity.bare := by
  induction lines generalizing es ws with
  | nil =>
    obtain rfl := (Prod.mk.inj (Except.ok.inj h)).1
    exact ⟨hes, rfl⟩
  | cons line lines ih =>
    obtain ⟨n, r⟩ := line
    obtain ⟨es₁, ws₁, ws₂, hline, hrest, -⟩ := resolveLines_cons_eq_ok h
    obtain ⟨hread, hbare⟩ := ih (isRead_resolveLine hes hresolver hline) hrest
    exact ⟨hread, hbare.trans (bare_resolveLine hes.names hline)⟩

/-- With a resolver that never fails every line can be resolved. -/
lemma exists_resolveLine (hresolver : resolver.IsTotal) (es : List Entity) (n : Nat)
    (r : Relationship) : ∃ es' ws, resolveLine resolver es n r = .ok (es', ws) := by
  rw [resolveLine]
  cases entityNamed? es r.source with
  | none => exact ⟨_, _, rfl⟩
  | some s =>
    cases entityNamed? es r.target with
    | none => exact ⟨_, _, rfl⟩
    | some t =>
      obtain ⟨picked, hselect⟩ := hresolver s t r
      simp only [Resolver.link, hselect, bind, Except.bind]
      cases picked with
      | none => exact ⟨_, _, rfl⟩
      | some i =>
        cases hget : s.fields[i]? with
        | none => simp only [hget]; exact ⟨_, _, rfl⟩
        | some f => simp only [hget]; exact ⟨_, _, rfl⟩

/-- With a resolver that never fails all lines can be resolved. -/
lemma exists_resolveLines (hresolver : resolver.IsTotal) (es : List Entity)
    (lines : List (Nat × Relationship)) :
    ∃ es' ws, resolveLines resolver es lines = .ok (es', ws) := by
  induction lines generalizing es with
  | nil => exact ⟨es, [], rfl⟩
  | cons line lines ih =>
    obtain ⟨n, r⟩ := line
    obtain ⟨es₁, ws₁, hline⟩ := exists_resolveLine hresolver es n r
    obtain ⟨es₂, ws₂, hlines⟩ := ih es₁
    refine ⟨es₂, ws₁ ++ ws₂, ?_⟩
    simp only [resolveLines, hline, hlines, bind, Except.bind]
    rfl

end Lines

/-! ## Texts -/

section Texts

variable {resolver : Resolver} {unlinked : Cardinality} {supply supply' : Supply} {text : String}
  {outcome : ParseOutcome}

/-- What reading makes of the supply. -/
lemma extends_parse (hfresh : supply.IsFresh)
    (h : parse resolver unlinked supply text = (outcome, supply')) : supply.Extends supply' := by
  rw [parse] at h
  split_ifs at h
  · obtain ⟨-, rfl⟩ := Prod.mk.inj h
    exact (Scan.isSound_scan unlinked hfresh text.toList).later
  · obtain ⟨-, rfl⟩ := Prod.mk.inj h
    exact Supply.Extends.refl supply

/-- A text is accepted if it has the header, its lines can be resolved, and it declares an
entity. -/
lemma parse_eq_accepted {es : List Entity} {rs : List Relationship} {ws : List Warning}
    (h : parse resolver unlinked supply text = (.accepted es rs ws, supply')) :
    supply' = (scan unlinked supply text.toList).supply ∧ es ≠ [] ∧
      ∃ ws', resolveLines resolver (scan unlinked supply text.toList).entities
          (scan unlinked supply text.toList).relationships = .ok (es, ws') ∧
        ws = (scan unlinked supply text.toList).warnings ++ ws' := by
  rw [parse] at h
  split_ifs at h
  · obtain ⟨houtcome, rfl⟩ := Prod.mk.inj h
    refine ⟨rfl, ?_⟩
    cases hlines : resolveLines resolver (scan unlinked supply text.toList).entities
        (scan unlinked supply text.toList).relationships with
    | error reason => simp [hlines] at houtcome
    | ok p =>
      obtain ⟨es₁, ws₁⟩ := p
      simp only [hlines] at houtcome
      split_ifs at houtcome with hempty
      obtain ⟨rfl, -, rfl⟩ := ParseOutcome.accepted.inj houtcome
      exact ⟨fun hnil => hempty (hnil ▸ rfl), ws₁, rfl, rfl⟩
  · exact absurd (Prod.mk.inj h).1 ParseOutcome.noConfusion

/-- **Whatever is read of a text is told apart by names and by new ids**, exactly its foreign keys
have references, and these point at its own entities. -/
theorem isRead_parse (hresolver : resolver.PicksForeign) (hfresh : supply.IsFresh)
    {es : List Entity} {rs : List Relationship} {ws : List Warning}
    (h : parse resolver unlinked supply text = (.accepted es rs ws, supply')) :
    IsRead unlinked es ∧ (modelIds es).Nodup ∧ ∀ id ∈ modelIds es, supply.Gave supply' id := by
  obtain ⟨rfl, -, ws', hlines, -⟩ := parse_eq_accepted h
  have hscan := Scan.isSound_scan unlinked hfresh text.toList
  obtain ⟨hread, hbare⟩ := isRead_resolveLines hscan.isRead hresolver hlines
  rw [modelIds_of_bare hbare]
  exact ⟨hread, hscan.ids, hscan.given⟩

end Texts

end DiagramSync
