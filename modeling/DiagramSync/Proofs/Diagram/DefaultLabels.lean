import DiagramSync.Proofs.Diagram.Recovery

/-!
# Where default labels lead

A relationship line is labelled with the name of the field that it is written for, unless another
label was given to it.  By that name the field is found again, as long as it is read as a foreign
key.  A field that is a primary key as well is not: the diagram only shows that it is a primary key,
and its line is either left without a field or moved to another one.

* `IsWrittenFor` — the field that a relationship line was written for
* `RecoversLinks` — every line links the field that it was written for, and nothing else is linked
* `resolveLine_default`, `resolveLines_default` — lines whose labels lead back to foreign keys
* `recoversLinks_linkedUpTo` — if all do, the links are recovered
* `isForeign_of_bare_copy` — which fields are read as foreign keys
* `not_recoversLinks_of_primary` — if one was written for a primary key, they are not
* **`recoversLinks_iff`** — they are exactly if no line was written for a primary key
* `recoversLinks_profilesOfUsers` — a line that is moved to another field
-/

namespace DiagramSync

open Text

/-! ## Lines and links -/

/-- The line `em` was written for the field `f` of `e`, whose reference `r` points at `t`. -/
structure IsWrittenFor (es : List Entity) (em : Emission) (e : Entity) (f : Field) (r : Reference)
    (t : Entity) : Prop where
  /-- The entity is in the model. -/
  entity : e ∈ es
  /-- The field is one of its fields. -/
  field : f ∈ e.fields
  /-- The reference points at the target. -/
  link : f.link? es = some (r, t)
  /-- The line says so. -/
  line : em = ⟨e.name, t.name, r.cardinality, r.label.getD f.name⟩

/-- In the model `es'` that was read of the diagram of `es` every line links the field that it was
written for, and no field is linked that was not. -/
structure RecoversLinks (es es' : List Entity) : Prop where
  /-- The field of a line points at the target of the line, with its cardinality. -/
  recovered : ∀ em ∈ emissions (Table.showFrom 0 (es.map Entity.toTable)),
    ∃ e f r t, IsWrittenFor es em e f r t ∧
      ∃ e' ∈ es', e'.name = e.name ∧ ∃ f' ∈ e'.fields, f'.name = f.name ∧
        ∃ r', f'.reference = some r' ∧ r'.isLinked = true ∧ r'.cardinality = em.cardinality ∧
          ∃ t' ∈ es', t'.name = em.target ∧ r'.target = t'.id
  /-- A field that was not linked is not linked now. -/
  unlinked : ∀ e ∈ es, ∀ f ∈ e.fields, f.isLinked = false →
    ∀ e' ∈ es', e'.name = e.name → ∀ f' ∈ e'.fields, f'.name = f.name → f'.isLinked = false

section Default

variable {es : List Entity} {unlinked : Cardinality} {ν : Numbering} {done : List (String × String)}

/-- The lines of a model that can be written are those of its links, but for mirrored ones. -/
lemma emissions_of_writable (h : ∀ e ∈ es, e.IsWritable) :
    emissions (Table.showFrom 0 (es.map Entity.toTable))
      = withoutMirrors [] (modelEmissions es) := by
  rw [showFrom_toTable h, emissions, allEmissions_shown h]

lemma exists_isWrittenFor (h : Legible es) {em : Emission}
    (hem : em ∈ withoutMirrors [] (modelEmissions es)) :
    ∃ e f r t, IsWrittenFor es em e f r t := by
  obtain ⟨e, he, f, hf, r, t, hlink, hline⟩ :=
    exists_link_of_mem h ((mem_withoutMirrors hem).resolve_left List.not_mem_nil)
  exact ⟨e, f, r, t, he, hf, hlink, hline⟩

/-! ## Lines of foreign keys -/

variable (unlinked ν done) in
/-- A line with a default label that was written for a foreign key links that key, whatever has
been linked before. -/
lemma resolveLine_default (h : Legible es) {em : Emission} {e : Entity} {f : Field} {r : Reference}
    {t : Entity} (hem : IsWrittenFor es em e f r t) (hlabel : r.label = none)
    (hprimary : f.isPrimary = false) {n : Nat} {line : Relationship} (hline : em.StatedBy line) :
    resolveLine .byLabel (es.map (·.linkedUpTo ν unlinked es done)) n line
      = .ok (es.map (·.linkedUpTo ν unlinked es ((em.source, em.label) :: done)), []) := by
  obtain ⟨he, hf, hlink, rfl⟩ := hem
  obtain ⟨pre, post, hfields⟩ := List.append_of_mem hf
  have hwritable := (h.writable e he).fields f hf
  have hforeign : f.isForeign = true := by
    rw [← hwritable.reference, (Field.link?_eq_some hlink).1, Option.isSome_some]
  have hname : r.label.getD f.name = f.name := by rw [hlabel, Option.getD_none]
  have hdefault : r.label ≠ some f.name := by
    rw [hlabel]
    exact (Option.some_ne_none f.name).symm
  have hlabelled : r.label.getD f.name ≠ "" := by
    rw [hname]
    exact hwritable.named
  have hfound : foldName (r.label.getD f.name)
      = foldName (f.linkedUpTo ν unlinked es done e.name).name := by
    rw [Field.name_linkedUpTo, hname]
  have hpicks := picks_of_found h he hfields hforeign hprimary t hlabelled (Or.inl hfound)
  rw [resolveLine_of_picks h he hfields hlink hdefault hpicks hline, hname]

variable (unlinked ν) in
/-- Lines with default labels that were written for foreign keys link these keys. -/
lemma resolveLines_default (h : Legible es) (done : List (String × String)) {ems : List Emission}
    {lines : List (Nat × Relationship)}
    (hems : ∀ em ∈ ems, ∃ e f r t, IsWrittenFor es em e f r t ∧ r.label = none ∧
      f.isPrimary = false)
    (hlines : List.Forall₂ (fun em line => Emission.StatedBy em line.2) ems lines) :
    resolveLines .byLabel (es.map (·.linkedUpTo ν unlinked es done)) lines
      = .ok (es.map (·.linkedUpTo ν unlinked es
          ((ems.map fun em => (em.source, em.label)).reverse ++ done)), []) := by
  induction hlines generalizing done with
  | nil => rfl
  | cons hline _ ih =>
    rename_i em line ems lines _
    obtain ⟨e, f, r, t, hem, hlabel, hprimary⟩ := hems em List.mem_cons_self
    rw [List.map_cons, List.reverse_cons, List.append_assoc, List.singleton_append]
    exact resolveLines_cons (resolveLine_default unlinked ν done h hem hlabel hprimary hline)
      (ih _ fun x hx => hems x (List.mem_cons_of_mem em hx))

/-- A field without a link is not linked on the way. -/
lemma not_isLinked_of_link? {f : Field} (hlink : f.link? es = none) (owner : String) :
    (f.linkedUpTo ν unlinked es done owner).isLinked = false := by
  rw [Field.linkedUpTo, Field.rebuilt_of_none hlink, ite_self, not_isLinked_copy]

/-- If all fields that lines were written for have been linked, the links are recovered. -/
lemma recoversLinks_linkedUpTo (h : Legible es) (hresolved : ∀ e ∈ es, e.id ≠ .unresolved)
    (hlabels : ∀ e ∈ es, ∀ f ∈ e.fields, ∀ r, f.reference = some r → r.label = none)
    (hν : ∀ t ∈ es, ν.entity t.name ≠ .unresolved)
    (hdone : ∀ em ∈ withoutMirrors [] (modelEmissions es), (em.source, em.label) ∈ done) :
    RecoversLinks es (es.map (·.linkedUpTo ν unlinked es done)) where
  recovered em hem := by
    rw [emissions_of_writable h.writable] at hem
    have hmem := hdone em hem
    obtain ⟨e, f, r, t, hwritten⟩ := exists_isWrittenFor h hem
    obtain ⟨he, hf, hlink, rfl⟩ := hwritten
    obtain ⟨hr, ht, -⟩ := Field.link?_eq_some hlink
    rw [hlabels e he f hf r hr, Option.getD_none] at hmem
    refine ⟨e, f, r, t, ⟨he, hf, hlink, rfl⟩, _, List.mem_map_of_mem he, rfl, _,
      List.mem_map_of_mem hf, f.name_linkedUpTo e.name, ν.relink r t, ?_, ?_, rfl, _,
      List.mem_map_of_mem ht, rfl, rfl⟩
    · rw [Field.linkedUpTo, if_pos hmem, Field.rebuilt_of_link? hlink]
    · exact bne_iff_ne.mpr (hν t ht)
  unlinked e he f hf hunlinked e' he' hename f' hf' hfname := by
    obtain ⟨x, hx, rfl⟩ := List.mem_map.mp he'
    obtain rfl := h.eq_of_name hx he hename
    obtain ⟨g, hg, rfl⟩ := List.mem_map.mp hf'
    rw [Field.name_linkedUpTo] at hfname
    obtain rfl := h.eq_of_fieldName hx hg hf (congrArg foldName hfname)
    refine not_isLinked_of_link? ?_ x.name
    cases hlink : g.link? es with
    | none => rfl
    | some p =>
      obtain ⟨r, t⟩ := p
      obtain ⟨hr, ht, htarget⟩ := Field.link?_eq_some hlink
      have hlinked : g.isLinked = true := by
        rw [Field.isLinked, hr]
        exact bne_iff_ne.mpr (htarget ▸ hresolved t ht)
      exact absurd (hlinked.symm.trans hunlinked) Bool.noConfusion

/-! ## A line of a primary key -/

/-- A line with a default label tells the field that it was written for. -/
lemma IsWrittenFor.eq_field (h : Legible es)
    (hlabels : ∀ e ∈ es, ∀ f ∈ e.fields, ∀ r, f.reference = some r → r.label = none)
    {em : Emission} {e e' : Entity} {f f' : Field} {r r' : Reference} {t t' : Entity}
    (hem : IsWrittenFor es em e f r t) (hem' : IsWrittenFor es em e' f' r' t') :
    e = e' ∧ f = f' := by
  obtain ⟨he, hf, hlink, rfl⟩ := hem
  obtain ⟨he', hf', hlink', hline⟩ := hem'
  rw [hlabels e he f hf r (Field.link?_eq_some hlink).1,
    hlabels e' he' f' hf' r' (Field.link?_eq_some hlink').1] at hline
  obtain ⟨hsource, -, -, hlabel⟩ := Emission.mk.inj hline
  obtain rfl := h.eq_of_name he he' hsource
  exact ⟨rfl, h.eq_of_fieldName he hf hf' (congrArg foldName hlabel)⟩

/-- In what was read of a model a field is a foreign key if it was one and no primary key, whatever
has been linked. -/
lemma isForeign_of_bare_copy (h : Legible es) {es' : List Entity}
    (hbare : es'.map Entity.bare = (es.map (·.copy ν unlinked)).map Entity.bare) {e e' : Entity}
    (he : e ∈ es) (he' : e' ∈ es') (hename : e'.name = e.name) {f f' : Field} (hf : f ∈ e.fields)
    (hf' : f' ∈ e'.fields) (hfname : f'.name = f.name) :
    f'.isForeign = (!f.isPrimary && f.isForeign) := by
  obtain ⟨c, hc, hcopy⟩ := exists_bare hbare.symm he'
  obtain ⟨x, hx, rfl⟩ := List.mem_map.mp hc
  have hxname : x.name = e'.name := (congrArg Entity.name hcopy :)
  obtain rfl := h.eq_of_name hx he (hxname.trans hename)
  have hfields : (x.copy ν unlinked).fields.map Field.bare = e'.fields.map Field.bare :=
    congrArg Entity.fields hcopy
  have hmem : f'.bare ∈ (x.copy ν unlinked).fields.map Field.bare :=
    hfields ▸ List.mem_map_of_mem hf'
  obtain ⟨d, hd, hdbare⟩ := List.mem_map.mp hmem
  obtain ⟨g, hg, rfl⟩ := List.mem_map.mp hd
  have hgname : g.name = f'.name := (congrArg Field.name hdbare :)
  obtain rfl := h.eq_of_fieldName hx hg hf (congrArg foldName (hgname.trans hfname))
  exact (congrArg Field.isForeign hdbare.symm :)

/-- A primary key is not read as a foreign key, so it has no reference that its line could be read
into. -/
lemma not_recoversLinks_of_primary (h : Legible es)
    (hlabels : ∀ e ∈ es, ∀ f ∈ e.fields, ∀ r, f.reference = some r → r.label = none)
    {es' : List Entity} (hread : IsRead unlinked es')
    (hbare : es'.map Entity.bare = (es.map (·.copy ν unlinked)).map Entity.bare) {em : Emission}
    (hem : em ∈ withoutMirrors [] (modelEmissions es)) {e : Entity} {f : Field} {r : Reference}
    {t : Entity} (hwritten : IsWrittenFor es em e f r t) (hprimary : f.isPrimary = true) :
    ¬ RecoversLinks es es' := by
  intro hrecovers
  rw [← emissions_of_writable h.writable] at hem
  obtain ⟨x, g, q, u, hline, e', he', hename, f', hf', hfname, r', hr', -⟩ :=
    hrecovers.recovered em hem
  obtain ⟨rfl, rfl⟩ := hwritten.eq_field h hlabels hline
  have hforeign := isForeign_of_bare_copy h hbare hwritten.entity he' hename hwritten.field hf' hfname
  rw [hprimary, Bool.not_true, Bool.false_and, ← hread.settled e' he' f' hf', hr',
    Option.isSome_some] at hforeign
  exact Bool.false_ne_true hforeign.symm

/-- **Of a legible model in which all labels are left at their defaults, the links are recovered
exactly if no relationship line was written for a primary key.** -/
theorem recoversLinks_iff (h : Legible es) (hne : es ≠ [])
    (hresolved : ∀ e ∈ es, e.id ≠ .unresolved)
    (hlabels : ∀ e ∈ es, ∀ f ∈ e.fields, ∀ r, f.reference = some r → r.label = none)
    {supply : Supply} (hfresh : supply.IsFresh) (unlinked : Cardinality) :
    ∃ es' rs ws supply', parse .byLabel unlinked supply (generate es)
        = (.accepted es' rs ws, supply') ∧
      (RecoversLinks es es' ↔
        ∀ em ∈ emissions (Table.showFrom 0 (es.map Entity.toTable)), ∀ e f r t,
          IsWrittenFor es em e f r t → f.isPrimary = false) := by
  obtain ⟨ν, rs, supply', hscan, hstated, hids, hgiven⟩ := exists_scan_relaid h hne hfresh unlinked
    (isRelaid_generate es)
  have hν := entity_ne_unresolved hfresh hgiven
  obtain ⟨es', ws, hlines⟩ := exists_resolveLines isTotal_byLabel (es.map (·.copy ν unlinked)) rs
  have hsound := Scan.isSound_scan unlinked hfresh (generate es).toList
  rw [hscan] at hsound
  obtain ⟨hread, hbare⟩ := isRead_resolveLines hsound.isRead picksForeign_byLabel hlines
  have hnonempty : es'.isEmpty = false := by
    have hlength := congrArg List.length hbare
    rw [List.length_map, List.length_map, List.length_map] at hlength
    simpa [← List.length_pos_iff, hlength] using hne
  refine ⟨es', rs.map (·.2), ws, supply', ?_, ?_⟩
  · rw [parse, if_pos (isRelaid_generate es).header, hscan]
    simp only [hlines, hnonempty, Bool.false_eq_true, if_false, List.nil_append]
  rw [emissions_of_writable h.writable]
  constructor
  · intro hrecovers em hem e f r t hwritten
    by_contra hprimary
    exact not_recoversLinks_of_primary h hlabels hread hbare hem hwritten
      (Bool.not_eq_false _ ▸ hprimary) hrecovers
  · intro hforeign
    have hstart : es.map (·.linkedUpTo ν unlinked es []) = es.map (·.copy ν unlinked) := by
      simp only [Entity.linkedUpTo, Entity.copy, Field.linkedUpTo, List.not_mem_nil, if_false]
    have hems : ∀ em ∈ withoutMirrors [] (modelEmissions es), ∃ e f r t,
        IsWrittenFor es em e f r t ∧ r.label = none ∧ f.isPrimary = false := by
      intro em hem
      obtain ⟨e, f, r, t, hwritten⟩ := exists_isWrittenFor h hem
      exact ⟨e, f, r, t, hwritten,
        hlabels e hwritten.entity f hwritten.field r (Field.link?_eq_some hwritten.link).1,
        hforeign em hem e f r t hwritten⟩
    have hall := resolveLines_default unlinked ν h [] hems hstated
    rw [hstart, hlines] at hall
    obtain ⟨rfl, -⟩ := Prod.mk.inj (Except.ok.inj hall)
    refine recoversLinks_linkedUpTo h hresolved hlabels hν fun em hem => ?_
    rw [List.append_nil, List.mem_reverse]
    exact List.mem_map.mpr ⟨em, hem, rfl⟩

end Default

/-- Users, and the orders that one of them placed and another one delivers. -/
def ordersOfUsers : List Entity :=
  [{ id := ⟨"users"⟩, name := "Users"
     fields := [{ id := ⟨"users.id"⟩, name := "id", type := .int, isPrimary := true }] },
   { id := ⟨"orders"⟩, name := "Orders"
     fields :=
      [{ id := ⟨"orders.id"⟩, name := "id", type := .int, isPrimary := true },
       { id := ⟨"orders.buyer"⟩, name := "buyer", type := .int, isForeign := true
         reference := some { target := ⟨"users"⟩, targetField := ⟨"users.id"⟩ } },
       { id := ⟨"orders.user_id"⟩, name := "user_id", type := .int, isForeign := true
         reference := some { cardinality := .oneToOne } },
       { id := ⟨"orders.courier"⟩, name := "courier", type := .int, isForeign := true
         reference := some { target := ⟨"users"⟩, cardinality := .manyToMany } }] }]

/-- Neither the buyer nor the courier is mistaken for the user, who stays unlinked. -/
theorem recoversLinks_ordersOfUsers :
    ∃ es' rs ws supply', parse .byLabel .oneToOne .strokes (generate ordersOfUsers)
        = (.accepted es' rs ws, supply') ∧ RecoversLinks ordersOfUsers es' := by
  obtain ⟨es', rs, ws, supply', hparse, hiff⟩ := recoversLinks_iff
    (show Legible ordersOfUsers by decide +kernel) (List.cons_ne_nil _ _) (by decide +kernel)
    (by decide +kernel) Supply.isFresh_strokes .oneToOne
  have hprimary : ∀ e ∈ ordersOfUsers, ∀ f ∈ e.fields,
      (f.link? ordersOfUsers).isSome = true → f.isPrimary = false := by
    decide +kernel
  refine ⟨es', rs, ws, supply', hparse, hiff.mpr fun em _ e f r t hwritten => ?_⟩
  exact hprimary e hwritten.entity f hwritten.field (Option.isSome_iff_exists.mpr ⟨_, hwritten.link⟩)

/-- Users and their profiles, which have the key of their user for their own.  Who referred the user
is not said. -/
def profilesOfUsers : List Entity :=
  [{ id := ⟨"users"⟩, name := "Users"
     fields := [{ id := ⟨"users.id"⟩, name := "id", type := .int, isPrimary := true }] },
   { id := ⟨"profiles"⟩, name := "Profiles"
     fields :=
      [{ id := ⟨"profiles.user_id"⟩, name := "user_id", type := .int, isPrimary := true
         isForeign := true
         reference := some
           { target := ⟨"users"⟩, targetField := ⟨"users.id"⟩, cardinality := .oneToOne } },
       { id := ⟨"profiles.referrer_id"⟩, name := "referrer_id", type := .int, isForeign := true
         reference := some {} }] }]

/-- The link of the profiles moves from their key to the referrer, and nothing is warned about. -/
theorem recoversLinks_profilesOfUsers :
    let outcome := (parse .byLabel .manyToOne .strokes (generate profilesOfUsers)).1
    Legible profilesOfUsers ∧ (modelIds profilesOfUsers).Nodup ∧
      (∀ id ∈ modelIds profilesOfUsers, id ≠ .unresolved) ∧
      (∀ e ∈ profilesOfUsers, ∀ f ∈ e.fields, ∀ r ∈ f.reference, r.label = none) ∧
      outcome.isAccepted = true ∧ outcome.warnings = [] ∧
      ¬ RecoversLinks profilesOfUsers outcome.entities := by
  have hread : (parse .byLabel .manyToOne .strokes (generate profilesOfUsers)).1.isAccepted = true ∧
      (parse .byLabel .manyToOne .strokes (generate profilesOfUsers)).1.warnings = [] ∧
      ∃ e' ∈ (parse .byLabel .manyToOne .strokes (generate profilesOfUsers)).1.entities,
        e'.name = "Profiles" ∧
          ∃ f' ∈ e'.fields, f'.name = "referrer_id" ∧ f'.isLinked = true := by
    decide +kernel
  obtain ⟨haccepted, hsilent, hmoved⟩ := hread
  refine ⟨by decide +kernel, by decide +kernel, by decide +kernel, by decide +kernel, haccepted,
    hsilent, fun h => ?_⟩
  have hbefore : ∃ e ∈ profilesOfUsers, e.name = "Profiles" ∧
      ∃ f ∈ e.fields, f.name = "referrer_id" ∧ f.isLinked = false := by
    decide +kernel
  obtain ⟨e', he', hename', f', hf', hfname', hlinked⟩ := hmoved
  obtain ⟨e, he, hename, f, hf, hfname, hunlinked⟩ := hbefore
  have hstays := h.unlinked e he f hf hunlinked e' he' (hename'.trans hename.symm) f' hf'
    (hfname'.trans hfname.symm)
  exact absurd (hlinked.symm.trans hstays) Bool.noConfusion

end DiagramSync
