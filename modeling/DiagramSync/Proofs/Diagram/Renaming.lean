import DiagramSync.Proofs.Diagram.Images

/-!
# Reading a text under other new ids

The ids of a model that is read are whatever the supply gives out, and nothing that is read depends
on them.  So reading a text with another supply gives the same model under other ids.

* `Supply.exists_leads` — one fresh supply gives the images of what another one gives
* `Resolver.IgnoresIds` — a resolver that picks the same field under other ids, as both that are
  built in do
* `carriesOver_renameIds` — other ids are a replacement that reading does not see
* **`parse_renameIds`**, **`sketch_parse`** — what is read is the same but for the ids
-/

namespace DiagramSync

open Text

variable {g : Id → Id}

/-! ## Supplies -/

/-- Between two fresh supplies there is a renaming that leaves the id of none, and only that one, to
itself. -/
lemma Supply.exists_leads {s s' : Supply} (h : s.IsFresh) (h' : s'.IsFresh) :
    ∃ g : Id → Id, s.Leads g s' ∧ ∀ id, g id = .unresolved ↔ id = .unresolved := by
  have hinjective : Function.Injective fun n => s.mint (s.drawn + n) := fun m n hid =>
    Nat.add_left_cancel
      (h.injective _ _ (Nat.le_add_right _ _) (Nat.le_add_right _ _) hid)
  refine ⟨renamingTo (fun n => s.mint (s.drawn + n)) fun n => s'.mint (s'.drawn + n),
    renamingTo_mint hinjective _, fun id => ?_⟩
  by_cases hid : ∃ n, s.mint (s.drawn + n) = id
  · obtain ⟨n, rfl⟩ := hid
    rw [renamingTo_mint hinjective]
    have hold : s.mint (s.drawn + n) ≠ .unresolved := h.resolved _ (Nat.le_add_right _ _)
    have hnew : s'.mint (s'.drawn + n) ≠ .unresolved := h'.resolved _ (Nat.le_add_right _ _)
    exact iff_of_false hnew hold
  · rw [renamingTo_other (not_exists.mp hid)]

/-! ## Under other ids -/

/-- The resolver picks the same field under other ids. -/
def Resolver.IgnoresIds (g : Id → Id) (resolver : Resolver) : Prop :=
  ∀ s t r, resolver.select (s.renameIds g g) (t.renameIds g g) r = resolver.select s t r

section Resolution

variable (hg : ∀ id, g id = .unresolved ↔ id = .unresolved)
include hg

lemma isLinked_renameIds (r : Reference) : (r.renameIds g g).isLinked = r.isLinked := by
  cases hlinked : r.isLinked with
  | false => rw [Reference.renameIds, hlinked, if_neg Bool.false_ne_true, hlinked]
  | true =>
    rw [Reference.renameIds, hlinked, if_pos rfl]
    simp only [Reference.isLinked, bne_iff_ne, ne_eq] at hlinked ⊢
    rwa [hg]

lemma fieldIsLinked_renameIds (f : Field) : (f.renameIds g g).isLinked = f.isLinked := by
  have hreference : (f.renameIds g g).reference = f.reference.map (·.renameIds g g) := rfl
  rw [Field.isLinked, Field.isLinked, hreference]
  cases f.reference with
  | none => rfl
  | some r => exact isLinked_renameIds hg r

lemma keepsLooks_renameIds : KeepsLooks (·.renameIds g g) where
  name _ := rfl
  isForeign _ := rfl
  isLinked := fieldIsLinked_renameIds hg

/-- Picking by name does not depend on ids. -/
lemma ignoresIds_byName : Resolver.byName.IgnoresIds g :=
  overlooks_byName (keepsLooks_renameIds hg)

/-- Picking by label does not depend on ids. -/
lemma ignoresIds_byLabel : Resolver.byLabel.IgnoresIds g :=
  overlooks_byLabel (keepsLooks_renameIds hg)

/-- A field is linked in the same way under other ids. -/
lemma link_renameIds {t : Entity} (ht : t.id ≠ .unresolved) (r : Relationship) (f : Field) :
    (f.link t r).renameIds g g = (f.renameIds g g).link (t.renameIds g g) r := by
  have hlinked : (linkedReference t r f).isLinked = true := bne_iff_ne.mpr ht
  have hkey : g ((t.primaryKey?.map (·.id)).getD .unresolved)
      = ((t.renameIds g g).primaryKey?.map (·.id)).getD .unresolved := by
    have hfound : (t.renameIds g g).primaryKey? = t.primaryKey?.map (·.renameIds g g) := by
      rw [Entity.primaryKey?, Entity.primaryKey?, Entity.renameIds, List.find?_map]
      rfl
    rw [hfound]
    cases t.primaryKey? with
    | none => exact (hg _).mpr rfl
    | some p => rfl
  have hreference : (linkedReference t r f).renameIds g g
      = linkedReference (t.renameIds g g) r (f.renameIds g g) := by
    rw [Reference.renameIds, if_pos hlinked, linkedReference, linkedReference, ← hkey]
    rfl
  rw [Field.renameIds, Field.link, Field.link, Option.map_some, hreference]
  rfl

/-- Other ids are a replacement that reading does not see. -/
lemma carriesOver_renameIds (unlinked : Cardinality) :
    CarriesOver g (·.renameIds g g) unlinked unlinked where
  toKeepsLooks := keepsLooks_renameIds hg
  kept id parts := by
    rw [keptField, keptField, Field.renameIds]
    dsimp only
    split_ifs
    · rfl
    · rfl
  link _ r f ht := link_renameIds hg ht r f

end Resolution

/-! ## Texts -/

/-- An outcome under other ids. -/
def ParseOutcome.renameIds (g : Id → Id) : ParseOutcome → ParseOutcome
  | .accepted es rs ws => .accepted (es.map (·.renameIds g g)) rs ws
  | .rejected error ws => .rejected error ws

/-- **What is read is the same under other ids.** -/
theorem parse_renameIds {resolver : Resolver} {unlinked : Cardinality} {supply supply' : Supply}
    (hresolver : resolver.IgnoresIds g) (hg : ∀ id, g id = .unresolved ↔ id = .unresolved)
    (hfresh : supply.IsFresh) (h : supply.Leads g supply') (text : String) :
    (parse resolver unlinked supply' text).1
      = (parse resolver unlinked supply text).1.renameIds g := by
  rw [parse_image (carriesOver_renameIds hg unlinked) hresolver hfresh h text]
  cases (parse resolver unlinked supply text).1 with
  | accepted es rs ws => rfl
  | rejected error ws => rfl

/-- **Whatever fresh supply a text is read with, it is rejected for the same reason, or a model is
read that says the same.** -/
theorem sketch_parse {resolver : Resolver} {unlinked : Cardinality} {supply supply' : Supply}
    (hresolver : ∀ g : Id → Id, (∀ id, g id = .unresolved ↔ id = .unresolved) → resolver.IgnoresIds g)
    (hforeign : resolver.PicksForeign) (hfresh : supply.IsFresh) (hfresh' : supply'.IsFresh)
    (text : String) :
    (∃ error ws, (parse resolver unlinked supply text).1 = .rejected error ws ∧
        (parse resolver unlinked supply' text).1 = .rejected error ws) ∨
      ∃ es es' rs ws, (parse resolver unlinked supply text).1 = .accepted es rs ws ∧
        (parse resolver unlinked supply' text).1 = .accepted es' rs ws ∧
          sketch es' = sketch es := by
  obtain ⟨g, hleads, hg⟩ := Supply.exists_leads hfresh hfresh'
  have hrenamed : (parse resolver unlinked supply' text).1
      = (parse resolver unlinked supply text).1.renameIds g :=
    parse_renameIds (hresolver g hg) hg hfresh hleads text
  cases hparse : parse resolver unlinked supply text with
  | mk outcome later =>
    cases hparse' : parse resolver unlinked supply' text with
    | mk outcome' later' =>
      rw [hparse, hparse'] at hrenamed
      obtain rfl : outcome' = outcome.renameIds g := hrenamed
      cases outcome with
      | rejected error ws => exact Or.inl ⟨error, ws, rfl, rfl⟩
      | accepted es rs ws =>
        refine Or.inr ⟨es, es.map (·.renameIds g g), rs, ws, rfl, rfl, ?_⟩
        have hparse' : parse resolver unlinked supply' text
            = (.accepted (es.map (·.renameIds g g)) rs ws, later') := hparse'
        obtain ⟨hread, -, hgiven⟩ := isRead_parse hforeign hfresh hparse
        obtain ⟨-, hids, hgiven'⟩ := isRead_parse hforeign hfresh' hparse'
        have hapart : KeepsApart g g es := by
          refine ⟨?_, fun e he => ?_, fun e he => ?_, fun e he f hf => ?_, (hg _).mpr rfl⟩
          · have hentities := nodup_entityIds hids
            rwa [List.map_map] at hentities
          · have hfields := nodup_fieldIds hids (List.mem_map_of_mem he)
            rwa [Entity.renameIds, List.map_map] at hfields
          · have hid := entityId_mem_modelIds (List.mem_map_of_mem (f := (·.renameIds g g)) he)
            exact (hgiven' _ hid).ne_unresolved hfresh'
          · have hid := fieldId_mem_modelIds (List.mem_map_of_mem (f := (·.renameIds g g)) he)
              (List.mem_map_of_mem hf)
            exact (hgiven' _ hid).ne_unresolved hfresh'
        exact sketch_renameIds hapart (fun id hid => (hgiven id hid).ne_unresolved hfresh)
          fun e he f hf r hr => (hread.references e he f hf r hr).isLocal

end DiagramSync
