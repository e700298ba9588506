import DiagramSync.Proofs.Diagram.Mirrors

/-!
# What the relationship lines state

A line states a relationship in two directions: from the entity on the left to the one on the right
with the cardinality of its symbol, and from right to left with the two ends exchanged.  A line that
is left out as a mirror has the same symbol as the one that is kept, and so it states the same only
if the symbol means the same from both sides.  If one of the ends is one and the other one is many,
the two lines state different relationships, and one of them is lost.

* `Emission.States` — what a line states, in either direction
* `Link.IsStated` — a line of the diagram states the link
* `Link.IsOverruled` — the link is left out for a line that states something else
* **`isStated_iff`** — all links are stated but those that are overruled
-/

namespace DiagramSync

/-- The line states that cardinality from the entity of the one name to that of the other one, read
from the left or from the right. -/
def Emission.States (em : Emission) (x y : String) (c : Cardinality) : Prop :=
  ∃ p ∈ Symbol.read? em.cardinality.symbol.toList,
    (em.source = x ∧ em.target = y ∧ p.1 = c) ∨ (em.source = y ∧ em.target = x ∧ p.1.flip = c)

instance (em : Emission) (x y : String) (c : Cardinality) : Decidable (em.States x y c) :=
  inferInstanceAs (Decidable (∃ p ∈ Symbol.read? em.cardinality.symbol.toList, _))

lemma states_iff {em : Emission} {x y : String} {c : Cardinality} :
    em.States x y c ↔ (em.source = x ∧ em.target = y ∧ em.cardinality = c) ∨
      (em.source = y ∧ em.target = x ∧ em.cardinality = c.flip) := by
  have hflip : em.cardinality.flip = c ↔ em.cardinality = c.flip := by
    constructor
    · rintro rfl
      rw [Cardinality.flip_flip]
    · intro h
      rw [h, Cardinality.flip_flip]
  simp [Emission.States, Cardinality.read?_symbol, hflip]

/-- The cardinalities that are the same from both sides. -/
lemma flip_eq_self {c : Cardinality} : c.flip = c ↔ c = .oneToOne ∨ c = .manyToMany := by
  cases c <;> decide

namespace Link

/-- A line of the diagram states the link. -/
def IsStated (es : List Entity) (l : Link) : Prop :=
  ∃ em ∈ emissions (Table.showFrom 0 (es.map Entity.toTable)),
    em.States l.owner.name l.target.name l.reference.cardinality

instance (es : List Entity) (l : Link) : Decidable (l.IsStated es) :=
  inferInstanceAs (Decidable (∃ em ∈ emissions _, _))

/-- The link is left out for a line with the same symbol that states something else, and no other
line states it. -/
structure IsOverruled (es : List Entity) (l : Link) : Prop where
  /-- The two ends of the link differ. -/
  oneSided : l.reference.cardinality = .oneToMany ∨ l.reference.cardinality = .manyToOne
  /-- It joins different entities. -/
  distinct : l.owner ≠ l.target
  /-- A line has its symbol between the two names the other way round. -/
  mirrored : ∃ em ∈ emissions (Table.showFrom 0 (es.map Entity.toTable)),
    em.IsReverseOf (l.line es)
  /-- No line the other way round has the symbol that states the link from the other side. -/
  unstated : ∀ em ∈ emissions (Table.showFrom 0 (es.map Entity.toTable)),
    em.source = l.target.name → em.target = l.owner.name →
      em.cardinality ≠ l.reference.cardinality.flip

instance (es : List Entity) (l : Link) : Decidable (l.IsOverruled es) :=
  decidable_of_iff
    ((l.reference.cardinality = .oneToMany ∨ l.reference.cardinality = .manyToOne) ∧
      l.owner ≠ l.target ∧
      (∃ em ∈ emissions (Table.showFrom 0 (es.map Entity.toTable)), em.IsReverseOf (l.line es)) ∧
      ∀ em ∈ emissions (Table.showFrom 0 (es.map Entity.toTable)),
        em.source = l.target.name → em.target = l.owner.name →
          em.cardinality ≠ l.reference.cardinality.flip)
    ⟨fun ⟨hsides, hne, hmirrored, hunstated⟩ => ⟨hsides, hne, hmirrored, hunstated⟩,
      fun h => ⟨h.oneSided, h.distinct, h.mirrored, h.unstated⟩⟩

end Link

/-- Where names are distinct, a link between different entities joins different names. -/
lemma name_ne_of_links {es : List Entity} (hnames : (es.map Entity.name).Nodup) {l : Link}
    (hl : l ∈ links es) (hne : l.owner ≠ l.target) : l.owner.name ≠ l.target.name := by
  intro hname
  exact hne (List.inj_on_of_nodup_map hnames (mem_links hl).1 (target_mem_of_links hl) hname)

section Stated

variable {es : List Entity} (hvalid : ∀ e ∈ es, e.IsValid) (hnamed : ∀ e ∈ es, e.name ≠ "")
include hvalid hnamed

/-- Where no name is missing, entities are written under their own names. -/
lemma shownNameIn_of_mem {e : Entity} (he : e ∈ es) : shownNameIn es e = e.name := by
  rw [shownNameIn, shownName_toTable (hvalid e he).name (hnamed e he)]

/-- A line mirrors that of a link if it has the same cardinality between the two names the other way
round. -/
lemma isReverseOf_line_iff {l : Link} (hl : l ∈ links es) {em : Emission} :
    em.IsReverseOf (l.line es) ↔ em.source = l.target.name ∧ em.target = l.owner.name ∧
      em.cardinality = l.reference.cardinality := by
  have howner := (mem_links hl).1
  have htarget := target_mem_of_links hl
  rw [Emission.IsReverseOf, line_source, line_target, line_cardinality, symbol_inj,
    shownNameIn_of_mem hvalid hnamed howner, shownNameIn_of_mem hvalid hnamed htarget]

variable (hnames : (es.map Entity.name).Nodup)
include hnames

/-- A link that is overruled is not stated, for a line that states it would be mirrored by the one
that it is left out for. -/
lemma not_isStated_of_isOverruled {l : Link} (hl : l ∈ links es) (h : l.IsOverruled es) :
    ¬ l.IsStated es := by
  rintro ⟨em, hem, hstates⟩
  rcases states_iff.mp hstates with ⟨hsource, htarget, hcardinality⟩ | ⟨hsource, htarget, hflip⟩
  · obtain ⟨mirror, hmirror, hreverse⟩ := h.mirrored
    obtain ⟨hsource', htarget', hcardinality'⟩ :=
      (isReverseOf_line_iff hvalid hnamed hl).mp hreverse
    have hne : em.source ≠ em.target := by
      rw [hsource, htarget]
      exact name_ne_of_links hnames hl h.distinct
    have hmirrors : mirror.mirrors em = true := mirrors_iff.mpr ⟨hne, by
      rw [hsource', htarget], by rw [htarget', hsource], by rw [hcardinality', hcardinality]⟩
    rw [mirrors_eq_false hmirror hem] at hmirrors
    exact Bool.false_ne_true hmirrors
  · exact h.unstated em hem hsource htarget hflip

variable (hids : (es.map Entity.id).Nodup)
include hids

/-- Where names are distinct and none is missing, entities are written under distinct names. -/
lemma nodup_shownNames :
    ((Table.showFrom 0 (es.map Entity.toTable)).map ShownTable.name).Nodup := by
  rw [showFrom_shownIn (hids.of_map Entity.id), List.map_map]
  refine (List.map_congr_left fun e he => ?_) ▸ hnames
  rw [Function.comp_apply, shownIn_name, shownNameIn_of_mem hvalid hnamed he]

/-- A link that is not overruled is stated: by its own line, by the line that it is left out for, or
by one that states it from the other side. -/
lemma isStated_of_not_isOverruled {l : Link} (hl : l ∈ links es) (h : ¬ l.IsOverruled es) :
    l.IsStated es := by
  have hshown := nodup_shownNames hvalid hnamed hnames hids
  have howner := (mem_links hl).1
  have htarget := target_mem_of_links hl
  rcases line_mem_or_mirrored hids hshown hvalid hl with hline | ⟨hne, em, hem, hreverse⟩
  · refine ⟨l.line es, hline, states_iff.mpr (Or.inl ⟨?_, ?_, line_cardinality es l⟩)⟩
    · rw [line_source, shownNameIn_of_mem hvalid hnamed howner]
    · rw [line_target, shownNameIn_of_mem hvalid hnamed htarget]
  · obtain ⟨hsource', htarget', hcardinality⟩ := (isReverseOf_line_iff hvalid hnamed hl).mp hreverse
    by_cases hflip : l.reference.cardinality.flip = l.reference.cardinality
    · exact ⟨em, hem, states_iff.mpr (Or.inr ⟨hsource', htarget', hcardinality.trans hflip.symm⟩)⟩
    · have hsides : l.reference.cardinality = .oneToMany ∨ l.reference.cardinality = .manyToOne := by
        revert hflip
        cases l.reference.cardinality <;> decide
      by_contra hunstated
      refine h ⟨hsides, hne, ⟨em, hem, hreverse⟩, fun em' hem' hsource htarget hback => ?_⟩
      exact hunstated ⟨em', hem', states_iff.mpr (Or.inr ⟨hsource, htarget, hback⟩)⟩

/-- **Every link is stated by a line of the diagram, but for links that are overruled.**  The line
that a link is left out for states the link exactly if its cardinality is the same from both
sides. -/
theorem isStated_iff {l : Link} (hl : l ∈ links es) :
    (l.IsStated es ↔ ¬ l.IsOverruled es) ∧
      ∀ em ∈ emissions (Table.showFrom 0 (es.map Entity.toTable)), l.owner ≠ l.target →
        em.IsReverseOf (l.line es) →
        (em.States l.owner.name l.target.name l.reference.cardinality ↔
          l.reference.cardinality = .oneToOne ∨ l.reference.cardinality = .manyToMany) := by
  refine ⟨⟨fun hstated hover => ?_, isStated_of_not_isOverruled hvalid hnamed hnames hids hl⟩, ?_⟩
  · exact not_isStated_of_isOverruled hvalid hnamed hnames hl hover hstated
  intro em _ hne hreverse
  obtain ⟨hsource, htarget, hcardinality⟩ := (isReverseOf_line_iff hvalid hnamed hl).mp hreverse
  rw [← flip_eq_self, states_iff, hsource, htarget, hcardinality]
  simp [(name_ne_of_links hnames hl hne).symm, eq_comm]

end Stated

/-- Teams that have many players each, and players that have many teams each. -/
def teamsOfPlayers : List Entity :=
  [{ id := ⟨"teams"⟩, name := "Teams"
     fields :=
      [{ id := ⟨"teams.id"⟩, name := "id", type := .int, isPrimary := true },
       { id := ⟨"teams.player"⟩, name := "player_id", type := .int, isForeign := true
         reference := some { target := ⟨"players"⟩, cardinality := .oneToMany } }] },
   { id := ⟨"players"⟩, name := "Players"
     fields :=
      [{ id := ⟨"players.id"⟩, name := "id", type := .int, isPrimary := true },
       { id := ⟨"players.team"⟩, name := "team_id", type := .int, isForeign := true
         reference := some { target := ⟨"teams"⟩, cardinality := .oneToMany } }] }]

/-- The second of the two is left out for the first one, and no line states that a player has many
teams. -/
theorem not_isStated_teamsOfPlayers :
    (∀ e ∈ teamsOfPlayers, e.IsValid) ∧ (teamsOfPlayers.map Entity.id).Nodup ∧
      (teamsOfPlayers.map Entity.name).Nodup ∧ (∀ e ∈ teamsOfPlayers, e.name ≠ "") ∧
      ∃ l ∈ links teamsOfPlayers, l.reference.isLinked = true ∧ ¬ l.IsStated teamsOfPlayers := by
  decide +kernel

/-- The same, and fans: teams have many fans, who may be fans of many teams. -/
def teamsOfFans : List Entity :=
  [{ id := ⟨"teams"⟩, name := "Teams"
     fields :=
      [{ id := ⟨"teams.player"⟩, name := "player_id", isForeign := true
         reference := some { target := ⟨"players"⟩, cardinality := .oneToMany } },
       { id := ⟨"teams.fan"⟩, name := "fan_id", isForeign := true
         reference := some { target := ⟨"players"⟩, cardinality := .manyToMany } }] },
   { id := ⟨"players"⟩, name := "Players"
     fields :=
      [{ id := ⟨"players.team"⟩, name := "team_id", isForeign := true
         reference := some { target := ⟨"teams"⟩, cardinality := .oneToMany } },
       { id := ⟨"players.favorite"⟩, name := "favorite_id", isForeign := true
         reference := some { target := ⟨"teams"⟩, cardinality := .manyToMany } }] }]

/-- Both fields of the players are left out.  That the fans have many teams is stated by the other
line, that the players have many teams is not. -/
theorem isStated_iff_teamsOfFans :
    (∀ l ∈ links teamsOfFans, l.IsStated teamsOfFans ↔ ¬ l.IsOverruled teamsOfFans) ∧
      (emissions (Table.showFrom 0 (teamsOfFans.map Entity.toTable))).map (·.label)
        = ["player_id", "fan_id"] ∧
      (links teamsOfFans).map (fun l => decide (l.IsStated teamsOfFans))
        = [true, true, false, true] := by
  refine ⟨fun l hl => ?_, by decide +kernel, by decide +kernel⟩
  exact (isStated_iff (by decide +kernel) (by decide +kernel) (by decide +kernel)
    (by decide +kernel) hl).1

end DiagramSync
