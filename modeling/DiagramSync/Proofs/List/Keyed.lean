import Mathlib.Data.List.Induction
import Mathlib.Data.List.Nodup

/-!
# Lists whose items have distinct keys

Entities are told apart by their ids and by their names, fields by their ids and by their names
without regard to case.  Each time the items of a list have distinct keys, and looking for a key
finds the one item that has it.

* `find?_key_eq_some` — what is found under a key
* `find?_key_eq_none` — when nothing is
* `find?_key_reverse` — it does not matter from which end one looks
* `findIdx?_key` — the position of what is found
* `withBefore`, `firsts`, `repeats` — the items of a list whose keys are new, and the others
* `mem_map_firsts` — every key is that of an item that is first
* `nodup_eraseDups` — without duplicates the items are distinct
-/

namespace DiagramSync

variable {α κ : Type} [DecidableEq κ] {key : α → κ} {xs : List α}

/-- Under a key of a list with distinct keys exactly the item that has it is found. -/
lemma find?_key_eq_some (h : (xs.map key).Nodup) {k : κ} {x : α} :
    xs.find? (fun y => key y == k) = some x ↔ x ∈ xs ∧ key x = k := by
  constructor
  · intro hfind
    refine ⟨List.mem_of_find?_eq_some hfind, ?_⟩
    have hkey := List.find?_some hfind
    exact beq_iff_eq.mp hkey
  · rintro ⟨hx, rfl⟩
    cases hfind : xs.find? fun y => key y == key x with
    | none => exact absurd (beq_self_eq_true (key x)) (List.find?_eq_none.mp hfind x hx)
    | some y =>
      have hkey := List.find?_some hfind
      rw [List.inj_on_of_nodup_map h (List.mem_of_find?_eq_some hfind) hx (beq_iff_eq.mp hkey)]

/-- Nothing is found under a key that no item has. -/
lemma find?_key_eq_none {k : κ} :
    xs.find? (fun y => key y == k) = none ↔ k ∉ xs.map key := by
  rw [List.find?_eq_none]
  constructor
  · rintro h hk
    obtain ⟨x, hx, rfl⟩ := List.mem_map.mp hk
    exact h x hx (beq_self_eq_true (key x))
  · intro h x hx heq
    exact h (List.mem_map.mpr ⟨x, hx, beq_iff_eq.mp heq⟩)

/-- In a list with distinct keys it does not matter from which end a key is looked for. -/
lemma find?_key_reverse (h : (xs.map key).Nodup) (k : κ) :
    xs.reverse.find? (fun y => key y == k) = xs.find? fun y => key y == k := by
  have hreverse : (xs.reverse.map key).Nodup := by
    rw [List.map_reverse]
    exact List.nodup_reverse.mpr h
  cases hfind : xs.find? fun y => key y == k with
  | none => rw [find?_key_eq_none, List.map_reverse, List.mem_reverse, ← find?_key_eq_none, hfind]
  | some x =>
    rw [find?_key_eq_some hreverse, List.mem_reverse]
    exact (find?_key_eq_some h).mp hfind

/-- The position at which a key is found is that of the item that has it. -/
lemma findIdx?_key {pre post : List α} {x : α} (h : ((pre ++ x :: post).map key).Nodup) :
    (pre ++ x :: post).findIdx? (fun y => key y == key x) = some pre.length := by
  have hpre : pre.findIdx? (fun y => key y == key x) = none := by
    rw [List.findIdx?_eq_none_iff]
    intro y hy
    rw [List.map_append, List.map_cons, List.nodup_append] at h
    exact beq_false_of_ne (h.2.2 _ (List.mem_map.mpr ⟨y, hy, rfl⟩) _ List.mem_cons_self)
  rw [List.findIdx?_append, hpre, List.findIdx?_cons, beq_self_eq_true, if_pos rfl]
  simp

/-! ## Keys that are new -/

/-- The items, each with those before it. -/
def withBefore (xs : List α) : List (List α × α) :=
  xs.mapIdx fun i x => (xs.take i, x)

/-- The items whose key no item before them has. -/
def firsts (key : α → κ) (xs : List α) : List α :=
  (withBefore xs).filterMap fun p => if key p.2 ∈ p.1.map key then none else some p.2

/-- The items whose key an item before them has. -/
def repeats (key : α → κ) (xs : List α) : List α :=
  (withBefore xs).filterMap fun p => if key p.2 ∈ p.1.map key then some p.2 else none

omit [DecidableEq κ] in
lemma withBefore_concat (xs : List α) (x : α) :
    withBefore (xs ++ [x]) = withBefore xs ++ [(xs, x)] := by
  rw [withBefore, List.mapIdx_concat, List.take_left]
  refine congrArg (· ++ [(xs, x)]) (List.ext_getElem? fun i => ?_)
  rw [List.getElem?_mapIdx, withBefore, List.getElem?_mapIdx]
  cases hi : xs[i]? with
  | none => rfl
  | some y =>
    have hlt : i < xs.length := (List.getElem?_eq_some_iff.mp hi).1
    rw [List.take_append_of_le_length (Nat.le_of_lt hlt)]

omit [DecidableEq κ] in
/-- What one item more is mapped to comes at the end. -/
lemma filterMap_concat {β : Type} (f : α → Option β) (xs : List α) (x : α) :
    (xs ++ [x]).filterMap f = xs.filterMap f ++ (f x).toList := by
  rw [List.filterMap_append, List.filterMap_cons]
  cases f x <;> rfl

lemma firsts_concat (key : α → κ) (xs : List α) (x : α) :
    firsts key (xs ++ [x]) = firsts key xs ++ if key x ∈ xs.map key then [] else [x] := by
  rw [firsts, withBefore_concat, filterMap_concat, ← firsts]
  split_ifs <;> rfl

lemma repeats_concat (key : α → κ) (xs : List α) (x : α) :
    repeats key (xs ++ [x]) = repeats key xs ++ if key x ∈ xs.map key then [x] else [] := by
  rw [repeats, withBefore_concat, filterMap_concat, ← repeats]
  split_ifs <;> rfl

/-- Every key is that of an item that is first. -/
lemma mem_map_firsts {k : κ} : k ∈ (firsts key xs).map key ↔ k ∈ xs.map key := by
  induction xs using List.reverseRecOn with
  | nil => rfl
  | append_singleton xs x ih =>
    rw [firsts_concat, List.map_append, List.map_append, List.mem_append, List.mem_append, ih]
    split_ifs with hx
    · constructor
      · rintro (hk | hk)
        · exact Or.inl hk
        · exact absurd hk List.not_mem_nil
      · rintro (hk | hk)
        · exact Or.inl hk
        · exact Or.inl (List.mem_singleton.mp hk ▸ hx)
    · rfl

/-- One item more is new or a duplicate. -/
lemma eraseDups_concat (xs : List κ) (x : κ) :
    (xs ++ [x]).eraseDups = xs.eraseDups ++ if x ∈ xs then [] else [x] := by
  rw [List.eraseDups_append, List.removeAll]
  by_cases hx : x ∈ xs
  · simp [hx]
  · simp [hx, List.eraseDups_cons]

/-- Without duplicates the items are distinct. -/
lemma nodup_eraseDups (xs : List κ) : xs.eraseDups.Nodup := by
  induction xs using List.reverseRecOn with
  | nil => exact List.nodup_nil
  | append_singleton xs x ih =>
    rw [eraseDups_concat]
    split_ifs with hx
    · rwa [List.append_nil]
    · refine List.nodup_append.mpr ⟨ih, List.nodup_singleton x, ?_⟩
      rintro y hy z hz rfl
      rw [List.mem_eraseDups, List.mem_singleton.mp hz] at hy
      exact hx hy

end DiagramSync
