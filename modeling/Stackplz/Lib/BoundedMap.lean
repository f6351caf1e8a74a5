import Mathlib.Data.List.AList

/-!
# Maps with a bound on their entries

`BoundedMap κ ν capacity` is a finite map that never has more than `capacity` entries: the bound is
a field.  Updating a key that is there always works, a new key needs a free entry.  `put` is the
update of a caller who does not look at the result; what it can do to the values is
`lookup_put_cases`, and with room for the key `lookup_put`.  `exists_updates` is for a map that is
filled before it is used.
-/

structure BoundedMap (κ ν : Type*) (capacity : ℕ) where
  entries : AList fun _ : κ => ν
  bound : entries.keys.length ≤ capacity

namespace BoundedMap

open AList

open List

variable {κ ν : Type*} {capacity : ℕ}

def empty : BoundedMap κ ν capacity := ⟨∅, Nat.zero_le _⟩

def Room (map : BoundedMap κ ν capacity) : Prop := map.entries.keys.length < capacity
deriving Decidable

variable [DecidableEq κ] {map map' : BoundedMap κ ν capacity} {k k' : κ} {v : ν}

def lookup (map : BoundedMap κ ν capacity) (k : κ) : Option ν := map.entries.lookup k

/-! ## The operations -/

lemma length_insert_le (h : k ∈ map.entries ∨ map.Room) :
    (map.entries.insert k v).keys.length ≤ capacity := by
  rw [keys_insert, length_cons]
  rcases h with hmem | hroom
  · rw [length_erase_of_mem (mem_keys.mp hmem)]
    have hpos := length_pos_of_mem (mem_keys.mp hmem)
    have hbound := map.bound
    omega
  · exact Nat.succ_le_of_lt (lt_of_le_of_lt (erase_sublist).length_le hroom)

section

variable (map k)

def update (v : ν) : Option (BoundedMap κ ν capacity) :=
  if h : k ∈ map.entries ∨ map.Room then some ⟨map.entries.insert k v, length_insert_le h⟩ else none

/-- An update whose result is ignored. -/
def put (v : ν) : BoundedMap κ ν capacity :=
  (map.update k v).getD map

def delete : BoundedMap κ ν capacity where
  entries := map.entries.erase k
  bound := by
    rw [keys_erase]
    exact Nat.le_trans (erase_sublist).length_le map.bound

end

/-! ## What they do to the values -/

@[simp] lemma lookup_empty : (empty : BoundedMap κ ν capacity).lookup k = none :=
  AList.lookup_empty k

lemma lookup_update (h : map.update k v = some map') (k' : κ) :
    map'.lookup k' = if k' = k then some v else map.lookup k' := by
  unfold update at h
  split_ifs at h
  cases h
  unfold lookup
  split_ifs with hk
  · rw [hk, lookup_insert]
  · rw [lookup_insert_ne hk]

lemma lookup_put (h : (map.lookup k).isSome ∨ map.Room) (k' : κ) :
    (map.put k v).lookup k' = if k' = k then some v else map.lookup k' := by
  have hroom : k ∈ map.entries ∨ map.Room := h.imp_left lookup_isSome.mp
  exact lookup_update (by rw [put, update, dif_pos hroom]; rfl) k'

lemma lookup_put_cases (map : BoundedMap κ ν capacity) (k : κ) (v : ν) :
    (∀ k', (map.put k v).lookup k' = if k' = k then some v else map.lookup k') ∨
      map.lookup k = none ∧ map.put k v = map := by
  by_cases h : (map.lookup k).isSome ∨ map.Room
  · exact .inl (lookup_put h)
  · rw [not_or, Bool.not_eq_true, Option.isSome_eq_false_iff, Option.isNone_iff_eq_none] at h
    refine .inr ⟨h.1, ?_⟩
    have hfull : ¬ (k ∈ map.entries ∨ map.Room) := fun hor => hor.elim (lookup_eq_none.mp h.1) h.2
    rw [put, update, dif_neg hfull]
    rfl

lemma lookup_put_of_ne (h : k' ≠ k) : (map.put k v).lookup k' = map.lookup k' := by
  rcases map.lookup_put_cases k v with hput | ⟨-, hput⟩
  · rw [hput, if_neg h]
  · rw [hput]

lemma lookup_delete (map : BoundedMap κ ν capacity) (k k' : κ) :
    (map.delete k).lookup k' = if k' = k then none else map.lookup k' := by
  unfold lookup delete
  split_ifs with hk
  · rw [hk, lookup_erase]
  · rw [lookup_erase_ne hk]

lemma isSome_lookup_put (h : (map.lookup k').isSome) : ((map.put k v).lookup k').isSome := by
  rcases map.lookup_put_cases k v with hput | ⟨-, hput⟩
  · rw [hput]
    split_ifs
    · rfl
    · exact h
  · rwa [hput]

lemma length_keys_le {l : List κ} (h : ∀ k, (map.lookup k).isSome → k ∈ l) :
    map.entries.keys.length ≤ l.length := by
  refine (subperm_of_subset map.entries.keys_nodup ?_).length_le
  intro k hk
  exact h k (lookup_isSome.mpr (mem_keys.mpr hk))

/-! ## Several updates -/

/-- Updates one after the other, up to the first that fails. -/
def updates (map : BoundedMap κ ν capacity) (new : List (κ × ν)) :
    Option (BoundedMap κ ν capacity) :=
  new.foldlM (fun map entry => map.update entry.1 entry.2) map

/-- With room for all of them, updates under different keys all work and leave their values. -/
lemma exists_updates {new : List (κ × ν)} (hkeys : (new.map Prod.fst).Nodup)
    (hroom : map.entries.keys.length + new.length ≤ capacity) :
    ∃ map', map.updates new = some map' ∧ (∀ entry ∈ new, map'.lookup entry.1 = some entry.2) ∧
      ∀ k ∉ new.map Prod.fst, map'.lookup k = map.lookup k := by
  induction new generalizing map with
  | nil => exact ⟨map, rfl, by simp, fun _ _ => rfl⟩
  | cons entry new ih =>
    rw [map_cons, nodup_cons] at hkeys
    rw [length_cons] at hroom
    have hfree : entry.1 ∈ map.entries ∨ map.Room := .inr (by unfold Room; omega)
    obtain ⟨next, hnext⟩ : ∃ next, map.update entry.1 entry.2 = some next :=
      ⟨_, by rw [update, dif_pos hfree]⟩
    have hsize : next.entries.keys.length ≤ map.entries.keys.length + 1 := by
      rw [update, dif_pos hfree] at hnext
      cases hnext
      rw [keys_insert, length_cons]
      exact Nat.succ_le_succ (erase_sublist).length_le
    have hrest : next.entries.keys.length + new.length ≤ capacity := by omega
    obtain ⟨map', hmap', hnew, hold⟩ := ih hkeys.2 hrest
    refine ⟨map', ?_, ?_, ?_⟩
    · rw [updates, foldlM_cons, hnext]
      exact hmap'
    · intro e he
      rcases mem_cons.mp he with rfl | he
      · rw [hold _ hkeys.1, lookup_update hnext, if_pos rfl]
      · exact hnew e he
    · intro k hk
      rw [map_cons, mem_cons, not_or] at hk
      rw [hold k hk.2, lookup_update hnext, if_neg hk.1]

end BoundedMap
