import Mathlib.Tactic.Common

/-!
# Circular buffers

`n` slots used in turn: a buffer holds the list `xs` from `start` on if the `i`-th element of `xs`
stands in slot `(start + i) % n` and every other slot is vacant.  What vacant means is up to the
user; a vacant slot may hold anything else, so a slot can be filled step by step before it counts.
-/

namespace Circular

open Function

variable {α : Type*}

/-- The buffer `slots` of `n` slots holds `xs` from `start` on. -/
structure Holds (n : ℕ) (Vacant : α → Prop) (slots : ℕ → α) (start : ℕ) (xs : List α) : Prop where
  length_le : xs.length ≤ n
  slot : ∀ (i : ℕ) (x : α), xs[i]? = some x → slots ((start + i) % n) = x
  vacant : ∀ j < n, (∀ i < xs.length, (start + i) % n ≠ j) → Vacant (slots j)

lemma index_injective {n start i j : ℕ} (hi : i < n) (hj : j < n)
    (h : (start + i) % n = (start + j) % n) : i = j := by
  wlog hle : i ≤ j generalizing i j
  · exact (this hj hi h.symm (by omega)).symm
  have hdvd : n ∣ (start + j) - (start + i) :=
    Nat.dvd_of_mod_eq_zero (Nat.sub_mod_eq_zero_of_mod_eq h.symm)
  have hzero := Nat.eq_zero_of_dvd_of_lt hdvd (by omega)
  omega

lemma index_ne {n start i k : ℕ} (hi : i < k) (hk : k < n) : (start + i) % n ≠ (start + k) % n :=
  fun heq => (Nat.ne_of_lt hi) (index_injective (by omega) hk heq)

namespace Holds

variable {n start : ℕ} {Vacant : α → Prop} {slots : ℕ → α} {xs : List α} {x y : α}

lemma nil (h : ∀ j < n, Vacant (slots j)) (start : ℕ) : Holds n Vacant slots start [] :=
  ⟨Nat.zero_le n, fun i x hx => by simp at hx, fun j hj _ => h j hj⟩

lemma free (h : Holds n Vacant slots start xs) (hroom : xs.length < n) :
    Vacant (slots ((start + xs.length) % n)) := by
  exact h.vacant _ (Nat.mod_lt _ (by omega)) fun i hi => index_ne hi hroom

lemma first (h : Holds n Vacant slots start (x :: xs)) : slots (start % n) = x :=
  h.slot 0 x rfl

lemma push (h : Holds n Vacant slots start xs) (hroom : xs.length < n) (x : α) :
    Holds n Vacant (update slots ((start + xs.length) % n) x) start (xs ++ [x]) := by
  refine ⟨by rw [List.length_append]; exact hroom, fun i z hz => ?_, fun j hj hfree => ?_⟩
  · rcases Nat.lt_trichotomy i xs.length with hlt | rfl | hgt
    · rw [List.getElem?_append_left hlt] at hz
      rw [update_of_ne (index_ne hlt hroom)]
      exact h.slot i z hz
    · rw [List.getElem?_append_right (Nat.le_refl _)] at hz
      simpa using hz
    · rw [List.getElem?_eq_none (by rw [List.length_append]; exact hgt)] at hz
      cases hz
  · have hne : j ≠ (start + xs.length) % n := fun heq =>
      hfree xs.length (by simp) heq.symm
    rw [update_of_ne hne]
    exact h.vacant j hj fun i hi => hfree i (by simp; omega)

/-- Removing the first element: its slot becomes vacant. -/
lemma pop (h : Holds n Vacant slots start (x :: xs)) (hy : Vacant y) :
    Holds n Vacant (update slots (start % n) y) (start + 1) xs := by
  have hlen : xs.length + 1 ≤ n := by simpa using h.length_le
  refine ⟨by omega, fun i z hz => ?_, fun j hj hfree => ?_⟩
  · have hi : i < xs.length := (List.getElem?_eq_some_iff.mp hz).1
    have hne : (start + 1 + i) % n ≠ start % n := fun heq => by
      rw [Nat.add_assoc] at heq
      exact index_ne (n := n) (show 0 < 1 + i by omega) (by omega) heq.symm
    rw [update_of_ne hne, Nat.add_assoc, Nat.add_comm 1 i]
    exact h.slot (i + 1) z hz
  · by_cases heq : j = start % n
    · rw [heq, update_self]
      exact hy
    · rw [update_of_ne heq]
      refine h.vacant j hj fun i hi => ?_
      cases i with
      | zero => exact fun h0 => heq h0.symm
      | succ i =>
        have := hfree i (by simpa using hi)
        rwa [Nat.add_assoc, Nat.add_comm 1 i] at this

lemma update_vacant (h : Holds n Vacant slots start xs) {j : ℕ}
    (hj : ∀ i < xs.length, (start + i) % n ≠ j) (hy : Vacant y) :
    Holds n Vacant (update slots j y) start xs := by
  refine ⟨h.length_le, fun i z hz => ?_, fun k hk hfree => ?_⟩
  · rw [update_of_ne (hj i (List.getElem?_eq_some_iff.mp hz).1)]
    exact h.slot i z hz
  · by_cases heq : k = j
    · rw [heq, update_self]
      exact hy
    · rw [update_of_ne heq]
      exact h.vacant k hk hfree

end Holds

end Circular
