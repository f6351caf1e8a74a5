import Mathlib.Tactic.Common

/-!
# Occurrences of a pattern

Where a pattern stands in a text, over any alphabet: its first position (`index`) and the positions
that a scan from left to right finds when it goes on behind each occurrence (`occurrences`).
-/

namespace Occurrences

variable {α : Type*} [BEq α]

/-- The first position at which the pattern stands. -/
def index (pattern : List α) : List α → Option ℕ
  | [] => if pattern.isEmpty then some 0 else none
  | b :: text =>
    if pattern.isPrefixOf (b :: text) then some 0 else (index pattern text).map (· + 1)

/-- The positions found from `pos` on, after `skip` more letters of an occurrence. -/
def scan (pattern : List α) : (skip pos : ℕ) → List α → List ℕ
  | _, _, [] => []
  | skip + 1, pos, _ :: text => scan pattern skip (pos + 1) text
  | 0, pos, b :: text =>
    if pattern.isPrefixOf (b :: text) then pos :: scan pattern (pattern.length - 1) (pos + 1) text
    else scan pattern 0 (pos + 1) text

/-- All occurrences of a pattern that do not overlap, from left to right. -/
def occurrences (pattern text : List α) : List ℕ := scan pattern 0 0 text

variable {pattern text : List α} {k : ℕ}

lemma index_le (h : index pattern text = some k) : k ≤ text.length := by
  induction text generalizing k with
  | nil =>
    simp only [index, Option.ite_none_right_eq_some] at h
    exact Nat.le_of_eq (Option.some.inj h.2).symm
  | cons b text ih =>
    rw [index] at h
    split at h
    · simp [← Option.some.inj h]
    · obtain ⟨j, hj, rfl⟩ := Option.map_eq_some_iff.mp h
      simpa using ih hj

lemma index_drop (h : index pattern text = some k) : index pattern (text.drop k) = some 0 := by
  induction text generalizing k with
  | nil => simp_all [index]
  | cons b text ih =>
    have hindex := h
    rw [index] at h
    split at h
    · cases h
      exact hindex
    · obtain ⟨j, hj, rfl⟩ := Option.map_eq_some_iff.mp h
      exact ih hj

lemma head?_scan (hpattern : pattern ≠ []) (pos : ℕ) (text : List α) :
    (scan pattern 0 pos text).head? = (index pattern text).map (pos + ·) := by
  induction text generalizing pos with
  | nil => simp [scan, index, hpattern]
  | cons b text ih =>
    rw [scan, index]
    split
    · rfl
    · rw [ih, Option.map_map]
      congr 1
      funext j
      exact Nat.add_right_comm pos 1 j

/-- The first occurrence is at the first position. -/
theorem head?_occurrences (hpattern : pattern ≠ []) (text : List α) :
    (occurrences pattern text).head? = index pattern text := by
  rw [occurrences, head?_scan hpattern]
  simp

end Occurrences
