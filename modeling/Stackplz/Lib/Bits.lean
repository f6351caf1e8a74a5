import Mathlib.Algebra.Group.Nat.Defs
import Mathlib.Tactic.Common

/-!
# Single-bit flags of a machine word

A register is changed one flag at a time: `x ||| m` sets the flag `m` and `x &&& ~~~m` clears it.
Code that sets a flag only to remove it later has to remember whether it was set before; the two
facts behind that are `IsFlag.or_eq_self` (setting a flag that is set changes nothing) and
`or_and_not_self` (setting and clearing a flag that was clear changes nothing).
-/

namespace Bits

open BitVec

variable {w : ℕ} {m x y : BitVec w}

/-- The word has exactly one bit: every conjunction with it is 0 or the word itself. -/
structure IsFlag (m : BitVec w) : Prop where
  ne_zero : m ≠ 0
  and_cases : ∀ x, x &&& m = 0 ∨ x &&& m = m

lemma isFlag_shiftLeft {i : ℕ} (hi : i < w) : IsFlag (1#w <<< i) where
  ne_zero h := by
    have := congrArg (BitVec.getLsbD · i) h
    simp [hi] at this
  and_cases x := by
    rw [← twoPow_eq, and_twoPow]
    split
    · exact .inr rfl
    · exact .inl rfl

lemma IsFlag.and_eq_of_ne (hm : IsFlag m) (h : x &&& m ≠ 0) : x &&& m = m :=
  (hm.and_cases x).resolve_left h

lemma IsFlag.or_eq_self (hm : IsFlag m) (h : x &&& m ≠ 0) : x ||| m = x := by
  rw [← hm.and_eq_of_ne h]
  ext i hi
  simp only [getElem_or, getElem_and]
  cases x[i] <;> rfl

lemma and_not_and_self : x &&& ~~~m &&& m = 0 := by
  ext i hi
  simp

lemma or_and_not_self (h : x &&& m = 0) : (x ||| m) &&& ~~~m = x := by
  have hbit : ∀ i, x.getLsbD i = true → m.getLsbD i = false := fun i hx => by
    have := congrArg (BitVec.getLsbD · i) h
    simpa [hx] using this
  ext i hi
  have := hbit i
  simp only [BitVec.getLsbD_eq_getElem hi] at this
  simp only [BitVec.getElem_and, BitVec.getElem_or, BitVec.getElem_not]
  grind

lemma and_and_eq_zero (h : x &&& m = 0) : x &&& y &&& m = 0 := by
  rw [BitVec.and_assoc, BitVec.and_comm y, ← BitVec.and_assoc, h]
  simp

lemma or_and_of_disjoint {m' : BitVec w} (h : m' &&& m = 0) : (x ||| m') &&& m = x &&& m := by
  have hbit : ∀ i, (m' &&& m).getLsbD i = false := fun i => by rw [h]; simp
  ext i hi
  have := hbit i
  simp only [BitVec.getLsbD_eq_getElem hi, BitVec.getElem_and] at this
  simp only [getElem_and, getElem_or]
  grind

/-! ## Low masks -/

lemma toNat_and_lowMask (x : BitVec w) {k : ℕ} (hk : k ≤ w) :
    (x &&& BitVec.ofNat w (2 ^ k - 1)).toNat = x.toNat % 2 ^ k := by
  have hlt : 2 ^ k - 1 < 2 ^ w :=
    Nat.sub_one_lt_of_le (Nat.two_pow_pos k) (Nat.pow_le_pow_right (by decide) hk)
  rw [toNat_and, toNat_ofNat, Nat.mod_eq_of_lt hlt, Nat.and_two_pow_sub_one_eq_mod]

lemma toNat_and_not_lowMask (x : BitVec w) (k : ℕ) :
    (x &&& ~~~BitVec.ofNat w (2 ^ k - 1)).toNat = x.toNat / 2 ^ k * 2 ^ k := by
  have h : x &&& ~~~BitVec.ofNat w (2 ^ k - 1) = (x >>> k) <<< k := by
    apply eq_of_getLsbD_eq
    intro i hi
    have hmask : (BitVec.ofNat w (2 ^ k - 1)).getLsbD i = decide (i < k) := by
      rw [getLsbD_ofNat, decide_eq_true hi, Bool.true_and]
      exact Nat.testBit_two_pow_sub_one k i
    rw [getLsbD_and, getLsbD_not, hmask]
    by_cases hik : i < k
    · simp [hik]
    · simp [hik, hi, show k + (i - k) = i by omega]
  rw [h, toNat_shiftLeft, toNat_ushiftRight, Nat.shiftLeft_eq, Nat.shiftRight_eq_div_pow]
  exact Nat.mod_eq_of_lt (Nat.lt_of_le_of_lt (Nat.div_mul_le_self _ _) x.isLt)

end Bits
