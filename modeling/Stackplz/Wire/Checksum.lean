import Stackplz.Wire.Layout
import Mathlib.RingTheory.AdjoinRoot
import Mathlib.Algebra.CharP.Two
import Mathlib.Algebra.Field.ZMod

/-!
# The checksum as a remainder

`core/crc32.c` against the definition of CRC-32/IEEE: bits are coefficients over the field with two
elements, the low bit of a byte and of the register being the highest one, and the register is the
remainder of a division by the generator.  The steps of the loop are multiplications in the ring of
remainders (`residue_crc32Bit`).
-/

namespace Spz.Checksum

open Polynomial Finset AdjoinRoot

/-- The bits of a word, the low one the highest coefficient. -/
noncomputable def reflected {w : ℕ} (x : BitVec w) : (ZMod 2)[X] :=
  ∑ i ∈ range w, if x.getLsbD i then X ^ (w - 1 - i) else 0

/-- The generator that `0xedb88320` stands for. -/
noncomputable def generator : (ZMod 2)[X] := X ^ 32 + reflected 0xedb88320#32

/-- A message, its first byte with the highest coefficients. -/
noncomputable def message : List U8 → (ZMod 2)[X]
  | [] => 0
  | byte :: bytes => reflected byte * X ^ (8 * bytes.length) + message bytes

/-- CRC-32/IEEE: the message with 32 zero bits behind it and its first 32 bits complemented is
    divided by the generator, and the remainder is complemented. -/
noncomputable def crc32 (bytes : List U8) : (ZMod 2)[X] :=
  (message bytes * X ^ 32 + reflected (BitVec.allOnes 32) * X ^ (8 * bytes.length)) %ₘ generator +
    reflected (BitVec.allOnes 32)

/-! ## Words as polynomials -/

variable {w : ℕ}

lemma reflected_xor (x y : BitVec w) : reflected (x ^^^ y) = reflected x + reflected y := by
  rw [reflected, reflected, reflected, ← sum_add_distrib]
  refine sum_congr rfl fun i _ => ?_
  rw [BitVec.getLsbD_xor]
  cases x.getLsbD i <;> cases y.getLsbD i <;> simp [CharTwo.add_self_eq_zero]

lemma degree_reflected_lt (x : BitVec w) : (reflected x).degree < w := by
  rw [← mem_degreeLT]
  refine Submodule.sum_mem _ fun i hi => ?_
  have hlt := mem_range.mp hi
  split_ifs
  · rw [mem_degreeLT, degree_X_pow]
    exact_mod_cast (show w - 1 - i < w by omega)
  · exact Submodule.zero_mem _

lemma reflected_setWidth (byte : U8) : reflected (byte.setWidth 32) = reflected byte * X ^ 24 := by
  have hhigh : ∀ i ∈ range 24,
      (if (byte.setWidth 32).getLsbD (8 + i) then X ^ (32 - 1 - (8 + i)) else 0) =
      (0 : (ZMod 2)[X]) := by
    intro i _
    simp [BitVec.getLsbD_setWidth]
  rw [reflected, reflected, sum_mul, sum_range_add _ 8 24, sum_eq_zero hhigh, add_zero]
  refine sum_congr rfl fun i hi => ?_
  have hlt := mem_range.mp hi
  rw [BitVec.getLsbD_setWidth, ite_mul, zero_mul, ← pow_add]
  simp [show i < 32 by omega, show 7 - i + 24 = 31 - i by omega]

lemma X_mul_reflected (x : U32) :
    X * reflected x = reflected (x >>> 1) + if x.getLsbD 0 then X ^ 32 else 0 := by
  rw [reflected, reflected, mul_sum, sum_range_succ', sum_range_succ _ 31]
  have hrest : ∀ i ∈ range 31, X * (if x.getLsbD (i + 1) then X ^ (32 - 1 - (i + 1)) else 0) =
      if (x >>> 1).getLsbD i then (X : (ZMod 2)[X]) ^ (32 - 1 - i) else 0 := by
    intro i hi
    have hlt := mem_range.mp hi
    rw [mul_ite, mul_zero, ← pow_succ', BitVec.getLsbD_ushiftRight, Nat.add_comm 1]
    congr 2
    omega
  rw [sum_congr rfl hrest]
  simp [← pow_succ']

/-! ## The loops -/

/-- The class of a word modulo the generator. -/
noncomputable def residue (x : BitVec w) : AdjoinRoot generator :=
  AdjoinRoot.mk generator (reflected x)

lemma residue_crc32Bit (crc : U32) : residue (crc32Bit crc) = root generator * residue crc := by
  rw [residue, residue, ← mk_X, ← map_mul, X_mul_reflected, crc32Bit_eq]
  cases crc.getLsbD 0 with
  | false => simp
  | true =>
    rw [if_pos rfl, if_pos rfl, reflected_xor, mk_eq_mk]
    refine ⟨1, ?_⟩
    rw [generator, CharTwo.sub_eq_add]
    linear_combination CharTwo.add_self_eq_zero (reflected (crc >>> 1))

lemma residue_crc32Byte (crc : U32) (byte : U8) : residue (crc32Byte crc byte) =
    root generator ^ 8 * residue crc + root generator ^ 32 * residue byte := by
  have hiter : ∀ (n : ℕ) (c : U32),
      residue (crc32Bit^[n] c) = root generator ^ n * residue c := by
    intro n
    induction n with
    | zero => simp
    | succ n ih =>
      intro c
      rw [Function.iterate_succ_apply, ih, residue_crc32Bit]
      ring
  rw [crc32Byte, hiter, residue, reflected_xor, reflected_setWidth]
  simp only [map_add, map_mul, map_pow, mk_X, residue]
  ring

lemma residue_foldl (bytes : List U8) (crc : U32) : residue (bytes.foldl crc32Byte crc) =
    AdjoinRoot.mk generator (message bytes * X ^ 32 + reflected crc * X ^ (8 * bytes.length)) := by
  induction bytes generalizing crc with
  | nil => simp [message, residue]
  | cons byte bytes ih =>
    have hbyte := residue_crc32Byte crc byte
    simp only [residue] at hbyte
    rw [List.foldl_cons, ih, message, List.length_cons]
    simp only [map_add, map_mul, map_pow, mk_X, hbyte]
    ring

lemma reflected_crc32Ieee (bytes : List U8) : reflected (crc32Ieee bytes) = crc32 bytes := by
  have hmonic : generator.Monic := monic_X_pow_add (degree_reflected_lt _)
  have hdegree : ∀ x : U32, (reflected x).degree < generator.degree := by
    intro x
    rw [generator, degree_add_eq_left_of_degree_lt] <;> rw [degree_X_pow] <;>
      exact degree_reflected_lt _
  have hrem := congrArg (modByMonicHom hmonic) (residue_foldl bytes (BitVec.allOnes 32))
  rw [residue, modByMonicHom_mk, modByMonicHom_mk,
    (modByMonic_eq_self_iff hmonic).mpr (hdegree _)] at hrem
  rw [crc32Ieee, ← BitVec.xor_allOnes, reflected_xor, crc32, ← hrem]
  rfl

/-- The checksum is CRC-32/IEEE, so that no change of at most four bytes in a row escapes it. -/
theorem crc32Ieee_standard :
    (∀ bytes, reflected (crc32Ieee bytes) = crc32 bytes) ∧
    ∀ before burst burst' after, burst.length = burst'.length → burst.length ≤ 4 → burst ≠ burst' →
      crc32Ieee (before ++ burst ++ after) ≠ crc32Ieee (before ++ burst' ++ after) :=
  ⟨reflected_crc32Ieee, fun _ _ _ _ hlen hle hne h => hne (crc32Ieee_burst hlen hle h)⟩

theorem crc32Ieee_standard_digit : crc32Ieee [0x31, 0x32] ≠ crc32Ieee [0x31, 0x33] :=
  crc32Ieee_standard.2 [0x31] [0x32] [0x33] [] rfl (by decide) (by decide)

end Spz.Checksum
