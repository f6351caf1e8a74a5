import Stackplz.Wire
import Mathlib.Tactic.Ring

/-!
# Reading the wire

What a reader of the 432 bytes finds at the offsets of `abi.h`, and what the checksum is good for.

* `leWord_leBytes` — a word read from its bytes is the word;
* `Event.slice_header` to `Event.slice_registers` — the bytes between two offsets are those of the
  group of fields that stands there;
* `crc32Ieee_burst` — the checksum changes with up to four bytes in a row.
-/

namespace Spz

open List
open BitVec hiding append_assoc getElem?_eq_getElem

/-! ## Words -/

/-- The number that bytes are, least significant first. -/
def leValue (bytes : List U8) : ℕ := bytes.foldr (fun b value => b.toNat + 256 * value) 0

def leWord (w : ℕ) (bytes : List U8) : BitVec w := BitVec.ofNat w (leValue bytes)

variable {w n : ℕ}

lemma leBytes_succ (n : ℕ) (v : BitVec w) :
    leBytes (n + 1) v = v.extractLsb' 0 8 :: leBytes n (v >>> 8) := by
  rw [leBytes, range_succ_eq_map, map_cons, map_map, leBytes]
  congr 1
  refine map_congr_left fun i _ => eq_of_toNat_eq ?_
  simp only [Function.comp_apply, extractLsb'_toNat, toNat_ushiftRight,
    ← Nat.shiftRight_add, Nat.mul_succ]
  rw [Nat.add_comm]

lemma leValue_leBytes (n : ℕ) (v : BitVec w) : leValue (leBytes n v) = v.toNat % 256 ^ n := by
  induction n generalizing v with
  | zero => rw [pow_zero, Nat.mod_one]; rfl
  | succ n ih =>
    have hcons : leValue (leBytes (n + 1) v) =
        (v.extractLsb' 0 8).toNat + 256 * leValue (leBytes n (v >>> 8)) := by
      rw [leBytes_succ]
      rfl
    rw [hcons, ih, extractLsb'_toNat, toNat_ushiftRight, Nat.shiftRight_zero,
      Nat.shiftRight_eq_div_pow, show 2 ^ 8 = 256 from rfl, pow_succ' 256, Nat.mod_mul]

lemma leWord_leBytes (h : w = 8 * n) (v : BitVec w) : leWord w (leBytes n v) = v := by
  have hlt := v.isLt
  refine eq_of_toNat_eq ?_
  have hpow : 2 ^ w = 256 ^ n := by
    rw [h, pow_mul]
    rfl
  rw [leWord, toNat_ofNat, leValue_leBytes, ← hpow, Nat.mod_mod, Nat.mod_eq_of_lt hlt]

lemma leValue_lt (bytes : List U8) : leValue bytes < 256 ^ bytes.length := by
  induction bytes with
  | nil => simp [leValue]
  | cons b bytes ih =>
    have hb := b.isLt
    show b.toNat + 256 * leValue bytes < 256 ^ (bytes.length + 1)
    rw [pow_succ']
    omega

lemma leValue_inj : ∀ {xs ys : List U8}, xs.length = ys.length → leValue xs = leValue ys → xs = ys
  | [], [], _, _ => rfl
  | [], _ :: _, h, _ => by simp at h
  | _ :: _, [], h, _ => by simp at h
  | x :: xs, y :: ys, hlen, h => by
    have hx := x.isLt
    have hy := y.isLt
    replace h : x.toNat + 256 * leValue xs = y.toNat + 256 * leValue ys := h
    obtain rfl := eq_of_toNat_eq (show x.toNat = y.toNat by omega)
    rw [leValue_inj (Nat.succ.inj hlen) (by omega)]

lemma leWord_inj (h : w = 8 * n) {xs ys : List U8} (hxs : xs.length = n)
    (hys : ys.length = n) (heq : leWord w xs = leWord w ys) : xs = ys := by
  have hpow : 2 ^ w = 256 ^ n := by
    rw [h, pow_mul]
    rfl
  have hx := leValue_lt xs
  have hy := leValue_lt ys
  rw [hxs, ← hpow] at hx
  rw [hys, ← hpow] at hy
  refine leValue_inj (hxs.trans hys.symm) ?_
  have := congrArg BitVec.toNat heq
  rwa [leWord, leWord, BitVec.toNat_ofNat, BitVec.toNat_ofNat, Nat.mod_eq_of_lt hx,
    Nat.mod_eq_of_lt hy] at this

/-! ## Slices -/

/-- `raw[low:high]`. -/
def slice (low high : ℕ) (raw : List U8) : List U8 := (raw.take high).drop low

section Slices

variable {low high : ℕ} {xs ys : List U8}

lemma slice_append_left (h : high ≤ xs.length) : slice low high (xs ++ ys) = slice low high xs := by
  rw [slice, slice, take_append_of_le_length h]

lemma slice_append_right (h : xs.length ≤ low) :
    slice low high (xs ++ ys) = slice (low - xs.length) (high - xs.length) ys := by
  rw [slice, slice, take_append, drop_append, length_take]
  by_cases hhigh : xs.length ≤ high
  · rw [take_of_length_le hhigh, drop_eq_nil_of_le h, nil_append, Nat.min_eq_right hhigh]
  · rw [drop_eq_nil_of_le (by rw [length_take]; omega), nil_append,
      show high - xs.length = 0 by omega, take_zero, drop_nil, drop_nil]

lemma slice_all (h : xs.length = high) : slice 0 high xs = xs := by
  rw [slice, take_of_length_le (Nat.le_of_eq h), drop_zero]

lemma slice_flatMap (vs : List U64) {i : ℕ} {v : U64} (h : vs[i]? = some v) :
    slice (8 * i) (8 * i + 8) (vs.flatMap (leBytes 8)) = leBytes 8 v := by
  induction vs generalizing i with
  | nil => simp at h
  | cons u vs ih =>
    rw [flatMap_cons]
    cases i with
    | zero =>
      cases h
      rw [Nat.mul_zero, Nat.zero_add, slice_append_left (by simp), slice_all (by simp)]
    | succ i =>
      rw [slice_append_right (by rw [leBytes_length]; omega), leBytes_length,
        ← ih (by simpa using h)]
      congr 1

end Slices

namespace Event

variable {low high : ℕ} (e : Event)

lemma slice_header (h : high ≤ 40) : slice low high e.wire = slice low high e.wireHeader := by
  have hlen := e.wireHeader_length
  rw [wire, wireHead, append_assoc, append_assoc, append_assoc, append_assoc,
    slice_append_left (by omega)]

lemma slice_task (hlow : 40 ≤ low) (hhigh : high ≤ 104) :
    slice low high e.wire = slice (low - 40) (high - 40) e.wireTask := by
  have hheader := e.wireHeader_length
  have htask := e.wireTask_length
  rw [wire, wireHead, append_assoc, append_assoc, append_assoc, append_assoc,
    slice_append_right (by omega), slice_append_left (by omega), hheader]

lemma slice_slot (hlow : 104 ≤ low) (hhigh : high ≤ 152) :
    slice low high e.wire = slice (low - 104) (high - 104) e.wireSlot := by
  have hheader := e.wireHeader_length
  have htask := e.wireTask_length
  have hslot := e.wireSlot_length
  rw [wire, wireHead, append_assoc, append_assoc, append_assoc,
    slice_append_right (by rw [length_append]; omega), length_append, hheader, htask,
    slice_append_left (by omega)]

lemma slice_registers (hlow : 152 ≤ low) (hhigh : high ≤ 424) :
    slice low high e.wire = slice (low - 152) (high - 152) e.wireRegisters := by
  have hheader := e.wireHeader_length
  have htask := e.wireTask_length
  have hslot := e.wireSlot_length
  have hregisters := e.wireRegisters_length
  rw [wire, wireHead, append_assoc, append_assoc,
    slice_append_right (by rw [length_append, length_append]; omega),
    length_append, length_append, hheader, htask, hslot, slice_append_left (by omega)]

lemma slice_head : slice 0 428 e.wire = e.wireHead := by
  rw [wire, slice_append_left (Nat.le_of_eq e.wireHead_length.symm), slice_all e.wireHead_length]

lemma slice_crc : slice 428 432 e.wire = leBytes 4 e.crc32 := by
  have hhead := e.wireHead_length
  rw [wire, slice_append_right (by omega), hhead, slice_all (leBytes_length _ _)]

end Event

/-! ## The checksum -/

lemma crc32Bit_eq (c : U32) :
    crc32Bit c = if c.getLsbD 0 then (c >>> 1) ^^^ 0xedb88320#32 else c >>> 1 := by
  have hlow : c &&& 1#32 = setWidth 32 (ofBool (c.getLsbD 0)) := and_one_eq_setWidth_ofBool_getLsbD
  unfold crc32Bit
  rw [hlow]
  cases c.getLsbD 0 with
  | false =>
    rw [show 0xedb88320#32 &&& -(setWidth 32 (ofBool false)) = 0#32 by decide, xor_zero]
    rfl
  | true =>
    rw [show 0xedb88320#32 &&& -(setWidth 32 (ofBool true)) = 0xedb88320#32 by
      decide]
    rfl

/-- A step loses nothing: the top bit of the result tells the bit that was shifted out. -/
lemma crc32Bit_injective : Function.Injective crc32Bit := by
  have htop : ∀ c : U32, (c >>> 1).getLsbD 31 = false := by
    intro c
    simp
  have hpoly : ∀ c : U32, ((c >>> 1) ^^^ 0xedb88320#32).getLsbD 31 = true := by
    intro c
    rw [getLsbD_xor, htop]
    rfl
  have hshift : ∀ a b : U32, a.getLsbD 0 = b.getLsbD 0 → a >>> 1 = b >>> 1 → a = b := by
    intro a b hbit hrest
    refine eq_of_getLsbD_eq fun i hi => ?_
    cases i with
    | zero => exact hbit
    | succ i =>
      have := congrArg (fun c : U32 => c.getLsbD i) hrest
      simpa [getLsbD_ushiftRight, Nat.add_comm] using this
  intro a b h
  rw [crc32Bit_eq, crc32Bit_eq] at h
  cases ha : a.getLsbD 0 <;> cases hb : b.getLsbD 0 <;>
    rw [ha, hb] at h <;> simp only [if_true, Bool.false_eq_true, if_false] at h
  · exact hshift a b (ha.trans hb.symm) h
  · have := congrArg (fun c : U32 => c.getLsbD 31) h
    simp only [htop, hpoly, Bool.false_eq_true] at this
  · have := congrArg (fun c : U32 => c.getLsbD 31) h
    simp only [htop, hpoly, Bool.true_eq_false] at this
  · exact hshift a b (ha.trans hb.symm) (xor_left_inj _ |>.mp h)

lemma crc32Byte_injective (byte : U8) : Function.Injective fun crc => crc32Byte crc byte := by
  intro a b h
  exact xor_left_inj _ |>.mp (crc32Bit_injective.iterate 8 h)

lemma foldl_crc32Byte_injective (bytes : List U8) :
    Function.Injective fun crc => bytes.foldl crc32Byte crc := by
  induction bytes with
  | nil => exact fun _ _ h => h
  | cons b bytes ih => exact fun _ _ h => crc32Byte_injective b (ih h)

lemma crc32Bit_xor (a b : U32) : crc32Bit (a ^^^ b) = crc32Bit a ^^^ crc32Bit b := by
  rw [crc32Bit_eq, crc32Bit_eq, crc32Bit_eq, getLsbD_xor, ushiftRight_xor_distrib]
  refine eq_of_getLsbD_eq fun i _ => ?_
  cases a.getLsbD 0 <;> cases b.getLsbD 0 <;> simp
  all_goals grind

lemma iterate_crc32Bit_xor (n : ℕ) (a b : U32) :
    crc32Bit^[n] (a ^^^ b) = crc32Bit^[n] a ^^^ crc32Bit^[n] b := by
  induction n generalizing a b with
  | zero => rfl
  | succ n ih => rw [Function.iterate_succ_apply, crc32Bit_xor, ih]; rfl

lemma iterate_crc32Bit_shiftLeft {x : U32} (h : x.toNat < 2 ^ 24) {n : ℕ} (hn : n ≤ 8) :
    crc32Bit^[n] (x <<< n) = x := by
  induction n with
  | zero => simp
  | succ n ih =>
    have hlt : x.toNat * 2 ^ n < 2 ^ 24 * 2 ^ 7 :=
      Nat.mul_lt_mul_of_lt_of_le h (Nat.pow_le_pow_right (by decide) (by omega)) (by decide)
    have hstep : crc32Bit (x <<< (n + 1)) = x <<< n := by
      rw [shiftLeft_add, crc32Bit_eq, if_neg (by simp)]
      refine eq_of_toNat_eq ?_
      simp only [toNat_ushiftRight, toNat_shiftLeft, Nat.shiftLeft_eq, Nat.shiftRight_eq_div_pow]
      omega
    rw [Function.iterate_succ_apply, hstep, ih (by omega)]

lemma leWord_cons (byte : U8) (bytes : List U8) :
    leWord 32 (byte :: bytes) = byte.setWidth 32 ^^^ leWord 32 bytes <<< 8 := by
  have hvalue : leValue (byte :: bytes) = 2 ^ 8 * leValue bytes + byte.toNat := Nat.add_comm ..
  refine eq_of_getLsbD_eq fun i hi => ?_
  simp only [leWord, getLsbD_xor, getLsbD_setWidth, getLsbD_shiftLeft,
    getLsbD_ofNat, hvalue, Nat.testBit_two_pow_mul_add _ byte.isLt, testBit_toNat, hi]
  by_cases hlow : i < 8
  · simp [hlow]
  · simp [hlow, BitVec.getLsbD_of_ge byte i (by omega), (by omega : i - 8 < 32)]

lemma toNat_leWord {bytes : List U8} {n : ℕ} (h : bytes.length ≤ n) (hn : n ≤ 4) :
    (leWord 32 bytes).toNat = leValue bytes ∧ leValue bytes < 2 ^ (8 * n) := by
  have hlt : leValue bytes < 2 ^ (8 * n) := by
    rw [pow_mul]
    exact Nat.lt_of_lt_of_le (leValue_lt bytes) (Nat.pow_le_pow_right (by decide) h)
  refine ⟨Nat.mod_eq_of_lt (Nat.lt_of_lt_of_le hlt ?_), hlt⟩
  exact Nat.pow_le_pow_right (by decide) (by omega)

lemma foldl_crc32Byte_eq {bytes : List U8} (h : bytes.length ≤ 4) (crc : U32) :
    bytes.foldl crc32Byte crc = crc32Bit^[8 * bytes.length] (crc ^^^ leWord 32 bytes) := by
  induction bytes generalizing crc with
  | nil => simp [leWord, leValue]
  | cons byte bytes ih =>
    rw [length_cons] at h
    have hword := toNat_leWord (Nat.le_of_succ_le_succ h) (by decide)
    rw [foldl_cons, ih (by omega), crc32Byte, length_cons, Nat.mul_succ,
      Function.iterate_add_apply, leWord_cons, ← xor_assoc, iterate_crc32Bit_xor 8 (_ ^^^ _),
      iterate_crc32Bit_shiftLeft (hword.1 ▸ hword.2) le_rfl]

lemma crc32Ieee_burst {before burst burst' after : List U8} (hlen : burst.length = burst'.length)
    (hle : burst.length ≤ 4)
    (h : crc32Ieee (before ++ burst ++ after) = crc32Ieee (before ++ burst' ++ after)) :
    burst = burst' := by
  simp only [crc32Ieee, BitVec.not_inj, foldl_append] at h
  have hle' : burst'.length ≤ 4 := hlen ▸ hle
  have hburst := foldl_crc32Byte_injective after h
  rw [foldl_crc32Byte_eq hle, foldl_crc32Byte_eq hle', hlen] at hburst
  have hword := xor_right_inj _ |>.mp (crc32Bit_injective.iterate _ hburst)
  refine leValue_inj hlen ?_
  rw [← (toNat_leWord hle le_rfl).1, ← (toNat_leWord hle' le_rfl).1, hword]

/-- In particular with any single byte. -/
theorem crc32Ieee_set {bytes : List U8} {i : ℕ} (hi : i < bytes.length) {b : U8}
    (hb : bytes[i]? ≠ some b) : crc32Ieee (bytes.set i b) ≠ crc32Ieee bytes := by
  intro h
  have hsplit : bytes = bytes.take i ++ [bytes[i]] ++ bytes.drop (i + 1) := by simp
  have hset : bytes.set i b = bytes.take i ++ [b] ++ bytes.drop (i + 1) := by
    simp [set_eq_take_append_cons_drop, hi]
  rw [hset] at h
  conv_rhs at h => rw [hsplit]
  have hsame : [b] = [bytes[i]] := crc32Ieee_burst rfl (Nat.le_add_left 1 3) h
  exact hb (by rw [getElem?_eq_getElem hi, singleton_inj.mp hsame])

end Spz
