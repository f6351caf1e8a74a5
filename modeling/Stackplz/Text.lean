import Stackplz.Abi
import Stackplz.Lib.Numerals

/-!
# Bounded text

`struct spz_text` and the functions of `control.c` that write to it.  A write that does not fit sets
`error`, and from then on nothing is written.

What a writer is for is said by `Appends`: it adds its bytes to the text, or the text fails with
`-ENOSPC` because they do not fit.  Writers that follow each other append their texts in turn
(`Appends.comp`), so of a whole answer only its text matters, not how it is cut into writes.
-/

namespace Spz

open Errno Numerals

/-- The bytes of a C or Go string literal. -/
def ascii (s : String) : List U8 := s.toList.map fun c => BitVec.ofNat 8 c.toNat

/-- `' '`. -/
def space : U8 := 0x20

/-- `'='`. -/
def equals : U8 := 0x3d

/-- `'-'`. -/
def minus : U8 := 0x2d

/-- A printable character that is not a space. -/
def Graphic (b : U8) : Prop := 0x20 < b.toNat ∧ b.toNat ≤ 0x7e
deriving Decidable

lemma graphic_digitByte {d : ℕ} (h : d < 16) : Graphic (digitByte d) := by
  have := digitByte_range h
  unfold Graphic
  omega

lemma Graphic.ne_space {b : U8} (h : Graphic b) : b ≠ space := by
  rintro rfl
  exact absurd h (by decide)

def signed (value : ℤ) : List U8 :=
  if value < 0 then minus :: numeral 10 value.natAbs else numeral 10 value.natAbs

/-! ## The writers -/

structure Text where
  capacity : ℕ
  data : List U8 := []
  error : Option Errno := none

namespace Text

section

variable (text : Text)

/-- `spz_text_bytes`. -/
def bytes (value : List U8) : Text :=
  if text.error.isSome then text
  else if value.length > text.capacity - text.data.length then { text with error := some ENOSPC }
  else { text with data := text.data ++ value }

/-- `spz_text_char`. -/
def char (value : U8) : Text := text.bytes [value]

/-- `spz_text_u64`: the digits are collected from the last on in a buffer of 32 and written from the
first on. -/
def u64 (value : U64) : Text :=
  ((reversedDigits 10 32 value.toNat).reverse.map digitByte).foldl char text

/-- `spz_text_i64`. -/
def i64 (value : ℤ) : Text :=
  if value < 0 then (text.char minus).u64 (BitVec.ofInt 64 (-(value + 1)) + 1)
  else text.u64 (BitVec.ofInt 64 value)

/-- The loop body of `spz_text_hex`. -/
def hexByte (b : U8) : Text :=
  text.bytes [digitByte (b >>> 4).toNat, digitByte (b &&& 0x0f).toNat]

/-- `spz_text_hex`. -/
def hex (value : List U8) : Text := value.foldl hexByte text

end

/-! ## What they write -/

/-- The writer appends the bytes, if they fit and nothing has failed before. -/
structure Appends (write : Text → Text) (value : List U8) : Prop where
  failed : ∀ text, text.error.isSome → write text = text
  fits : ∀ text, text.error = none → text.data.length + value.length ≤ text.capacity →
    write text = { text with data := text.data ++ value }
  full : ∀ text, text.error = none → text.data.length ≤ text.capacity →
    text.capacity < text.data.length + value.length → (write text).error = some ENOSPC

namespace Appends

variable {f g : Text → Text} {a b : List U8}

lemma bytes (value : List U8) : Appends (·.bytes value) value where
  failed text h := by rw [Text.bytes, if_pos h]
  fits text h hfits := by
    rw [Text.bytes, h, if_neg (by simp), if_neg (by omega)]
  full text h hle hfull := by
    rw [Text.bytes, h, if_neg (by simp), if_pos (by omega)]

lemma char (value : U8) : Appends (·.char value) [value] := bytes [value]

lemma comp (hf : Appends f a) (hg : Appends g b) : Appends (fun text => g (f text)) (a ++ b) where
  failed text h := by rw [hf.failed text h, hg.failed text h]
  fits text h hfits := by
    rw [List.length_append] at hfits
    have hsecond := hg.fits { text with data := text.data ++ a } h
      (by dsimp only; rw [List.length_append]; omega)
    rw [hf.fits text h (by omega), hsecond]
    simp
  full text h hle hfull := by
    rw [List.length_append] at hfull
    by_cases hfit : text.data.length + a.length ≤ text.capacity
    · rw [hf.fits text h hfit]
      refine hg.full { text with data := text.data ++ a } h ?_ ?_ <;> dsimp only <;>
        rw [List.length_append] <;> omega
    · -- the first write failed already, the second does nothing
      have herror := hf.full text h hle (by omega)
      rw [hg.failed _ (by rw [herror]; rfl)]
      exact herror

lemma nil : Appends (fun text => text) [] where
  failed _ _ := rfl
  fits text _ _ := by simp
  full text _ hle hfull := absurd hfull (by simpa using hle)

lemma foldl {α : Type*} {step : Text → α → Text} {written : α → List U8}
    (h : ∀ x, Appends (fun text => step text x) (written x)) (xs : List α) :
    Appends (fun text => xs.foldl step text) (xs.flatMap written) := by
  induction xs with
  | nil => exact nil
  | cons x xs ih => exact (h x).comp ih

lemma congr (hf : Appends f a) (hab : a = b) : Appends f b := hab ▸ hf

lemma u64 (value : U64) : Appends (·.u64 value) (numeral 10 value.toNat) := by
  have hlt : value.toNat < 10 ^ 32 := Nat.lt_of_lt_of_le value.isLt (by norm_num)
  refine (foldl char _).congr ?_
  rw [reversedDigits_numeral (by norm_num) hlt, List.flatMap_singleton']

/-- A negative number is written with its sign; its magnitude is found without negating the least
number of the type. -/
lemma i64 (value : ℤ) (hlow : -2 ^ 63 ≤ value) (hhigh : value < 2 ^ 63) :
    Appends (·.i64 value) (signed value) := by
  unfold Text.i64 signed
  split_ifs with hneg
  · have hmagnitude : (BitVec.ofInt 64 (-(value + 1)) + 1).toNat = value.natAbs := by
      rw [BitVec.toNat_add, BitVec.toNat_ofInt, show (1 : U64).toNat = 1 from rfl]
      omega
    exact hmagnitude ▸ (char minus).comp (u64 (BitVec.ofInt 64 (-(value + 1)) + 1))
  · have hvalue : (BitVec.ofInt 64 value).toNat = value.natAbs := by
      rw [BitVec.toNat_ofInt]
      omega
    exact hvalue ▸ u64 (BitVec.ofInt 64 value)

lemma hexByte (b : U8) :
    Appends (·.hexByte b) [digitByte (b.toNat / 16), digitByte (b.toNat % 16)] := by
  have hhigh : (b >>> 4).toNat = b.toNat / 16 := by
    rw [BitVec.toNat_ushiftRight, Nat.shiftRight_eq_div_pow]
  have hlow : (b &&& 0x0f).toNat = b.toNat % 16 := by
    rw [BitVec.toNat_and]
    exact Nat.and_two_pow_sub_one_eq_mod b.toNat 4
  rw [← hhigh, ← hlow]
  exact bytes _

lemma hex (value : List U8) : Appends (·.hex value) (encodeHex value) := foldl hexByte value

end Appends

end Text

end Spz
