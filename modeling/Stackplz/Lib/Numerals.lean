import Mathlib.Data.Nat.Digits.Lemmas

/-!
# Numbers as text

Numerals over bytes: what a string of digits denotes in a base, the canonical numeral of a number,
and a scanner that reads a numeral from left to right and stops at the first byte that is not a
digit or that takes the value past a bound.

* `scan_eq_ok` — the scanner accepts exactly the numerals of the numbers up to the bound;
* `scan_numeral` — it reads the canonical numeral of a number back;
* `decodeHex_encodeHex` — the same for bytes written as two digits each.

Digits above nine are read in either case and written in lower case; bases are at most 16.
-/

namespace Numerals

open List

abbrev Byte := BitVec 8

/-! ## Digits -/

def digitByte (d : ℕ) : Byte := BitVec.ofNat 8 (if d < 10 then 48 + d else 87 + d)

/-- The value of a digit, in either case. -/
def digitValue (b : Byte) : Option ℕ :=
  if 48 ≤ b.toNat ∧ b.toNat ≤ 57 then some (b.toNat - 48)
  else if 97 ≤ b.toNat ∧ b.toNat ≤ 102 then some (b.toNat - 87)
  else if 65 ≤ b.toNat ∧ b.toNat ≤ 70 then some (b.toNat - 55)
  else none

def digit? (base : ℕ) (b : Byte) : Option ℕ := (digitValue b).filter (· < base)

variable {d n : ℕ} {b : Byte}

lemma digit?_eq_some {base : ℕ} : digit? base b = some d ↔ digitValue b = some d ∧ d < base := by
  simp [digit?, Option.filter_eq_some_iff]

lemma digitValue_digitByte (h : d < 16) : digitValue (digitByte d) = some d := by
  have hall : ∀ d < 16, digitValue (digitByte d) = some d := by decide
  exact hall d h

lemma digit?_digitByte {base : ℕ} (hbase : base ≤ 16) (h : d < base) :
    digit? base (digitByte d) = some d :=
  digit?_eq_some.mpr ⟨digitValue_digitByte (by omega), h⟩

lemma digitByte_range (h : d < 16) :
    48 ≤ (digitByte d).toNat ∧ (digitByte d).toNat ≤ 57 ∨
      97 ≤ (digitByte d).toNat ∧ (digitByte d).toNat ≤ 102 := by
  have hall : ∀ d < 16, 48 ≤ (digitByte d).toNat ∧ (digitByte d).toNat ≤ 57 ∨
      97 ≤ (digitByte d).toNat ∧ (digitByte d).toNat ≤ 102 := by decide
  exact hall d h

lemma digitByte_inj {e : ℕ} (hd : d < 16) (he : e < 16) (h : digitByte d = digitByte e) :
    d = e := by
  have hvalue := digitValue_digitByte hd
  rw [h, digitValue_digitByte he] at hvalue
  exact (Option.some.inj hvalue).symm

/-! ## What a string denotes -/

/-- The value of a string of digits, read after a part with the given value. -/
def accumulate (base acc : ℕ) (ds : List ℕ) : ℕ := ds.foldl (fun v d => v * base + d) acc

def IsDigits (base : ℕ) : List Byte → List ℕ → Prop :=
  List.Forall₂ fun b d => digit? base b = some d

/-- The string is a numeral of the number. -/
def Denotes (base : ℕ) (s : List Byte) (n : ℕ) : Prop :=
  s ≠ [] ∧ ∃ ds, IsDigits base s ds ∧ accumulate base 0 ds = n

lemma accumulate_eq (base acc : ℕ) (ds : List ℕ) :
    accumulate base acc ds = acc * base ^ ds.length + Nat.ofDigits base ds.reverse := by
  induction ds generalizing acc with
  | nil => simp [accumulate]
  | cons d ds ih =>
    have hstep : accumulate base acc (d :: ds) = accumulate base (acc * base + d) ds := rfl
    rw [hstep, ih, reverse_cons, Nat.ofDigits_append, Nat.ofDigits_singleton,
      length_reverse, length_cons, pow_succ]
    ring

lemma le_accumulate {base : ℕ} (hbase : 0 < base) (acc : ℕ) (ds : List ℕ) :
    acc ≤ accumulate base acc ds := by
  rw [accumulate_eq]
  calc acc ≤ acc * base ^ ds.length := Nat.le_mul_of_pos_right acc (Nat.pow_pos hbase)
    _ ≤ _ := Nat.le_add_right _ _

variable {s : List Byte} {room : ℕ}

lemma isDigits_unique {base : ℕ} {ds es : List ℕ} (hd : IsDigits base s ds)
    (he : IsDigits base s es) : ds = es := by
  induction hd generalizing es with
  | nil =>
    cases he
    rfl
  | cons h _ ih =>
    cases he with
    | cons h' hrest =>
      rw [h] at h'
      cases h'
      rw [ih hrest]

lemma Denotes.unique {base m : ℕ} (hn : Denotes base s n) (hm : Denotes base s m) : n = m := by
  obtain ⟨-, ds, hds, rfl⟩ := hn
  obtain ⟨-, es, hes, rfl⟩ := hm
  rw [isDigits_unique hds hes]

lemma Denotes.digit {base : ℕ} (h : Denotes base s n) {b : Byte} (hb : b ∈ s) :
    ∃ d, digit? base b = some d := by
  obtain ⟨-, ds, hds, -⟩ := h
  induction hds with
  | nil => cases hb
  | cons hd _ ih =>
    rcases List.mem_cons.mp hb with rfl | hb
    · exact ⟨_, hd⟩
    · exact ih hb

/-! ## The scanner -/

/-- Read digits while the value stays within the bound. -/
def scan {ε : Type*} (base max : ℕ) (bad range : ε) : ℕ → List Byte → Except ε ℕ
  | acc, [] => .ok acc
  | acc, b :: bs =>
    match digit? base b with
    | none => .error bad
    | some d =>
      if acc * base + d ≤ max then scan base max bad range (acc * base + d) bs
      else .error range

variable {ε : Type*} {base max : ℕ} {bad range : ε}

/-- What the scanner accepts. -/
theorem scan_eq_ok (hbase : 0 < base) {acc v : ℕ} (hacc : acc ≤ max) (s : List Byte) :
    scan base max bad range acc s = .ok v ↔
      ∃ ds, IsDigits base s ds ∧ accumulate base acc ds = v ∧ v ≤ max := by
  induction s generalizing acc with
  | nil =>
    constructor
    · rintro ⟨⟩
      exact ⟨[], .nil, rfl, hacc⟩
    · rintro ⟨ds, hds, rfl, -⟩
      cases hds
      rfl
  | cons b bs ih =>
    cases hd : digit? base b with
    | none =>
      simp only [scan, hd, reduceCtorEq, false_iff]
      rintro ⟨ds, hds, -⟩
      cases hds with
      | cons hb _ => rw [hb] at hd; cases hd
    | some d =>
      have hcons : ∀ ds, IsDigits base (b :: bs) ds ↔ ∃ es, ds = d :: es ∧ IsDigits base bs es := by
        intro ds
        constructor
        · intro hds
          cases hds with
          | cons hb hrest =>
            rw [hd] at hb
            cases hb
            exact ⟨_, rfl, hrest⟩
        · rintro ⟨es, rfl, hes⟩
          exact .cons hd hes
      by_cases hle : acc * base + d ≤ max
      · simp only [scan, hd, if_pos hle, ih hle, hcons]
        constructor
        · rintro ⟨es, hes, hv⟩
          exact ⟨d :: es, ⟨es, rfl, hes⟩, hv⟩
        · rintro ⟨_, ⟨es, rfl, hes⟩, hv⟩
          exact ⟨es, hes, hv⟩
      · simp only [scan, hd, if_neg hle, reduceCtorEq, false_iff, hcons]
        rintro ⟨_, ⟨es, rfl, -⟩, rfl, hmax⟩
        have hgrow := le_accumulate hbase (acc * base + d) es
        exact hle (Nat.le_trans hgrow hmax)

/-! ## Canonical numerals -/

/-- The digits of a number from the last on, as a loop that writes at least one finds them; the
first argument is the room for digits. -/
def reversedDigits (base : ℕ) : ℕ → ℕ → List ℕ
  | 0, _ => []
  | room + 1, n => n % base :: if n / base = 0 then [] else reversedDigits base room (n / base)

def numeral (base n : ℕ) : List Byte :=
  if n = 0 then [digitByte 0] else (Nat.digits base n).reverse.map digitByte

lemma reversedDigits_eq (hbase : 1 < base) (hn : n ≠ 0) (hroom : n < base ^ room) :
    reversedDigits base room n = Nat.digits base n := by
  induction room generalizing n with
  | zero =>
    rw [pow_zero] at hroom
    omega
  | succ room ih =>
    rw [reversedDigits, Nat.digits_def' hbase (by omega)]
    congr 1
    split_ifs with hlast
    · rw [hlast, Nat.digits_zero]
    · refine ih hlast ?_
      rw [pow_succ] at hroom
      exact Nat.div_lt_of_lt_mul (by rwa [mul_comm])

/-- The loop writes the canonical numeral. -/
theorem reversedDigits_numeral (hbase : 1 < base) (hroom : n < base ^ (room + 1)) :
    (reversedDigits base (room + 1) n).reverse.map digitByte = numeral base n := by
  by_cases hn : n = 0
  · subst hn
    simp [reversedDigits, numeral]
  · rw [reversedDigits_eq hbase hn hroom, numeral, if_neg hn]

lemma numeral_ne_nil (n : ℕ) : numeral base n ≠ [] := by
  unfold numeral
  split_ifs with hn
  · simp
  · simpa [Nat.digits_eq_nil_iff_eq_zero] using hn

lemma mem_numeral (hbase : 1 < base) (hb : b ∈ numeral base n) : ∃ d < base, b = digitByte d := by
  unfold numeral at hb
  split_ifs at hb with hn
  · exact ⟨0, by omega, mem_singleton.mp hb⟩
  · obtain ⟨d, hd, rfl⟩ := mem_map.mp hb
    exact ⟨d, Nat.digits_lt_base hbase (mem_reverse.mp hd), rfl⟩

lemma numeral_length_le (hbase : 1 < base) {k : ℕ} (hk : 0 < k) (hn : n < base ^ k) :
    (numeral base n).length ≤ k := by
  unfold numeral
  split_ifs
  · exact hk
  · rw [length_map, length_reverse]
    exact (Nat.digits_length_le_iff hbase n).mpr hn

lemma isDigits_map (hbase : base ≤ 16) {ds : List ℕ} (h : ∀ d ∈ ds, d < base) :
    IsDigits base (ds.map digitByte) ds := by
  induction ds with
  | nil => exact .nil
  | cons d ds ih =>
    rw [forall_mem_cons] at h
    exact .cons (digit?_digitByte hbase h.1) (ih h.2)

section

variable (hlow : 1 < base) (hhigh : base ≤ 16)
include hlow hhigh

/-- The canonical numeral denotes its number. -/
theorem denotes_numeral (n : ℕ) : Denotes base (numeral base n) n := by
  refine ⟨numeral_ne_nil n, ?_⟩
  unfold numeral
  split_ifs with hn
  · have hzero : IsDigits base ([0].map digitByte) [0] :=
      isDigits_map hhigh (by simpa using by omega)
    exact ⟨[0], hzero, by simp [accumulate, hn]⟩
  · refine ⟨(Nat.digits base n).reverse, isDigits_map hhigh fun d hd => ?_, ?_⟩
    · exact Nat.digits_lt_base hlow (mem_reverse.mp hd)
    · rw [accumulate_eq, Nat.zero_mul, Nat.zero_add, reverse_reverse, Nat.ofDigits_digits]

/-- A number within the bound is read back. -/
theorem scan_numeral (hn : n ≤ max) : scan base max bad range 0 (numeral base n) = .ok n := by
  obtain ⟨-, ds, hds, hvalue⟩ := denotes_numeral hlow hhigh n
  exact (scan_eq_ok (by omega) (Nat.zero_le _) _).mpr ⟨ds, hds, hvalue, hn⟩

lemma numeral_head (hn : n ≠ 0) {bs : List Byte} (h : numeral base n = b :: bs) :
    b ≠ digitByte 0 := by
  rw [numeral, if_neg hn] at h
  have hne : Nat.digits base n ≠ [] := by rwa [ne_eq, Nat.digits_eq_nil_iff_eq_zero]
  have hhead : ((Nat.digits base n).reverse.map digitByte).head? = some b := by rw [h]; rfl
  rw [List.head?_map, List.head?_reverse, List.getLast?_eq_getLast_of_ne_nil hne] at hhead
  have hlast := Nat.getLast_digit_ne_zero base hn
  have hlt := Nat.digits_lt_base hlow (getLast_mem hne)
  intro hb
  rw [hb] at hhead
  exact hlast (digitByte_inj (by omega) (by omega) (Option.some.inj hhead))

end

/-! ## Bytes as two digits -/

/-- Two digits a byte, the high one first. -/
def encodeHex (bytes : List Byte) : List Byte :=
  bytes.flatMap fun b => [digitByte (b.toNat / 16), digitByte (b.toNat % 16)]

/-- Read bytes of two digits each. -/
def decodeHex : List Byte → Option (List Byte)
  | [] => some []
  | [_] => none
  | high :: low :: rest =>
    match digit? 16 high, digit? 16 low, decodeHex rest with
    | some h, some l, some bytes => some (BitVec.ofNat 8 (16 * h + l) :: bytes)
    | _, _, _ => none

lemma encodeHex_cons (b : Byte) (bytes : List Byte) :
    encodeHex (b :: bytes) =
      digitByte (b.toNat / 16) :: digitByte (b.toNat % 16) :: encodeHex bytes := rfl

lemma encodeHex_length (bytes : List Byte) : (encodeHex bytes).length = 2 * bytes.length := by
  induction bytes with
  | nil => rfl
  | cons b bytes ih =>
    rw [encodeHex_cons, length_cons, length_cons, ih, length_cons]
    omega

lemma mem_encodeHex {bytes : List Byte} {c : Byte} (h : c ∈ encodeHex bytes) :
    ∃ d < 16, c = digitByte d := by
  obtain ⟨b, -, hc⟩ := mem_flatMap.mp h
  have hb := b.isLt
  simp only [mem_cons, not_mem_nil, or_false] at hc
  rcases hc with rfl | rfl
  all_goals exact ⟨_, by omega, rfl⟩

lemma digit?_digits (b : Byte) :
    digit? 16 (digitByte (b.toNat / 16)) = some (b.toNat / 16) ∧
      digit? 16 (digitByte (b.toNat % 16)) = some (b.toNat % 16) := by
  have hb := b.isLt
  exact ⟨digit?_digitByte (Nat.le_refl 16) (by omega), digit?_digitByte (Nat.le_refl 16) (by omega)⟩

/-- Bytes written as digits are read back. -/
theorem decodeHex_encodeHex (bytes : List Byte) : decodeHex (encodeHex bytes) = some bytes := by
  induction bytes with
  | nil => rfl
  | cons b bytes ih =>
    obtain ⟨hhigh, hlow⟩ := digit?_digits b
    have hvalue : 16 * (b.toNat / 16) + b.toNat % 16 = b.toNat := by omega
    rw [encodeHex_cons, decodeHex, hhigh, hlow, ih]
    simp [hvalue]

end Numerals
