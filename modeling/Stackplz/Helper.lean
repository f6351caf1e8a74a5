import Stackplz.Text
import Stackplz.Lib.Occurrences
import Stackplz.Lib.Tokens

/-!
# Helpers of the tracer

`FindIns`, `PrettyByteSlice` and `RestoreByteSlice` of `user/util/helper.go`.

`FindIns` goes on as long as the next occurrence is not at the start of what is left, and then
leaves off what stands before that occurrence.  So it is at the start of the rest the next time:
never more than one offset is written, and none for a pattern at the start of the code.
-/

namespace Spz

open Numerals Occurrences List Option

/-! ## Search for an instruction -/

/-- `','`. -/
def comma : U8 := 0x2c

/-- The offset in `%x`, as an `int64`. -/
def hexInt64 (value : U64) : List U8 :=
  if value.toInt < 0 then minus :: numeral 16 value.toInt.natAbs else numeral 16 value.toInt.natAbs

/-- Offsets in `0x%x`, joined by commas. -/
def offsetsText (offsets : List U64) : List U8 :=
  [comma].intercalate (offsets.map fun offset => ascii "0x" ++ hexInt64 offset)

/-- The loop of `FindIns`: the offsets it appends to `result`. -/
def findInsLoop (symOffset : U64) (ins symData : List U8) : List U64 :=
  match h : index ins symData with
  | some (k + 1) =>
    (symOffset + BitVec.ofNat 64 (k + 1)) :: findInsLoop symOffset ins (symData.drop (k + 1))
  | _ => []
termination_by symData.length
decreasing_by
  have := index_le h
  rw [length_drop]
  omega

def findIns (symOffset : U64) (symData ins : List U8) : List U8 :=
  offsetsText (findInsLoop symOffset ins symData)

/-- The text of all occurrences, relative to the start of the code plus the base. -/
def occurrencesText (symOffset : U64) (symData ins : List U8) : List U8 :=
  offsetsText ((occurrences ins symData).map fun k => symOffset + BitVec.ofNat 64 k)

lemma findInsLoop_eq (symOffset : U64) (ins symData : List U8) :
    findInsLoop symOffset ins symData =
      match index ins symData with
      | some (k + 1) => [symOffset + BitVec.ofNat 64 (k + 1)]
      | _ => [] := by
  rw [findInsLoop]
  split
  · next k h =>
    have hrest : findInsLoop symOffset ins (symData.drop (k + 1)) = [] := by
      rw [findInsLoop, index_drop h]
    rw [hrest, h]
  · next h =>
    split
    · next k hk => exact absurd hk (h k)
    · rfl

lemma offsetsText_cons (offset : U64) (offsets : List U64) :
    offsetsText (offset :: offsets) =
      offsetsText [offset] ++ offsets.flatMap fun o => comma :: (ascii "0x" ++ hexInt64 o) := by
  rw [offsetsText, map_cons, Tokens.intercalate_cons_flatMap, flatMap_map]
  simp [offsetsText]

/-- What `FindIns` reports: all occurrences of the instruction exactly when there is none, or a
    single one that is not at the start of the code. -/
theorem findIns_eq_occurrences_iff (symOffset : U64) (symData : List U8) {ins : List U8}
    (hins : ins ≠ []) :
    findIns symOffset symData ins = occurrencesText symOffset symData ins ↔
      occurrences ins symData = [] ∨ ∃ k, 0 < k ∧ occurrences ins symData = [k] := by
  have hhead := head?_occurrences hins symData
  rw [findIns, findInsLoop_eq, ← hhead, occurrencesText]
  cases occurrences ins symData with
  | nil => simp
  | cons k rest =>
    rw [map_cons, offsetsText_cons]
    cases k with
    | zero =>
      -- the first occurrence is at the start: nothing is written
      simp [offsetsText, ascii]
    | succ k =>
      -- the first occurrence is written, so there must not be another
      cases rest with
      | nil => simp
      | cons j rest => simp

/-- `RET`. -/
def retIns : List U8 := [0xc0, 0x03, 0x5f, 0xd6]

/-- A single `RET` behind another instruction is reported. -/
theorem findIns_behind_nop :
    findIns 0x1000 ([0x1f, 0x20, 0x03, 0xd5] ++ retIns) retIns =
      occurrencesText 0x1000 ([0x1f, 0x20, 0x03, 0xd5] ++ retIns) retIns :=
  (findIns_eq_occurrences_iff _ _ (by decide)).mpr (.inr ⟨4, by decide, by decide⟩)

/-- Of two `RET`s the first of which begins the code none is reported. -/
theorem findIns_misses_both :
    findIns 0x1000 (retIns ++ retIns) retIns = [] ∧
      occurrencesText 0x1000 (retIns ++ retIns) retIns = ascii "0x1000,0x1004" := by
  constructor
  · rw [findIns, findInsLoop_eq]
    rfl
  · decide

/-! ## Bytes as text -/

/-- `'\\'`. -/
def backslash : U8 := 0x5c

/-- `'"'`. -/
def quote : U8 := 0x22

/-- A byte that `PrettyByteSlice` writes as it is. -/
def Printable (b : U8) : Prop := 32 ≤ b.toNat ∧ b.toNat ≤ 126
deriving Decidable

/-- The text of one byte: itself, or `\x%02x`. -/
def prettyByte (b : U8) : List U8 := if Printable b then [b] else ascii "\\x" ++ encodeHex [b]

def prettyByteSlice (buffer : List U8) : List U8 := buffer.flatMap prettyByte

/-- `utf8.AppendRune` to nothing. -/
def appendRune (r : ℕ) : List U8 :=
  if r < 0x80 then [BitVec.ofNat 8 r]
  else
    (if r < 0x800 then [0xc0 + r / 64, 0x80 + r % 64]
    else if r < 0x10000 then [0xe0 + r / 4096, 0x80 + r / 64 % 64, 0x80 + r % 64]
    else [0xf0 + r / 262144, 0x80 + r / 4096 % 64, 0x80 + r / 64 % 64, 0x80 + r % 64]).map
      (BitVec.ofNat 8)

def letterEscapes : List (U8 × U8) :=
  (ascii "abfnrtv\\\"").zip [7, 8, 12, 10, 13, 9, 11, backslash, quote]

/-- The digits of an escape, and what follows them. -/
def escapeDigits (base : ℕ) : (n v : ℕ) → List U8 → Option (ℕ × List U8)
  | 0, v, s => some (v, s)
  | _ + 1, _, [] => none
  | n + 1, v, c :: s => (digit? base c).bind fun d => escapeDigits base n (v * base + d) s

/-- `strconv.UnquoteChar` behind a backslash: the bytes of the escape, and what follows it. -/
def unquoteEscape (c : U8) (s : List U8) : Option (List U8 × List U8) :=
  match letterEscapes.find? (·.1 = c) with
  | some (_, value) => some ([value], s)
  | none =>
    if c = 0x78 then (escapeDigits 16 2 0 s).map fun p => ([BitVec.ofNat 8 p.1], p.2)
    else if c = 0x75 ∨ c = 0x55 then
      -- a surrogate or a number behind the last code point is no rune
      ((escapeDigits 16 (if c = 0x75 then 4 else 8) 0 s).filter fun p =>
        p.1 < 0xd800 ∨ 0xe000 ≤ p.1 ∧ p.1 ≤ 0x10ffff).map fun p => (appendRune p.1, p.2)
    else
      (digit? 8 c).bind fun d =>
        ((escapeDigits 8 2 d s).filter (·.1 ≤ 255)).map fun p => ([BitVec.ofNat 8 p.1], p.2)

variable {base n v w : ℕ}

lemma escapeDigits_length {s rest : List U8}
    (h : escapeDigits base n v s = some (w, rest)) : rest.length ≤ s.length := by
  induction n generalizing v s with
  | zero => simp_all [escapeDigits]
  | succ n ih =>
    cases s with
    | nil => simp [escapeDigits] at h
    | cons c s =>
      obtain ⟨d, -, h⟩ := bind_eq_some_iff.mp h
      exact Nat.le_succ_of_le (ih h)

/-- An escape is a letter, or it has digits behind the letter. -/
lemma unquoteEscape_cases {c : U8} {s bytes rest : List U8}
    (h : unquoteEscape c s = some (bytes, rest)) :
    (∃ p ∈ letterEscapes, bytes = [p.2] ∧ rest = s) ∨
      ∃ base n v w, escapeDigits base n v s = some (w, rest) ∧
        (2 ≤ n ∧ bytes = [BitVec.ofNat 8 w] ∨ 4 ≤ n ∧ w ≤ 0x10ffff ∧ bytes = appendRune w) := by
  unfold unquoteEscape at h
  split at h
  · next p hp =>
    simp only [Option.some.injEq, Prod.mk.injEq] at h
    exact .inl ⟨_, mem_of_find?_eq_some hp, h.1.symm, h.2.symm⟩
  · refine .inr ?_
    split at h
    · obtain ⟨⟨w, s'⟩, hdigits, heq⟩ := map_eq_some_iff.mp h
      cases heq
      exact ⟨16, 2, 0, w, hdigits, .inl ⟨by decide, rfl⟩⟩
    · split at h
      · obtain ⟨⟨w, s'⟩, hfilter, heq⟩ := map_eq_some_iff.mp h
        obtain ⟨hdigits, hrune⟩ := filter_eq_some_iff.mp hfilter
        cases heq
        simp only [decide_eq_true_eq] at hrune
        exact ⟨16, _, 0, w, hdigits, .inr ⟨by split <;> decide, by omega, rfl⟩⟩
      · obtain ⟨d, -, h⟩ := bind_eq_some_iff.mp h
        obtain ⟨⟨w, s'⟩, hfilter, heq⟩ := map_eq_some_iff.mp h
        obtain ⟨hdigits, -⟩ := filter_eq_some_iff.mp hfilter
        cases heq
        exact ⟨8, 2, d, w, hdigits, .inl ⟨by decide, rfl⟩⟩

lemma unquoteEscape_length {c : U8} {s bytes rest : List U8}
    (h : unquoteEscape c s = some (bytes, rest)) : rest.length ≤ s.length := by
  rcases unquoteEscape_cases h with ⟨p, -, -, rfl⟩ | ⟨base, n, v, w, hdigits, -⟩
  · exact Nat.le_refl _
  · exact escapeDigits_length hdigits

/-- The loop of `strconv.Unquote` behind the opening quote, on ASCII text: the quote that closes the
    text has to be its last byte. -/
def unquoteRest : List U8 → Option (List U8)
  | [] => none
  | c :: s =>
    if c = quote then if s.isEmpty then some [] else none
    else if c = 0x0a then none
    else if c = backslash then
      match s with
      | [] => none
      | e :: s =>
        match _h : unquoteEscape e s with
        | none => none
        | some (bytes, rest) => (unquoteRest rest).map (bytes ++ ·)
    else (unquoteRest s).map (c :: ·)
termination_by s => s.length
decreasing_by
  · have := unquoteEscape_length _h
    simp only [length_cons]
    omega
  · exact Nat.lt_succ_self _

/-- `RestoreByteSlice`; it panics on a text that is not well quoted. -/
def restoreByteSlice (str : List U8) : Option (List U8) := unquoteRest (str ++ [quote])

/-! ### What an escape can add -/

/-- The weight of a byte.  An escape that begins with a backslash of the slice itself weighs more
    than the bytes it stands for, whatever it is. -/
def byteWeight (b : U8) : ℕ := if b = backslash then 12 else if Printable b then 1 else 4

def weight (bytes : List U8) : ℕ := (bytes.map byteWeight).sum

@[simp] lemma weight_nil : weight [] = 0 := rfl

@[simp] lemma weight_cons (b : U8) (bytes : List U8) :
    weight (b :: bytes) = byteWeight b + weight bytes := by
  simp [weight]

@[simp] lemma weight_append (xs ys : List U8) : weight (xs ++ ys) = weight xs + weight ys := by
  simp [weight]

lemma byteWeight_le (b : U8) : byteWeight b ≤ 12 := by
  unfold byteWeight
  split_ifs <;> decide

lemma byteWeight_high (hlow : 128 ≤ v) (hhigh : v < 256) : byteWeight (BitVec.ofNat 8 v) = 4 := by
  have hne : BitVec.ofNat 8 v ≠ backslash := by
    intro h
    have := congrArg BitVec.toNat h
    simp [backslash] at this
    omega
  have hprint : ¬ Printable (BitVec.ofNat 8 v) := by
    simp only [Printable, BitVec.toNat_ofNat]
    omega
  simp [byteWeight, hne, hprint]

lemma weight_appendRune {r : ℕ} (h : r ≤ 0x10ffff) : weight (appendRune r) ≤ 16 := by
  unfold appendRune
  split_ifs
  · have := byteWeight_le (BitVec.ofNat 8 r)
    simp only [weight_cons, weight_nil]
    omega
  all_goals
    simp only [map_cons, map_nil, weight_cons, weight_nil]
    repeat rw [byteWeight_high (by omega) (by omega)]
    all_goals omega

/-! ### The text of a slice -/

variable {b : U8} {buffer s bytes rest out : List U8}

@[simp] lemma prettyByteSlice_cons :
    prettyByteSlice (b :: buffer) = prettyByte b ++ prettyByteSlice buffer := by
  simp [prettyByteSlice]

lemma one_le_byteWeight (b : U8) : 1 ≤ byteWeight b := by
  unfold byteWeight
  split_ifs <;> decide

lemma digit?_plain {d : ℕ} (h : digit? base b = some d) :
    Printable b ∧ b ≠ quote ∧ b ≠ backslash := by
  have hvalue := (digit?_eq_some.mp h).1
  have hrange : Printable b ∧ b.toNat ≠ quote.toNat ∧ b.toNat ≠ backslash.toNat := by
    unfold digitValue at hvalue
    simp only [Printable, quote, backslash]
    split_ifs at hvalue <;> simp <;> omega
  exact ⟨hrange.1, fun h => hrange.2.1 (congrArg _ h), fun h => hrange.2.2 (congrArg _ h)⟩

lemma unquoteRest_cons_plain (hprint : Printable b) (hquote : b ≠ quote) (hslash : b ≠ backslash) :
    unquoteRest (b :: s) = (unquoteRest s).map (b :: ·) := by
  have hline : b ≠ 0x0a := by
    rintro rfl
    exact absurd hprint (by decide)
  rw [unquoteRest.eq_def]
  simp only [if_neg hquote, if_neg hline, if_neg hslash]

lemma unquoteRest_quote (s : List U8) :
    unquoteRest (quote :: s) = if s.isEmpty then some [] else none := by
  rw [unquoteRest.eq_def]
  simp

lemma unquoteRest_escape (c : U8) (s : List U8) :
    unquoteRest (backslash :: c :: s) =
      (unquoteEscape c s).bind fun p => (unquoteRest p.2).map (p.1 ++ ·) := by
  rw [unquoteRest.eq_def]
  simp only [show backslash ≠ quote by decide, show backslash ≠ 0x0a by decide, if_false, if_true]
  split
  all_goals simp_all

lemma unquoteRest_prettyByte (hquote : b ≠ quote) (hslash : b ≠ backslash) :
    unquoteRest (prettyByte b ++ s) = (unquoteRest s).map (b :: ·) := by
  unfold prettyByte
  split
  · next hprint => exact unquoteRest_cons_plain hprint hquote hslash
  · obtain ⟨hhigh, hlow⟩ := digit?_digits b
    have hvalue : b.toNat / 16 * 16 + b.toNat % 16 = b.toNat := by omega
    have hescape : unquoteEscape 0x78 (encodeHex [b] ++ s) = some ([b], s) := by
      simp [unquoteEscape, letterEscapes, ascii, escapeDigits, encodeHex, hhigh, hlow, hvalue,
        backslash, quote]
    have := unquoteRest_escape 0x78 (encodeHex [b] ++ s)
    rw [hescape] at this
    exact this

/-- Digits that are taken from a printed slice leave a printed slice. -/
lemma escapeDigits_prettyByteSlice
    (h : escapeDigits base n v (prettyByteSlice buffer ++ [quote]) = some (w, rest)) :
    ∃ buffer', rest = prettyByteSlice buffer' ++ [quote] ∧ weight buffer = n + weight buffer' ∧
      buffer'.length ≤ buffer.length := by
  induction n generalizing v buffer with
  | zero =>
    simp only [escapeDigits, Option.some.injEq, Prod.mk.injEq] at h
    exact ⟨buffer, h.2.symm, (Nat.zero_add _).symm, Nat.le_refl _⟩
  | succ n ih =>
    cases buffer with
    | nil =>
      obtain ⟨d, hd, -⟩ := bind_eq_some_iff.mp h
      exact absurd rfl (digit?_plain hd).2.1
    | cons c buffer =>
      rw [prettyByteSlice_cons, prettyByte] at h
      split at h
      · next hprint =>
        obtain ⟨d, hd, h⟩ := bind_eq_some_iff.mp h
        obtain ⟨buffer', hrest, hweight, hlength⟩ := ih h
        refine ⟨buffer', hrest, ?_, Nat.le_succ_of_le hlength⟩
        simp [byteWeight, hprint, (digit?_plain hd).2.2, hweight]
        omega
      · obtain ⟨d, hd, -⟩ := bind_eq_some_iff.mp h
        exact absurd rfl (digit?_plain hd).2.2

/-- What a backslash of the slice makes of the bytes behind it weighs less. -/
lemma weight_of_unquoteRest_backslash
    (h : unquoteRest (backslash :: (prettyByteSlice buffer ++ [quote])) = some out) :
    ∃ bytes buffer' out', unquoteRest (prettyByteSlice buffer' ++ [quote]) = some out' ∧
      out = bytes ++ out' ∧ buffer'.length ≤ buffer.length ∧
      weight bytes + weight buffer' < 12 + weight buffer := by
  cases buffer with
  | nil =>
    -- the closing quote is taken into the escape
    change unquoteRest (backslash :: quote :: []) = _ at h
    rw [unquoteRest_escape] at h
    simp [show unquoteEscape quote [] = some ([quote], []) by decide, unquoteRest.eq_1] at h
  | cons c buffer =>
    rw [prettyByteSlice_cons, prettyByte] at h
    split at h
    · next hprint =>
      rw [cons_append, nil_append, cons_append, unquoteRest_escape] at h
      obtain ⟨⟨bytes, rest⟩, hescape, h⟩ := bind_eq_some_iff.mp h
      obtain ⟨out', hout, rfl⟩ := map_eq_some_iff.mp h
      have hc := one_le_byteWeight c
      rcases unquoteEscape_cases hescape with ⟨p, -, rfl, rfl⟩ | ⟨base, n, v, w, hdigits, hbytes⟩
      · have := byteWeight_le p.2
        refine ⟨_, buffer, out', hout, rfl, Nat.le_succ _, ?_⟩
        simp only [weight_cons, weight_nil]
        omega
      · obtain ⟨buffer', rfl, hweight, hlength⟩ := escapeDigits_prettyByteSlice hdigits
        refine ⟨bytes, buffer', out', hout, rfl, Nat.le_succ_of_le hlength, ?_⟩
        rw [weight_cons, hweight]
        rcases hbytes with ⟨hn, rfl⟩ | ⟨hn, hw, rfl⟩
        · have := byteWeight_le (BitVec.ofNat 8 w)
          simp only [weight_cons, weight_nil]
          omega
        · have := weight_appendRune hw
          omega
    · next hprint =>
      -- the backslash of `\x%02x` is escaped, and `x%02x` is left
      have hc := c.isLt
      have hhigh := digit?_digitByte (d := c.toNat / 16) (Nat.le_refl 16) (by omega)
      have hlow := digit?_digitByte (d := c.toNat % 16) (Nat.le_refl 16) (by omega)
      obtain ⟨hhigh, hhighQuote, hhighSlash⟩ := digit?_plain hhigh
      obtain ⟨hlow, hlowQuote, hlowSlash⟩ := digit?_plain hlow
      have hslash : c ≠ backslash := by
        rintro rfl
        exact hprint (by decide)
      change unquoteRest (backslash :: backslash :: 0x78 :: digitByte (c.toNat / 16) ::
        digitByte (c.toNat % 16) :: (prettyByteSlice buffer ++ [quote])) = _ at h
      rw [unquoteRest_escape] at h
      change (unquoteRest (0x78 :: _)).map ([backslash] ++ ·) = _ at h
      rw [unquoteRest_cons_plain (by decide) (by decide) (by decide),
        unquoteRest_cons_plain hhigh hhighQuote hhighSlash,
        unquoteRest_cons_plain hlow hlowQuote hlowSlash] at h
      simp only [Option.map_map, Option.map_eq_some_iff] at h
      obtain ⟨out', hout, rfl⟩ := h
      refine ⟨[backslash, 0x78, digitByte (c.toNat / 16), digitByte (c.toNat % 16)], buffer, out',
        hout, rfl, Nat.le_succ _, ?_⟩
      simp [byteWeight, hprint, hslash, hhigh, hhighSlash, hlow, hlowSlash,
        show Printable 0x78#8 by decide, show 0x78#8 ≠ backslash by decide]
      omega

/-- What is restored never weighs more than the slice, and less when there is a backslash in it. -/
lemma weight_of_unquoteRest (h : unquoteRest (prettyByteSlice buffer ++ [quote]) = some out) :
    weight out ≤ weight buffer ∧ (backslash ∈ buffer → weight out < weight buffer) := by
  induction hn : buffer.length using Nat.strong_induction_on generalizing buffer out with
  | _ n ih =>
    subst hn
    cases buffer with
    | nil =>
      have h : unquoteRest (quote :: []) = some out := h
      simp_all [unquoteRest_quote]
    | cons c buffer =>
      by_cases hquote : c = quote
      · subst hquote
        simp [prettyByte, show Printable quote by decide, unquoteRest_quote] at h
      · by_cases hslash : c = backslash
        · subst hslash
          obtain ⟨bytes, buffer', out', hout, rfl, hlength, hweight⟩ :=
            weight_of_unquoteRest_backslash h
          have hle := (ih _ (Nat.lt_succ_of_le hlength) hout rfl).1
          have hlt : weight (bytes ++ out') < weight (backslash :: buffer) := by
            simp only [weight_append, weight_cons, show byteWeight backslash = 12 by decide]
            omega
          exact ⟨Nat.le_of_lt hlt, fun _ => hlt⟩
        · rw [prettyByteSlice_cons, append_assoc, unquoteRest_prettyByte hquote hslash] at h
          obtain ⟨out', hout, rfl⟩ := map_eq_some_iff.mp h
          obtain ⟨hle, hlt⟩ := ih _ (Nat.lt_succ_self _) hout rfl
          refine ⟨by simpa using hle, fun hmem => ?_⟩
          have hmem' := (mem_cons.mp hmem).resolve_left (Ne.symm hslash)
          simpa using hlt hmem'

lemma restoreByteSlice_prettyByteSlice (hslash : backslash ∉ buffer) :
    restoreByteSlice (prettyByteSlice buffer) = if quote ∈ buffer then none else some buffer := by
  unfold restoreByteSlice
  induction buffer with
  | nil => exact unquoteRest_quote []
  | cons c buffer ih =>
    obtain ⟨hc, hslashes⟩ := ne_and_not_mem_of_not_mem_cons hslash
    by_cases hquote : c = quote
    · subst hquote
      simp [prettyByte, show Printable quote by decide, unquoteRest_quote]
    · rw [prettyByteSlice_cons, append_assoc, unquoteRest_prettyByte hquote hc.symm, ih hslashes]
      by_cases hmem : quote ∈ buffer <;> simp [hmem, Ne.symm hquote]

/-- Bytes of which none is a quote or a backslash. -/
def Unquoted (buffer : List U8) : Prop := quote ∉ buffer ∧ backslash ∉ buffer

/-- What is restored from its text: exactly the slices without a quote and a backslash, and no
    two of those have the same text. -/
theorem restoreByteSlice_eq_iff (buffer : List U8) :
    (restoreByteSlice (prettyByteSlice buffer) = some buffer ↔ Unquoted buffer) ∧
      (Unquoted buffer → ∀ other, Unquoted other → prettyByteSlice buffer = prettyByteSlice other →
        buffer = other) := by
  have hrestore : ∀ {buffer}, Unquoted buffer →
      restoreByteSlice (prettyByteSlice buffer) = some buffer := by
    intro buffer h
    rw [restoreByteSlice_prettyByteSlice h.2, if_neg h.1]
  refine ⟨⟨fun h => ?_, hrestore⟩, fun h other h' heq => ?_⟩
  · have hslash : backslash ∉ buffer := fun hmem =>
      Nat.lt_irrefl _ ((weight_of_unquoteRest h).2 hmem)
    rw [restoreByteSlice_prettyByteSlice hslash] at h
    exact ⟨by simpa using h, hslash⟩
  · have := hrestore h
    rw [heq, hrestore h'] at this
    exact (Option.some.inj this).symm

/-- The byte `0x01` and the four characters `\x01` have the same text, from which the byte is
    restored. -/
theorem prettyByteSlice_ambiguous :
    prettyByteSlice (ascii "\\x01") = prettyByteSlice [1] ∧
      restoreByteSlice (prettyByteSlice (ascii "\\x01")) = some [1] := by
  have htext : prettyByteSlice (ascii "\\x01") = prettyByteSlice [1] := by decide
  rw [htext, restoreByteSlice_prettyByteSlice (by decide)]
  exact ⟨rfl, by decide⟩

end Spz
