import Stackplz.Bpf.ReadArgs
import Stackplz.Client.Response

/-!
# Filters on the first bytes of a buffer

`AddFilter` of `user/config/config_filter.go` turns the bytes of a `bx` or `addr` filter into a
number and a shift: the bytes are read as a big-endian number, its eight bytes are turned around,
and what is not part of the given bytes is shifted out.  `OP_FILTER_BUFFER` reads a little-endian
word and compares as many of its low bits as the shift leaves.

Both sides are numbers of bytes, least significant first: the filter's number is that of the given
bytes (`bytesFilter_numVal`), the masked word that of the first bytes of memory (`leValue_take`).
-/

namespace Spz

open Numerals
open List hiding Vector

/-! ## Numbers of bytes -/

/-- The number that bytes are, most significant first. -/
def beValue (bytes : List U8) : ℕ := bytes.foldl (fun value b => value * 256 + b.toNat) 0

lemma beValue_eq (bytes : List U8) : beValue bytes = leValue bytes.reverse := by
  rw [beValue, leValue, foldr_reverse]
  congr 1
  funext value b
  omega

lemma leValue_append (xs ys : List U8) :
    leValue (xs ++ ys) = leValue xs + 256 ^ xs.length * leValue ys := by
  induction xs with
  | nil => simp [leValue]
  | cons x xs ih =>
    have hcons : ∀ zs : List U8, leValue (x :: zs) = x.toNat + 256 * leValue zs := fun _ => rfl
    rw [cons_append, hcons, hcons, ih, length_cons]
    ring

lemma leValue_replicate_zero (n : ℕ) : leValue (replicate n 0) = 0 := by
  induction n with
  | zero => rfl
  | succ n ih =>
    show 0 + 256 * leValue (replicate n 0) = 0
    rw [ih]

variable {bytes text : List U8}

lemma leValue_take {n : ℕ} (h : n ≤ bytes.length) :
    leValue bytes % 256 ^ n = leValue (bytes.take n) := by
  have hlen : (bytes.take n).length = n := length_take_of_le h
  have hlt := leValue_lt (bytes.take n)
  conv_lhs => rw [← take_append_drop n bytes, leValue_append, hlen, Nat.add_mul_mod_self_left]
  rw [hlen] at hlt
  exact Nat.mod_eq_of_lt hlt

lemma isDigits_decodeHex : ∀ {text bytes : List U8}, decodeHex text = some bytes →
    ∃ ds, Numerals.IsDigits 16 text ds ∧
      ∀ acc, accumulate 16 acc ds = bytes.foldl (fun value b => value * 256 + b.toNat) acc
  | [], bytes, h => by
    cases h
    exact ⟨[], .nil, fun _ => rfl⟩
  | [_], bytes, h => by cases h
  | high :: low :: rest, bytes, h => by
    rw [decodeHex] at h
    split at h
    · rename_i d e tail hd he htail
      cases h
      obtain ⟨ds, hds, hacc⟩ := isDigits_decodeHex htail
      have hdlt := (digit?_eq_some.mp hd).2
      have helt := (digit?_eq_some.mp he).2
      refine ⟨d :: e :: ds, .cons hd (.cons he hds), fun acc => ?_⟩
      show accumulate 16 ((acc * 16 + d) * 16 + e) ds = _
      rw [hacc, foldl_cons, BitVec.toNat_ofNat, Nat.mod_eq_of_lt (by omega)]
      congr 1
      ring
    · cases h

lemma not_mem_of_isDigits {base : ℕ} {ds : List ℕ} {b : U8}
    (h : Numerals.IsDigits base text ds) (hb : digit? base b = none) : b ∉ text := by
  intro hmem
  induction h with
  | nil => cases hmem
  | cons hd _ ih =>
    rcases mem_cons.mp hmem with rfl | hmem
    · rw [hb] at hd
      cases hd
    · exact ih hmem

/-- `StrToNum64` of a hexadecimal text. -/
lemma parseUintAny_hex (h : decodeHex text = some bytes)
    (hpos : 1 ≤ bytes.length) (hlen : bytes.length ≤ 8) :
    Client.parseUintAny 64 (ascii "0x" ++ text) = some (beValue bytes) := by
  obtain ⟨ds, hds, hacc⟩ := isDigits_decodeHex h
  have hbound : beValue bytes ≤ 2 ^ 64 - 1 := by
    have hlt := leValue_lt bytes.reverse
    have hpow : 256 ^ bytes.length ≤ 256 ^ 8 := Nat.pow_le_pow_right (by decide) hlen
    rw [length_reverse, ← beValue_eq] at hlt
    omega
  have hscan : scan 16 (2 ^ 64 - 1) () () 0 text = .ok (beValue bytes) :=
    (scan_eq_ok (by decide) (Nat.zero_le _) text).mpr ⟨ds, hds, hacc 0, hbound⟩
  have hunder : Client.underscore ∉ text := not_mem_of_isDigits hds (by decide)
  have hfilter : text.filter (· ≠ Client.underscore) = text := by
    refine filter_eq_self.mpr fun b hb => decide_eq_true ?_
    rintro rfl
    exact hunder hb
  have hbase : Client.numberBase (ascii "0x" ++ text) = (16, text) := by
    cases text with
    | nil =>
      cases h
      cases hpos
    | cons b text => rfl
  have hne : ascii "0x" ++ text ≠ [] := append_ne_nil_of_left_ne_nil (by decide) _
  rw [Client.parseUintAny, if_neg hne, hbase]
  simp only [hunder, false_and, if_false, hfilter, hscan]
  rfl

namespace Bpf

/-! ## The filters -/

/-- A filter for as many bytes as `count` with the given big-endian number. -/
def bytesFilter (count : ℕ) (number : U64) : ArgFilter :=
  let strLen : U32 := BitVec.ofNat 32 ((8 - count) * 8)
  { filterType := .whitelist
    strVal := replicate 256 0
    strLen := strLen
    numVal := leWord 64 (leBytes 8 number).reverse >>> strLen.toNat }

/-- `bx:` and `bufhex:`; nothing if `AddFilter` panics. -/
def hexFilter (text : List U8) : Option ArgFilter :=
  match decodeHex text with
  | none => none
  | some bytes =>
    if bytes.length > 8 then none
    else (Client.parseUintAny 64 (ascii "0x" ++ text)).map fun number =>
      bytesFilter bytes.length (BitVec.ofNat 64 number)

/-- `addr:` with the bytes of an IPv4 address. -/
def addrFilter (ipv4 : Vector U8 4) : ArgFilter :=
  bytesFilter 4 (BitVec.ofNat 64 (beValue ipv4.toList))

lemma leBytes_beValue (h : bytes.length ≤ 8) :
    (leBytes 8 (BitVec.ofNat 64 (beValue bytes))).reverse =
      replicate (8 - bytes.length) 0 ++ bytes := by
  have hlt := leValue_lt bytes.reverse
  rw [length_reverse] at hlt
  have hpow : 256 ^ bytes.length ≤ 256 ^ 8 := Nat.pow_le_pow_right (by decide) h
  have hsame : leBytes 8 (BitVec.ofNat 64 (beValue bytes)) =
      bytes.reverse ++ replicate (8 - bytes.length) 0 := by
    refine leValue_inj ?_ ?_
    · rw [leBytes_length, length_append, length_reverse, length_replicate]
      omega
    · rw [leValue_leBytes, leValue_append, leValue_replicate_zero, Nat.mul_zero, Nat.add_zero,
        BitVec.toNat_ofNat, beValue_eq]
      omega
  rw [hsame, reverse_append, reverse_replicate, reverse_reverse]

lemma bytesFilter_strLen (h : bytes.length ≤ 8) (number : U64) :
    (bytesFilter bytes.length number).strLen.toNat = (8 - bytes.length) * 8 := by
  show (BitVec.ofNat 32 ((8 - bytes.length) * 8)).toNat = _
  rw [BitVec.toNat_ofNat, Nat.mod_eq_of_lt (by omega)]

/-- The number of a filter of at most eight bytes is what the bytes are in memory. -/
lemma bytesFilter_numVal (h : bytes.length ≤ 8) :
    (bytesFilter bytes.length (BitVec.ofNat 64 (beValue bytes))).numVal.toNat = leValue bytes := by
  have hlt := leValue_lt bytes
  have hzeros : 256 ^ (8 - bytes.length) * leValue bytes < 2 ^ 64 := by
    calc 256 ^ (8 - bytes.length) * leValue bytes
        < 256 ^ (8 - bytes.length) * 256 ^ bytes.length :=
          Nat.mul_lt_mul_of_pos_left hlt (Nat.pow_pos (by decide))
      _ = 256 ^ 8 := by rw [← pow_add, Nat.sub_add_cancel h]
      _ = 2 ^ 64 := by decide
  have hpow : 2 ^ ((8 - bytes.length) * 8) = 256 ^ (8 - bytes.length) := by
    rw [Nat.mul_comm, pow_mul]
    rfl
  show (leWord 64 (leBytes 8 (BitVec.ofNat 64 (beValue bytes))).reverse >>>
    (bytesFilter bytes.length (BitVec.ofNat 64 (beValue bytes))).strLen.toNat).toNat = _
  rw [bytesFilter_strLen h, leBytes_beValue h, BitVec.toNat_ushiftRight, leWord, BitVec.toNat_ofNat,
    leValue_append, leValue_replicate_zero, length_replicate, Nat.zero_add,
    Nat.mod_eq_of_lt hzeros, Nat.shiftRight_eq_div_pow, hpow,
    Nat.mul_div_cancel_left _ (Nat.pow_pos (by decide))]

lemma masked_toNat {read : List U8} (hread : read.length = 8) {n : ℕ} (hpos : 1 ≤ n) (h : n ≤ 8) :
    (leWord 64 read &&& (BitVec.allOnes 64 >>> ((8 - n) * 8 % 64))).toNat =
      leValue (read.take n) := by
  have hmasks : ∀ n < 9, 1 ≤ n →
      BitVec.allOnes 64 >>> ((8 - n) * 8 % 64) = BitVec.ofNat 64 (2 ^ (8 * n) - 1) := by decide
  have hlt := leValue_lt read
  rw [hread, show 256 ^ 8 = 2 ^ 64 from rfl] at hlt
  rw [hmasks n (by omega) hpos, Bits.toNat_and_lowMask _ (by omega), leWord, BitVec.toNat_ofNat,
    Nat.mod_eq_of_lt hlt, pow_mul]
  exact leValue_take (by omega)

/-- What `OP_FILTER_BUFFER` does with the filter: it notes a match exactly if memory starts with the
bytes. -/
def MatchesLeading (filter : ArgFilter) (bytes : List U8) : Prop :=
  ∀ (m : Machine) (op : OpConfig) (s : Scan) (read : List U8),
    m.argFilter op.value = some filter →
    readBytes m.memory (untagged s.ctx.readAddr) 8 = some read →
    s.ctx.matchWhitelist = false →
    ∃ s', m.perform op .filterBuffer s = .ok s' ∧ (s'.ctx.matchWhitelist = true ↔ bytes <+: read)

lemma bytesFilter_matches (hpos : 1 ≤ bytes.length) (hlen : bytes.length ≤ 8) :
    MatchesLeading (bytesFilter bytes.length (BitVec.ofNat 64 (beValue bytes))) bytes := by
  intro m op s read hfilter hread hfalse
  have hlen8 := readBytes_length hread
  refine ⟨_, by rw [Machine.perform, Machine.filtered, hfilter], ?_⟩
  have hword : probeReadWord m.memory (untagged s.ctx.readAddr) = leWord 64 read := by
    rw [probeReadWord, hread]
    rfl
  simp only [OpCtx.filterBuffer, hword, hfalse, bytesFilter_strLen hlen]
  rw [if_pos (show (bytesFilter bytes.length _).filterType = .whitelist from rfl), Bool.false_or,
    beq_iff_eq, ← BitVec.toNat_inj, bytesFilter_numVal hlen, masked_toNat hlen8 hpos hlen,
    prefix_iff_eq_take]
  constructor
  · exact leValue_inj (by rw [length_take]; omega)
  · exact congrArg leValue

/-- Hex and address filters match the bytes that memory starts with. -/
theorem bufferFilters_match :
    (∀ text bytes, decodeHex text = some bytes → 1 ≤ bytes.length → bytes.length ≤ 8 →
      ∃ filter, hexFilter text = some filter ∧ MatchesLeading filter bytes) ∧
    ∀ ipv4 : Vector U8 4, MatchesLeading (addrFilter ipv4) ipv4.toList := by
  constructor
  · intro text bytes hdecode hpos hlen
    refine ⟨_, ?_, bytesFilter_matches hpos hlen⟩
    rw [hexFilter, hdecode]
    show (if bytes.length > 8 then none else _) = _
    rw [if_neg (by omega), parseUintAny_hex hdecode hpos hlen]
    rfl
  · intro ipv4
    have hlen : ipv4.toList.length = 4 := ipv4.length_toList
    have hmatches := @bytesFilter_matches ipv4.toList (by omega) (by omega)
    rw [hlen] at hmatches
    exact hmatches

/-- `bx:c0a8` on memory that starts with `c0 a8`. -/
theorem bufferFilters_match_sample :
    ∃ filter, hexFilter (ascii "c0a8") = some filter ∧ MatchesLeading filter [0xc0, 0xa8] :=
  bufferFilters_match.1 (ascii "c0a8") [0xc0, 0xa8] (by decide) (by decide) (by decide)

end Bpf

end Spz
