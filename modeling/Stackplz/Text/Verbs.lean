import Stackplz.Text.Grammar
import Mathlib.Data.List.GetD

/-!
# The verbs with keys

`bind`, `break` and `maps-read`: their tables of keys are lawful, the counts of tokens that the
source tests are those the keys allow, and what remains are the values, for which
`Stackplz.Text.Pieces` has the lemmas.
-/

namespace Spz

open Errno Numerals Tokens List Check

/-! ## Values of keys -/

/-- The value of a key, by default if it has none that can be parsed. -/
def valueOf {α : Type} (parse : List U8 → Except Errno α) (absent : α) :
    Option (List U8) → α
  | none => absent
  | some v =>
    match parse v with
    | .error _ => absent
    | .ok x => x

section Values

variable {α : Type} {parse : List U8 → Except Errno α} {absent : α} {value : Option (List U8)}

variable {x : α}

lemma valueOf_some {v : List U8} (h : parse v = .ok x) : valueOf parse absent (some v) = x := by
  rw [valueOf, h]

lemma required_valueOf (hsome : value.isSome = true)
    (hparse : ∀ v, value = some v → ∃ x, parse v = .ok x) :
    Required value fun v => parse v = .ok (valueOf parse absent value) := by
  obtain ⟨v, rfl⟩ := Option.isSome_iff_exists.mp hsome
  obtain ⟨x, hx⟩ := hparse v rfl
  refine ⟨v, rfl, ?_⟩
  rw [valueOf_some hx]
  exact hx

lemma Required.valueOf_eq (h : Required value fun v => parse v = .ok x) :
    valueOf parse absent value = x := by
  obtain ⟨v, rfl, hx⟩ := h
  exact valueOf_some hx

lemma optional_valueOf (hparse : ∀ v, value = some v → ∃ x, parse v = .ok x) :
    Optional value
      (fun v => parse v = .ok (valueOf parse absent value) ∧
        (if value.isSome then (1 : U8) else 0) = 1)
      (valueOf parse absent value = absent ∧ (if value.isSome then (1 : U8) else 0) = 0) := by
  cases value with
  | none => exact ⟨rfl, rfl⟩
  | some v =>
    obtain ⟨x, hx⟩ := hparse v rfl
    exact ⟨by rw [valueOf_some hx, hx], rfl⟩

lemma Optional.valueOf_eq {flag : U8}
    (h : Optional value (fun v => parse v = .ok x ∧ flag = 1) (x = absent ∧ flag = 0)) :
    valueOf parse absent value = x ∧ (if value.isSome then (1 : U8) else 0) = flag := by
  cases value with
  | none => exact ⟨h.1.symm, h.2.symm⟩
  | some v => exact ⟨valueOf_some h.1, h.2.symm⟩

lemma Required.parses (h : Required value fun v => parse v = .ok x) (v : List U8)
    (hv : value = some v) : ∃ y, parse v = .ok y := by
  obtain ⟨w, rfl, hx⟩ := h
  cases hv
  exact ⟨x, hx⟩

lemma Optional.parses {p a : Prop} (h : Optional value (fun v => parse v = .ok x ∧ p) a)
    (v : List U8) (hv : value = some v) : ∃ y, parse v = .ok y := by
  subst hv
  exact ⟨x, h.1⟩

variable {p q : List U8 → Prop}

lemma Required.imp (h : Required value p) (hpq : ∀ v, p v → q v) : Required value q := by
  obtain ⟨v, hv, hp⟩ := h
  exact ⟨v, hv, hpq v hp⟩

lemma Optional.imp {a : Prop} (h : Optional value p a)
    (hpq : ∀ v, p v → q v) : Optional value q a := by
  cases value with
  | none => exact h
  | some v => exact hpq v h

end Values

variable {token : List U8}

lemma parseU32Decimal_ok {x : U32} :
    parseU32Decimal token = .ok x ↔ Denotes 10 token x.toNat := parseDecimal_ok (by decide)

lemma parseU8Decimal_ok {x : U8} :
    parseU8Decimal token = .ok x ↔ Denotes 10 token x.toNat := parseDecimal_ok (by decide)

lemma nonzero_ok {w : ℕ} {r : Except Errno (BitVec w)} {x : BitVec w} :
    (r >>= nonzero) = .ok x ↔ r = .ok x ∧ x ≠ 0 := by
  have hnonzero : ∀ y : BitVec w, nonzero y = .ok x ↔ y = x ∧ x ≠ 0 := by
    intro y
    unfold nonzero
    split_ifs with hzero
    · simp only [false_iff]
      rintro ⟨rfl, h⟩
      exact h hzero
    · simp only [Except.ok.injEq, iff_self_and]
      rintro rfl
      exact hzero
  simp only [bind_eq_ok, hnonzero]
  constructor
  · rintro ⟨y, hr, rfl, h⟩
    exact ⟨hr, h⟩
  · exact fun h => ⟨x, h.1, rfl, h.2⟩

variable {v verb : List U8} {given : Assignment} {args : List (List U8)} {command : Command}

lemma parseBindMode_ok {mode : BindMode} :
    parseBindMode v = .ok mode ↔ (v, mode) ∈ bindModeWords := by
  constructor
  · intro h
    unfold parseBindMode at h
    split_ifs at h with h1 h2 h3 <;> cases h <;> simp [bindModeWords, *]
  · simp only [bindModeWords, mem_cons, Prod.mk.injEq, not_mem_nil, or_false]
    rintro (⟨rfl, rfl⟩ | ⟨rfl, rfl⟩ | ⟨rfl, rfl⟩) <;> rfl

lemma parseBreakKind_ok {kind : BreakKind} :
    parseBreakKind v = .ok kind ↔ (v, kind) ∈ breakKindWords := by
  constructor
  · intro h
    unfold parseBreakKind at h
    split_ifs at h with h1 h2 h3 h4 <;> cases h <;> simp [breakKindWords, *]
  · simp only [breakKindWords, mem_cons, Prod.mk.injEq, not_mem_nil, or_false]
    rintro (⟨rfl, rfl⟩ | ⟨rfl, rfl⟩ | ⟨rfl, rfl⟩ | ⟨rfl, rfl⟩) <;> rfl

lemma parseBreakMode_ok {mode : BreakMode} :
    parseBreakMode v = .ok mode ↔ (v, mode) ∈ breakModeWords := by
  constructor
  · intro h
    unfold parseBreakMode at h
    split_ifs at h with h1 h2 <;> cases h <;> simp [breakModeWords, *]
  · simp only [breakModeWords, mem_cons, Prod.mk.injEq, not_mem_nil, or_false]
    rintro (⟨rfl, rfl⟩ | ⟨rfl, rfl⟩) <;> rfl

lemma commOf_toList (h : v.length ≤ 16) :
    (commOf v).toList = v ++ List.replicate (16 - v.length) 0 := by
  refine ext_getElem ?_ fun i hi hi' => ?_
  · rw [Vector.length_toList, length_append, length_replicate]
    omega
  · rw [Vector.length_toList] at hi
    simp only [commOf, Vector.getElem_toList, Vector.getElem_ofFn]
    rw [getElem_append]
    split_ifs with hlt
    · exact getD_eq_getElem _ _ hlt
    · rw [getElem_replicate]
      exact getD_eq_default _ _ (by omega)

lemma parseComm_ok {comm : Comm} : parseComm v = .ok comm ↔ IsComm v comm := by
  have hparse : parseComm v = .ok comm ↔ safeComm v = true ∧ commOf v = comm := by
    unfold parseComm
    cases safeComm v <;> simp
  have hsafe : safeComm v = true ↔ v ≠ [] ∧ v.length ≤ 15 ∧ ∀ b ∈ v, isAtomByte b = true := by
    rw [safeComm, Bool.and_eq_true, Bool.and_eq_true, bne_iff_ne, decide_eq_true_iff,
      all_eq_true, ne_eq, length_eq_zero_iff, and_assoc]
    exact and_congr_right fun _ => and_congr_left fun _ => Nat.lt_succ_iff
  rw [hparse, hsafe, IsComm, ← Vector.toList_inj]
  constructor
  · rintro ⟨⟨hne, hlen, hall⟩, hcomm⟩
    exact ⟨hne, hlen, hall, by rw [← hcomm, commOf_toList (by omega)]⟩
  · rintro ⟨hne, hlen, hall, hcomm⟩
    exact ⟨⟨hne, hlen, hall⟩, by rw [hcomm, commOf_toList (by omega)]⟩

/-! ## The number of arguments -/

namespace IsArgs

variable {tokens : List (List U8)} {allowed : List String}

lemma length_le (h : IsArgs tokens allowed given) : tokens.length ≤ allowed.length := by
  obtain ⟨pairs, rfl, hnodup, hall, -⟩ := h
  rw [length_map, ← length_map (f := Prod.fst)]
  refine (hnodup.subperm fun key hkey => ?_).length_le
  obtain ⟨pair, hpair, rfl⟩ := mem_map.mp hkey
  exact (hall pair hpair).1

lemma le_length (h : IsArgs tokens allowed given) {keys : List String} (hkeys : keys.Nodup)
    (hsome : ∀ key ∈ keys, (given key).isSome = true) : keys.length ≤ tokens.length := by
  obtain ⟨pairs, rfl, -, -, hgiven⟩ := h
  rw [length_map, ← length_map (f := Prod.fst)]
  refine (hkeys.subperm fun key hkey => ?_).length_le
  obtain ⟨v, hv⟩ := Option.isSome_iff_exists.mp (hsome key hkey)
  exact mem_map.mpr ⟨(key, v), (hgiven key v).mp hv, rfl⟩

end IsArgs

lemma Required.isSome {value : Option (List U8)} {p : List U8 → Prop} (h : Required value p) :
    value.isSome = true := by
  obtain ⟨v, rfl, -⟩ := h
  rfl

/-! ## `bind` -/

def bindBuild (f : Assignment) : BindCommand where
  pid := valueOf (fun v => parseU32Decimal v >>= nonzero) 0 (f "pid")
  mode := valueOf parseBindMode .invalid (f "mode")
  uid := valueOf parseU32Decimal 0 (f "uid")
  startBootTime := valueOf parseU64Decimal 0 (f "start")
  comm := valueOf parseComm (Vector.replicate 16 0) (f "comm")
  hasUid := if (f "uid").isSome then 1 else 0
  hasComm := if (f "comm").isSome then 1 else 0
  hasStartBootTime := if (f "start").isSome then 1 else 0

lemma bindKeys_lawful : LawfulKeys bindKeys bindBuild where
  build_set := by
    intro key hkey f v set hparse
    simp only [bindKeys, mem_cons, not_mem_nil, or_false] at hkey
    rcases hkey with rfl | rfl | rfl | rfl | rfl <;>
      obtain ⟨x, hx, rfl⟩ := map_eq_ok.mp hparse <;>
      simp [bindBuild, valueOf, hx]

lemma bindKeys_seen (f : Assignment) :
    seenOf bindKeys f &&& (1 <<< 0 ||| 1 <<< 1) = 1 <<< 0 ||| 1 <<< 1 ↔
      (f "pid").isSome = true ∧ (f "mode").isSome = true := by
  simp only [seenOf, bindKeys, foldr_cons, foldr_nil, bitOf]
  cases (f "pid").isSome <;> cases (f "mode").isSome <;> cases (f "uid").isSome <;>
    cases (f "comm").isSome <;> cases (f "start").isSome <;> decide

/-- The assignment denotes a record if what it has can be parsed and what it must have is there; the
record is then the one that is built. -/
lemma bindMeans_iff {c : BindCommand} :
    BindMeans given c ↔
      (∀ key ∈ bindKeys, ∀ v, given key.name = some v → ∃ set, key.parse v = .ok set) ∧
      ((given "pid").isSome = true ∧ (given "mode").isSome = true) ∧ c = bindBuild given := by
  simp only [bindKeys, forall_mem_cons, exists_map_ok]
  constructor
  · rintro ⟨hpid, hmode, huid, hcomm, hstart⟩
    have hpid' := hpid.imp fun v hv => nonzero_ok.mpr ⟨parseU32Decimal_ok.mpr hv.1, hv.2⟩
    have hmode' := hmode.imp fun v hv => parseBindMode_ok.mpr hv
    have huid' := huid.imp fun v hv => (⟨parseU32Decimal_ok.mpr hv.1, hv.2⟩ : _ ∧ _)
    have hcomm' := hcomm.imp fun v hv => (⟨parseComm_ok.mpr hv.1, hv.2⟩ : _ ∧ _)
    have hstart' := hstart.imp fun v hv => (⟨parseU64Decimal_ok.mpr hv.1, hv.2⟩ : _ ∧ _)
    refine ⟨⟨hpid'.parses, hmode'.parses, huid'.parses, hcomm'.parses, hstart'.parses, by simp⟩,
      ⟨hpid.isSome, hmode.isSome⟩, ?_⟩
    rw [bindBuild, hpid'.valueOf_eq, hmode'.valueOf_eq, huid'.valueOf_eq.1, huid'.valueOf_eq.2,
      hcomm'.valueOf_eq.1, hcomm'.valueOf_eq.2, hstart'.valueOf_eq.1, hstart'.valueOf_eq.2]
  · rintro ⟨⟨hpid, hmode, huid, hcomm, hstart, -⟩, ⟨hpid', hmode'⟩, rfl⟩
    refine ⟨?_, ?_, ?_, ?_, ?_⟩
    · exact (required_valueOf hpid' hpid).imp fun v hv =>
        ⟨parseU32Decimal_ok.mp (nonzero_ok.mp hv).1, (nonzero_ok.mp hv).2⟩
    · exact (required_valueOf hmode' hmode).imp fun v hv => parseBindMode_ok.mp hv
    · exact (optional_valueOf huid).imp fun v hv => ⟨parseU32Decimal_ok.mp hv.1, hv.2⟩
    · exact (optional_valueOf hcomm).imp fun v hv => ⟨parseComm_ok.mp hv.1, hv.2⟩
    · exact (optional_valueOf hstart).imp fun v hv => ⟨parseU64Decimal_ok.mp hv.1, hv.2⟩

/-- `spz_parse_bind`. -/
lemma parseBind_ok :
    parseBind (verb :: args) = .ok command ↔ ∃ given c,
      IsArgs args ["pid", "mode", "uid", "comm", "start"] given ∧ BindMeans given c ∧
        command = .bind c := by
  have hloop : ∀ result,
      parseKeys bindKeys args 0 { pid := 0, mode := .invalid } = .ok result ↔ _ :=
    fun _ => bindKeys_lawful.parse
  unfold parseBind
  rw [tail_cons, length_cons]
  constructor
  · intro h
    split_ifs at h
    cases hkeys : parseKeys bindKeys args 0 { pid := 0, mode := .invalid } with
    | error e =>
      rw [hkeys] at h
      cases h
    | ok result =>
      obtain ⟨given, hargs, hparse, rfl⟩ := (hloop _).mp hkeys
      rw [hkeys] at h
      dsimp only at h
      split_ifs at h with hseen
      cases h
      exact ⟨given, _, hargs,
        bindMeans_iff.mpr ⟨hparse, (bindKeys_seen given).mp (not_not.mp hseen), rfl⟩, rfl⟩
  · rintro ⟨given, c, hargs, hmeans, rfl⟩
    obtain ⟨hparse, hrequired, rfl⟩ := bindMeans_iff.mp hmeans
    have hle : args.length ≤ 5 := hargs.length_le
    have hge : ["pid", "mode"].length ≤ args.length :=
      hargs.le_length (by decide) (by simpa using hrequired)
    rw [length_cons, length_cons, length_nil] at hge
    rw [if_neg (by omega), (hloop _).mpr ⟨given, hargs, hparse, rfl⟩]
    dsimp only
    rw [if_neg (not_not_intro ((bindKeys_seen given).mpr hrequired))]

/-! ## `break` -/

def breakBuild (f : Assignment) : BreakCommand where
  id := valueOf (fun v => parseU32Decimal v >>= nonzero) 0 (f "id")
  kind := valueOf parseBreakKind .invalid (f "kind")
  address := valueOf parseU64Hex 0 (f "addr")
  length := valueOf parseU8Decimal 0 (f "len")
  mode := valueOf parseBreakMode .invalid (f "mode")

lemma breakKeys_lawful : LawfulKeys breakKeys breakBuild where
  build_set := by
    intro key hkey f v set hparse
    simp only [breakKeys, mem_cons, not_mem_nil, or_false] at hkey
    rcases hkey with rfl | rfl | rfl | rfl | rfl <;>
      obtain ⟨x, hx, rfl⟩ := map_eq_ok.mp hparse <;>
      simp [breakBuild, valueOf, hx]

lemma breakKeys_seen (f : Assignment) :
    seenOf breakKeys f = 1 <<< 0 ||| 1 <<< 1 ||| 1 <<< 2 ||| 1 <<< 3 ||| 1 <<< 4 ↔
      (f "id").isSome = true ∧ (f "kind").isSome = true ∧ (f "addr").isSome = true ∧
        (f "len").isSome = true ∧ (f "mode").isSome = true := by
  simp only [seenOf, breakKeys, foldr_cons, foldr_nil, bitOf]
  cases (f "id").isSome <;> cases (f "kind").isSome <;> cases (f "addr").isSome <;>
    cases (f "len").isSome <;> cases (f "mode").isSome <;> decide

/-- The bytes do not leave their doubleword. -/
lemma same_doubleword {address : U64} {length : U8} (hhigh : address.toNat < 2 ^ 56)
    (hpos : 0 < length.toNat) (hlen : length.toNat ≤ 8) :
    ¬ (address + length.setWidth 64 - 1 < address ∨
        address >>> 3 ≠ (address + length.setWidth 64 - 1) >>> 3) ↔
      address.toNat % 8 + length.toNat ≤ 8 := by
  have hlast : (address + length.setWidth 64 - 1).toNat = address.toNat + length.toNat - 1 := by
    rw [BitVec.toNat_sub, BitVec.toNat_add, BitVec.toNat_setWidth,
      show (1 : U64).toNat = 1 from rfl]
    omega
  rw [not_or, not_not, BitVec.lt_def, ← BitVec.toNat_inj, BitVec.toNat_ushiftRight,
    BitVec.toNat_ushiftRight, hlast, Nat.shiftRight_eq_div_pow, Nat.shiftRight_eq_div_pow]
  omega

/-- The tests on the complete command. -/
lemma checkBreak_ok (c : BreakCommand) :
    checkBreak c = .ok () ↔ Placeable c.kind c.address c.length := by
  have hhigh : c.address >>> 56 ≠ 0 ↔ ¬ c.address.toNat < 2 ^ 56 := by
    rw [ne_eq, ← BitVec.toNat_inj, BitVec.toNat_ushiftRight, Nat.shiftRight_eq_div_pow,
      show (0 : U64).toNat = 0 from rfl]
    omega
  have hfour : c.address &&& 3 ≠ 0 ↔ ¬ c.address.toNat % 4 = 0 := by
    rw [ne_eq, ← BitVec.toNat_inj, BitVec.toNat_and, show (3 : U64).toNat = 2 ^ 2 - 1 from rfl,
      Nat.and_two_pow_sub_one_eq_mod]
    rfl
  unfold checkBreak
  by_cases hrange : c.address = 0 ∨ c.address >>> 56 ≠ 0
  · rw [if_pos hrange]
    simp only [reduceCtorEq, false_iff]
    rintro ⟨hpos, hlt, -, -⟩
    rcases hrange with hzero | hbits
    · exact hpos hzero
    · exact hhigh.mp hbits hlt
  rw [if_neg hrange]
  rw [not_or, hhigh, not_not] at hrange
  by_cases hkind : c.kind = .execute
  · rw [if_pos hkind]
    split_ifs with hbad
    · simp only [false_iff]
      intro h
      obtain ⟨hlen, hmod⟩ := h.execute hkind
      rcases hbad with hbad | hbad
      · exact hbad hlen
      · exact hfour.mp hbad hmod
    · rw [not_or, not_not, hfour, not_not] at hbad
      simp only [true_iff]
      exact ⟨hrange.1, hrange.2, fun _ => hbad, fun h => absurd hkind h⟩
  rw [if_neg hkind]
  by_cases hlength : c.length ≠ 1 ∧ c.length ≠ 2 ∧ c.length ≠ 4 ∧ c.length ≠ 8
  · rw [if_pos hlength]
    simp only [reduceCtorEq, false_iff]
    intro h
    obtain ⟨h1, h2, h3, h4⟩ := hlength
    rcases (h.data hkind).1 with h | h | h | h
    · exact h1 h
    · exact h2 h
    · exact h3 h
    · exact h4 h
  rw [if_neg hlength]
  have hlengths : c.length = 1 ∨ c.length = 2 ∨ c.length = 4 ∨ c.length = 8 := by tauto
  have hbounds : 0 < c.length.toNat ∧ c.length.toNat ≤ 8 := by
    rcases hlengths with h | h | h | h <;> rw [h] <;> decide
  have hword := same_doubleword hrange.2 hbounds.1 hbounds.2
  dsimp only
  split_ifs with hleaves
  · simp only [false_iff]
    intro h
    exact hword.mpr (h.data hkind).2 hleaves
  · simp only [true_iff]
    exact ⟨hrange.1, hrange.2, fun h => absurd h hkind, fun _ => ⟨hlengths, hword.mp hleaves⟩⟩

/-- As for `bind`, with the check of address, length and kind. -/
lemma breakMeans_iff {c : BreakCommand} :
    BreakMeans given c ↔
      (∀ key ∈ breakKeys, ∀ v, given key.name = some v → ∃ set, key.parse v = .ok set) ∧
      ((given "id").isSome = true ∧ (given "kind").isSome = true ∧ (given "addr").isSome = true ∧
        (given "len").isSome = true ∧ (given "mode").isSome = true) ∧ c = breakBuild given ∧
      checkBreak c = .ok () := by
  rw [checkBreak_ok]
  simp only [breakKeys, forall_mem_cons, exists_map_ok]
  constructor
  · rintro ⟨hid, hkind, haddr, hlen, hmode, hplace⟩
    have hid' := hid.imp fun v hv => nonzero_ok.mpr ⟨parseU32Decimal_ok.mpr hv.1, hv.2⟩
    have hkind' := hkind.imp fun v hv => parseBreakKind_ok.mpr hv
    have haddr' := haddr.imp fun v hv => parseU64Hex_ok.mpr hv
    have hlen' := hlen.imp fun v hv => parseU8Decimal_ok.mpr hv
    have hmode' := hmode.imp fun v hv => parseBreakMode_ok.mpr hv
    refine ⟨⟨hid'.parses, hkind'.parses, haddr'.parses, hlen'.parses, hmode'.parses, by simp⟩,
      ⟨hid.isSome, hkind.isSome, haddr.isSome, hlen.isSome, hmode.isSome⟩, ?_, hplace⟩
    rw [breakBuild, hid'.valueOf_eq, hkind'.valueOf_eq, haddr'.valueOf_eq, hlen'.valueOf_eq,
      hmode'.valueOf_eq]
  · rintro ⟨⟨hid, hkind, haddr, hlen, hmode, -⟩, ⟨hid', hkind', haddr', hlen', hmode'⟩, rfl, hplace⟩
    refine ⟨?_, ?_, ?_, ?_, ?_, hplace⟩
    · exact (required_valueOf hid' hid).imp fun v hv =>
        ⟨parseU32Decimal_ok.mp (nonzero_ok.mp hv).1, (nonzero_ok.mp hv).2⟩
    · exact (required_valueOf hkind' hkind).imp fun v hv => parseBreakKind_ok.mp hv
    · exact (required_valueOf haddr' haddr).imp fun v hv => parseU64Hex_ok.mp hv
    · exact (required_valueOf hlen' hlen).imp fun v hv => parseU8Decimal_ok.mp hv
    · exact (required_valueOf hmode' hmode).imp fun v hv => parseBreakMode_ok.mp hv

/-- `spz_parse_break`. -/
lemma parseBreak_ok :
    parseBreak (verb :: args) = .ok command ↔ ∃ given c,
      IsArgs args ["id", "kind", "addr", "len", "mode"] given ∧ BreakMeans given c ∧
        command = .break c := by
  have hloop : ∀ result, parseKeys breakKeys args 0
      { id := 0, kind := .invalid, address := 0, length := 0, mode := .invalid } = .ok result ↔ _ :=
    fun _ => breakKeys_lawful.parse
  unfold parseBreak
  rw [tail_cons, length_cons]
  constructor
  · intro h
    split_ifs at h
    cases hkeys : parseKeys breakKeys args 0
        { id := 0, kind := .invalid, address := 0, length := 0, mode := .invalid } with
    | error e =>
      rw [hkeys] at h
      cases h
    | ok result =>
      obtain ⟨given, hargs, hparse, rfl⟩ := (hloop _).mp hkeys
      rw [hkeys] at h
      dsimp only at h
      split_ifs at h with hseen
      obtain ⟨_, hcheck, rfl⟩ := map_eq_ok.mp h
      exact ⟨given, _, hargs, breakMeans_iff.mpr
        ⟨hparse, (breakKeys_seen given).mp (not_not.mp hseen), rfl, hcheck⟩, rfl⟩
  · rintro ⟨given, c, hargs, hmeans, rfl⟩
    obtain ⟨hparse, hrequired, rfl, hcheck⟩ := breakMeans_iff.mp hmeans
    have hle : args.length ≤ 5 := hargs.length_le
    have hge : ["id", "kind", "addr", "len", "mode"].length ≤ args.length :=
      hargs.le_length (by decide) (by simpa using hrequired)
    have hcount : args.length = 5 := Nat.le_antisymm hle hge
    rw [if_neg (by omega), (hloop _).mpr ⟨given, hargs, hparse, rfl⟩]
    dsimp only
    rw [if_neg (not_not_intro ((breakKeys_seen given).mpr hrequired)), hcheck]
    rfl

/-! ## `maps-read` -/

def mapsReadBuild (f : Assignment) : MapsReadCommand where
  snapshot := valueOf (fun v => parseU64Decimal v >>= nonzero) 0 (f "snapshot")
  offset := valueOf parseU32Decimal 0 (f "offset")

lemma mapsReadKeys_lawful : LawfulKeys mapsReadKeys mapsReadBuild where
  build_set := by
    intro key hkey f v set hparse
    simp only [mapsReadKeys, mem_cons, not_mem_nil, or_false] at hkey
    rcases hkey with rfl | rfl <;> obtain ⟨x, hx, rfl⟩ := map_eq_ok.mp hparse <;>
      simp [mapsReadBuild, valueOf, hx]

lemma mapsReadKeys_seen (f : Assignment) :
    seenOf mapsReadKeys f = 1 <<< 0 ||| 1 <<< 1 ↔
      (f "snapshot").isSome = true ∧ (f "offset").isSome = true := by
  simp only [seenOf, mapsReadKeys, foldr_cons, foldr_nil, bitOf]
  cases (f "snapshot").isSome <;> cases (f "offset").isSome <;> decide

/-- As for `bind`, with both keys required. -/
lemma mapsReadMeans_iff {snapshot : U64} {offset : U32} :
    MapsReadMeans given snapshot offset ↔
      (∀ key ∈ mapsReadKeys, ∀ v, given key.name = some v → ∃ set, key.parse v = .ok set) ∧
      ((given "snapshot").isSome = true ∧ (given "offset").isSome = true) ∧
      snapshot = (mapsReadBuild given).snapshot ∧ offset = (mapsReadBuild given).offset := by
  simp only [mapsReadKeys, forall_mem_cons, exists_map_ok]
  constructor
  · rintro ⟨hsnapshot, hoffset⟩
    have hsnapshot' := hsnapshot.imp fun v hv =>
      nonzero_ok.mpr ⟨parseU64Decimal_ok.mpr hv.1, hv.2⟩
    have hoffset' := hoffset.imp fun v hv => parseU32Decimal_ok.mpr hv
    exact ⟨⟨hsnapshot'.parses, hoffset'.parses, by simp⟩, ⟨hsnapshot.isSome, hoffset.isSome⟩,
      hsnapshot'.valueOf_eq.symm, hoffset'.valueOf_eq.symm⟩
  · rintro ⟨⟨hsnapshot, hoffset, -⟩, ⟨hsnapshot', hoffset'⟩, rfl, rfl⟩
    refine ⟨?_, ?_⟩
    · exact (required_valueOf hsnapshot' hsnapshot).imp fun v hv =>
        ⟨parseU64Decimal_ok.mp (nonzero_ok.mp hv).1, (nonzero_ok.mp hv).2⟩
    · exact (required_valueOf hoffset' hoffset).imp fun v hv => parseU32Decimal_ok.mp hv

/-- `spz_parse_maps_read`. -/
lemma parseMapsRead_ok :
    parseMapsRead (verb :: args) = .ok command ↔ ∃ given snapshot offset,
      IsArgs args ["snapshot", "offset"] given ∧ MapsReadMeans given snapshot offset ∧
        command = .mapsRead snapshot offset := by
  have hloop : ∀ result, parseKeys mapsReadKeys args 0 {} = .ok result ↔ _ :=
    fun _ => mapsReadKeys_lawful.parse
  unfold parseMapsRead
  rw [tail_cons, length_cons]
  constructor
  · intro h
    split_ifs at h
    cases hkeys : parseKeys mapsReadKeys args 0 {} with
    | error e =>
      rw [hkeys] at h
      cases h
    | ok result =>
      obtain ⟨given, hargs, hparse, rfl⟩ := (hloop _).mp hkeys
      rw [hkeys] at h
      dsimp only at h
      split_ifs at h with hseen
      cases h
      exact ⟨given, _, _, hargs, mapsReadMeans_iff.mpr
        ⟨hparse, (mapsReadKeys_seen given).mp (not_not.mp hseen), rfl, rfl⟩, rfl⟩
  · rintro ⟨given, snapshot, offset, hargs, hmeans, rfl⟩
    obtain ⟨hparse, hrequired, rfl, rfl⟩ := mapsReadMeans_iff.mp hmeans
    have hle : args.length ≤ 2 := hargs.length_le
    have hge : ["snapshot", "offset"].length ≤ args.length :=
      hargs.le_length (by decide) (by simpa using hrequired)
    have hcount : args.length = 2 := Nat.le_antisymm hle hge
    rw [if_neg (by omega), (hloop _).mpr ⟨given, hargs, hparse, rfl⟩]
    dsimp only
    rw [if_neg (not_not_intro ((mapsReadKeys_seen given).mpr hrequired))]

end Spz
