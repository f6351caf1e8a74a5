import Stackplz.Lib.Tokens
import Stackplz.Text.Parse

/-!
# What the pieces of the parser accept

The loops of the command parser, each characterised by what it accepts: numbers (`parseDecimal_ok`,
`parseU64Hex_ok`), a key with its value (`splitKeyValue_ok`), and a line of tokens (`tokenize_ok`).
-/

namespace Spz

open Errno Numerals Tokens List

/-! ## Numbers -/

/-- The test before the multiplication is the right one: the loop is the scanner for the bound
`2 ^ 64 - 1`. -/
lemma parseDigits_eq_scan {base : ℕ} (hlow : 0 < base) (hhigh : base ≤ 16) (value : ℕ) (s : List U8)
    : parseDigits base value s = scan base (2 ^ 64 - 1) EINVAL ERANGE value s := by
  induction s generalizing value with
  | nil => rfl
  | cons b bs ih =>
    simp only [parseDigits, scan]
    cases hd : digit? base b with
    | none => rfl
    | some d =>
      have hd' := (digit?_eq_some.mp hd).2
      have hiff : value > (2 ^ 64 - 1 - d) / base ↔ ¬ value * base + d ≤ 2 ^ 64 - 1 := by
        rw [gt_iff_lt, Nat.div_lt_iff_lt_mul hlow]
        omega
      dsimp only
      rw [ih]
      by_cases hle : value * base + d ≤ 2 ^ 64 - 1
      · rw [if_pos hle, if_neg (fun hgt => hiff.mp hgt hle)]
      · rw [if_neg hle, if_pos (hiff.mpr hle)]

variable {x : U64} {token input : List U8} {tokens : List (List U8)}

lemma parseDigits_ok {base : ℕ} (hlow : 0 < base) (hhigh : base ≤ 16) {s : List U8} (hs : s ≠ []) :
    (parseDigits base 0 s).map (BitVec.ofNat 64) = .ok x ↔ Denotes base s x.toNat := by
  rw [parseDigits_eq_scan hlow hhigh]
  constructor
  · intro h
    cases hscan : scan base (2 ^ 64 - 1) EINVAL ERANGE 0 s with
    | error e =>
      rw [hscan] at h
      cases h
    | ok v =>
      obtain ⟨ds, hds, hvalue, hle⟩ := (scan_eq_ok hlow (Nat.zero_le _) s).mp hscan
      rw [hscan] at h
      cases h
      rw [BitVec.toNat_ofNat, Nat.mod_eq_of_lt (by omega)]
      exact ⟨hs, ds, hds, hvalue⟩
  · rintro ⟨-, ds, hds, hvalue⟩
    have hlt := x.isLt
    rw [(scan_eq_ok hlow (Nat.zero_le _) s).mpr ⟨ds, hds, hvalue, by omega⟩]
    exact congrArg Except.ok (BitVec.ofNat_toNat 64 x ▸ BitVec.setWidth_eq x)

lemma parseU64Decimal_ok : parseU64Decimal token = .ok x ↔ Denotes 10 token x.toNat := by
  unfold parseU64Decimal
  split_ifs with hnil
  · simp [Denotes, length_eq_zero_iff.mp hnil]
  · exact parseDigits_ok (by decide) (by decide) fun h => hnil (by rw [h]; rfl)

/-- A decimal number of a width is accepted if and only if it fits. -/
lemma parseDecimal_ok {w : ℕ} (hw : w ≤ 64) {x : BitVec w} :
    parseDecimal w token = .ok x ↔ Denotes 10 token x.toNat := by
  have hx := x.isLt
  have hpow : 2 ^ w ≤ 2 ^ 64 := Nat.pow_le_pow_right (by decide) hw
  unfold parseDecimal
  constructor
  · intro h
    cases hwide : parseU64Decimal token with
    | error e =>
      rw [hwide] at h
      cases h
    | ok value =>
      rw [hwide] at h
      dsimp only at h
      split_ifs at h with hfits
      cases h
      have hdenotes := parseU64Decimal_ok.mp hwide
      rwa [BitVec.toNat_setWidth, Nat.mod_eq_of_lt (by omega)]
  · intro h
    have hvalue : (BitVec.ofNat 64 x.toNat).toNat = x.toNat := by
      rw [BitVec.toNat_ofNat, Nat.mod_eq_of_lt (by omega)]
    rw [parseU64Decimal_ok.mpr (hvalue.symm ▸ h : Denotes 10 token (BitVec.ofNat 64 x.toNat).toNat)]
    dsimp only
    rw [if_neg (by omega)]
    refine congrArg Except.ok (BitVec.eq_of_toNat_eq ?_)
    rw [BitVec.toNat_setWidth, hvalue, Nat.mod_eq_of_lt hx]

lemma parseU64Hex_ok :
    parseU64Hex token = .ok x ↔
      ∃ digits, token = ascii "0x" ++ digits ∧ Denotes 16 digits x.toNat := by
  unfold parseU64Hex
  split_ifs with hbad
  · simp only [false_iff, not_exists, not_and]
    rintro digits rfl ⟨hne, -⟩
    rcases hbad with hshort | hmark
    · have hlen : (ascii "0x" ++ digits).length = 2 + digits.length := length_append
      have hpos := length_pos_iff.mpr hne
      omega
    · exact hmark rfl
  · rw [not_or, not_lt, not_not] at hbad
    have hne : token.drop 2 ≠ [] := by
      intro h
      have := congrArg List.length h
      rw [length_drop, length_nil] at this
      omega
    rw [parseDigits_ok (by decide) (by decide) hne]
    constructor
    · intro h
      exact ⟨token.drop 2, by rw [← hbad.2, take_append_drop], h⟩
    · rintro ⟨digits, rfl, h⟩
      exact h

/-! ## Keys and values -/

lemma findSeparator_none (h : equals ∉ token) (i : ℕ) (found : Option ℕ) :
    findSeparator i found token = .ok found := by
  induction token generalizing i with
  | nil => rfl
  | cons b bs ih =>
    rw [mem_cons, not_or] at h
    rw [findSeparator, if_pos (Ne.symm h.1), ih h.2]

lemma findSeparator_again (h : equals ∈ token) (i j : ℕ) :
    findSeparator i (some j) token = .error EINVAL := by
  induction token generalizing i with
  | nil => cases h
  | cons b bs ih =>
    rw [findSeparator]
    by_cases hb : b = equals
    · rw [if_neg (not_not_intro hb)]
      rfl
    · rw [if_pos hb, ih ((mem_cons.mp h).resolve_left (Ne.symm hb))]

lemma findSeparator_first {key : List U8} (h : equals ∉ key) (value : List U8) (i : ℕ) :
    findSeparator i none (key ++ equals :: value) =
      findSeparator (i + key.length + 1) (some (i + key.length)) value := by
  induction key generalizing i with
  | nil => rfl
  | cons b bs ih =>
    rw [mem_cons, not_or] at h
    rw [cons_append, findSeparator, if_pos (Ne.symm h.1), ih h.2, length_cons]
    congr 2 <;> omega

/-- A token that is a key and a value. -/
structure IsPair (token key value : List U8) : Prop where
  eq : token = key ++ equals :: value
  key_ne : key ≠ []
  value_ne : value ≠ []
  key_plain : equals ∉ key
  value_plain : equals ∉ value

/-- `spz_split_key_value` accepts exactly the pairs. -/
lemma splitKeyValue_ok {key value : List U8} :
    splitKeyValue token = .ok (key, value) ↔ IsPair token key value := by
  by_cases hmem : equals ∈ token
  · obtain ⟨k, v, rfl, hk⟩ := eq_append_cons_of_mem hmem
    by_cases hv : equals ∈ v
    · -- a second one
      have hleft : splitKeyValue (k ++ equals :: v) = .error EINVAL := by
        rw [splitKeyValue, findSeparator_first hk, findSeparator_again hv]
      rw [hleft]
      simp only [reduceCtorEq, false_iff]
      intro h
      have hcount := congrArg (List.count equals) h.eq
      rw [count_append, count_append, count_cons_self, count_cons_self,
        count_eq_zero_of_not_mem h.key_plain, count_eq_zero_of_not_mem h.value_plain]
        at hcount
      have hpos := count_pos_iff.mpr hv
      omega
    · have hunique : ∀ key value, k ++ equals :: v = key ++ equals :: value →
          key = k ∧ value = v := by
        intro key value heq
        obtain ⟨h1, -, h2⟩ := (append_cons_inj_of_notMem hk hv).mp heq
        exact ⟨h1.symm, h2.symm⟩
      have hdrop : (k ++ equals :: v).drop (k.length + 1) = v := by simp
      simp only [splitKeyValue, findSeparator_first hk, findSeparator_none hv, Option.getD_some,
        Nat.zero_add, take_left', hdrop, length_append, length_cons]
      split_ifs with hbad
      · simp
        intro h
        obtain ⟨rfl, rfl⟩ := hunique key value h.eq
        have := length_pos_iff.mpr h.key_ne
        have := length_pos_iff.mpr h.value_ne
        omega
      · rw [not_or] at hbad
        constructor
        · intro h
          cases h
          refine ⟨rfl, ?_, ?_, hk, hv⟩
          · rintro rfl
            exact hbad.1 rfl
          · rintro rfl
            simp at hbad
        · intro h
          obtain ⟨rfl, rfl⟩ := hunique key value h.eq
          rfl
  · have hleft : splitKeyValue token = .error EINVAL := by
      rw [splitKeyValue, findSeparator_none hmem]
      simp
    rw [hleft]
    simp only [reduceCtorEq, false_iff]
    intro h
    exact hmem (h.eq ▸ mem_append_right _ mem_cons_self)

/-! ## Lines -/

/-- The loop cuts the text at its spaces. -/
lemma tokenizeLoop_ok (htoken : space ∉ token) {found : List (List U8)} {rest : List U8} :
    tokenizeLoop token found rest = .ok tokens ↔
      (∀ b ∈ rest, 0x20 ≤ b.toNat ∧ b.toNat ≤ 0x7e) ∧
      tokens = found ++ List.splitOn space (token ++ rest) ∧ tokens.length ≤ maxTokens ∧
      ∀ t ∈ (List.splitOn space (token ++ rest)).dropLast, t ≠ [] := by
  induction rest generalizing token found with
  | nil =>
    rw [append_nil, splitOn_eq_singleton htoken]
    simp only [tokenizeLoop]
    split_ifs with hfull
    · simp only [false_iff]
      rintro ⟨-, rfl, hle, -⟩
      rw [length_append, length_singleton] at hle
      omega
    · rw [Except.ok.injEq]
      constructor
      · rintro rfl
        refine ⟨by simp, rfl, ?_, by simp⟩
        rw [length_append, length_singleton]
        omega
      · rintro ⟨-, rfl, -⟩
        rfl
  | cons b rest ih =>
    simp only [tokenizeLoop]
    by_cases hprint : b.toNat < 0x20 ∨ b.toNat > 0x7e
    · rw [if_pos hprint]
      simp only [reduceCtorEq, false_iff]
      rintro ⟨hall, -⟩
      have := hall b mem_cons_self
      omega
    rw [if_neg hprint, forall_mem_cons]
    have hb : 0x20 ≤ b.toNat ∧ b.toNat ≤ 0x7e := by omega
    by_cases hspace : b = space
    · subst hspace
      rw [if_neg (not_not_intro rfl), splitOn_append_cons_self_of_not_mem htoken]
      have hne : List.splitOn space rest ≠ [] := splitOn_ne_nil _ _
      by_cases hempty : token = []
      · rw [if_pos hempty]
        simp only [reduceCtorEq, false_iff]
        rintro ⟨-, -, -, hall⟩
        rw [dropLast_cons_of_ne_nil hne] at hall
        exact hall token mem_cons_self hempty
      rw [if_neg hempty]
      split_ifs with hfull
      · simp only [false_iff]
        rintro ⟨-, rfl, hle, -⟩
        rw [length_append, length_cons] at hle
        omega
      · rw [ih not_mem_nil, nil_append, dropLast_cons_of_ne_nil hne,
          forall_mem_cons, append_assoc, singleton_append]
        tauto
    · rw [if_pos hspace, ih (by simp [htoken, Ne.symm hspace]), append_assoc, singleton_append]
      tauto

/-- A line of at most eight tokens of printable characters, with single spaces between them. -/
structure IsLine (input : List U8) (tokens : List (List U8)) : Prop where
  joined : input = [space].intercalate tokens
  ne : tokens ≠ []
  few : tokens.length ≤ maxTokens
  graphic : ∀ t ∈ tokens, t ≠ [] ∧ ∀ b ∈ t, Graphic b

lemma IsLine.splitOn (h : IsLine input tokens) : List.splitOn space input = tokens := by
  have hplain : ∀ t ∈ tokens, space ∉ t := fun t ht hmem =>
    ((h.graphic t ht).2 _ hmem).ne_space rfl
  rw [h.joined, splitOn_intercalate _ hplain h.ne]

lemma IsLine.input_ne (h : IsLine input tokens) : input ≠ [] := by
  obtain ⟨t, ts, rfl⟩ := exists_cons_of_ne_nil h.ne
  have ht := (h.graphic t mem_cons_self).1
  rw [h.joined, intercalate_cons_flatMap]
  exact append_ne_nil_of_left_ne_nil ht _

/-- `spz_tokenize` accepts exactly the lines. -/
lemma tokenize_ok (hinput : input ≠ []) : tokenize input = .ok tokens ↔ IsLine input tokens := by
  unfold tokenize
  constructor
  · intro h
    split_ifs at h with hends
    rw [not_or] at hends
    obtain ⟨hprint, htokens, hfew, hfirst⟩ := (tokenizeLoop_ok not_mem_nil).mp h
    rw [nil_append, nil_append] at htokens
    rw [nil_append] at hfirst
    have hjoined : input = [space].intercalate tokens := by
      rw [htokens, intercalate_splitOn]
    have hne : tokens ≠ [] := htokens ▸ splitOn_ne_nil _ _
    refine ⟨hjoined, hne, hfew, fun t ht => ⟨?_, fun b hb => ?_⟩⟩
    · -- only the last token could be empty, and then the line would end in a space
      rintro rfl
      obtain ⟨init, last, rfl⟩ := eq_nil_or_concat tokens |>.resolve_left hne
      rw [concat_eq_append] at *
      rw [← htokens, dropLast_concat] at hfirst
      rcases mem_append.mp ht with ht | ht
      · exact hfirst _ ht rfl
      · rw [mem_singleton] at ht
        subst ht
        by_cases hinit : init = []
        · subst hinit
          exact hinput hjoined
        · rw [hjoined, getLast?_intercalate_nil hinit] at hends
          exact hends.2 rfl
    · rw [htokens] at ht
      obtain ⟨hmem, hneq⟩ := mem_splitOn ht hb
      have := hprint b hmem
      have hspace : b.toNat ≠ 0x20 := fun h => hneq (BitVec.eq_of_toNat_eq h)
      unfold Graphic
      omega
  · intro h
    have hplain : ∀ t ∈ tokens, space ∉ t := fun t ht hmem =>
      ((h.graphic t ht).2 _ hmem).ne_space rfl
    have hsplit : List.splitOn space input = tokens := by
      rw [h.joined, splitOn_intercalate _ hplain h.ne]
    have hgraphic : ∀ t ∈ tokens, ∀ b, t.head? = some b ∨ t.getLast? = some b → b ≠ space := by
      rintro t ht b (hb | hb)
      · exact ((h.graphic t ht).2 b (mem_of_mem_head? hb)).ne_space
      · exact ((h.graphic t ht).2 b (mem_of_getLast? hb)).ne_space
    have hends : ¬ (input.head? = some space ∨ input.getLast? = some space) := by
      rintro (hhead | hlast)
      · obtain ⟨t, ts, rfl⟩ := exists_cons_of_ne_nil h.ne
        have ht := mem_cons_self (a := t) (l := ts)
        rw [h.joined, head?_intercalate (h.graphic t ht).1] at hhead
        exact hgraphic t ht _ (.inl hhead) rfl
      · obtain ⟨ts, t, rfl⟩ := eq_nil_or_concat tokens |>.resolve_left h.ne
        rw [concat_eq_append] at *
        have ht : t ∈ ts ++ [t] := by simp
        rw [h.joined, getLast?_intercalate (h.graphic t ht).1] at hlast
        exact hgraphic t ht _ (.inr hlast) rfl
    rw [if_neg hends, tokenizeLoop_ok not_mem_nil]
    refine ⟨fun b hb => ?_, by simp [hsplit], h.few, fun t ht => ?_⟩
    · rw [h.joined] at hb
      rcases mem_intercalate hb with rfl | ⟨t, ht, hbt⟩
      · decide
      · have := (h.graphic t ht).2 b hbt
        unfold Graphic at this
        omega
    · rw [nil_append, hsplit] at ht
      exact (h.graphic t (dropLast_subset _ ht)).1

end Spz
