import Stackplz.Client.Command

/-!
# From the client to the module

The commands that the client sends are read back by `spz_parse_command` as they were meant
(`command_round_trip`), and the three places that test a breakpoint, `BreakCommand`,
`spz_parse_break` and `spz_debug_validate_request`, agree on every one (`validators_agree`).
-/

namespace Spz.Client

open Errno Numerals List

/-! ## `break` -/

/-- The pairs of a `break` text. -/
def breakPairs (b : Breakpoint) : List (String × List U8) :=
  [("id", decimal b.id), ("kind", b.kind), ("addr", ascii "0x" ++ numeral 16 b.address.toNat),
    ("len", decimal b.length), ("mode", b.mode)]

lemma breakText_eq (b : Breakpoint) : breakText b = pairsText "break" (breakPairs b) := by
  have hid : ascii "break id=" = ascii "break" ++ space :: (ascii "id" ++ [equals]) := rfl
  have hkind : ascii " kind=" = space :: (ascii "kind" ++ [equals]) := rfl
  have haddr : ascii " addr=0x" = space :: (ascii "addr" ++ equals :: ascii "0x") := rfl
  have hlen : ascii " len=" = space :: (ascii "len" ++ [equals]) := rfl
  have hmode : ascii " mode=" = space :: (ascii "mode" ++ [equals]) := rfl
  rw [pairsText_eq, breakText, hid, hkind, haddr, hlen, hmode, breakPairs]
  simp

/-- The command that the text of a breakpoint denotes. -/
def breakMeaning (b : Breakpoint) (kind : BreakKind) (mode : BreakMode) : BreakCommand :=
  ⟨b.id, kind, b.address, b.length, mode⟩

/-- A breakpoint that can be set: its words mean something, and so does its place. -/
structure Settable (b : Breakpoint) (kind : BreakKind) (mode : BreakMode) : Prop where
  id_ne : b.id ≠ 0
  kind_word : (b.kind, kind) ∈ breakKindWords
  mode_word : (b.mode, mode) ∈ breakModeWords
  place : Placeable kind b.address b.length

variable {v : List U8} {kind : BreakKind} {mode : BreakMode} {b : Breakpoint} {command : Command}

lemma breakKind_word (h : (v, kind) ∈ breakKindWords) :
    v ≠ [] ∧ (∀ b ∈ v, Graphic b) ∧ equals ∉ v ∧ v.length ≤ 2 ∧ kind ≠ .invalid := by
  have hall : ∀ p ∈ breakKindWords, p.1 ≠ [] ∧ (∀ b ∈ p.1, Graphic b) ∧ equals ∉ p.1 ∧
      p.1.length ≤ 2 ∧ p.2 ≠ .invalid := by
    simp [breakKindWords, ascii, Graphic, equals]
  exact hall _ h

lemma breakMode_word (h : (v, mode) ∈ breakModeWords) :
    v ≠ [] ∧ (∀ b ∈ v, Graphic b) ∧ equals ∉ v ∧ v.length ≤ 6 ∧ mode ≠ .invalid := by
  have hall : ∀ p ∈ breakModeWords, p.1 ≠ [] ∧ (∀ b ∈ p.1, Graphic b) ∧ equals ∉ p.1 ∧
      p.1.length ≤ 6 ∧ p.2 ≠ .invalid := by
    simp [breakModeWords, ascii, Graphic, equals]
  exact hall _ h

lemma breakKind_known (h : (v, kind) ∈ breakKindWords) :
    ¬ (v ≠ ascii "x" ∧ v ≠ ascii "r" ∧ v ≠ ascii "w" ∧ v ≠ ascii "rw") := by
  simp only [breakKindWords, mem_cons, Prod.mk.injEq, not_mem_nil, or_false] at h
  rintro ⟨hx, hr, hw, hrw⟩
  rcases h with ⟨rfl, -⟩ | ⟨rfl, -⟩ | ⟨rfl, -⟩ | ⟨rfl, -⟩
  · exact hx rfl
  · exact hr rfl
  · exact hw rfl
  · exact hrw rfl

lemma breakMode_known (h : (v, mode) ∈ breakModeWords) :
    ¬ (v ≠ ascii "once" ∧ v ≠ ascii "repeat") := by
  simp only [breakModeWords, mem_cons, Prod.mk.injEq, not_mem_nil, or_false] at h
  rintro ⟨honce, hrepeat⟩
  rcases h with ⟨rfl, -⟩ | ⟨rfl, -⟩
  · exact honce rfl
  · exact hrepeat rfl

lemma breakKind_execute (h : (v, kind) ∈ breakKindWords) : v = ascii "x" ↔ kind = .execute := by
  simp only [breakKindWords, mem_cons, Prod.mk.injEq, not_mem_nil, or_false] at h
  rcases h with ⟨rfl, rfl⟩ | ⟨rfl, rfl⟩ | ⟨rfl, rfl⟩ | ⟨rfl, rfl⟩ <;> simp [ascii]

lemma breakCommand_check (hid : b.id ≠ 0)
    (hkind : (b.kind, kind) ∈ breakKindWords) (hmode : (b.mode, mode) ∈ breakModeWords) :
    (∃ text, breakCommand b = .ok text) ↔ checkBreak (breakMeaning b kind mode) = .ok () := by
  rw [breakCommand, if_neg hid, if_neg (breakKind_known hkind), if_neg (breakMode_known hmode)]
  change _ ↔ checkBreak ⟨b.id, kind, b.address, b.length, mode⟩ = .ok ()
  simp only [checkBreak, breakKind_execute hkind]
  by_cases haddr : b.address = 0 ∨ b.address >>> 56 ≠ 0
  · rw [if_pos haddr, if_pos haddr]
    simp
  rw [if_neg haddr, if_neg haddr]
  by_cases hexec : kind = .execute
  · rw [if_pos hexec, if_pos hexec]
    by_cases hlen : b.length = 4#8 <;> by_cases halign : b.address &&& 3#64 = 0#64 <;>
      simp [hlen, halign]
  · rw [if_neg hexec, if_neg hexec]
    split_ifs <;> simp

/-- `BreakCommand` accepts the breakpoints that can be set. -/
lemma breakCommand_ok (b : Breakpoint) :
    (∃ text, breakCommand b = .ok text) ↔ ∃ kind mode, Settable b kind mode := by
  constructor
  · rintro ⟨text, h⟩
    have hid : b.id ≠ 0 := by
      intro hid
      rw [breakCommand, if_pos hid] at h
      cases h
    obtain ⟨kind, hkind⟩ : ∃ kind, (b.kind, kind) ∈ breakKindWords := by
      by_contra hnone
      push Not at hnone
      rw [breakCommand, if_neg hid,
        if_pos ⟨fun heq => hnone .execute (by simp [breakKindWords, heq]),
        fun heq => hnone .read (by simp [breakKindWords, heq]),
        fun heq => hnone .write (by simp [breakKindWords, heq]),
        fun heq => hnone .readWrite (by simp [breakKindWords, heq])⟩] at h
      cases h
    obtain ⟨mode, hmode⟩ : ∃ mode, (b.mode, mode) ∈ breakModeWords := by
      by_contra hnone
      push Not at hnone
      rw [breakCommand, if_neg hid, if_neg (breakKind_known hkind),
        if_pos ⟨fun heq => hnone .once (by simp [breakModeWords, heq]),
        fun heq => hnone .repeat (by simp [breakModeWords, heq])⟩] at h
      cases h
    exact ⟨kind, mode, hid, hkind, hmode,
      (checkBreak_ok (breakMeaning b kind mode)).mp
        ((breakCommand_check hid hkind hmode).mp ⟨text, h⟩)⟩
  · rintro ⟨kind, mode, h⟩
    exact (breakCommand_check h.id_ne h.kind_word h.mode_word).mpr
      ((checkBreak_ok (breakMeaning b kind mode)).mpr h.place)

lemma breakCommand_text {text : List U8} (h : breakCommand b = .ok text) : text = breakText b := by
  unfold breakCommand at h
  dsimp only at h
  split_ifs at h <;> cases h <;> rfl

namespace Settable

/-- Numbers in the base 16 have no `=`. -/
lemma address_plain (address : U64) :
    (∀ c ∈ ascii "0x" ++ numeral 16 address.toNat, Graphic c) ∧
      equals ∉ ascii "0x" ++ numeral 16 address.toNat := by
  have hdigit : ∀ c ∈ numeral 16 address.toNat, Graphic c ∧ c ≠ equals := by
    intro c hc
    obtain ⟨d, hd, rfl⟩ := mem_numeral (by decide) hc
    refine ⟨graphic_digitByte hd, fun heq => ?_⟩
    have := digitByte_range hd
    rw [heq] at this
    simp [equals] at this
  have hmark : ∀ c ∈ ascii "0x", Graphic c ∧ c ≠ equals := by simp [ascii, Graphic, equals]
  constructor
  · intro c hc
    rcases mem_append.mp hc with hc | hc
    · exact (hmark c hc).1
    · exact (hdigit c hc).1
  · intro hc
    rcases mem_append.mp hc with hc | hc
    · exact (hmark _ hc).2 rfl
    · exact (hdigit _ hc).2 rfl

lemma sendable (h : Settable b kind mode) : ∀ pair ∈ breakPairs b, Sendable pair := by
  have hkind := breakKind_word h.kind_word
  have hmode := breakMode_word h.mode_word
  have haddr := address_plain b.address
  simp only [breakPairs, forall_mem_cons]
  refine ⟨sendable_decimal (by simp [ascii, Graphic]) b.id, ⟨?_, hkind.1, hkind.2.1, hkind.2.2.1⟩,
    ⟨?_, by simp [ascii], haddr⟩, sendable_decimal (by simp [ascii, Graphic]) b.length,
    ⟨?_, hmode.1, hmode.2.1, hmode.2.2.1⟩, by simp⟩ <;> simp [ascii, Graphic]

lemma short (h : Settable b kind mode) : (breakText b).length ≤ 512 := by
  have hid := decimal_length (k := 10) (by decide) (by decide) b.id
  have hlen := decimal_length (k := 3) (by decide) (by decide) b.length
  have haddr : (numeral 16 b.address.toNat).length ≤ 16 :=
    numeral_length_le (by decide) (by decide) (Nat.lt_of_lt_of_le b.address.isLt (by decide))
  have hkind := breakKind_word h.kind_word
  have hmode := breakMode_word h.mode_word
  rw [breakText_eq, pairsText_length, breakPairs]
  simp only [map_cons, map_nil, sum_cons, sum_nil, length_append,
    show (ascii "break").length = 5 from rfl, show (ascii "id").length = 2 from rfl,
    show (ascii "kind").length = 4 from rfl, show (ascii "addr").length = 4 from rfl,
    show (ascii "len").length = 3 from rfl, show (ascii "mode").length = 4 from rfl,
    show (ascii "0x").length = 2 from rfl]
  omega

lemma isCommand (h : Settable b kind mode) :
    IsCommand (breakText b) (.break (breakMeaning b kind mode)) := by
  refine ⟨h.short, _, breakText_eq b ▸ pairsText_isLine (by simp [ascii])
    (by simp [ascii, Graphic]) (by simp [breakPairs]) h.sendable,
    .break (isArgs_given (by simp [breakPairs]) (by simp [breakPairs]) h.sendable) ?_⟩
  exact ⟨⟨_, rfl, decimal_denotes b.id, h.id_ne⟩, ⟨_, rfl, h.kind_word⟩,
    ⟨_, rfl, _, rfl, denotes_numeral (by decide) (by decide) _⟩, ⟨_, rfl, decimal_denotes b.length⟩,
    ⟨_, rfl, h.mode_word⟩, h.place⟩

end Settable

/-! ## The other texts -/

lemma mapsRead_isCommand {snapshot : U64} (hsnapshot : snapshot ≠ 0) (offset : U32) :
    IsCommand (pairsText "maps-read" [("snapshot", decimal snapshot), ("offset", decimal offset)])
      (.mapsRead snapshot offset) := by
  have hsend : ∀ pair ∈ [("snapshot", decimal snapshot), ("offset", decimal offset)],
      Sendable pair := by
    simp only [forall_mem_cons]
    exact ⟨sendable_decimal (by simp [ascii, Graphic]) snapshot,
      sendable_decimal (by simp [ascii, Graphic]) offset, by simp⟩
  have hshort := decimal_length (k := 20) (by decide) (by decide) snapshot
  have hshort' := decimal_length (k := 10) (by decide) (by decide) offset
  refine ⟨?_, _, pairsText_isLine (by simp [ascii]) (by simp [ascii, Graphic]) (by simp) hsend,
    .mapsRead (isArgs_given (by simp) (by simp) hsend)
      ⟨⟨_, rfl, decimal_denotes snapshot, hsnapshot⟩, ⟨_, rfl, decimal_denotes offset⟩⟩⟩
  rw [pairsText_length]
  simp only [map_cons, map_nil, sum_cons, sum_nil,
    show (ascii "maps-read").length = 9 from rfl, show (ascii "snapshot").length = 8 from rfl,
    show (ascii "offset").length = 6 from rfl, maxCommand]
  omega

variable {w : ℕ} {tokens args : List (List U8)}

/-- A verb with one number; the marks are what stands before it. -/
lemma argument_isCommand {verb key : String} {marks : List U8} {value : BitVec w}
    (hmarks : marks = ascii verb ++ space :: (ascii key ++ [equals]))
    (hverb : (∀ b ∈ ascii verb, Graphic b) ∧ ascii verb ≠ [] ∧ (ascii verb).length ≤ 9)
    (hkey : (∀ b ∈ ascii key, Graphic b) ∧ (ascii key).length ≤ 8) (hw : 2 ^ w ≤ 10 ^ 20)
    (h : Sentence [ascii verb, pairToken (key, decimal value)] command) :
    IsCommand (marks ++ decimal value) command := by
  have hsend : ∀ pair ∈ [(key, decimal value)], Sendable pair := by
    simp only [forall_mem_cons]
    exact ⟨sendable_decimal hkey.1 value, by simp⟩
  have hshort := decimal_length (k := 20) (by decide) hw value
  have htext : marks ++ decimal value = pairsText verb [(key, decimal value)] := by
    rw [pairsText_eq, hmarks]
    simp
  rw [htext]
  refine ⟨?_, _, pairsText_isLine hverb.2.1 hverb.1 (by simp) hsend, h⟩
  rw [pairsText_length]
  simp only [map_cons, map_nil, sum_cons, sum_nil, maxCommand]
  omega

/-- The round trip of commands.  Every text that the client produces is accepted by the module,
with the fields that the client was given. -/
theorem command_round_trip :
    (∀ r text, bindCommand r = .ok text →
      ∀ out, ∃ c, parseCommand text out = (.ok (), some (.bind c)) ∧
      c.pid = r.pid ∧ (r.mode, c.mode) ∈ bindModeWords ∧
      (match r.uid with
        | some uid => c.hasUid = 1 ∧ c.uid = uid
        | none => c.hasUid = 0) ∧
      (if r.comm = [] then c.hasComm = 0
        else c.hasComm = 1 ∧ r.comm.length < 16 ∧
          c.comm.toList = r.comm ++ List.replicate (16 - r.comm.length) 0) ∧
      (match r.startBootTime with
        | some start => c.hasStartBootTime = 1 ∧ c.startBootTime = start
        | none => c.hasStartBootTime = 0)) ∧
    (∀ b text, breakCommand b = .ok text → ∀ out, ∃ c,
      parseCommand text out = (.ok (), some (.break c)) ∧ c.id = b.id ∧
      (b.kind, c.kind) ∈ breakKindWords ∧ c.address = b.address ∧ c.length = b.length ∧
      (b.mode, c.mode) ∈ breakModeWords) ∧
    (∀ snapshot offset, snapshot ≠ 0 → ∃ text, mapsReadCommand snapshot offset = .ok text ∧
      ∀ out, parseCommand text out = (.ok (), some (.mapsRead snapshot offset))) ∧
    (∀ id, id ≠ 0 → ∃ text, enableCommand id = .ok text ∧
      ∀ out, parseCommand text out = (.ok (), some (.enable id))) ∧
    (∀ id, id ≠ 0 → ∃ text, disableCommand id = .ok text ∧
      ∀ out, parseCommand text out = (.ok (), some (.disable id))) ∧
    ∀ after out, parseCommand (pollCommand after) out = (.ok (), some (.poll after 1)) := by
  refine ⟨?_, ?_, ?_, ?_, ?_, ?_⟩
  · intro r text h out
    obtain ⟨rfl, hready⟩ := bindCommand_ok h
    obtain ⟨mode, hmode⟩ := hready.mode
    refine ⟨bindMeaning r mode, parseCommand_ok (hready.isCommand hmode) out, rfl, hmode, ?_, ?_,
      ?_⟩
    · cases huid : r.uid <;> simp [bindMeaning, huid]
    · split_ifs with hcomm
      · simp [bindMeaning, hcomm]
      · have hlen := (hready.comm.resolve_left hcomm).1
        simp only [bindMeaning, if_neg hcomm, true_and]
        exact ⟨by omega, commOf_toList (by omega)⟩
    · cases hstart : r.startBootTime <;> simp [bindMeaning, hstart]
  · intro b text h out
    obtain ⟨kind, mode, hset⟩ := (breakCommand_ok b).mp ⟨text, h⟩
    obtain rfl := breakCommand_text h
    exact ⟨breakMeaning b kind mode, parseCommand_ok hset.isCommand out, rfl, hset.kind_word, rfl,
      rfl, hset.mode_word⟩
  · intro snapshot offset hne
    refine ⟨_, if_neg hne, fun out => parseCommand_ok ?_ out⟩
    have htext : ascii "maps-read snapshot=" ++ decimal snapshot ++ ascii " offset=" ++
        decimal offset =
        pairsText "maps-read" [("snapshot", decimal snapshot), ("offset", decimal offset)] := by
      rw [pairsText_eq, show ascii "maps-read snapshot=" =
        ascii "maps-read" ++ space :: (ascii "snapshot" ++ [equals]) from rfl,
        show ascii " offset=" = space :: (ascii "offset" ++ [equals]) from rfl]
      simp
    rw [htext]
    exact mapsRead_isCommand hne offset
  · intro id hne
    refine ⟨_, if_neg hne, fun out => parseCommand_ok ?_ out⟩
    exact argument_isCommand rfl (by simp [ascii, Graphic]) (by simp [ascii, Graphic]) (by decide)
      (.enable (decimal_denotes id) hne)
  · intro id hne
    refine ⟨_, if_neg hne, fun out => parseCommand_ok ?_ out⟩
    exact argument_isCommand rfl (by simp [ascii, Graphic]) (by simp [ascii, Graphic]) (by decide)
      (.disable (decimal_denotes id) hne)
  · intro after out
    exact parseCommand_ok (argument_isCommand rfl (by simp [ascii, Graphic])
      (by simp [ascii, Graphic]) (by decide) (.pollAfter (decimal_denotes after))) out

/-! ## The three validators -/

def breakKindOf (v : List U8) : BreakKind := (breakKindWords.lookup v).getD .invalid

def breakModeOf (v : List U8) : BreakMode := (breakModeWords.lookup v).getD .invalid

def requestOf (b : Breakpoint) : DebugRequest where
  id := b.id
  address := b.address
  kind := breakKindOf b.kind
  length := b.length
  mode := breakModeOf b.mode

/-- Looking up in a table of words; `absent` stands for the words that it does not have. -/
lemma lookup_words {α : Type} {words : List (List U8 × α)} {absent x : α}
    (hnodup : (words.map Prod.fst).Nodup) (habsent : ∀ p ∈ words, p.2 ≠ absent) :
    (v, x) ∈ words ↔ (words.lookup v).getD absent = x ∧ x ≠ absent := by
  induction words with
  | nil => simpa using fun h => h.symm
  | cons p words ih =>
    rw [map_cons, nodup_cons] at hnodup
    rw [forall_mem_cons] at habsent
    rw [mem_cons, lookup_cons, Prod.ext_iff]
    by_cases hv : v = p.1
    · subst hv
      have hnotMem : (p.1, x) ∉ words := fun hmem => hnodup.1 (mem_map.mpr ⟨_, hmem, rfl⟩)
      simp only [hnotMem, or_false, true_and, beq_self_eq_true, Option.getD_some]
      exact ⟨fun h => ⟨h.symm, h ▸ habsent.1⟩, fun h => h.1.symm⟩
    · simp only [hv, false_and, false_or, beq_false_of_ne hv]
      exact ih hnodup.2 habsent.2

lemma breakKindOf_word : (v, kind) ∈ breakKindWords ↔ breakKindOf v = kind ∧ kind ≠ .invalid :=
  lookup_words (by simp [breakKindWords, ascii]) (by simp [breakKindWords])

lemma breakModeOf_word : (v, mode) ∈ breakModeWords ↔ breakModeOf v = mode ∧ mode ≠ .invalid :=
  lookup_words (by simp [breakModeWords, ascii]) (by simp [breakModeWords])

/-- `spz_debug_validate_request` makes the tests of `spz_parse_break` as well. -/
lemma validate_ok (r : DebugRequest) : (∃ encoding, debugValidateRequest r = .ok encoding) ↔
    r.id ≠ 0 ∧ r.kind ≠ .invalid ∧ r.mode ≠ .invalid ∧
      checkBreak ⟨r.id, r.kind, r.address, r.length, r.mode⟩ = .ok () := by
  obtain ⟨id, kind, address, length, mode⟩ := r
  simp only [debugValidateRequest, checkBreak]
  by_cases hid : id = 0
  · simp [hid]
  by_cases hmode : mode = .invalid
  · simp [hmode]
  have hmode' : ¬ (mode ≠ .once ∧ mode ≠ .repeat) := by cases mode <;> simp_all
  rw [if_neg hid, if_neg hmode']
  by_cases haddr : address = 0 ∨ address >>> 56 ≠ 0
  · rw [if_pos haddr, if_pos haddr]
    simp
  rw [if_neg haddr, if_neg haddr]
  cases kind with
  | execute =>
    rw [if_pos rfl, if_pos rfl]
    split_ifs <;> simp_all
  | invalid => simp
  | read | write | readWrite =>
    rw [if_neg (by decide), if_neg (by decide)]
    split_ifs <;> simp_all

lemma validate_settable (b : Breakpoint) :
    (∃ encoding, debugValidateRequest (requestOf b) = .ok encoding) ↔
      ∃ kind mode, Settable b kind mode := by
  rw [validate_ok]
  constructor
  · rintro ⟨hid, hkind, hmode, hcheck⟩
    exact ⟨_, _, hid, breakKindOf_word.mpr ⟨rfl, hkind⟩, breakModeOf_word.mpr ⟨rfl, hmode⟩,
      (checkBreak_ok _).mp hcheck⟩
  · rintro ⟨kind, mode, h⟩
    obtain ⟨hkind, hkind'⟩ := breakKindOf_word.mp h.kind_word
    obtain ⟨hmode, hmode'⟩ := breakModeOf_word.mp h.mode_word
    refine ⟨h.id_ne, fun heq => hkind' (hkind ▸ heq), fun heq => hmode' (hmode ▸ heq),
      (checkBreak_ok _).mpr ?_⟩
    simp only [requestOf, hkind]
    exact h.place

lemma pairToken_inj {a b : String × List U8} (ha : equals ∉ ascii a.1) (hb : equals ∉ ascii b.1)
    (h : pairToken a = pairToken b) : ascii a.1 = ascii b.1 ∧ a.2 = b.2 :=
  Tokens.append_sep_inj ha hb h

lemma pairs_unique {keys : List String} (hinj : ∀ a ∈ keys, ∀ b ∈ keys, ascii a = ascii b → a = b)
    (hplain : ∀ a ∈ keys, equals ∉ ascii a) {pairs others : List (String × List U8)}
    (hpairs : ∀ pair ∈ pairs, pair.1 ∈ keys) (hothers : ∀ pair ∈ others, pair.1 ∈ keys)
    (h : pairs.map pairToken = others.map pairToken) : pairs = others := by
  induction pairs generalizing others with
  | nil => exact (map_eq_nil_iff.mp h.symm).symm
  | cons pair pairs ih =>
    cases others with
    | nil => cases h
    | cons other others =>
      rw [map_cons, map_cons, List.cons.injEq] at h
      rw [forall_mem_cons] at hpairs hothers
      obtain ⟨hkey, hvalue⟩ := pairToken_inj (hplain _ hpairs.1) (hplain _ hothers.1) h.1
      rw [ih hpairs.2 hothers.2 h.2, Prod.ext (hinj _ hpairs.1 _ hothers.1 hkey) hvalue]

lemma decimal_count (value : BitVec w) : (decimal value).count space = 0 := by
  refine count_eq_zero.mpr fun hmem => ?_
  obtain ⟨d, hd, hspace⟩ := mem_numeral (by decide) hmem
  exact (hspace ▸ graphic_digitByte (by omega) : Graphic space).ne_space rfl

/-- The arguments of a `break` text that is accepted have no spaces inside: there are five of them,
and each of the four spaces between them is needed. -/
lemma breakText_tokens (hline : IsLine (breakText b) tokens)
    (htokens : tokens = ascii "break" :: args) (hlen : args.length ≤ 5) :
    args = (breakPairs b).map pairToken := by
  have hsplit := hline.splitOn
  have hid : (decimal b.id).count space = 0 := decimal_count b.id
  have hlength : (decimal b.length).count space = 0 := decimal_count b.length
  have haddr : (ascii "0x" ++ numeral 16 b.address.toNat).count space = 0 :=
    count_eq_zero.mpr fun hmem => ((Settable.address_plain b.address).1 _ hmem).ne_space rfl
  have hcount : (breakText b).count space = 5 + b.kind.count space + b.mode.count space := by
    rw [breakText_eq, pairsText_eq, breakPairs]
    simp only [flatMap_cons, flatMap_nil, count_append, count_cons, hid, hlength,
      count_nil] at haddr ⊢
    rw [haddr, show (ascii "break").count space = 0 from rfl,
      show (ascii "id").count space = 0 from rfl, show (ascii "kind").count space = 0 from rfl,
      show (ascii "addr").count space = 0 from rfl, show (ascii "len").count space = 0 from rfl,
      show (ascii "mode").count space = 0 from rfl, show (equals == space) = false from rfl,
      show (space == space) = true from rfl]
    simp only [Bool.false_eq_true, if_false, if_true]
    omega
  have hnumber := Tokens.length_splitOn space (breakText b)
  rw [hsplit, htokens, length_cons, hcount] at hnumber
  have hkind : space ∉ b.kind := count_eq_zero.mp (by omega)
  have hmode : space ∉ b.mode := count_eq_zero.mp (by omega)
  have hbuilt : ∀ t ∈ ascii "break" :: (breakPairs b).map pairToken, space ∉ t := by
    simp only [breakPairs, map_cons, map_nil, forall_mem_cons]
    simp only [pairToken, mem_append, mem_cons, not_or]
    rw [count_eq_zero] at hid hlength haddr
    rw [mem_append, not_or] at haddr
    refine ⟨by simp [ascii, space], ⟨?_, ?_, hid⟩, ⟨?_, ?_, hkind⟩, ⟨?_, ?_, haddr⟩,
      ⟨?_, ?_, hlength⟩, ⟨?_, ?_, hmode⟩, by simp⟩ <;> simp [ascii, space, equals]
  have hsplit' := splitOn_intercalate space hbuilt (cons_ne_nil _ _)
  rw [← pairsText, ← breakText_eq, hsplit, htokens, List.cons.injEq] at hsplit'
  exact hsplit'.2

lemma breakText_verb (hline : IsLine (breakText b) tokens) :
    ∃ args, tokens = ascii "break" :: args := by
  have hsplit := hline.splitOn
  rw [breakText_eq, pairsText_eq, breakPairs, flatMap_cons, cons_append,
    splitOn_append_cons_self_of_not_mem (by simp [ascii, space])] at hsplit
  exact ⟨_, hsplit.symm⟩

lemma sentence_break (h : Sentence (ascii "break" :: args) command) :
    ∃ given c, IsArgs args ["id", "kind", "addr", "len", "mode"] given ∧ BreakMeans given c := by
  generalize hverb : ascii "break" = verb at h
  cases h with
  | «break» hargs hmeans => exact ⟨_, _, hargs, hmeans⟩
  | _ => exact absurd hverb (by simp [ascii])

/-- A `break` text is accepted only if the breakpoint can be set. -/
lemma settable_of_isCommand
    (h : IsCommand (breakText b) command) : ∃ kind mode, Settable b kind mode := by
  obtain ⟨-, tokens, hline, hsentence⟩ := h
  -- The first token is the verb, whatever follows.
  obtain ⟨args, htokens⟩ : ∃ args, tokens = ascii "break" :: args := breakText_verb hline
  obtain ⟨given, c, hargs, hmeans⟩ := sentence_break (htokens ▸ hsentence)
  have heq := breakText_tokens hline htokens hargs.length_le
  have hkeys : ∀ pair ∈ breakPairs b, pair.1 ∈ ["id", "kind", "addr", "len", "mode"] := by
    simp [breakPairs]
  obtain ⟨pairs, hpairs, -, hall, hgiven⟩ := hargs
  obtain rfl := pairs_unique (by simp [ascii]) (by simp [ascii, equals])
    (fun pair hpair => (hall pair hpair).1) hkeys (hpairs.symm.trans heq)
  simp only [breakPairs, mem_cons, Prod.mk.injEq, not_mem_nil, or_false] at hgiven
  obtain ⟨⟨vid, hvid, hid, hid_ne⟩, ⟨vkind, hvkind, hkind⟩, ⟨vaddr, hvaddr, digits, hdigits, haddr⟩,
    ⟨vlen, hvlen, hlen⟩, ⟨vmode, hvmode, hmode⟩, hplace⟩ := hmeans
  rw [hgiven] at hvid hvkind hvaddr hvlen hvmode
  simp only [true_and, String.reduceEq, false_and, or_false, false_or]
    at hvid hvkind hvaddr hvlen hvmode
  subst hvid hvkind hvaddr hvlen hvmode
  have hid' : c.id = b.id := BitVec.eq_of_toNat_eq (hid.unique (decimal_denotes b.id))
  have hlen' : c.length = b.length := BitVec.eq_of_toNat_eq (hlen.unique (decimal_denotes b.length))
  have haddr' : c.address = b.address := by
    rw [append_cancel_left hdigits.symm] at haddr
    exact BitVec.eq_of_toNat_eq (haddr.unique (denotes_numeral (by decide) (by decide) _))
  rw [hid'] at hid_ne
  rw [hlen', haddr'] at hplace
  exact ⟨c.kind, c.mode, hid_ne, hkind, hmode, hplace⟩

/-- The validators agree on every breakpoint: the client accepts it, the module accepts its
text, and the debug layer accepts the request, or none of them does. -/
theorem validators_agree (b : Breakpoint) (out : Option Command) :
    ((∃ text, breakCommand b = .ok text) ↔ (parseCommand (breakText b) out).1 = .ok ()) ∧
    ((parseCommand (breakText b) out).1 = .ok () ↔
      ∃ encoding, debugValidateRequest (requestOf b) = .ok encoding) := by
  have hparse : (parseCommand (breakText b) out).1 = .ok () ↔
      ∃ kind mode, Settable b kind mode := by
    constructor
    · intro h
      rcases parseCommand_cases (breakText b) out with ⟨command, -, h⟩ | ⟨⟨e, herror, -⟩, -⟩
      · exact settable_of_isCommand h
      · rw [herror] at h
        cases h
    · rintro ⟨kind, mode, h⟩
      rw [parseCommand_ok h.isCommand out]
  rw [breakCommand_ok, validate_settable, hparse]
  exact ⟨.rfl, .rfl⟩

end Spz.Client
