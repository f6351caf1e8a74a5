import Stackplz.Bpf.Emission

/-!
# Arrays of strings

`string_array` saves pointers and the strings they lead to, until one cannot be saved or 32 are, and
marks the end by a record with a magic length.  `stringsOut` is that loop as a function of the
memory and the buffer; `emittedFor_stringArray` connects it with `read_args`, three iterations for
each string; `string_array_decoded_iff` says when `parse_STRING_ARRAY` returns the strings.
-/

namespace Spz.Bpf

open List Machine Decoder
open Option hiding bind_assoc or_assoc

open Decoder (Consumes)

variable {m : Machine} {p : PointArgs} {prog rest body : List OpConfig} {s u : Scan} {mem : Memory}
  {addr ptr : U64} {index : U8} {args : List U8} {k n : ℕ}

/-! ## The loop -/

def pointerAt (mem : Memory) (addr : U64) : U64 := probeReadWord mem (untagged addr)

/-- The buffer after a pointer of the table and its string; `none` if the string is not saved. -/
def stringSave (mem : Memory) (addr : U64) (index : U8) (args : List U8) : Option (List U8) :=
  saveStrToBuf mem (saveToSubmitBuf args (pointerAt mem addr) index)
    (untagged (pointerAt mem addr)) (index + 1)

/-- The buffer after the last pointer and the magic record. -/
def stringEnd (mem : Memory) (addr : U64) (index : U8) (args : List U8) : List U8 :=
  let args := saveToSubmitBuf args (pointerAt mem addr) index
  (saveBytesToBuf mem args 0 strarrMagicLen (index + 1)).getD args

/-- The buffer after at most so many rounds. -/
def stringsOut (mem : Memory) : ℕ → U64 → U8 → List U8 → List U8
  | 0, _, _, args => args
  | k + 1, addr, index, args =>
    match stringSave mem addr index args with
    | some args => stringsOut mem k (addr + 8) (index + 1 + 1) args
    | none => stringEnd mem addr index args

lemma stringsOut_some {args' : List U8} (h : stringSave mem addr index args = some args') :
    stringsOut mem (k + 1) addr index args = stringsOut mem k (addr + 8) (index + 1 + 1) args' := by
  rw [stringsOut, h]

lemma stringsOut_none (h : stringSave mem addr index args = none) :
    stringsOut mem (k + 1) addr index args = stringEnd mem addr index args := by
  rw [stringsOut, h]

abbrev stringBody : List OpConfig := stringsBody .savePtrString

lemma effect_savePtrString_some
    (h : stringSave m.memory u.ctx.readAddr u.ctx.saveIndex u.args = some args) :
    m.effect (.ofCode .savePtrString) .savePtrString u =
      { u with ctx := { u.ctx with saveIndex := u.ctx.saveIndex + 1 + 1 }, args := args } := by
  show u.savePtrText m.memory (saveStrToBuf m.memory) = _
  unfold Scan.savePtrText
  dsimp only [Scan.savedWord, stringSave, pointerAt] at h ⊢
  rw [h]

/-- If it is not, the loop ends. -/
lemma effect_savePtrString_none
    (h : stringSave m.memory u.ctx.readAddr u.ctx.saveIndex u.args = none) :
    m.effect (.ofCode .savePtrString) .savePtrString u =
      { u with
        ctx := { u.ctx with loopCount := u.ctx.breakCount, saveIndex := u.ctx.saveIndex + 1 + 1 }
        args := stringEnd m.memory u.ctx.readAddr u.ctx.saveIndex u.args } := by
  show u.savePtrText m.memory (saveStrToBuf m.memory) = _
  unfold Scan.savePtrText stringEnd
  dsimp only [Scan.savedWord, stringSave, pointerAt] at h ⊢
  rw [h]

lemma passRound_string_eq (u : Scan) : m.passRound stringBody u =
    let t := m.effect (.ofCode .savePtrString) .savePtrString (u.fetched (.ofCode .savePtrString))
    let t := m.effect (addOffsetOp 8) .addOffset (t.fetched (addOffsetOp 8))
    { t.fetched forBreakOp with ctx := (t.fetched forBreakOp).ctx.forBreak } := rfl

lemma passRound_string {t : Scan}
    (h : m.effect (.ofCode .savePtrString) .savePtrString
      (u.fetched (.ofCode .savePtrString)) = t) :
    (m.passRound stringBody u).args = t.args ∧
    (m.passRound stringBody u).ctx.readAddr = t.ctx.readAddr + 8 ∧
    (m.passRound stringBody u).ctx.saveIndex = t.ctx.saveIndex ∧
    (m.passRound stringBody u).ctx.loopCount =
      if t.ctx.loopCount ≥ t.ctx.breakCount then 0 else t.ctx.loopCount + 1 := by
  rw [passRound_string_eq, h]
  refine ⟨rfl, ?_, ?_, ?_⟩
  · exact (OpCtx.forBreak_kept _).1
  · exact (OpCtx.forBreak_kept _).2.1
  · exact OpCtx.forBreak_loopCount _

lemma passRound_string_some
    (h : stringSave m.memory u.ctx.readAddr u.ctx.saveIndex u.args = some args) :
    (m.passRound stringBody u).args = args ∧
    (m.passRound stringBody u).ctx.readAddr = u.ctx.readAddr + 8 ∧
    (m.passRound stringBody u).ctx.saveIndex = u.ctx.saveIndex + 1 + 1 ∧
    (m.passRound stringBody u).ctx.loopCount =
      if u.ctx.loopCount ≥ u.ctx.breakCount then 0 else u.ctx.loopCount + 1 := by
  exact passRound_string (effect_savePtrString_some (u := u.fetched (.ofCode .savePtrString)) h)

lemma passRound_string_none (h : stringSave m.memory u.ctx.readAddr u.ctx.saveIndex u.args = none) :
    (m.passRound stringBody u).args = stringEnd m.memory u.ctx.readAddr u.ctx.saveIndex u.args ∧
    (m.passRound stringBody u).ctx.loopCount = 0 := by
  have hround := passRound_string (effect_savePtrString_none
    (u := u.fetched (.ofCode .savePtrString)) h)
  exact ⟨hround.1, hround.2.2.2.trans (if_pos (BitVec.le_refl _))⟩

lemma stringBody_inLoop : ∀ op ∈ stringBody, op.InLoop := by decide

lemma loop_stringRound (hload : Loaded m p prog)
    (hat : At prog u (stringBody ++ forBreakOp :: rest)) (hround : InRound u k)
    (hblack : u.ctx.matchBlacklist = false) :
    m.loop p 3 u = .ok (m.passRound stringBody u) ∧
      (m.passRound stringBody u).ctx.matchBlacklist = false ∧
      AfterRound prog rest stringBody k (m.passRound stringBody u) ∧
      ∀ j, 1 ≤ j → j ≤ 3 → ∃ v, m.loop p j u = .ok v ∧
        v.args = (m.passRound stringBody u).args := by
  obtain ⟨hrun, -⟩ := m.runRound_calm (show ∀ op ∈ stringBody, op.Calm by decide) hblack
  obtain ⟨hloop, hafter⟩ := loop_runRound hload stringBody_inLoop hat hround hblack hrun
  have hfirst := loop_one hload hat trivial hblack
  refine ⟨hloop, hafter.1, hafter.2, fun j hj hj3 => ?_⟩
  obtain ⟨v, hv, hargs⟩ := loop_between hfirst hloop rfl hj hj3
  exact ⟨v, hv, hargs⟩

/-- Run lemma of the loop, by induction on the rounds that are left: a string in the first of three
iterations. -/
lemma loop_strings (hload : Loaded m p prog) :
    ∀ {k : ℕ} {u : Scan}, At prog u (stringBody ++ forBreakOp :: rest) → InRound u k →
      u.ctx.matchBlacklist = false → ∀ n, ∃ v,
        m.loop p (min n (m.passLoop stringBody k u).1) u = .ok v ∧
        v.args = stringsOut m.memory (min (k + 1) ((n + 2) / 3)) u.ctx.readAddr u.ctx.saveIndex
          u.args := by
  -- The last round, of a loop that ends there: the rest of the budget does not matter.
  have hlast : ∀ {k : ℕ} {u : Scan} {args : List U8}, At prog u (stringBody ++ forBreakOp :: rest) →
      InRound u k → u.ctx.matchBlacklist = false → (m.passLoop stringBody k u).1 = 3 →
      (m.passRound stringBody u).args = args →
      (∀ j, 1 ≤ j → j ≤ k + 1 →
        stringsOut m.memory j u.ctx.readAddr u.ctx.saveIndex u.args = args) →
      ∀ n, ∃ v, m.loop p (min n (m.passLoop stringBody k u).1) u = .ok v ∧
        v.args = stringsOut m.memory (min (k + 1) ((n + 2) / 3)) u.ctx.readAddr u.ctx.saveIndex
          u.args := by
    intro k u args hat hround hblack hcost hargs hout n
    obtain ⟨-, -, -, hfrom⟩ := loop_stringRound hload hat hround hblack
    rw [hcost]
    cases n with
    | zero => exact ⟨u, by simp [loop], by simp [stringsOut]⟩
    | succ n =>
      obtain ⟨v, hv, hvargs⟩ := hfrom (min (n + 1) 3) (by omega) (by omega)
      exact ⟨v, hv, by rw [hvargs, hargs, hout _ (by omega) (by omega)]⟩
  intro k
  induction k with
  | zero =>
    intro u hat hround hblack
    refine hlast hat hround hblack rfl rfl fun j hj hj1 => ?_
    obtain rfl : j = 1 := by omega
    cases hsave : stringSave m.memory u.ctx.readAddr u.ctx.saveIndex u.args with
    | none => rw [stringsOut_none hsave, (passRound_string_none hsave).1]
    | some args' => rw [stringsOut_some hsave, (passRound_string_some hsave).1]; rfl
  | succ k ih =>
    intro u hat hround hblack
    cases hsave : stringSave m.memory u.ctx.readAddr u.ctx.saveIndex u.args with
    | none =>
      obtain ⟨hargs, hcount⟩ := passRound_string_none hsave
      refine hlast hat hround hblack ?_ hargs fun j hj _ => ?_
      · rw [passLoop, if_pos hcount]; rfl
      · obtain ⟨j, rfl⟩ := Nat.exists_eq_succ_of_ne_zero (by omega : j ≠ 0)
        exact stringsOut_none hsave
    | some args' =>
      intro n
      obtain ⟨hargs, haddr, hindex, hcount⟩ := passRound_string_some hsave
      obtain ⟨hloop, hrblack, hafter, hfrom⟩ := loop_stringRound hload hat hround hblack
      rw [if_neg hround.lt] at hcount
      have hmore : (m.passRound stringBody u).ctx.loopCount ≠ 0 := hcount ▸ hround.succ_ne_zero
      have hcost : (m.passLoop stringBody (k + 1) u).1 =
          3 + (m.passLoop stringBody k (m.passRound stringBody u)).1 := by
        rw [passLoop, if_neg hmore]; rfl
      rw [hcost]
      by_cases hn : n ≤ 3
      · cases n with
        | zero => exact ⟨u, by simp [loop], by simp [stringsOut]⟩
        | succ n =>
          obtain ⟨v, hv, hvargs⟩ := hfrom (n + 1) (by omega) hn
          refine ⟨v, ?_, ?_⟩
          · rwa [Nat.min_eq_left (by omega)]
          · rw [show min (k + 1 + 1) ((n + 1 + 2) / 3) = 0 + 1 by omega, stringsOut_some hsave,
              hvargs, hargs]
            rfl
      · obtain ⟨n, rfl⟩ := Nat.exists_eq_add_of_le (by omega : 3 ≤ n)
        cases hafter with
        | left hzero _ => exact absurd hzero hmore
        | again _ j hless hat' hround' =>
          obtain rfl : k = j := Nat.succ.inj hless
          obtain ⟨v, hv, hvargs⟩ := ih hat' hround' hrblack n
          refine ⟨v, ?_, ?_⟩
          · rw [show min (3 + n) (3 + _) = 3 + min n _ from Nat.add_min_add_left ..]
            exact (Budget.run_add_of_ok hloop _).trans hv
          · rw [hvargs, hargs, haddr, hindex,
              show min (k + 1 + 1) ((3 + n + 2) / 3) = min (k + 1) ((n + 2) / 3) + 1 by omega,
              stringsOut_some hsave]

/-- The state in which the first round begins. -/
abbrev Machine.enterStrings (m : Machine) (s : Scan) : Scan :=
  m.afterOp forBreakOp (m.afterOp ((OpConfig.ofCode .setBreakCount).newValue 32) s)

lemma enterStrings_eq (hcount : s.ctx.loopCount = 0) : let u := m.enterStrings s
    u.args = s.args ∧ u.ctx.readAddr = s.ctx.readAddr ∧ u.ctx.saveIndex = s.ctx.saveIndex ∧
      roundsLeft u = 31 := by
  intro u
  have hu : u.ctx = ((m.afterOp ((OpConfig.ofCode .setBreakCount).newValue 32) s).fetched
    forBreakOp).ctx.forBreak := rfl
  have henter : u.ctx = { s.ctx with
      opKeyIndex := s.ctx.opKeyIndex + 1 + 1, opCode := .forBreak, postCode := .skip
      loopIndex := s.ctx.opKeyIndex + 1 + 1, breakCount := 32,
      loopCount := s.ctx.loopCount + 1 } := by
    rw [hu]
    exact OpCtx.forBreak_enter (by show s.ctx.loopCount < 32; rw [hcount]; decide) hcount
  refine ⟨rfl, by rw [henter], by rw [henter], ?_⟩
  rw [roundsLeft, henter]
  dsimp only
  rw [hcount]
  rfl

/-- What is emitted for an array of strings: a round for each three iterations. -/
lemma emittedFor_stringArray (hload : Loaded m p prog)
    (hat : At prog s (ArgType.stringArray.ops ++ rest)) (hcount : s.ctx.loopCount = 0)
    (hblack : s.ctx.matchBlacklist = false) (budget : ℕ) :
    s.args ++ m.emittedFor p .stringArray budget s =
      stringsOut m.memory (min 32 (budget / 3)) s.ctx.readAddr s.ctx.saveIndex s.args := by
  have hat : At prog s ((OpConfig.ofCode .setBreakCount).newValue 32 ::
    forBreakOp :: (stringBody ++ forBreakOp :: rest)) := hat
  obtain ⟨hset, htblack⟩ := m.runOp_calm
    (show ((OpConfig.ofCode .setBreakCount).newValue 32).Calm by decide) hblack
  obtain ⟨hone, hat'⟩ := loop_runOp hload hat (by decide) hset
  obtain ⟨henter, -⟩ := m.runOp_calm (show forBreakOp.Calm by decide) htblack
  obtain ⟨htwo, hat'', hround, hublack⟩ := loop_enter hload hat' hcount htblack henter
  obtain ⟨hargs, haddr, hindex, hleft⟩ := enterStrings_eq (m := m) hcount
  have hstart : m.loop p 2 s = .ok (m.enterStrings s) := Budget.run_trans hone htwo
  have hcost : (m.passCode ArgType.stringArray.code s).1 =
    1 + (1 + (m.passLoop stringBody (roundsLeft (m.enterStrings s)) (m.enterStrings s)).1 + 0) :=
      rfl
  rw [hleft] at hround hcost
  unfold emittedFor
  rw [hcost, Nat.add_zero, ← Nat.add_assoc]
  by_cases hbudget : budget < 2
  · obtain ⟨v, hv, hvargs⟩ := loop_between Budget.run_zero hstart
      hargs (Nat.zero_le budget) (by omega)
    rw [Nat.min_eq_left (by omega), append_emitted hv, show budget / 3 = 0 by omega, hvargs]
    rfl
  · obtain ⟨n, rfl⟩ := Nat.exists_eq_add_of_le (Nat.not_lt.mp hbudget)
    obtain ⟨v, hv, hvargs⟩ := loop_strings hload hat'' hround hublack n
    rw [Nat.add_min_add_left, append_emitted ((Budget.run_add_of_ok hstart _).trans hv), hvargs,
      hargs, haddr, hindex, Nat.add_comm 2 n]

/-! ## The strings of a table -/

/-- The bytes at an address up to the first NUL, and the NUL. -/
def IsString (mem : Memory) (addr : U64) (bytes : List U8) : Prop :=
  (∃ text, bytes = text ++ [0] ∧ 0 ∉ text) ∧ readBytes mem addr bytes.length = some bytes

/-- The strings of a table with at most so many entries: up to the first pointer that is null, or
that no string can be read from.  A pointer that cannot be read counts as null. -/
inductive StringTable (mem : Memory) : ℕ → U64 → List (U64 × List U8) → Prop
  | full {addr : U64} : StringTable mem 0 addr []
  | stop {k : ℕ} {addr : U64}
      (last : pointerAt mem addr = 0 ∨
        ¬ ∃ bytes, IsString mem (untagged (pointerAt mem addr)) bytes) :
      StringTable mem (k + 1) addr []
  | entry {k : ℕ} {addr : U64} {bytes : List U8} {items : List (U64 × List U8)}
      (some : pointerAt mem addr ≠ 0) (string : IsString mem (untagged (pointerAt mem addr)) bytes)
      (more : StringTable mem k (addr + 8) items) :
      StringTable mem (k + 1) addr ((pointerAt mem addr, bytes) :: items)

/-- What `save_str_to_buf` reads for an entry, behind so many bytes. -/
def stringRead (mem : Memory) (addr : U64) (offset : ℕ) : Option (List U8) :=
  if offset + 9 ≤ 15611 then readString mem (untagged (pointerAt mem addr)) maxStringSize else none

def stringRecords (index : U8) (ptr : U64) (bytes : List U8) : List U8 :=
  wordRecord index ptr ++ bytesRecord (index + 1) bytes

lemma stringRecords_length (index : U8) (ptr : U64) (bytes : List U8) :
    (stringRecords index ptr bytes).length = 14 + bytes.length := by
  rw [stringRecords, length_append, wordRecord_length, bytesRecord, sizedRecord_length]
  omega

lemma stringSave_eq : stringSave mem addr index args =
    (stringRead mem addr args.length).map fun bytes =>
      args ++ stringRecords index (pointerAt mem addr) bytes := by
  rw [stringSave, stringRead]
  by_cases hword : RoomForWord args
  · rw [saveToSubmitBuf_of_room hword]
    have hlength : (args ++ wordRecord index (pointerAt mem addr)).length = args.length + 9 := by
      rw [length_append, wordRecord_length]
    split_ifs with hroom
    · rw [saveStrToBuf_of_room (by rwa [RoomForString, hlength])]
      simp [stringRecords, bytesRecord]
    · exact saveStrToBuf_full (by rwa [RoomForString, hlength])
  · rw [saveToSubmitBuf_full hword]
    rw [RoomForWord] at hword
    rw [if_neg (by omega)]
    exact saveStrToBuf_full (by rw [RoomForString]; omega)

lemma stringEnd_of_room (h : args.length + 9 ≤ 27899) : stringEnd mem addr index args =
    args ++ (wordRecord index (pointerAt mem addr) ++
      sizedRecord (index + 1) strarrMagicLen []) := by
  have hword : RoomForWord args := by rw [RoomForWord]; omega
  have hbytes : RoomForBytes (args ++ wordRecord index (pointerAt mem addr)) := by
    rwa [RoomForBytes, length_append, wordRecord_length]
  rw [stringEnd, saveToSubmitBuf_of_room hword, saveBytesToBuf_magic hbytes, getD_some,
    append_assoc]

lemma stringEnd_full (h : ¬ args.length + 9 ≤ 27899) : stringEnd mem addr index args =
    args ++ if args.length ≤ 31889 then wordRecord index (pointerAt mem addr) else [] := by
  rw [stringEnd]
  split_ifs with hword
  · have hbytes : ¬ RoomForBytes (args ++ wordRecord index (pointerAt mem addr)) := by
      rwa [RoomForBytes, length_append, wordRecord_length]
    rw [saveToSubmitBuf_of_room hword, saveBytesToBuf_full hbytes, getD_none]
  · have hbytes : ¬ RoomForBytes args := by rw [RoomForBytes]; omega
    rw [saveToSubmitBuf_full hword, saveBytesToBuf_full hbytes, getD_none, append_nil]

lemma stringEnd_grows : args <+: stringEnd mem addr index args := by
  by_cases h : args.length + 9 ≤ 27899
  · exact stringEnd_of_room h ▸ prefix_append _ _
  · exact stringEnd_full h ▸ prefix_append _ _

lemma stringsOut_grows (mem : Memory) (k : ℕ) (addr : U64) (index : U8) (args : List U8) :
    args <+: stringsOut mem k addr index args := by
  induction k generalizing addr index args with
  | zero => exact prefix_rfl
  | succ k ih =>
    cases h : stringSave mem addr index args with
    | none => exact stringsOut_none h ▸ stringEnd_grows
    | some args' =>
      rw [stringsOut_some h]
      rw [stringSave_eq, map_eq_some_iff] at h
      obtain ⟨bytes, -, rfl⟩ := h
      exact (prefix_append _ _).trans (ih _ _ _)

lemma readString_text {n : ℕ} : ∀ {addr : U64} {bytes : List U8},
    readString mem addr (n + 1) = some bytes → ∃ text, bytes = text ++ [0] ∧ 0 ∉ text := by
  induction n with
  | zero =>
    intro addr bytes h
    simp only [readString, bind_eq_bind, or_true, if_true, bind_eq_some_iff] at h
    obtain ⟨b, -, heq⟩ := h
    exact ⟨[], (some.inj heq).symm, by simp⟩
  | succ n ih =>
    intro addr bytes h
    rw [readString] at h
    simp only [bind_eq_bind, bind_eq_some_iff] at h
    obtain ⟨b, -, h⟩ := h
    by_cases hend : b = 0 ∨ n + 1 = 0
    · rw [if_pos hend] at h
      exact ⟨[], (some.inj h).symm, by simp⟩
    · rw [if_neg hend, bind_eq_some_iff] at h
      obtain ⟨rest, hrest, heq⟩ := h
      obtain ⟨text, rfl, htext⟩ := ih hrest
      refine ⟨b :: text, (some.inj heq).symm, ?_⟩
      rw [mem_cons, not_or]
      exact ⟨fun hb => hend (.inl hb.symm), htext⟩

/-! ## What is decoded -/

lemma consumes_parseStrings_end :
    Consumes (parseStrings (k + 1))
      (wordRecord index ptr ++ sizedRecord (index + 1) strarrMagicLen [])
      [] :=
  consumes_argReg.bind (consumes_sized (consumes_pure _))

variable {items : List (U64 × List U8)}

lemma not_consumes_parseStrings (index : U8) (ptr : U64)
    {tail : List U8} (h : tail = wordRecord index ptr ∨ tail = []) :
    ¬ Consumes (parseStrings (k + 1)) tail items := by
  intro hconsumes
  have hrun := hconsumes []
  rcases h with rfl | rfl
  · rw [parseStrings, consumes_argReg.run_bind, argStr, bind_assoc,
      take_bind_run (by decide)] at hrun
    exact absurd hrun (by simp)
  · rw [parseStrings, argReg, bind_assoc, take_bind_run (by decide)] at hrun
    exact absurd hrun (by simp)

/-- The records of an entry: the parser stops behind a null pointer, and goes on behind others. -/
lemma consumes_parseStrings_iff {bytes tail : List U8} (hlength : bytes.length ≤ 16384) :
    Consumes (parseStrings (k + 1)) (stringRecords index ptr bytes ++ tail) items ↔
      if ptr = 0 then tail = [] ∧ items = []
      else ∃ items', items = (ptr, bytes) :: items' ∧ Consumes (parseStrings k) tail items' := by
  have hmagic : (BitVec.ofNat 32 bytes.length : U32) ≠ strarrMagicLen := by
    intro heq
    have := congrArg BitVec.toNat heq
    rw [toNat_length (by omega)] at this
    exact absurd this (by rw [strarrMagicLen]; simp; omega)
  have htake : Consumes (take (BitVec.ofNat 32 bytes.length : U32).toNat) bytes bytes :=
    consumes_take_of_length (toNat_length (by omega)).symm
  rw [stringRecords, bytesRecord, sizedRecord, append_assoc, parseStrings,
    consumes_argReg.bind_iff, ← cons_append, append_assoc, consumes_argStr.bind_iff,
    if_neg hmagic, htake.bind_iff]
  split_ifs with hnull
  · exact consumes_pure_iff
  · exact consumes_map_iff fun _ _ h => (List.cons.inj h).2

/-- A table of at most so many entries and a number of rounds, behind so many bytes: the rounds and
the buffer suffice for its strings. -/
def StringsFit (mem : Memory) : ℕ → ℕ → U64 → ℕ → Prop
  | 0, _, _, _ => True
  -- A round is left,
  | _ + 1, 0, _, _ => False
  | n + 1, k + 1, addr, offset =>
    match stringRead mem addr offset with
    -- for the last entry there is room for the magic record, and it does not lack room for a
    -- string,
    | none => offset + 9 ≤ 27899 ∧
        (pointerAt mem addr = 0 ∨ ¬ ∃ bytes, IsString mem (untagged (pointerAt mem addr)) bytes)
    | some bytes =>
      -- nothing follows a string at address 0,
      if pointerAt mem addr = 0 then n = 0 ∨ k = 0 ∨ 31889 < offset + (14 + bytes.length)
      -- and a string has its NUL where it is cut off.
      else readBytes mem (untagged (pointerAt mem addr)) bytes.length = some bytes ∧
        StringsFit mem n k (addr + 8) (offset + (14 + bytes.length))

/-- Nothing is emitted exactly if there is no round or no room for a string. -/
lemma stringsOut_eq_self_iff (mem : Memory) (k : ℕ) (addr : U64) (index : U8) (args : List U8) :
    stringsOut mem k addr index args = args ↔ k = 0 ∨ 31889 < args.length := by
  cases k with
  | zero => simp [stringsOut]
  | succ k =>
    rw [or_iff_right (by simp)]
    by_cases hfull : 31889 < args.length
    · have hread : stringRead mem addr args.length = none := if_neg (by omega)
      rw [stringsOut_none (by rw [stringSave_eq, hread]; rfl), stringEnd_full (by omega),
        if_neg (by omega), append_nil]
      exact iff_of_true rfl hfull
    · refine iff_of_false (fun heq => ?_) hfull
      cases hsave : stringSave mem addr index args with
      | none =>
        rw [stringsOut_none hsave] at heq
        by_cases hroom : args.length + 9 ≤ 27899
        · rw [stringEnd_of_room hroom] at heq
          simp [wordRecord] at heq
        · rw [stringEnd_full hroom, if_pos (by omega)] at heq
          simp [wordRecord] at heq
      | some args' =>
        rw [stringsOut_some hsave] at heq
        rw [stringSave_eq, map_eq_some_iff] at hsave
        obtain ⟨bytes, -, rfl⟩ := hsave
        have hle := (stringsOut_grows mem k (addr + 8) (index + 1 + 1)
          (args ++ stringRecords index (pointerAt mem addr) bytes)).length_le
        rw [heq, length_append, stringRecords_length] at hle
        omega

/-- Run lemma of the two loops, by induction on the entries. -/
lemma strings_decoded_iff : ∀ {n k : ℕ} {addr : U64} {index : U8} {args tail : List U8},
    stringsOut mem (min n k) addr index args = args ++ tail →
    ((∃ items, StringTable mem n addr items ∧ Consumes (parseStrings n) tail items) ↔
      StringsFit mem n k addr args.length) := by
  intro n
  induction n with
  | zero =>
    intro k addr index args tail h
    rw [Nat.zero_min, stringsOut] at h
    obtain rfl : tail = [] := by simpa using h
    exact iff_of_true ⟨[], .full, consumes_pure _⟩ trivial
  | succ n ih =>
    intro k addr index args tail h
    cases k with
    | zero =>
      rw [Nat.min_zero, stringsOut] at h
      obtain rfl : tail = [] := by simpa using h
      refine iff_of_false ?_ id
      rintro ⟨items, -, hconsumes⟩
      exact not_consumes_parseStrings index 0 (.inr rfl) hconsumes
    | succ k =>
      rw [Nat.add_min_add_right] at h
      rw [StringsFit]
      cases hread : stringRead mem addr args.length with
      | none =>
        rw [stringsOut_none (by rw [stringSave_eq, hread]; rfl)] at h
        dsimp only
        by_cases hroom : args.length + 9 ≤ 27899
        · rw [stringEnd_of_room hroom] at h
          obtain rfl := append_cancel_left h
          rw [and_iff_right hroom]
          constructor
          · rintro ⟨items, htable, hconsumes⟩
            obtain rfl := hconsumes.unique consumes_parseStrings_end
            cases htable with
            | stop hlast => exact hlast
          · intro hlast
            exact ⟨[], .stop hlast, consumes_parseStrings_end⟩
        · rw [stringEnd_full hroom] at h
          obtain rfl := append_cancel_left h
          refine iff_of_false ?_ fun h => hroom h.1
          rintro ⟨items, -, hconsumes⟩
          refine not_consumes_parseStrings index (pointerAt mem addr) ?_ hconsumes
          split_ifs
          · exact .inl rfl
          · exact .inr rfl
      | some bytes =>
        have hstring : readString mem (untagged (pointerAt mem addr)) maxStringSize = some bytes :=
          (ite_none_right_eq_some.mp hread).2
        rw [stringsOut_some (by rw [stringSave_eq, hread]; rfl)] at h
        obtain ⟨tail', htail⟩ := stringsOut_grows mem (min n k) (addr + 8) (index + 1 + 1)
          (args ++ stringRecords index (pointerAt mem addr) bytes)
        obtain rfl : stringRecords index (pointerAt mem addr) bytes ++ tail' = tail := by
          rw [← htail, append_assoc] at h
          exact append_cancel_left h
        have hlength : (args ++ stringRecords index (pointerAt mem addr) bytes).length =
            args.length + (14 + bytes.length) := by
          rw [length_append, stringRecords_length]
        simp only [consumes_parseStrings_iff (readString_length hstring).2]
        by_cases hnull : pointerAt mem addr = 0
        · simp only [if_pos hnull]
          -- The parser is done, and so must the loop be.
          have hself := stringsOut_eq_self_iff mem (min n k) (addr + 8) (index + 1 + 1)
            (args ++ stringRecords index (pointerAt mem addr) bytes)
          rw [← htail, append_right_eq_self, hlength] at hself
          rw [← or_assoc, ← Nat.min_eq_zero_iff, ← hself]
          constructor
          · rintro ⟨items, -, rfl, -⟩
            rfl
          · rintro rfl
            exact ⟨[], .stop (.inl hnull), rfl, rfl⟩
        · simp only [if_neg hnull]
          have hmore := ih htail.symm
          rw [hlength] at hmore
          rw [← hmore]
          constructor
          · rintro ⟨_, htable, items, rfl, hconsumes⟩
            cases htable with
            | entry _ hstr hrest => exact ⟨hstr.2, items, hrest, hconsumes⟩
          · rintro ⟨hbytes, items, hrest, hconsumes⟩
            exact ⟨_, .entry hnull ⟨readString_text hstring, hbytes⟩ hrest, items, rfl, hconsumes⟩

/-- Arrays of strings are decoded in full exactly if the rounds of the loop and the buffer suffice.
This is for every program the type's operations stand in, every state in which they begin, every
memory and every number of iterations that is left. -/
theorem string_array_decoded_iff (hload : Loaded m p prog)
    (hat : At prog s (ArgType.stringArray.ops ++ rest)) (hcount : s.ctx.loopCount = 0)
    (hblack : s.ctx.matchBlacklist = false) (ptr : U64) (budget : ℕ) :
    (∃ items, StringTable m.memory 32 s.ctx.readAddr items ∧
      Consumes (ArgType.stringArray.parse true ptr) (m.emittedFor p .stringArray budget s)
        (.strings ptr items)) ↔
      StringsFit m.memory 32 (budget / 3) s.ctx.readAddr s.args.length := by
  rw [← strings_decoded_iff (emittedFor_stringArray hload hat hcount hblack budget).symm]
  refine exists_congr fun items => and_congr_right fun _ => ?_
  rw [ArgType.parse, consumes_map_iff fun _ _ h => (Parsed.strings.inj h).2]
  constructor
  · rintro ⟨items', heq, h⟩
    exact (Parsed.strings.inj heq).2 ▸ h
  · exact fun h => ⟨items, rfl, h⟩

/-- A table of pointers to one empty string. -/
def emptyStrings : Memory := fun addr =>
  some (if addr < 8192 ∧ addr &&& 7 = 1 then 0x20 else 0)

/-- A uprobe has 64 iterations, and three of them save a string: of 32 strings in the table it emits
20, and the parser panics. -/
theorem strings_past_budget_not_decoded :
    let arg := pointedArg .stringArray
    let m := argsMachine [arg] (fun _ => none) (fun _ => 0) emptyStrings
    let result := m.readArgs (argsPoint 64 [arg]) (freshCtx 4096) []
    (∀ i < 32, pointerAt emptyStrings (4096 + 8 * BitVec.ofNat 64 i) = 8192) ∧
      IsString emptyStrings (untagged 8192) [0] ∧ result.args.length = 9 + 20 * 15 ∧
      (arg.parse .uprobeEnter).run result.args = none := by
  refine ⟨by decide +kernel, ⟨⟨[], rfl, by simp⟩, by decide +kernel⟩, by decide +kernel,
    by decide +kernel⟩

def oneString : Memory := fun addr =>
  if addr < 4096 then none
  else some (if addr = 4097 then 0x20 else if addr = 8192 then 0x61 else 0)

/-- A table with one string and a null pointer is decoded in full. -/
theorem string_array_decoded_one :
    ∃ items, StringTable oneString 32 4096 items ∧
      Consumes (ArgType.stringArray.parse true 4096)
        ((argsMachine [pointedArg .stringArray] (fun _ => none) (fun _ => 0) oneString).emittedFor
          (argsPoint 64 [pointedArg .stringArray]) .stringArray 61 (pointedScan 4096))
        (.strings 4096 items) := by
  have hload : Loaded (argsMachine [pointedArg .stringArray] (fun _ => none) (fun _ => 0) oneString)
      (argsPoint 64 [pointedArg .stringArray]) (argsOps [pointedArg .stringArray]) :=
    loaded_args (by decide) (by decide)
  have hat : At (argsOps [pointedArg .stringArray]) (pointedScan 4096)
      (ArgType.stringArray.ops ++ []) := ⟨rfl, by decide, rfl⟩
  have hfirst : stringRead oneString 4096 0 = some [0x61, 0] := by decide +kernel
  have hsecond : stringRead oneString 4104 16 = none := by decide +kernel
  have hfit : StringsFit oneString 32 20 4096 0 := by
    have hpointer : ¬ pointerAt oneString 4096 = 0 := by decide +kernel
    rw [StringsFit, hfirst]
    dsimp only
    rw [if_neg hpointer]
    refine ⟨by decide +kernel, ?_⟩
    show StringsFit oneString 31 19 4104 16
    rw [StringsFit, hsecond]
    exact ⟨by decide, .inl (by decide +kernel)⟩
  exact (string_array_decoded_iff hload hat rfl rfl 4096 61).mpr hfit

end Spz.Bpf
