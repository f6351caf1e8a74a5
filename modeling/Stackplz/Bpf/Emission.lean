import Stackplz.Bpf.Accepted
import Stackplz.Bpf.Decode

/-!
# What the operations of a type emit

The argument buffer only grows, so what `read_args` emits within some iterations is known as soon as
the buffer is known at the moments where a record is saved (`emitted_between`).  `emittedFor` is
what is emitted for a type, from the state in which its operations begin and with the iterations
that are left there: all of it, or what is saved before the iterations are used up.
-/

namespace Spz.Bpf

open Machine

variable {m : Machine} {p : PointArgs} {op : OpConfig} {prog rest ops : List OpConfig}
  {code : OpCode}
  {s s' : Scan} {mem : Memory} {args args' : List U8} {ptr word : U64} {size : U32} {index : U8}
  {n a c k : ℕ} {bytes : List U8}

/-! ## The buffer grows -/

lemma saveToSubmitBuf_grows : args <+: saveToSubmitBuf args word index := by
  unfold saveToSubmitBuf
  split_ifs <;> simp

lemma saveBytesToBuf_grows (h : saveBytesToBuf mem args ptr size index = some args') :
    args <+: args' := by
  unfold saveBytesToBuf at h
  dsimp only at h
  split_ifs at h
  · obtain ⟨_, _, rfl⟩ := Option.map_eq_some_iff.mp h
    exact List.prefix_append _ _
  · obtain ⟨_, _, rfl⟩ := Option.map_eq_some_iff.mp h
    exact List.prefix_append _ _
  · cases h
    exact List.prefix_append _ _

lemma saveStrToBuf_grows (h : saveStrToBuf mem args ptr index = some args') : args <+: args' := by
  unfold saveStrToBuf at h
  split_ifs at h
  obtain ⟨_, _, rfl⟩ := Option.map_eq_some_iff.mp h
  exact List.prefix_append _ _

lemma saveBytesToBuf_getD_grows : args <+: (saveBytesToBuf mem args ptr size index).getD args := by
  cases h : saveBytesToBuf mem args ptr size index with
  | none => exact List.prefix_rfl
  | some args' => exact saveBytesToBuf_grows h

variable {ctx : OpCtx} {t u : Scan}

lemma Scan.saved_grows {result : Option (List U8)}
    (h : ∀ args', result = some args' → s.args <+: args') :
    s.args <+: (s.saved mem ctx result).args := by
  cases result with
  | none => exact saveBytesToBuf_getD_grows
  | some args' => exact h args' rfl

lemma Scan.savePtrText_grows {save : List U8 → U64 → U8 → Option (List U8)}
    (h : ∀ args addr index args', save args addr index = some args' → args <+: args') :
    s.args <+: (s.savePtrText mem save).args := by
  have hword : s.args <+: (s.savedWord (probeReadWord mem (untagged s.ctx.readAddr))).args :=
    saveToSubmitBuf_grows
  unfold Scan.savePtrText
  dsimp only
  split
  · exact hword.trans (h _ _ _ _ ‹_›)
  · exact hword.trans saveBytesToBuf_getD_grows

lemma Machine.filtered_grows {apply : OpCtx → ArgFilter → OpCtx}
    (h : m.filtered op s apply = .ok s') : s.args <+: s'.args := by
  unfold filtered at h
  split at h
  · exact absurd h (by simp)
  · cases h
    exact List.prefix_rfl

lemma Machine.perform_grows (h : m.perform op code s = .ok s') : s.args <+: s'.args := by
  cases code with
  | readReg =>
    have hreg : m.readReg op s = .ok s' := h
    unfold readReg at hreg
    dsimp only at hreg
    split_ifs at hreg
    all_goals
      cases hreg
      exact List.prefix_rfl
  | filterValue | filterBuffer | filterString => exact m.filtered_grows h
  | saveAddr | saveReg | savePointer =>
    cases h
    exact saveToSubmitBuf_grows
  | saveStruct | saveString16 =>
    cases h
    exact Scan.saved_grows fun _ h => saveBytesToBuf_grows h
  | saveString =>
    cases h
    exact Scan.saved_grows fun _ h => saveStrToBuf_grows h
  | savePtrString =>
    cases h
    exact Scan.savePtrText_grows fun _ _ _ _ h => saveStrToBuf_grows h
  | savePtrString16 =>
    cases h
    exact Scan.savePtrText_grows fun _ _ _ _ h => saveBytesToBuf_grows h
  | _ =>
    cases h
    exact List.prefix_rfl

lemma Machine.execute_grows (h : m.execute op code s = .ok s') : s.args <+: s'.args := by
  by_cases hskip : code = .skip
  · rw [execute, if_pos hskip] at h
    exact absurd h (by simp)
  · exact m.perform_grows ((m.execute_ok_iff hskip).mp h).1

lemma Machine.step_grows (h : m.step p s = .ok s') : s.args <+: s'.args := by
  have hnext : ∀ {t : Scan}, step.next m p s = .ok t → s.args <+: t.args := by
    intro t ht
    unfold step.next at ht
    split_ifs at ht
    split at ht
    · exact absurd ht (by simp)
    · exact m.execute_grows (s := s.fetched _) ht
  unfold step at h
  split at h
  · split_ifs at h
    · exact m.execute_grows (s := s.posted) h
    · exact hnext h
  · exact hnext h

/-! ## What is emitted -/

/-- What a number of iterations appends to the buffer. -/
def Machine.emitted (m : Machine) (p : PointArgs) (n : ℕ) (s : Scan) : List U8 :=
  match m.loop p n s with
  | .ok s' => s'.args.drop s.args.length
  | .error (_, s') => s'.args.drop s.args.length

/-- What `read_args` emits for a type, if so many iterations are left when its operations begin. -/
def Machine.emittedFor (m : Machine) (p : PointArgs) (type : ArgType) (budget : ℕ) (s : Scan) :
    List U8 :=
  m.emitted p (min budget (m.passCode type.code s).1) s

lemma emitted_eq (h : m.loop p n s = .ok s') (hargs : s'.args = s.args ++ bytes) :
    m.emitted p n s = bytes := by
  rw [emitted, h]
  dsimp only
  rw [hargs, List.drop_left]

lemma Machine.append_emitted (h : m.loop p n s = .ok s') : s.args ++ m.emitted p n s = s'.args := by
  have hgrows : ∀ s s', m.step p s = .ok s' → s.args <+: s'.args := fun _ _ h => m.step_grows h
  obtain ⟨bytes, hbytes⟩ := Budget.run_grows hgrows h
  rw [emitted_eq h hbytes.symm, hbytes]

lemma loop_between (h : m.loop p a s = .ok t) (h' : m.loop p c s = .ok u) (hargs : u.args = t.args)
    (hak : a ≤ k) (hkc : k ≤ c) : ∃ v, m.loop p k s = .ok v ∧ v.args = t.args :=
  Budget.run_between (fun _ _ h => m.step_grows h) h h' hargs hak hkc

lemma emitted_between (h : m.loop p a s = .ok t) (h' : m.loop p c s = .ok u)
    (ht : t.args = s.args ++ bytes) (hu : u.args = s.args ++ bytes) (hak : a ≤ k) (hkc : k ≤ c) :
    m.emitted p k s = bytes := by
  obtain ⟨v, hv, hargs⟩ := loop_between h h' (hu.trans ht.symm) hak hkc
  exact emitted_eq hv (hargs.trans ht)

lemma ArgType.loop_code {type : ArgType} (hload : Loaded m p prog) (htype : type.Registered)
    (hat : At prog s (type.ops ++ rest)) (hcount : s.ctx.loopCount = 0)
    (hblack : s.ctx.matchBlacklist = false) :
    m.loop p (m.passCode type.code s).1 s = .ok (m.passCode type.code s).2 ∧
      At prog (m.passCode type.code s).2 rest ∧ (m.passCode type.code s).2.ctx.loopCount = 0 ∧
      (m.passCode type.code s).2.ctx.matchBlacklist = false := by
  have hcalm : ∀ block ∈ type.code, block.Calm := fun block hblock op hop =>
    calm_code type htype op (List.mem_flatMap.mpr ⟨block, hblock, hop⟩)
  exact loop_runCode hload type.code_wellPlaced hat hcount hblack (m.runCode_calm hcalm hblack).1

lemma loop_one (hload : Loaded m p prog) (hat : At prog s (op :: rest))
    (hcalm : op.CalmCode op.code) (hblack : s.ctx.matchBlacklist = false) :
    m.loop p 1 s = .ok (m.effect op op.code (s.fetched op)) :=
  Budget.run_one ((hat.step hload).trans (m.execute_calm (s := s.fetched op) hcalm hblack).1)

/-! ## Rounds -/

lemma OpCtx.forBreak_loopCount (ctx : OpCtx) :
    ctx.forBreak.loopCount = if ctx.loopCount ≥ ctx.breakCount then 0 else ctx.loopCount + 1 := by
  unfold OpCtx.forBreak
  dsimp only
  split_ifs <;> rfl

lemma OpCtx.forBreak_kept (ctx : OpCtx) : ctx.forBreak.readAddr = ctx.readAddr ∧
    ctx.forBreak.saveIndex = ctx.saveIndex ∧ ctx.forBreak.tmpValue = ctx.tmpValue := by
  unfold OpCtx.forBreak
  dsimp only
  split_ifs <;> exact ⟨rfl, rfl, rfl⟩

lemma InRound.lt (h : InRound s (k + 1)) : ¬ s.ctx.loopCount ≥ s.ctx.breakCount := by
  rcases h with ⟨-, -, hk⟩ | ⟨-, -, hsum⟩
  · exact absurd hk (by simp)
  · refine BitVec.not_le.mpr ?_
    show s.ctx.loopCount.toNat < s.ctx.breakCount.toNat
    omega

lemma InRound.succ_ne_zero (h : InRound s (k + 1)) : s.ctx.loopCount + 1 ≠ 0 := by
  have hlt : s.ctx.loopCount.toNat < s.ctx.breakCount.toNat := BitVec.not_le.mp h.lt
  have hbound := s.ctx.breakCount.isLt
  intro hzero
  have htoNat := congrArg BitVec.toNat hzero
  rw [BitVec.toNat_add, Nat.mod_eq_of_lt (by simpa using by omega)] at htoNat
  exact absurd htoNat (by simp)

/-! ## Saved bytes -/

/-- What is saved of `len` bytes at an address: all of them, or nothing if one of them faults. -/
def savedBytes (mem : Memory) (addr : U64) (len : U32) : List U8 :=
  (readBytes mem addr len.toNat).getD []

lemma savedBytes_length_le (addr : U64) (len : U32) :
    (savedBytes mem addr len).length ≤ len.toNat := by
  unfold savedBytes
  cases h : readBytes mem addr len.toNat with
  | none => exact Nat.zero_le _
  | some bytes => exact (readBytes_length h).le

/-- The length that `OP_SAVE_STRUCT` takes, at most 4096. -/
def cappedLen (len : U32) : U32 := if len > 4096 then 4096 else len

lemma cappedLen_le (len : U32) : (cappedLen len).toNat ≤ 4096 := by
  unfold cappedLen
  split_ifs with h
  · exact le_rfl
  · exact BitVec.not_lt.mp h

lemma saved_bytes_args {addr : U64} {len : U32} (hlen : len.toNat ≤ maxBytesArrSize)
    (hroom : RoomForBytes s.args) :
    (s.saved mem ctx (saveBytesToBuf mem s.args addr len ctx.saveIndex)).args =
      s.args ++ bytesRecord ctx.saveIndex (savedBytes mem addr len) := by
  show (saveBytesToBuf mem s.args addr len ctx.saveIndex).getD _ = _
  rw [saveBytesToBuf_eq hlen hroom, saveBytesToBuf_zero hroom, savedBytes]
  cases h : readBytes mem addr len.toNat with
  | none => rfl
  | some bytes =>
    show s.args ++ sizedRecord ctx.saveIndex len bytes = _
    rw [Option.getD_some, bytesRecord, readBytes_length h, BitVec.ofNat_toNat, BitVec.setWidth_eq]

lemma Scan.saveStruct_args (hop : op.preCode = .skip) (hroom : RoomForBytes s.args) :
    (s.saveStruct mem op).args = s.args ++
      bytesRecord s.ctx.saveIndex
        (savedBytes mem (untagged s.ctx.readAddr) (cappedLen s.ctx.readLen)) := by
  have hpre : ¬ op.preCode = .setReadCount := by rw [hop]; decide
  unfold Scan.saveStruct
  dsimp only
  rw [if_neg hpre]
  exact saved_bytes_args (cappedLen_le _) hroom

/-! ## Single operations -/

lemma Machine.afterOp_saveStruct_args (hroom : RoomForBytes s.args) :
    (m.afterOp (.ofCode .saveStruct) s).args = s.args ++ bytesRecord s.ctx.saveIndex
      (savedBytes m.memory (untagged s.ctx.readAddr) (cappedLen s.ctx.readLen)) := by
  have hafter : m.afterOp (.ofCode .saveStruct) s =
    (s.fetched (.ofCode .saveStruct)).saveStruct m.memory (.ofCode .saveStruct) := rfl
  rw [hafter]
  exact Scan.saveStruct_args rfl hroom

lemma Machine.afterOp_saveStructOp_args (len : U64) (hroom : RoomForBytes s.args) :
    (m.afterOp (saveStructOp len) s).args = s.args ++ bytesRecord s.ctx.saveIndex
      (savedBytes m.memory (untagged s.ctx.readAddr) (cappedLen (len.setWidth 32))) := by
  have hafter : m.afterOp (saveStructOp len) s =
    (m.effect (saveStructOp len) .setReadLen (s.fetched (saveStructOp len))).posted.saveStruct
    m.memory
      (saveStructOp len) := rfl
  rw [hafter]
  exact Scan.saveStruct_args rfl hroom

/-- An argument of a uprobe, addressed by `x0`. -/
def pointedArg (type : ArgType) : PointArg :=
  { regIndex := 0, type := type, pointType := .uprobeEnter, groupType := .uprobeEnter }

/-- The state in which the operations of its type begin, behind the two of the register. -/
def pointedScan (addr : U64) : Scan :=
  { op := none, ctx := { opKeyIndex := 2, postCode := .skip, readAddr := addr }, args := [] }

end Spz.Bpf
