import Stackplz.Bpf.Running
import Stackplz.Lib.Checks

/-!
# Programs with loops

A loop is a body between two `OP_FOR_BREAK`.  The first one notes where the body starts and counts
1, unless the break count is 0; the second one jumps back until the count has reached the break
count.  So the body runs at least once, and as often as the break count says, unless an operation in
it asks for the end.  `runCode` is the meaning of a program of operations and loops, together with
the iterations it takes; `loop_runCode` connects it with `read_args`.
-/

namespace Spz.Bpf

open Check Machine Budget

/-- A part of a program. -/
inductive Block
  | op (op : OpConfig)
  | loop (body : List OpConfig)
deriving DecidableEq, Repr

/-- The operations of a part, as they stand in the list of keys. -/
def Block.ops : Block → List OpConfig
  | .op o => [o]
  | .loop body => forBreakOp :: (body ++ [forBreakOp])

def codeOps (code : List Block) : List OpConfig := code.flatMap Block.ops

/-- Where the operations of a program may stand. -/
def Block.WellPlaced : Block → Prop
  | .op o => o.OutsideLoop
  | .loop body => ∀ o ∈ body, o.InLoop

instance : (block : Block) → Decidable block.WellPlaced
  | .op o => inferInstanceAs (Decidable o.OutsideLoop)
  | .loop body => inferInstanceAs (Decidable (∀ op ∈ body, op.InLoop))

namespace Machine

variable (m : Machine)

/-- A round of a loop: the body and the `OP_FOR_BREAK` behind it. -/
def runRound (body : List OpConfig) (s : Scan) : Except Halt Scan := do
  let s ← m.runOps body s
  m.runOp forBreakOp s

/-- At most `k` more rounds after this one, and the iterations they take. -/
def runLoop (body : List OpConfig) : ℕ → Scan → Except Halt (ℕ × Scan)
  | 0, s => do
    let s ← m.runRound body s
    .ok (stepsOf body + 1, s)
  | k + 1, s => do
    let s ← m.runRound body s
    if s.ctx.loopCount = 0 then .ok (stepsOf body + 1, s)
    else
      let (c, s) ← runLoop body k s
      .ok (stepsOf body + 1 + c, s)

/-- The rounds that the counters leave after the one that begins. -/
def roundsLeft (s : Scan) : ℕ := s.ctx.breakCount.toNat - s.ctx.loopCount.toNat

/-- A part of a program and the iterations it takes. -/
def runBlock : Block → Scan → Except Halt (ℕ × Scan)
  | .op op, s => do
    let s ← m.runOp op s
    .ok (op.steps, s)
  | .loop body, s => do
    let s ← m.runOp forBreakOp s
    let (c, s) ← m.runLoop body (roundsLeft s) s
    .ok (1 + c, s)

/-- A program and the iterations it takes. -/
def runCode : List Block → Scan → Except Halt (ℕ × Scan)
  | [], s => .ok (0, s)
  | block :: code, s => do
    let (c, s) ← m.runBlock block s
    let (c', s) ← runCode code s
    .ok (c + c', s)

end Machine

variable {m : Machine} {p : PointArgs} {prog rest body : List OpConfig} {code : List Block}
  {s s' : Scan} {halt : Halt} {c k : ℕ}

@[simp] lemma codeOps_nil : codeOps [] = [] := rfl

@[simp] lemma codeOps_cons (block : Block) (code : List Block) :
    codeOps (block :: code) = block.ops ++ codeOps code := rfl

@[simp] lemma codeOps_append (code code' : List Block) :
    codeOps (code ++ code') = codeOps code ++ codeOps code' := by simp [codeOps]

lemma codeOps_map_op (ops : List OpConfig) : codeOps (ops.map .op) = ops := by
  induction ops with
  | nil => rfl
  | cons op ops ih =>
    rw [List.map_cons, codeOps_cons, ih]
    rfl

/-! ## One round -/

/-- A loop runs: it has just been entered with nothing to count, or its counters say how many rounds
are left and where to jump. -/
def InRound (s : Scan) (k : ℕ) : Prop :=
  (s.ctx.loopCount = 0 ∧ s.ctx.breakCount = 0 ∧ k = 0) ∨
    (s.ctx.loopCount ≠ 0 ∧ s.ctx.loopIndex = s.ctx.opKeyIndex ∧
      s.ctx.loopCount.toNat + k = s.ctx.breakCount.toNat)

/-- After a round: out of the loop, or before the next one. -/
inductive AfterRound (prog rest body : List OpConfig) (k : ℕ) (s' : Scan) : Prop
  | left (count : s'.ctx.loopCount = 0) (at_rest : At prog s' rest)
  | again (count : s'.ctx.loopCount ≠ 0) (j : ℕ) (less : k = j + 1)
      (at_body : At prog s' (body ++ forBreakOp :: rest)) (round : InRound s' j)

lemma Machine.runOps_not_blacklisted {ops : List OpConfig} (hplain : ∀ op ∈ ops, op.Plain)
    (hblack : s.ctx.matchBlacklist = false) (h : m.runOps ops s = .ok s') :
    s'.ctx.matchBlacklist = false := by
  induction ops generalizing s with
  | nil => exact Except.ok.inj h ▸ hblack
  | cons op ops ih =>
    rw [runOps_cons, bind_eq_ok] at h
    obtain ⟨t, hop, hrest⟩ := h
    refine ih (fun op hmem => hplain op (by simp [hmem])) ?_ hrest
    rw [runOp, bind_eq_ok] at hop
    obtain ⟨u, hexec, hpost⟩ := hop
    have hu := ((m.execute_ok_iff (hplain op (by simp)).1.1).mp hexec).2
    split_ifs at hpost with hskip
    · exact Except.ok.inj hpost ▸ hu
    · exact ((m.execute_ok_iff hskip).mp hpost).2

section

variable (hload : Loaded m p prog) (hbody : ∀ op ∈ body, op.InLoop)
  (hat : At prog s (body ++ forBreakOp :: rest))
include hload hbody hat

/-- A round of a loop. -/
lemma loop_runRound (hround : InRound s k) (hblack : s.ctx.matchBlacklist = false)
    (h : m.runRound body s = .ok s') :
    m.loop p (stepsOf body + 1) s = .ok s' ∧ s'.ctx.matchBlacklist = false ∧
      AfterRound prog rest body k s' := by
  have hplain : ∀ op ∈ body, op.Plain := fun op hop => (hbody op hop).1
  rw [runRound, bind_eq_ok] at h
  obtain ⟨t, hops, hbreak⟩ := h
  obtain ⟨hloop, hend⟩ := loop_runOps hload hplain hat hops
  have htblack := m.runOps_not_blacklisted hplain hblack hops
  have hsame := m.runOps_loop hbody hops
  rw [m.runOp_forBreak htblack] at hbreak
  cases hbreak
  have hcounts : (t.fetched forBreakOp).ctx.loopCount = t.ctx.loopCount ∧
      (t.fetched forBreakOp).ctx.breakCount = t.ctx.breakCount ∧
      (t.fetched forBreakOp).ctx.loopIndex = t.ctx.loopIndex := ⟨rfl, rfl, rfl⟩
  have hrun : m.loop p (stepsOf body + 1) s =
      .ok { t.fetched forBreakOp with ctx := (t.fetched forBreakOp).ctx.forBreak } :=
    run_trans hloop (run_one (hend.step_forBreak hload htblack))
  by_cases hexit : t.ctx.loopCount ≥ t.ctx.breakCount
  · -- The count has reached the break count.
    have hexit' : (t.fetched forBreakOp).ctx.loopCount ≥
      (t.fetched forBreakOp).ctx.breakCount := hexit
    rw [OpCtx.forBreak_exit hexit'] at hrun ⊢
    exact ⟨hrun, htblack, .left rfl (hend.next rfl rfl)⟩
  · rw [ge_iff_le, BitVec.not_le] at hexit
    -- Then no operation of the body has asked for the end, and rounds were left.
    have hcount : t.ctx.loopCount = s.ctx.loopCount := by
      rcases hsame.loopCount with heq | heq
      · exact heq
      · rw [heq, hsame.breakCount] at hexit
        exact absurd hexit (BitVec.lt_irrefl _)
    rw [hcount, hsame.breakCount] at hexit
    obtain ⟨-, hzero, -⟩ | ⟨hne, hindex, hsum⟩ := hround
    · rw [hzero] at hexit
      exact absurd hexit (BitVec.not_lt_zero)
    have hlt : s.ctx.loopCount.toNat < s.ctx.breakCount.toNat := hexit
    have hbound := s.ctx.breakCount.isLt
    obtain ⟨j, rfl⟩ : ∃ j, k = j + 1 := ⟨k - 1, by omega⟩
    have hplus : (s.ctx.loopCount + 1).toNat = s.ctx.loopCount.toNat + 1 := by
      rw [BitVec.toNat_add]
      exact Nat.mod_eq_of_lt (by simpa using by omega)
    have hagain : (t.fetched forBreakOp).ctx.loopCount < (t.fetched forBreakOp).ctx.breakCount := by
      rw [hcounts.1, hcounts.2.1, hcount, hsame.breakCount]
      exact hexit
    rw [OpCtx.forBreak_again hagain (by rw [hcounts.1, hcount]; exact hne)] at hrun ⊢
    have hmore : t.ctx.loopCount + 1 ≠ 0 := by
      intro hz
      have := congrArg BitVec.toNat hz
      rw [hcount, hplus] at this
      exact absurd this (by simp)
    refine ⟨hrun, htblack, .again hmore j rfl ⟨?_, ?_, rfl⟩ (.inr ⟨hmore, rfl, ?_⟩)⟩
    · show prog.drop t.ctx.loopIndex = _
      rw [hsame.loopIndex, hindex, hat.drop]
    · show t.ctx.loopIndex ≤ _
      rw [hsame.loopIndex, hindex]
      exact hat.index_le
    · show (t.ctx.loopCount + 1).toNat + j = t.ctx.breakCount.toNat
      rw [hcount, hsame.breakCount, hplus]
      omega

lemma loop_runRound_error (hblack : s.ctx.matchBlacklist = false)
    (h : m.runRound body s = .error halt) : m.loop p (stepsOf body + 1) s = .error halt := by
  have hplain : ∀ op ∈ body, op.Plain := fun op hop => (hbody op hop).1
  rw [runRound, bind_eq_error] at h
  rcases h with h | ⟨t, hops, hbreak⟩
  · exact run_error_mono (loop_runOps_error hload hplain hat h) (Nat.le_succ _)
  · rw [m.runOp_forBreak (m.runOps_not_blacklisted hplain hblack hops)] at hbreak
    exact absurd hbreak (by simp)

end

/-! ## Loops -/

/-- A loop takes its iterations, by induction on the rounds that are left. -/
lemma loop_runLoop (hload : Loaded m p prog) (hbody : ∀ op ∈ body, op.InLoop) :
    ∀ {k c : ℕ} {s : Scan}, At prog s (body ++ forBreakOp :: rest) → InRound s k →
      s.ctx.matchBlacklist = false → m.runLoop body k s = .ok (c, s') →
      m.loop p c s = .ok s' ∧ At prog s' rest ∧ s'.ctx.loopCount = 0 ∧
        s'.ctx.matchBlacklist = false := by
  intro k
  induction k with
  | zero =>
    intro c s hat hround hblack h
    rw [runLoop, bind_eq_ok] at h
    obtain ⟨t, hrun, heq⟩ := h
    cases heq
    obtain ⟨hloop, htblack, hafter⟩ := loop_runRound hload hbody hat hround hblack hrun
    cases hafter with
    | left hcount hrest => exact ⟨hloop, hrest, hcount, htblack⟩
    | again _ j hless _ _ => exact absurd hless (by simp)
  | succ k ih =>
    intro c s hat hround hblack h
    rw [runLoop, bind_eq_ok] at h
    obtain ⟨t, hrun, h⟩ := h
    obtain ⟨hloop, htblack, hafter⟩ := loop_runRound hload hbody hat hround hblack hrun
    cases hafter with
    | left hcount hrest =>
      rw [if_pos hcount] at h
      cases h
      exact ⟨hloop, hrest, hcount, htblack⟩
    | again hcount j hless hat' hround' =>
      obtain rfl : k = j := Nat.succ.inj hless
      rw [if_neg hcount, bind_eq_ok] at h
      obtain ⟨⟨d, u⟩, hmore, heq⟩ := h
      cases heq
      obtain ⟨hloop', hrest⟩ := ih hat' hround' htblack hmore
      exact ⟨run_trans hloop hloop', hrest⟩

/-- The first `OP_FOR_BREAK` enters the loop. -/
lemma loop_enter (hload : Loaded m p prog) (hat : At prog s (forBreakOp :: rest))
    (hzero : s.ctx.loopCount = 0) (hblack : s.ctx.matchBlacklist = false)
    (h : m.runOp forBreakOp s = .ok s') :
    m.loop p 1 s = .ok s' ∧ At prog s' rest ∧ InRound s' (roundsLeft s') ∧
      s'.ctx.matchBlacklist = false := by
  rw [m.runOp_forBreak hblack] at h
  cases h
  have hstep := hat.step_forBreak hload hblack
  have hctx : (s.fetched forBreakOp).ctx.loopCount = 0 := hzero
  by_cases hnone : s.ctx.breakCount = 0
  · -- Nothing to count: the body runs once.
    have hexit : (s.fetched forBreakOp).ctx.loopCount ≥ (s.fetched forBreakOp).ctx.breakCount := by
      show s.ctx.loopCount ≥ s.ctx.breakCount
      rw [hzero, hnone]
      exact BitVec.le_refl _
    rw [OpCtx.forBreak_exit hexit] at hstep ⊢
    exact ⟨run_one hstep, hat.next rfl rfl, .inl ⟨rfl, rfl, rfl⟩, hblack⟩
  · have hpos : 0 < s.ctx.breakCount.toNat :=
      Nat.pos_of_ne_zero fun h => hnone (BitVec.eq_of_toNat_eq h)
    have hlt : (s.fetched forBreakOp).ctx.loopCount < (s.fetched forBreakOp).ctx.breakCount := by
      show s.ctx.loopCount < s.ctx.breakCount
      rw [hzero]
      exact hpos
    rw [OpCtx.forBreak_enter hlt hctx] at hstep ⊢
    refine ⟨run_one hstep, hat.next rfl rfl, .inr ⟨?_, rfl, ?_⟩, hblack⟩
    · show s.ctx.loopCount + 1 ≠ 0
      rw [hzero]
      decide
    · show (s.ctx.loopCount + 1).toNat + (s.ctx.breakCount.toNat - (s.ctx.loopCount + 1).toNat) = _
      rw [hzero]
      exact Nat.add_sub_cancel' hpos

/-! ## Programs -/

/-- The interpreter runs a program: as the program says, and in as many iterations. -/
lemma loop_runCode (hload : Loaded m p prog) :
    ∀ {code : List Block}, (∀ block ∈ code, block.WellPlaced) → ∀ {s : Scan} {c : ℕ},
      At prog s (codeOps code ++ rest) → s.ctx.loopCount = 0 → s.ctx.matchBlacklist = false →
      m.runCode code s = .ok (c, s') →
      m.loop p c s = .ok s' ∧ At prog s' rest ∧ s'.ctx.loopCount = 0 ∧
        s'.ctx.matchBlacklist = false := by
  intro code
  induction code with
  | nil =>
    intro _ s c hat hzero hblack h
    cases h
    exact ⟨rfl, hat, hzero, hblack⟩
  | cons block code ih =>
    intro hplaced s c hat hzero hblack h
    rw [runCode, bind_eq_ok] at h
    obtain ⟨⟨d, t⟩, hblock, h⟩ := h
    rw [bind_eq_ok] at h
    obtain ⟨⟨e, u⟩, hcode, heq⟩ := h
    cases heq
    have hhead := hplaced block (by simp)
    have htail : ∀ block ∈ code, block.WellPlaced := fun b hb => hplaced b (by simp [hb])
    cases block with
    | op op =>
      rw [runBlock, bind_eq_ok] at hblock
      obtain ⟨t', hop, heq⟩ := hblock
      obtain ⟨rfl, rfl⟩ := Prod.mk.inj (Except.ok.inj heq)
      obtain ⟨hloop, hat'⟩ := loop_runOp hload hat hhead.1 hop
      have hops : m.runOps [op] s = .ok t' := by rw [runOps_cons, hop]; rfl
      have hone : ∀ o ∈ [op], OpConfig.OutsideLoop o := List.forall_mem_singleton.mpr hhead
      have hcount := m.runOps_loopCount hone hops
      have hblack' := m.runOps_not_blacklisted (fun o ho => (hone o ho).1) hblack hops
      obtain ⟨hloop', hrest⟩ := ih htail hat' (hcount.trans hzero) hblack' hcode
      exact ⟨run_trans hloop hloop', hrest⟩
    | loop body =>
      rw [runBlock, bind_eq_ok] at hblock
      obtain ⟨t', henter, hblock⟩ := hblock
      rw [bind_eq_ok] at hblock
      obtain ⟨⟨f, v⟩, hrounds, heq⟩ := hblock
      cases heq
      have hat : At prog s (forBreakOp :: (body ++ forBreakOp :: (codeOps code ++ rest))) := by
        simpa [Block.ops] using hat
      obtain ⟨hloop, hat', hround, hblack'⟩ := loop_enter hload hat hzero hblack henter
      obtain ⟨hloop', hat'', hcount, hblack''⟩ :=
        loop_runLoop hload hhead hat' hround hblack' hrounds
      obtain ⟨hloop'', hrest⟩ := ih htail hat'' hcount hblack'' hcode
      exact ⟨run_trans (run_trans hloop hloop') hloop'', hrest⟩

end Spz.Bpf
