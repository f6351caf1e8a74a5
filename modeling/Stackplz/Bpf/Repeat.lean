import Stackplz.Bpf.Emission

/-!
# How often a loop runs its body

One of three codes sets the break count to a requested number, at most `MAX_LOOP_COUNT`; the body
stands between two `OP_FOR_BREAK` behind it.  `Repeats` follows the interpreter from the start of
the body to what stands behind the loop and counts the rounds.

A body that leaves the counters alone is run as often as requested (`repeats_of_inRound`, by
induction on the rounds that are left), except that it is run once if no round is requested: the
first `OP_FOR_BREAK` has nowhere to jump to.
-/

namespace Spz.Bpf

variable {m : Machine} {p : PointArgs} {prog rest body : List OpConfig} {op : OpConfig}
  {code : OpCode}
  {s t : Scan} {n : U64} {k : ℕ}

/-! ## Counts -/

/-- The number of rounds a code asks for. -/
def OpConfig.requestedCount (op : OpConfig) (code : OpCode) (ctx : OpCtx) : Option U64 :=
  match code with
  | .setBreakCount => some op.value
  | .setBreakCountRegValue => some ctx.regValue
  | .setBreakCountPointerValue => some ctx.pointerValue
  | _ => none

/-- The operation is no loop and leaves both counters alone. -/
def OpConfig.KeepsCounters (op : OpConfig) : Prop := op.InLoop ∧ op.OutsideLoop
deriving Decidable

lemma toNat_clampBreakCount (n : U64) : (OpCtx.clampBreakCount n).toNat = min n.toNat 32 := by
  rw [OpCtx.clampBreakCount]
  split_ifs with h
  · have hlt : n.toNat < 32 := h
    rw [BitVec.toNat_setWidth]
    omega
  · have hle : 32 ≤ n.toNat := BitVec.not_lt.mp h
    rw [Nat.min_eq_right hle]
    rfl

lemma execute_requestedCount (h : op.requestedCount code s.ctx = some n)
    (hexec : m.execute op code s = .ok t) : t.ctx.breakCount = OpCtx.clampBreakCount n ∧
      t.ctx.loopCount = s.ctx.loopCount ∧ t.ctx.matchBlacklist = false := by
  have hcode : code ≠ .skip := by
    rintro rfl
    cases h
  obtain ⟨hperform, hblack⟩ := (m.execute_ok_iff hcode).mp hexec
  unfold OpConfig.requestedCount at h
  split at h
  · cases h
    cases hperform
    exact ⟨rfl, rfl, hblack⟩
  · cases h
    cases hperform
    exact ⟨rfl, rfl, hblack⟩
  · cases h
    cases hperform
    exact ⟨rfl, rfl, hblack⟩
  · cases h

/-! ## Rounds -/

/-- The interpreter runs the body so many times, in so many iterations, and is then behind the loop
or, if an operation of the body ends the program in one of the rounds, where that operation leaves
it. -/
inductive Repeats (m : Machine) (p : PointArgs) (prog body rest : List OpConfig) :
    ℕ → ℕ → Scan → Except Halt Scan → Prop
  | leave {s : Scan} : At prog s rest → Repeats m p prog body rest 0 0 s (.ok s)
  | stop {k : ℕ} {s : Scan} {halt : Halt} :
      At prog s (body ++ forBreakOp :: rest) → m.runOps body s = .error halt →
      m.loop p (stepsOf body) s = .error halt →
      Repeats m p prog body rest (k + 1) (stepsOf body) s (.error halt)
  | round {k c : ℕ} {s t u : Scan} {r : Except Halt Scan} :
      At prog s (body ++ forBreakOp :: rest) → m.runOps body s = .ok t →
      m.loop p (stepsOf body) s = .ok t → m.step p t = .ok u → Repeats m p prog body rest k c u r →
      Repeats m p prog body rest (k + 1) (stepsOf body + (1 + c)) s r

lemma Repeats.loop {c : ℕ} {r : Except Halt Scan} (h : Repeats m p prog body rest k c s r) :
    m.loop p c s = r := by
  induction h with
  | leave _ => rfl
  | stop _ _ hloop => exact hloop
  | round _ _ hloop hstep _ ih =>
    refine (Budget.run_add_of_ok hloop _).trans ?_
    exact (Budget.run_add_of_ok (Budget.run_one hstep) _).trans ih

/-- At an `OP_FOR_BREAK`: the interpreter enters the loop, runs the body `k` times and goes on
behind the second `OP_FOR_BREAK` with both counters clear. -/
def LoopsTimes (m : Machine) (p : PointArgs) (prog body rest : List OpConfig) (k : ℕ)
    (s : Scan) : Prop :=
  ∃ t c r, m.step p s = .ok t ∧ Repeats m p prog body rest k c t r ∧ m.loop p (1 + c) s = r ∧
    ∀ s', r = .ok s' → At prog s' rest ∧ s'.ctx.loopCount = 0 ∧ s'.ctx.breakCount = 0

lemma runOps_keepsCounters (hops : ∀ op ∈ body, op.KeepsCounters) (h : m.runOps body s = .ok t) :
    t.ctx.loopCount = s.ctx.loopCount ∧ t.ctx.breakCount = s.ctx.breakCount :=
  ⟨m.runOps_loopCount (fun op hop => (hops op hop).2) h,
    (m.runOps_loop (fun op hop => (hops op hop).1) h).breakCount⟩

/-- As many rounds as are left, and the one that begins. -/
lemma repeats_of_inRound (hload : Loaded m p prog) (hbody : ∀ op ∈ body, op.KeepsCounters) :
    ∀ {k : ℕ} {s : Scan}, At prog s (body ++ forBreakOp :: rest) → InRound s k →
      s.ctx.matchBlacklist = false → ∃ c r, Repeats m p prog body rest (k + 1) c s r ∧
        ∀ s', r = .ok s' → At prog s' rest ∧ s'.ctx.loopCount = 0 ∧ s'.ctx.breakCount = 0 := by
  have hin : ∀ op ∈ body, op.InLoop := fun op hop => (hbody op hop).1
  have hplain : ∀ op ∈ body, op.Plain := fun op hop => (hin op hop).1
  intro k
  induction k using Nat.strongRecOn with
  | _ k ih =>
    intro s hat hround hblack
    cases hrun : m.runOps body s with
    | error halt =>
      exact ⟨_, _, .stop hat hrun (loop_runOps_error hload hplain hat hrun), fun _ h => by cases h⟩
    | ok t =>
      obtain ⟨hloop, hend⟩ := loop_runOps hload hplain hat hrun
      have htblack := m.runOps_not_blacklisted hplain hblack hrun
      obtain ⟨hcount, hbreak⟩ := runOps_keepsCounters hbody hrun
      have hstep := hend.step_forBreak hload htblack
      have hround' : m.runRound body s =
          .ok { t.fetched forBreakOp with ctx := (t.fetched forBreakOp).ctx.forBreak } := by
        rw [Machine.runRound, hrun]
        exact m.runOp_forBreak htblack
      obtain ⟨-, hublack, hafter⟩ := loop_runRound hload hin hat hround hblack hround'
      cases hafter with
      | again _ j hless hat' hround'' =>
        obtain rfl := hless
        obtain ⟨c, r, hrepeats, hclear⟩ := ih j (Nat.lt_succ_self j) hat' hround'' hublack
        exact ⟨_, _, .round hat hrun hloop hstep hrepeats, hclear⟩
      | left hzero hrest =>
        have hexit : (t.fetched forBreakOp).ctx.loopCount ≥
            (t.fetched forBreakOp).ctx.breakCount := by
          -- Otherwise it would count one more, and that is not 0.
          by_contra hagain
          have hnext := OpCtx.forBreak_loopCount (t.fetched forBreakOp).ctx
          rw [if_neg hagain] at hnext
          have hsum : t.ctx.loopCount + 1 = 0 := hnext.symm.trans hzero
          have hlt : ¬ t.ctx.loopCount ≥ t.ctx.breakCount := hagain
          bv_omega
        obtain rfl : k = 0 := by
          have hle : s.ctx.breakCount.toNat ≤ s.ctx.loopCount.toNat := hcount ▸ hbreak ▸ hexit
          rcases hround with ⟨-, -, hnone⟩ | ⟨-, -, hsum⟩
          · exact hnone
          · omega
        refine ⟨_, _, .round hat hrun hloop hstep (.leave hrest), ?_⟩
        rintro _ ⟨⟩
        refine ⟨hrest, hzero, ?_⟩
        rw [OpCtx.forBreak_exit hexit]

/-! ## The loop -/

lemma not_at_rest (hat : At prog s (body ++ forBreakOp :: rest)) : ¬ At prog s rest := by
  intro hrest
  have hlen := congrArg List.length (hat.drop.symm.trans hrest.drop)
  rw [List.length_append, List.length_cons] at hlen
  omega

lemma not_loopsTimes_zero (hload : Loaded m p prog)
    (hat : At prog s (forBreakOp :: (body ++ forBreakOp :: rest))) (hzero : s.ctx.loopCount = 0)
    (hblack : s.ctx.matchBlacklist = false) : ¬ LoopsTimes m p prog body rest 0 s := by
  rintro ⟨t, c, r, hstep, hrepeats, -, -⟩
  obtain ⟨hloop, hbody, -, -⟩ := loop_enter hload hat hzero hblack (m.runOp_forBreak hblack)
  have hone := Budget.run_one hstep
  obtain rfl := Except.ok.inj (hloop.symm.trans hone)
  cases hrepeats with
  | leave hrest => exact not_at_rest hbody hrest

/-- With rounds to count the body is run as often. -/
lemma loopsTimes_of_pos (hload : Loaded m p prog) (hbody : ∀ op ∈ body, op.KeepsCounters)
    (hat : At prog s (forBreakOp :: (body ++ forBreakOp :: rest))) (hzero : s.ctx.loopCount = 0)
    (hblack : s.ctx.matchBlacklist = false) (hpos : s.ctx.breakCount ≠ 0) :
    LoopsTimes m p prog body rest s.ctx.breakCount.toNat s := by
  obtain ⟨hloop, hat', hround, hblack'⟩ :=
    loop_enter hload hat hzero hblack (m.runOp_forBreak hblack)
  obtain ⟨c, r, hrepeats, hclear⟩ := repeats_of_inRound hload hbody hat' hround hblack'
  have hlt : (s.fetched forBreakOp).ctx.loopCount < (s.fetched forBreakOp).ctx.breakCount := by
    show s.ctx.loopCount < s.ctx.breakCount
    rw [hzero]
    exact Nat.pos_of_ne_zero fun h => hpos (BitVec.eq_of_toNat_eq h)
  have hcount : (0 : U8) < s.ctx.breakCount := hzero ▸ hlt
  have hrounds : Machine.roundsLeft
      { s.fetched forBreakOp with ctx := (s.fetched forBreakOp).ctx.forBreak } + 1 =
      s.ctx.breakCount.toNat := by
    rw [OpCtx.forBreak_enter hlt hzero]
    show s.ctx.breakCount.toNat - (s.ctx.loopCount + 1).toNat + 1 = _
    rw [hzero]
    exact Nat.sub_add_cancel hcount
  rw [hrounds] at hrepeats
  refine ⟨_, c, r, ?_, hrepeats, ?_, hclear⟩
  · exact hat.step_forBreak hload hblack
  · exact (Budget.run_add_of_ok hloop c).trans hrepeats.loop

/-- A loop runs its body as often as requested, up to 32 times, exactly if the request is not 0. -/
theorem loopsTimes_iff {s₀ s₁ : Scan} {between : List OpConfig} (hload : Loaded m p prog)
    (hrequest : op.requestedCount code s₀.ctx = some n) (hclear : s₀.ctx.loopCount = 0)
    (hexec : m.execute op code s₀ = .ok s₁) (hbetween : ∀ o ∈ between, o.KeepsCounters)
    (hpassed : m.runOps between s₁ = .ok s)
    (hat : At prog s (forBreakOp :: (body ++ forBreakOp :: rest)))
    (hbody : ∀ o ∈ body, o.KeepsCounters) :
    LoopsTimes m p prog body rest (min n.toNat 32) s ↔ n ≠ 0 := by
  obtain ⟨hbreak, hcount, hblack⟩ := execute_requestedCount hrequest hexec
  obtain ⟨hcount', hbreak'⟩ := runOps_keepsCounters hbetween hpassed
  have hzero : s.ctx.loopCount = 0 := hcount'.trans (hcount.trans hclear)
  have hsblack : s.ctx.matchBlacklist = false :=
    m.runOps_not_blacklisted (fun o ho => (hbetween o ho).1.1) hblack hpassed
  have htoNat : s.ctx.breakCount.toNat = min n.toNat 32 := by
    rw [hbreak', hbreak, toNat_clampBreakCount]
  constructor
  · rintro htimes rfl
    exact not_loopsTimes_zero hload hat hzero hsblack htimes
  · intro hne
    have hpos : n.toNat ≠ 0 := fun h => hne (BitVec.eq_of_toNat_eq h)
    rw [← htoNat]
    refine loopsTimes_of_pos hload hbody hat hzero hsblack fun h => ?_
    rw [h] at htoNat
    simp only [BitVec.ofNat_eq_ofNat, BitVec.toNat_ofNat, Nat.zero_mod] at htoNat
    omega

/-! ### `iovec_x2` -/

/-- The argument of a call with as many `iovec` as `x2` says. -/
abbrev iovecArg : PointArg := pointedArg (.iovecReg 2)

abbrev iovecMachine : Machine :=
  argsMachine [iovecArg] (fun _ => none) (fun _ => 0) (fun _ => some 0)

abbrev iovecPoint : PointArgs := argsPoint 64 [iovecArg]

/-- Before the post code of `BuildReadRegBreakCount`, with the count in the register. -/
def requestedScan (n : U64) : Scan :=
  { op := some (buildReadRegBreakCount 2)
    ctx :=
      { opKeyIndex := 3, opCode := .setBreakCountRegValue, postCode := .skip, regIndex := 2,
        regValue := n, readAddr := 4096 }
    args := [] }

def countedScan (n : U64) : Scan :=
  { requestedScan n with
    ctx := { (requestedScan n).ctx with breakCount := OpCtx.clampBreakCount n } }

/-- Behind `OPC_SAVE_REG`, at the first `OP_FOR_BREAK`. -/
def enteredScan (n : U64) : Scan := ((countedScan n).fetched (.ofCode .saveReg)).savedWord n

lemma iovec_loaded : Loaded iovecMachine iovecPoint (argsOps [iovecArg]) :=
  loaded_args (by decide) (by decide)

lemma iovec_at (n : U64) :
    At (argsOps [iovecArg]) (enteredScan n) (forBreakOp :: (iovecBody ++ forBreakOp :: [])) :=
  ⟨rfl, show 4 ≤ (argsOps [iovecArg]).length by decide, rfl⟩

theorem iovec_loopsTimes_three :
    LoopsTimes iovecMachine iovecPoint (argsOps [iovecArg]) iovecBody [] 3 (enteredScan 3) := by
  have hrequest : (buildReadRegBreakCount 2).requestedCount .setBreakCountRegValue
      (requestedScan 3).ctx = some 3 := rfl
  have hexec : iovecMachine.execute (buildReadRegBreakCount 2) .setBreakCountRegValue
      (requestedScan 3) = .ok (countedScan 3) := rfl
  have hpassed : iovecMachine.runOps [.ofCode .saveReg] (countedScan 3) = .ok (enteredScan 3) := rfl
  exact (loopsTimes_iff iovec_loaded hrequest rfl hexec (by decide) hpassed (iovec_at 3)
    (by decide)).mpr (by decide)

/-- `readv` without any `iovec` reads one. -/
theorem iovec_read_of_none :
    (buildReadRegBreakCount 2).requestedCount .setBreakCountRegValue
      (requestedScan 0).ctx = some 0 ∧
    iovecMachine.execute (buildReadRegBreakCount 2) .setBreakCountRegValue (requestedScan 0) =
      .ok (countedScan 0) ∧
    iovecMachine.runOps [.ofCode .saveReg] (countedScan 0) = .ok (enteredScan 0) ∧
    (∀ o ∈ iovecBody, o.KeepsCounters) ∧
    ¬ LoopsTimes iovecMachine iovecPoint (argsOps [iovecArg]) iovecBody [] 0 (enteredScan 0) :=
  ⟨rfl, rfl, rfl, by decide, not_loopsTimes_zero iovec_loaded (iovec_at 0) rfl rfl⟩

end Spz.Bpf
