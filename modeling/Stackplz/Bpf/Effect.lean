import Stackplz.Bpf.Code

/-!
# What programs do to the variables

`passCode` runs a program as a function of the variables, as if nothing could end it, and counts the
iterations; it can be computed symbolically.

* `runCode_calm` — all codes but the filters, and `OP_READ_REG` of a register that does not exist,
  let `read_args` go on; a program made of such codes is run as `passCode` says;
* `loop_runCode_error` — a program that ends in its middle ends the loop, after at most the
  iterations of `passCode`.
-/

namespace Spz.Bpf

open Check Machine

/-- The code cannot end the loop. -/
def OpConfig.CalmCode (op : OpConfig) : OpCode → Prop
  | .skip => False
  | .filterValue => False
  | .filterBuffer => False
  | .filterString => False
  | .readReg => op.preCode = .setRegIndex ∧ (op.value.setWidth 8 : U8).toNat < 33
  | _ => True

instance (op : OpConfig) : (code : OpCode) → Decidable (op.CalmCode code) := fun code => by
  cases code <;> unfold OpConfig.CalmCode <;> infer_instance

/-- An operation that cannot end the loop. -/
def OpConfig.Calm (op : OpConfig) : Prop :=
  op.CalmCode op.code ∧ (op.postCode = .skip ∨ op.CalmCode op.postCode)
deriving Decidable

namespace Machine

variable (m : Machine)

def effect (op : OpConfig) (code : OpCode) (s : Scan) : Scan :=
  match m.perform op code s with
  | .ok s' => s'
  | .error (_, s') => s'

def afterOp (op : OpConfig) (s : Scan) : Scan :=
  if op.postCode = .skip then m.effect op op.code (s.fetched op)
  else m.effect op op.postCode (m.effect op op.code (s.fetched op)).posted

/-- What a stretch of operations makes of them. -/
def after (ops : List OpConfig) (s : Scan) : Scan := ops.foldl (fun s op => m.afterOp op s) s

def passRound (body : List OpConfig) (s : Scan) : Scan := m.afterOp forBreakOp (m.after body s)

/-- A loop with at most `k` more rounds after this one. -/
def passLoop (body : List OpConfig) : ℕ → Scan → ℕ × Scan
  | 0, s => (stepsOf body + 1, m.passRound body s)
  | k + 1, s =>
    if (m.passRound body s).ctx.loopCount = 0 then (stepsOf body + 1, m.passRound body s)
    else
      let rest := passLoop body k (m.passRound body s)
      (stepsOf body + 1 + rest.1, rest.2)

def passBlock : Block → Scan → ℕ × Scan
  | .op op, s => (op.steps, m.afterOp op s)
  | .loop body, s =>
    let t := m.afterOp forBreakOp s
    let rounds := m.passLoop body (roundsLeft t) t
    (1 + rounds.1, rounds.2)

/-- A program: the iterations it takes, and what it makes of the variables. -/
def passCode : List Block → Scan → ℕ × Scan
  | [], s => (0, s)
  | block :: code, s =>
    let first := m.passBlock block s
    let rest := passCode code first.2
    (first.1 + rest.1, rest.2)

end Machine

variable {m : Machine} {p : PointArgs} {op : OpConfig} {prog rest ops ops' body : List OpConfig}
  {code : OpCode} {s s' : Scan} {halt : Halt}

/-! ## Runs that succeed -/

@[simp] lemma Machine.after_nil : m.after [] s = s := rfl

@[simp] lemma Machine.after_cons : m.after (op :: ops) s = m.after ops (m.afterOp op s) := rfl

lemma Machine.after_append : m.after (ops ++ ops') s = m.after ops' (m.after ops s) :=
  List.foldl_append

lemma Machine.passCode_cons (block : Block) (prog : List Block) (s : Scan) :
    m.passCode (block :: prog) s =
      ((m.passBlock block s).1 + (m.passCode prog (m.passBlock block s).2).1,
        (m.passCode prog (m.passBlock block s).2).2) := rfl

lemma Machine.passCode_append (prog prog' : List Block) (s : Scan) :
    m.passCode (prog ++ prog') s =
      ((m.passCode prog s).1 + (m.passCode prog' (m.passCode prog s).2).1,
        (m.passCode prog' (m.passCode prog s).2).2) := by
  induction prog generalizing s with
  | nil => simp [passCode]
  | cons block prog ih =>
    rw [List.cons_append, passCode_cons, passCode_cons, ih, Nat.add_assoc]

lemma Machine.passCode_ops (ops : List OpConfig) (s : Scan) :
    m.passCode (ops.map .op) s = (stepsOf ops, m.after ops s) := by
  induction ops generalizing s with
  | nil => rfl
  | cons op ops ih =>
    rw [List.map_cons, passCode_cons, ih]
    rfl

lemma Machine.effect_of_execute (h : m.execute op code s = .ok s') (hskip : code ≠ .skip) :
    m.effect op code s = s' := by
  rw [effect, ((m.execute_ok_iff hskip).mp h).1]

lemma Machine.afterOp_of_runOp (hskip : op.code ≠ .skip) (h : m.runOp op s = .ok s') :
    m.afterOp op s = s' := by
  rw [runOp, bind_eq_ok] at h
  obtain ⟨t, hcode, hpost⟩ := h
  unfold afterOp
  rw [m.effect_of_execute hcode hskip]
  split_ifs at hpost ⊢ with hend
  · exact Except.ok.inj hpost
  · exact m.effect_of_execute hpost hend

lemma Machine.after_of_runOps (hplain : ∀ op ∈ ops, op.Plain) (h : m.runOps ops s = .ok s') :
    m.after ops s = s' := by
  induction ops generalizing s with
  | nil => exact Except.ok.inj h
  | cons op ops ih =>
    obtain ⟨hop, hops⟩ := List.forall_mem_cons.mp hplain
    rw [runOps_cons, bind_eq_ok] at h
    obtain ⟨t, hrun, hrest⟩ := h
    rw [after_cons, m.afterOp_of_runOp hop.1.1 hrun]
    exact ih hops hrest

lemma Machine.passRound_of_runRound (hplain : ∀ op ∈ body, op.Plain)
    (h : m.runRound body s = .ok s') : m.passRound body s = s' := by
  rw [runRound, bind_eq_ok] at h
  obtain ⟨t, hops, hbreak⟩ := h
  rw [passRound, m.after_of_runOps hplain hops]
  exact m.afterOp_of_runOp (by decide) hbreak

lemma Machine.passLoop_of_runLoop (hplain : ∀ op ∈ body, op.Plain) :
    ∀ {k c : ℕ} {s : Scan}, m.runLoop body k s = .ok (c, s') → m.passLoop body k s = (c, s') := by
  intro k
  induction k with
  | zero =>
    intro c s h
    rw [runLoop, bind_eq_ok] at h
    obtain ⟨t, hround, heq⟩ := h
    cases heq
    rw [passLoop, m.passRound_of_runRound hplain hround]
  | succ k ih =>
    intro c s h
    rw [runLoop, bind_eq_ok] at h
    obtain ⟨t, hround, h⟩ := h
    rw [passLoop, m.passRound_of_runRound hplain hround]
    split_ifs at h ⊢ with hleft
    · exact Except.ok.inj h
    · rw [bind_eq_ok] at h
      obtain ⟨⟨d, u⟩, hmore, heq⟩ := h
      cases heq
      rw [ih hmore]

lemma Block.WellPlaced.plain {body : List OpConfig} (h : (Block.loop body).WellPlaced) :
    ∀ op ∈ body, op.Plain := fun op hop => (h op hop).1

lemma Machine.passBlock_of_runBlock {block : Block} {c : ℕ} (hplaced : block.WellPlaced)
    (h : m.runBlock block s = .ok (c, s')) : m.passBlock block s = (c, s') := by
  cases block with
  | op op =>
    rw [runBlock, bind_eq_ok] at h
    obtain ⟨t, hop, heq⟩ := h
    cases heq
    rw [passBlock, m.afterOp_of_runOp hplaced.1.1.1 hop]
  | loop body =>
    rw [runBlock, bind_eq_ok] at h
    obtain ⟨t, henter, h⟩ := h
    rw [bind_eq_ok] at h
    obtain ⟨⟨d, u⟩, hrounds, heq⟩ := h
    cases heq
    rw [passBlock, m.afterOp_of_runOp (by decide) henter,
      m.passLoop_of_runLoop hplaced.plain hrounds]

lemma Machine.passCode_of_runCode {prog : List Block} (hplaced : ∀ block ∈ prog, block.WellPlaced) :
    ∀ {s : Scan} {c : ℕ}, m.runCode prog s = .ok (c, s') → m.passCode prog s = (c, s') := by
  induction prog with
  | nil => intro s c h; exact Except.ok.inj h
  | cons block prog ih =>
    intro s c h
    obtain ⟨hblock, hblocks⟩ := List.forall_mem_cons.mp hplaced
    rw [runCode, bind_eq_ok] at h
    obtain ⟨⟨d, t⟩, hrun, h⟩ := h
    rw [bind_eq_ok] at h
    obtain ⟨⟨e, u⟩, hrest, heq⟩ := h
    cases heq
    rw [passCode_cons, m.passBlock_of_runBlock hblock hrun, ih hblocks hrest]

/-! ## Programs that cannot fail -/

/-- The register as `OP_READ_REG` reads it: register 0 from the context. -/
def Machine.register (m : Machine) (reg0 : U64) (index : U8) : U64 :=
  if index = 0 then reg0 else m.regs index.toNat

lemma Machine.perform_readReg (h : op.CalmCode .readReg) :
    m.perform op .readReg s = .ok { s with
      ctx := { s.ctx with
        regIndex := op.value.setWidth 8
        regValue := m.register s.ctx.reg0 (op.value.setWidth 8) } } := by
  unfold perform readReg
  rw [if_pos h.1]
  exact if_neg (Nat.not_le.mpr h.2)

lemma Machine.effect_readReg (h : op.CalmCode .readReg) :
    m.effect op .readReg s = { s with
      ctx := { s.ctx with
        regIndex := op.value.setWidth 8
        regValue := m.register s.ctx.reg0 (op.value.setWidth 8) } } := by
  rw [effect, m.perform_readReg h]

lemma Machine.perform_calm (h : op.CalmCode code) :
    m.perform op code s = .ok (m.effect op code s) ∧
      (m.effect op code s).ctx.matchBlacklist = s.ctx.matchBlacklist := by
  cases code with
  | skip | filterValue | filterBuffer | filterString => exact absurd h id
  | readReg =>
    rw [m.effect_readReg h]
    exact ⟨m.perform_readReg h, rfl⟩
  | forBreak =>
    refine ⟨rfl, ?_⟩
    show s.ctx.forBreak.matchBlacklist = _
    unfold OpCtx.forBreak
    dsimp only
    split_ifs <;> rfl
  | savePtrString | savePtrString16 =>
    refine ⟨rfl, ?_⟩
    show (s.savePtrText m.memory _).ctx.matchBlacklist = _
    unfold Scan.savePtrText
    dsimp only
    split <;> rfl
  | _ => exact ⟨rfl, rfl⟩

lemma Machine.execute_calm (h : op.CalmCode code) (hblack : s.ctx.matchBlacklist = false) :
    m.execute op code s = .ok (m.effect op code s) ∧
      (m.effect op code s).ctx.matchBlacklist = false := by
  obtain ⟨hperform, hsame⟩ := m.perform_calm (s := s) h
  have hskip : code ≠ .skip := by rintro rfl; exact h
  exact ⟨(m.execute_ok_iff hskip).mpr ⟨hperform, hsame.trans hblack⟩, hsame.trans hblack⟩

/-- An operation that cannot fail. -/
lemma Machine.runOp_calm (h : op.Calm) (hblack : s.ctx.matchBlacklist = false) :
    m.runOp op s = .ok (m.afterOp op s) ∧ (m.afterOp op s).ctx.matchBlacklist = false := by
  obtain ⟨hcode, hcblack⟩ := m.execute_calm (s := s.fetched op) h.1 hblack
  unfold runOp afterOp
  rw [hcode]
  by_cases hskip : op.postCode = .skip
  · rw [if_pos hskip]
    exact ⟨if_pos hskip, hcblack⟩
  · rw [if_neg hskip]
    obtain ⟨hpost, hpblack⟩ := m.execute_calm
      (s := (m.effect op op.code (s.fetched op)).posted) (h.2.resolve_left hskip) hcblack
    exact ⟨(if_neg hskip).trans hpost, hpblack⟩

lemma Machine.runOps_calm (h : ∀ op ∈ ops, op.Calm) (hblack : s.ctx.matchBlacklist = false) :
    m.runOps ops s = .ok (m.after ops s) ∧ (m.after ops s).ctx.matchBlacklist = false := by
  induction ops generalizing s with
  | nil => exact ⟨rfl, hblack⟩
  | cons op ops ih =>
    obtain ⟨hop, hops⟩ := List.forall_mem_cons.mp h
    obtain ⟨hrun, hrblack⟩ := m.runOp_calm hop hblack
    rw [runOps_cons, hrun]
    exact ih hops hrblack

lemma Machine.runRound_calm (h : ∀ op ∈ body, op.Calm) (hblack : s.ctx.matchBlacklist = false) :
    m.runRound body s = .ok (m.passRound body s) ∧
      (m.passRound body s).ctx.matchBlacklist = false := by
  obtain ⟨hrun, hrblack⟩ := m.runOps_calm h hblack
  obtain ⟨hbreak, hbblack⟩ := m.runOp_calm (show forBreakOp.Calm by decide) hrblack
  rw [runRound, hrun]
  exact ⟨hbreak, hbblack⟩

lemma Machine.runLoop_calm (h : ∀ op ∈ body, op.Calm) :
    ∀ {k : ℕ} {s : Scan}, s.ctx.matchBlacklist = false →
      m.runLoop body k s = .ok (m.passLoop body k s) ∧
        (m.passLoop body k s).2.ctx.matchBlacklist = false := by
  intro k
  induction k with
  | zero =>
    intro s hblack
    obtain ⟨hround, hrblack⟩ := m.runRound_calm h hblack
    rw [runLoop, hround]
    exact ⟨rfl, hrblack⟩
  | succ k ih =>
    intro s hblack
    obtain ⟨hround, hrblack⟩ := m.runRound_calm h hblack
    obtain ⟨hmore, hmblack⟩ := ih hrblack
    rw [runLoop, hround, passLoop]
    by_cases hleft : (m.passRound body s).ctx.loopCount = 0
    · rw [if_pos hleft]
      exact ⟨if_pos hleft, hrblack⟩
    · rw [if_neg hleft]
      refine ⟨(if_neg hleft).trans ?_, hmblack⟩
      rw [hmore]
      rfl

/-- The operations of a part cannot fail. -/
def Block.Calm (block : Block) : Prop := ∀ op ∈ block.ops, op.Calm

/-- A program that cannot fail. -/
lemma Machine.runCode_calm {prog : List Block} (h : ∀ block ∈ prog, block.Calm) :
    ∀ {s : Scan}, s.ctx.matchBlacklist = false →
      m.runCode prog s = .ok (m.passCode prog s) ∧
        (m.passCode prog s).2.ctx.matchBlacklist = false := by
  induction prog with
  | nil => intro s hblack; exact ⟨rfl, hblack⟩
  | cons block prog ih =>
    intro s hblack
    obtain ⟨hblock, hblocks⟩ := List.forall_mem_cons.mp h
    have hhead : m.runBlock block s = .ok (m.passBlock block s) ∧
        (m.passBlock block s).2.ctx.matchBlacklist = false := by
      cases block with
      | op op =>
        obtain ⟨hrun, hrblack⟩ := m.runOp_calm (hblock op (by simp [Block.ops])) hblack
        rw [runBlock, hrun]
        exact ⟨rfl, hrblack⟩
      | loop body =>
        obtain ⟨henter, heblack⟩ := m.runOp_calm (show forBreakOp.Calm by decide) hblack
        have hbody : ∀ op ∈ body, op.Calm := fun op hop =>
          hblock op (List.mem_cons_of_mem _ (List.mem_append_left _ hop))
        obtain ⟨hloop, hlblack⟩ := m.runLoop_calm (k := roundsLeft _) hbody heblack
        rw [runBlock, henter]
        refine ⟨?_, hlblack⟩
        show (m.runLoop body _ _ >>= _) = _
        rw [hloop]
        rfl
    obtain ⟨hrest, hrblack⟩ := ih hblocks hhead.2
    rw [runCode, hhead.1, passCode_cons]
    refine ⟨?_, hrblack⟩
    show (m.runCode prog (m.passBlock block s).2 >>= _) = _
    rw [hrest]
    rfl

/-! ## Programs that end in their middle -/

/-- A loop that ends in one of its rounds ends the program there. -/
lemma loop_runLoop_error (hload : Loaded m p prog) (hbody : ∀ op ∈ body, op.InLoop) :
    ∀ {k : ℕ} {s : Scan}, At prog s (body ++ forBreakOp :: rest) → InRound s k →
      s.ctx.matchBlacklist = false → m.runLoop body k s = .error halt →
      m.loop p (m.passLoop body k s).1 s = .error halt := by
  intro k
  induction k with
  | zero =>
    intro s hat hround hblack h
    exact loop_runRound_error hload hbody hat hblack (error_of_bind (by simp) h)
  | succ k ih =>
    intro s hat hround hblack h
    rw [runLoop, bind_eq_error] at h
    rcases h with h | ⟨t, hrun, h⟩
    · refine Budget.run_error_mono (loop_runRound_error hload hbody hat hblack h) ?_
      rw [passLoop]
      split_ifs
      · exact le_rfl
      · exact Nat.le_add_right _ _
    · obtain ⟨hloop, htblack, hafter⟩ := loop_runRound hload hbody hat hround hblack hrun
      have hpass := m.passRound_of_runRound (fun op hop => (hbody op hop).1) hrun
      cases hafter with
      | left hcount hrest => rw [if_pos hcount] at h; exact absurd h (by simp)
      | again hcount j hless hat' hround' =>
        obtain rfl : k = j := Nat.succ.inj hless
        rw [if_neg hcount] at h
        rw [passLoop, hpass, if_neg hcount]
        exact (Budget.run_add_of_ok hloop _).trans
          (ih hat' hround' htblack (error_of_bind (by simp) h))

lemma loop_runBlock_error {block : Block} (hload : Loaded m p prog) (hplaced : block.WellPlaced)
    (hat : At prog s (block.ops ++ rest)) (hzero : s.ctx.loopCount = 0)
    (hblack : s.ctx.matchBlacklist = false) (h : m.runBlock block s = .error halt) :
    m.loop p (m.passBlock block s).1 s = .error halt := by
  cases block with
  | op op =>
    exact loop_runOp_error hload hat hplaced.1 (error_of_bind (by simp) h)
  | loop body =>
    have hat : At prog s (forBreakOp :: (body ++ forBreakOp :: rest)) := by
      simpa [Block.ops] using hat
    rw [runBlock, bind_eq_error] at h
    rcases h with h | ⟨t, henter, h⟩
    · rw [m.runOp_forBreak hblack] at h
      exact absurd h (by simp)
    · obtain ⟨hloop, hat', hround, hblack'⟩ := loop_enter hload hat hzero hblack henter
      rw [passBlock, m.afterOp_of_runOp (by decide) henter]
      exact (Budget.run_add_of_ok hloop _).trans
        (loop_runLoop_error hload hplaced hat' hround hblack' (error_of_bind (by simp) h))

/-- A program that ends in its middle ends the loop. -/
lemma loop_runCode_error (hload : Loaded m p prog) :
    ∀ {code : List Block}, (∀ block ∈ code, block.WellPlaced) → ∀ {s : Scan},
      At prog s (codeOps code ++ rest) → s.ctx.loopCount = 0 → s.ctx.matchBlacklist = false →
      m.runCode code s = .error halt → m.loop p (m.passCode code s).1 s = .error halt := by
  intro code
  induction code with
  | nil =>
    intro _ s _ _ _ h
    exact absurd h (by simp [runCode])
  | cons block code ih =>
    intro hplaced s hat hzero hblack h
    obtain ⟨hhead, htail⟩ := List.forall_mem_cons.mp hplaced
    have hat' : At prog s (block.ops ++ (codeOps code ++ rest)) := by simpa using hat
    rw [runCode, bind_eq_error] at h
    rcases h with h | ⟨⟨d, t⟩, hblock, h⟩
    · exact Budget.run_error_mono (loop_runBlock_error hload hhead hat' hzero hblack h)
        (Nat.le_add_right _ _)
    · have hone : m.runCode [block] s = .ok (d, t) := by
        rw [runCode, hblock]
        rfl
      obtain ⟨hloop, hrest, hcount, hblack'⟩ := loop_runCode hload
        (List.forall_mem_singleton.mpr hhead) (by simpa using hat') hzero hblack hone
      rw [passCode_cons, m.passBlock_of_runBlock hhead hblock]
      exact (Budget.run_add_of_ok hloop _).trans
        (ih htail hrest hcount hblack' (error_of_bind (by simp) h))

end Spz.Bpf
