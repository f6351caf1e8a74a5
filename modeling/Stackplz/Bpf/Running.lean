import Stackplz.Bpf.ReadArgs

/-!
# Running a program operation by operation

The loop of `read_args` fetches keys and executes post codes one iteration at a time.  Here it is
brought into the form of the program it runs: a list of operations (`runOps`) with loops between two
`OP_FOR_BREAK` (`runLoop`), and the number of iterations each takes.

* `loop_runOps` — a stretch of operations takes `steps` iterations.
-/

namespace Spz.Bpf

open Machine OpCtx

/-! ## Programs -/

def OpConfig.ofCode (code : OpCode) : OpConfig := { code := code }

/-- `OPC_SKIP`, with the key 0. -/
abbrev skipOp : OpConfig := .ofCode .skip

/-- `OPC_FOR_BREAK`. -/
abbrev forBreakOp : OpConfig := .ofCode .forBreak

/-- The keys of a point name the operations of a program; behind it the list is filled with the key
of `OPC_SKIP`. -/
structure Loaded (m : Machine) (p : PointArgs) (prog : List OpConfig) : Prop where
  short : prog.length < p.maxOp
  fetch : ∀ i op, prog[i]? = some op → m.opList (p.opKeyList.getD i 0) = some op
  last : m.opList (p.opKeyList.getD prog.length 0) = some skipOp
  zero : m.opList 0 = some skipOp

/-- The interpreter stands before the rest of the program, with no post code pending. -/
structure At (prog : List OpConfig) (s : Scan) (rest : List OpConfig) : Prop where
  drop : prog.drop s.ctx.opKeyIndex = rest
  index_le : s.ctx.opKeyIndex ≤ prog.length
  idle : s.ctx.postCode = .skip

/-- The iterations an operation takes. -/
def OpConfig.steps (op : OpConfig) : ℕ := if op.postCode = .skip then 1 else 2

/-- The iterations a stretch of operations takes. -/
def stepsOf (ops : List OpConfig) : ℕ := (ops.map OpConfig.steps).sum

/-- The code ends no program and jumps nowhere. -/
def OpCode.Plain (code : OpCode) : Prop := code ≠ .skip ∧ code ≠ .forBreak
deriving Decidable

/-- Neither the code nor the post code does. -/
def OpConfig.Plain (op : OpConfig) : Prop := op.code.Plain ∧ op.postCode ≠ .forBreak
deriving Decidable

namespace Machine

variable (m : Machine)

/-- An operation with its post code. -/
def runOp (op : OpConfig) (s : Scan) : Except Halt Scan := do
  let s ← m.execute op op.code (s.fetched op)
  if op.postCode = .skip then .ok s else m.execute op op.postCode s.posted

def runOps (ops : List OpConfig) (s : Scan) : Except Halt Scan :=
  ops.foldlM (fun s op => m.runOp op s) s

@[simp] lemma runOps_nil (s : Scan) : m.runOps [] s = .ok s := rfl

lemma runOps_cons (op : OpConfig) (ops : List OpConfig) (s : Scan) :
    m.runOps (op :: ops) s = m.runOp op s >>= m.runOps ops := rfl

lemma runOps_append (ops ops' : List OpConfig) (s : Scan) :
    m.runOps (ops ++ ops') s = m.runOps ops s >>= m.runOps ops' := by
  rw [runOps, List.foldlM_append]
  rfl

end Machine

@[simp] lemma stepsOf_nil : stepsOf [] = 0 := rfl

@[simp] lemma stepsOf_cons (op : OpConfig) (ops : List OpConfig) :
    stepsOf (op :: ops) = op.steps + stepsOf ops := rfl

variable {m : Machine} {p : PointArgs} {prog rest ops body : List OpConfig} {op : OpConfig}
  {s s' : Scan} {halt : Halt}

/-! ## What a code leaves alone -/

/-- What the fetching of operations rests on. -/
structure SameCourse (s s' : Scan) : Prop where
  op : s'.op = s.op
  index : s'.ctx.opKeyIndex = s.ctx.opKeyIndex
  post : s'.ctx.postCode = s.ctx.postCode

lemma OpCtx.filterValue_course (ctx : OpCtx) (filter : ArgFilter) :
    (ctx.filterValue filter).opKeyIndex = ctx.opKeyIndex ∧
      (ctx.filterValue filter).postCode = ctx.postCode := by
  unfold filterValue
  split <;> first | exact ⟨rfl, rfl⟩ | (split_ifs <;> exact ⟨rfl, rfl⟩)

lemma OpCtx.filterBuffer_course (mem : Memory) (ctx : OpCtx) (filter : ArgFilter) :
    (ctx.filterBuffer mem filter).opKeyIndex = ctx.opKeyIndex ∧
      (ctx.filterBuffer mem filter).postCode = ctx.postCode := by
  unfold filterBuffer
  split_ifs <;> exact ⟨rfl, rfl⟩

lemma OpCtx.filterString_course (mem : Memory) (ctx : OpCtx) (filter : ArgFilter) :
    (ctx.filterString mem filter).opKeyIndex = ctx.opKeyIndex ∧
      (ctx.filterString mem filter).postCode = ctx.postCode := by
  unfold filterString
  dsimp only
  split_ifs <;> exact ⟨rfl, rfl⟩

lemma Machine.filtered_course {apply : OpCtx → ArgFilter → OpCtx}
    (happly : ∀ ctx filter, (apply ctx filter).opKeyIndex = ctx.opKeyIndex ∧
      (apply ctx filter).postCode = ctx.postCode)
    (h : m.filtered op s apply = .ok s') : SameCourse s s' := by
  unfold filtered at h
  split at h
  · exact absurd h (by simp)
  · cases h
    exact ⟨rfl, (happly _ _).1, (happly _ _).2⟩

lemma Machine.readReg_course (h : m.readReg op s = .ok s') : SameCourse s s' := by
  unfold readReg at h
  dsimp only at h
  split_ifs at h
  all_goals
    cases h
    exact ⟨rfl, rfl, rfl⟩

lemma Scan.savePtrText_course (s : Scan) (mem : Memory)
    (save : List U8 → U64 → U8 → Option (List U8)) : SameCourse s (s.savePtrText mem save) := by
  unfold Scan.savePtrText
  dsimp only
  split <;> exact ⟨rfl, rfl, rfl⟩

variable {code : OpCode}

lemma Machine.perform_course (hcode : code ≠ .forBreak)
    (h : m.perform op code s = .ok s') : SameCourse s s' := by
  cases code with
  | forBreak => exact absurd rfl hcode
  | readReg => exact m.readReg_course h
  | filterValue => exact m.filtered_course filterValue_course h
  | filterBuffer => exact m.filtered_course (filterBuffer_course m.memory) h
  | filterString => exact m.filtered_course (filterString_course m.memory) h
  | savePtrString | savePtrString16 =>
    cases h
    exact Scan.savePtrText_course _ _ _
  | _ =>
    cases h
    exact ⟨rfl, rfl, rfl⟩

lemma Machine.execute_ok_iff (hcode : code ≠ .skip) :
    m.execute op code s = .ok s' ↔
      m.perform op code s = .ok s' ∧ s'.ctx.matchBlacklist = false := by
  rw [execute, if_neg hcode]
  cases m.perform op code s with
  | error e => simp [bind, Except.bind]
  | ok t =>
    simp only [bind, Except.bind, Except.ok.injEq]
    cases hblack : t.ctx.matchBlacklist with
    | true =>
      simp
      rintro rfl
      simp [hblack]
    | false =>
      simp only [Bool.false_eq_true, if_false, Except.ok.injEq]
      exact ⟨fun h => ⟨h, h ▸ hblack⟩, fun h => h.1⟩

lemma Machine.execute_course (hcode : code.Plain)
    (h : m.execute op code s = .ok s') : SameCourse s s' :=
  m.perform_course hcode.2 ((m.execute_ok_iff hcode.1).mp h).1

/-! ## Single iterations -/

lemma step_post (hop : s.op = some op) (hpost : s.ctx.postCode ≠ .skip) :
    m.step p s = m.execute op s.ctx.postCode s.posted := by
  rw [step, hop]
  exact if_pos hpost

lemma step_idle (hidle : s.ctx.postCode = .skip) : m.step p s = step.next m p s := by
  unfold step
  split
  · rw [if_neg (not_not.mpr hidle)]
  · rfl

namespace At

lemma start (hindex : s.ctx.opKeyIndex = 0) (hidle : s.ctx.postCode = .skip) : At prog s prog where
  drop := by rw [hindex]; rfl
  index_le := by rw [hindex]; exact Nat.zero_le _
  idle := hidle

lemma getElem? (h : At prog s (op :: rest)) : prog[s.ctx.opKeyIndex]? = some op := by
  rw [← List.head?_drop, h.drop]
  rfl

lemma index_lt (h : At prog s (op :: rest)) : s.ctx.opKeyIndex < prog.length := by
  by_contra hle
  have := h.drop
  rw [List.drop_eq_nil_of_le (Nat.le_of_not_lt hle)] at this
  exact absurd this (by simp)

lemma step (hload : Loaded m p prog) (h : At prog s (op :: rest)) :
    m.step p s = m.execute op op.code (s.fetched op) := by
  rw [step_idle h.idle, step.next,
    if_neg (Nat.not_le.mpr (h.index_lt.trans hload.short)), hload.fetch _ _ h.getElem?]

lemma step_end (hload : Loaded m p prog) (h : At prog s []) :
    m.step p s = .error (.skip, s.fetched skipOp) := by
  have hindex : s.ctx.opKeyIndex = prog.length :=
    le_antisymm h.index_le (List.drop_eq_nil_iff.mp h.drop)
  rw [step_idle h.idle, step.next, if_neg (by rw [hindex]; exact Nat.not_le.mpr hload.short),
    hindex, hload.last]
  rfl

lemma next (h : At prog s (op :: rest)) {t : Scan}
    (hindex : t.ctx.opKeyIndex = s.ctx.opKeyIndex + 1) (hidle : t.ctx.postCode = .skip) :
    At prog t rest where
  drop := by rw [hindex, ← List.tail_drop, h.drop]; rfl
  index_le := by rw [hindex]; exact h.index_lt
  idle := hidle

end At

/-! ## Operations -/

section

variable (hload : Loaded m p prog)
include hload

section

variable (hat : At prog s (op :: rest))
include hat

/-- An operation takes its iterations, whether it ends the program or not. -/
lemma loop_runOp_eq (hplain : op.Plain) :
    m.loop p op.steps s = m.runOp op s ∧ ∀ s', m.runOp op s = .ok s' → At prog s' rest := by
  unfold runOp loop
  cases hcode : m.execute op op.code (s.fetched op) with
  | error e =>
    have hstep : m.step p s = .error e := by rw [hat.step hload, hcode]
    refine ⟨Budget.run_error_mono (Budget.run_succ_error 0 hstep) ?_, fun s' h => by cases h⟩
    unfold OpConfig.steps
    split_ifs <;> omega
  | ok t =>
    have hstep : m.step p s = .ok t := by rw [hat.step hload, hcode]
    have hcourse := m.execute_course hplain.1 hcode
    by_cases hpost : op.postCode = .skip
    · rw [OpConfig.steps, if_pos hpost]
      refine ⟨(Budget.run_one hstep).trans (if_pos hpost).symm, fun s' h => ?_⟩
      obtain rfl := Except.ok.inj ((if_pos hpost).symm.trans h)
      exact hat.next hcourse.index (hcourse.post.trans hpost)
    · have hstep' : m.step p t = m.execute op op.postCode t.posted := by
        rw [step_post hcourse.op (by rw [hcourse.post]; exact hpost), hcourse.post]
        rfl
      rw [OpConfig.steps, if_neg hpost]
      refine ⟨?_, fun s' h => ?_⟩
      · rw [Budget.run_succ_ok 1 hstep, Budget.run_one_eq, hstep']
        exact (if_neg hpost).symm
      · have hcourse' := m.execute_course (show op.postCode.Plain from ⟨hpost, hplain.2⟩)
          ((if_neg hpost).symm.trans h)
        exact hat.next (hcourse'.index.trans hcourse.index) hcourse'.post

lemma loop_runOp (hplain : op.Plain)
    (h : m.runOp op s = .ok s') : m.loop p op.steps s = .ok s' ∧ At prog s' rest :=
  (loop_runOp_eq hload hat hplain).imp (·.trans h) (· s' h)

lemma loop_runOp_error
    (hplain : op.Plain) (h : m.runOp op s = .error halt) : m.loop p op.steps s = .error halt :=
  (loop_runOp_eq hload hat hplain).1.trans h

end

variable (hplain : ∀ op ∈ ops, op.Plain)
include hplain

lemma loop_runOps_eq :
    ∀ {s : Scan}, At prog s (ops ++ rest) →
      m.loop p (stepsOf ops) s = m.runOps ops s ∧
        ∀ s', m.runOps ops s = .ok s' → At prog s' rest := by
  induction ops with
  | nil => exact fun hat => ⟨rfl, fun s' h => Except.ok.inj h ▸ hat⟩
  | cons op ops ih =>
    intro s hat
    obtain ⟨hloop, hnext⟩ := loop_runOp_eq hload hat (hplain op (by simp))
    rw [runOps_cons, stepsOf_cons, loop, Budget.run_add, ← loop, hloop]
    cases hop : m.runOp op s with
    | error e => exact ⟨rfl, fun s' h => by cases h⟩
    | ok t => exact ih (fun op hop => hplain op (by simp [hop])) (hnext t hop)

lemma loop_runOps {s : Scan} (hat : At prog s (ops ++ rest)) (h : m.runOps ops s = .ok s') :
    m.loop p (stepsOf ops) s = .ok s' ∧ At prog s' rest :=
  (loop_runOps_eq hload hplain hat).imp (·.trans h) (· s' h)

lemma loop_runOps_error {s : Scan}
    (hat : At prog s (ops ++ rest)) (h : m.runOps ops s = .error halt) :
    m.loop p (stepsOf ops) s = .error halt := (loop_runOps_eq hload hplain hat).1.trans h

end

/-! ## Loops -/

/-- The code sets no break count and does not jump. -/
def OpCode.InLoop (code : OpCode) : Prop :=
  code ≠ .forBreak ∧ code ≠ .resetCtx ∧ code ≠ .setBreakCount ∧ code ≠ .setBreakCountRegValue ∧
    code ≠ .setBreakCountPointerValue
deriving Decidable

def OpCode.OutsideLoop (code : OpCode) : Prop :=
  code ≠ .forBreak ∧ code ≠ .savePtrString ∧ code ≠ .savePtrString16
deriving Decidable

/-- What a code in the body of a loop does to the counters of the loop: nothing, or it asks for the
end of the loop. -/
structure SameLoop (s s' : Scan) : Prop where
  loopIndex : s'.ctx.loopIndex = s.ctx.loopIndex
  breakCount : s'.ctx.breakCount = s.ctx.breakCount
  loopCount : s'.ctx.loopCount = s.ctx.loopCount ∨ s'.ctx.loopCount = s.ctx.breakCount

lemma SameLoop.refl (s : Scan) : SameLoop s s := ⟨rfl, rfl, .inl rfl⟩

lemma SameLoop.trans {s t u : Scan} (h : SameLoop s t) (h' : SameLoop t u) : SameLoop s u where
  loopIndex := h'.loopIndex.trans h.loopIndex
  breakCount := h'.breakCount.trans h.breakCount
  loopCount := by
    rcases h'.loopCount with heq | heq
    · rw [heq]; exact h.loopCount
    · rw [heq, h.breakCount]; exact .inr rfl

lemma OpCtx.filterValue_loop (ctx : OpCtx) (filter : ArgFilter) :
    (ctx.filterValue filter).loopIndex = ctx.loopIndex ∧
      (ctx.filterValue filter).breakCount = ctx.breakCount ∧
      (ctx.filterValue filter).loopCount = ctx.loopCount := by
  unfold filterValue
  split <;> first | exact ⟨rfl, rfl, rfl⟩ | (split_ifs <;> exact ⟨rfl, rfl, rfl⟩)

lemma OpCtx.filterBuffer_loop (mem : Memory) (ctx : OpCtx) (filter : ArgFilter) :
    (ctx.filterBuffer mem filter).loopIndex = ctx.loopIndex ∧
      (ctx.filterBuffer mem filter).breakCount = ctx.breakCount ∧
      (ctx.filterBuffer mem filter).loopCount = ctx.loopCount := by
  unfold filterBuffer
  split_ifs <;> exact ⟨rfl, rfl, rfl⟩

lemma OpCtx.filterString_loop (mem : Memory) (ctx : OpCtx) (filter : ArgFilter) :
    (ctx.filterString mem filter).loopIndex = ctx.loopIndex ∧
      (ctx.filterString mem filter).breakCount = ctx.breakCount ∧
      (ctx.filterString mem filter).loopCount = ctx.loopCount := by
  unfold filterString
  dsimp only
  split_ifs <;> exact ⟨rfl, rfl, rfl⟩

lemma Machine.filtered_loop {apply : OpCtx → ArgFilter → OpCtx}
    (happly : ∀ ctx filter, (apply ctx filter).loopIndex = ctx.loopIndex ∧
      (apply ctx filter).breakCount = ctx.breakCount ∧ (apply ctx filter).loopCount = ctx.loopCount)
    (h : m.filtered op s apply = .ok s') :
    s'.ctx.loopIndex = s.ctx.loopIndex ∧ s'.ctx.breakCount = s.ctx.breakCount ∧
      s'.ctx.loopCount = s.ctx.loopCount := by
  unfold filtered at h
  split at h
  · exact absurd h (by simp)
  · cases h
    exact happly _ _

lemma Machine.readReg_loop (h : m.readReg op s = .ok s') :
    s'.ctx.loopIndex = s.ctx.loopIndex ∧ s'.ctx.breakCount = s.ctx.breakCount ∧
      s'.ctx.loopCount = s.ctx.loopCount := by
  unfold readReg at h
  dsimp only at h
  split_ifs at h
  all_goals
    cases h
    exact ⟨rfl, rfl, rfl⟩

lemma Scan.savePtrText_loop (s : Scan) (mem : Memory)
    (save : List U8 → U64 → U8 → Option (List U8)) : SameLoop s (s.savePtrText mem save) := by
  unfold Scan.savePtrText
  dsimp only
  split
  · exact ⟨rfl, rfl, .inl rfl⟩
  · exact ⟨rfl, rfl, .inr rfl⟩

variable {code : OpCode} {R : Scan → Scan → Prop}

lemma Machine.perform_loop (hcode : code.InLoop)
    (h : m.perform op code s = .ok s') : SameLoop s s' := by
  have of_same : s'.ctx.loopIndex = s.ctx.loopIndex ∧ s'.ctx.breakCount = s.ctx.breakCount ∧
      s'.ctx.loopCount = s.ctx.loopCount → SameLoop s s' := fun h => ⟨h.1, h.2.1, .inl h.2.2⟩
  cases code with
  | forBreak => exact absurd rfl hcode.1
  | resetCtx => exact absurd rfl hcode.2.1
  | setBreakCount => exact absurd rfl hcode.2.2.1
  | setBreakCountRegValue => exact absurd rfl hcode.2.2.2.1
  | setBreakCountPointerValue => exact absurd rfl hcode.2.2.2.2
  | readReg => exact of_same (m.readReg_loop h)
  | filterValue => exact of_same (m.filtered_loop filterValue_loop h)
  | filterBuffer => exact of_same (m.filtered_loop (filterBuffer_loop m.memory) h)
  | filterString => exact of_same (m.filtered_loop (filterString_loop m.memory) h)
  | savePtrString | savePtrString16 =>
    cases h
    exact Scan.savePtrText_loop _ _ _
  | _ =>
    cases h
    exact ⟨rfl, rfl, .inl rfl⟩

lemma Machine.perform_loopCount (hcode : code.OutsideLoop)
    (h : m.perform op code s = .ok s') : s'.ctx.loopCount = s.ctx.loopCount := by
  cases code with
  | forBreak => exact absurd rfl hcode.1
  | savePtrString => exact absurd rfl hcode.2.1
  | savePtrString16 => exact absurd rfl hcode.2.2
  | readReg => exact (m.readReg_loop h).2.2
  | filterValue => exact (m.filtered_loop filterValue_loop h).2.2
  | filterBuffer => exact (m.filtered_loop (filterBuffer_loop m.memory) h).2.2
  | filterString => exact (m.filtered_loop (filterString_loop m.memory) h).2.2
  | _ =>
    cases h
    rfl

/-- What holds for every code that an operation executes, holds for the operation: the rule for
properties of an operation that its codes have. -/
lemma Machine.runOp_induction (hrefl : ∀ s, R s (s.fetched op))
    (hposted : ∀ s, R s s.posted) (htrans : ∀ {s t u}, R s t → R t u → R s u)
    (hcode : ∀ {s s'}, m.perform op op.code s = .ok s' → R s s')
    (hpost : op.postCode ≠ .skip → ∀ {s s'}, m.perform op op.postCode s = .ok s' → R s s')
    (hplain : op.code ≠ .skip) (h : m.runOp op s = .ok s') : R s s' := by
  unfold runOp at h
  cases hexec : m.execute op op.code (s.fetched op) with
  | error e => rw [hexec] at h; exact absurd h (by simp [bind, Except.bind])
  | ok t =>
    rw [hexec] at h
    have ht := htrans (hrefl s) (hcode ((m.execute_ok_iff hplain).mp hexec).1)
    simp only [bind, Except.bind] at h
    split_ifs at h with hskip
    · exact Except.ok.inj h ▸ ht
    · exact htrans ht (htrans (hposted t) (hpost hskip ((m.execute_ok_iff hskip).mp h).1))

lemma Machine.runOps_induction (hrefl : ∀ s, R s s) (htrans : ∀ {s t u}, R s t → R t u → R s u)
    (hop : ∀ op ∈ ops, ∀ {s s'}, m.runOp op s = .ok s' → R s s') :
    ∀ {s : Scan}, m.runOps ops s = .ok s' → R s s' := by
  induction ops with
  | nil => intro s h; exact Except.ok.inj h ▸ hrefl s
  | cons op ops ih =>
    intro s h
    rw [runOps_cons] at h
    cases hrun : m.runOp op s with
    | error e => rw [hrun] at h; exact absurd h (by simp [bind, Except.bind])
    | ok t =>
      rw [hrun] at h
      exact htrans (hop op (by simp) hrun) (ih (fun op hmem => hop op (by simp [hmem])) h)

/-- The operations may stand in the body of a loop. -/
def OpConfig.InLoop (op : OpConfig) : Prop := op.Plain ∧ op.code.InLoop ∧ op.postCode.InLoop
deriving Decidable

/-- The operations may stand outside a loop. -/
def OpConfig.OutsideLoop (op : OpConfig) : Prop :=
  op.Plain ∧ op.code.OutsideLoop ∧ op.postCode.OutsideLoop
deriving Decidable

lemma Machine.runOps_loop (hops : ∀ op ∈ ops, op.InLoop) (h : m.runOps ops s = .ok s') :
    SameLoop s s' :=
  m.runOps_induction SameLoop.refl SameLoop.trans
    (fun op hop _ _ hrun => m.runOp_induction (fun _ => ⟨rfl, rfl, .inl rfl⟩)
      (fun _ => ⟨rfl, rfl, .inl rfl⟩) SameLoop.trans (m.perform_loop (hops op hop).2.1)
      (fun _ => m.perform_loop (hops op hop).2.2) (hops op hop).1.1.1 hrun) h

lemma Machine.runOps_loopCount (hops : ∀ op ∈ ops, op.OutsideLoop)
    (h : m.runOps ops s = .ok s') : s'.ctx.loopCount = s.ctx.loopCount :=
  m.runOps_induction (R := fun s s' => s'.ctx.loopCount = s.ctx.loopCount) (fun _ => rfl)
    (fun h h' => h'.trans h)
    (fun op hop _ _ hrun => m.runOp_induction (R := fun s s' => s'.ctx.loopCount = s.ctx.loopCount)
      (fun _ => rfl) (fun _ => rfl) (fun h h' => h'.trans h)
      (m.perform_loopCount (hops op hop).2.1) (fun _ => m.perform_loopCount (hops op hop).2.2)
      (hops op hop).1.1.1 hrun) h

/-! ### `OP_FOR_BREAK` -/

variable {ctx : OpCtx}

lemma OpCtx.forBreak_exit (h : ctx.loopCount ≥ ctx.breakCount) :
    ctx.forBreak = { ctx with loopCount := 0, breakCount := 0, loopIndex := 0 } := by
  unfold forBreak
  dsimp only
  split_ifs <;> rfl

lemma OpCtx.forBreak_again (h : ctx.loopCount < ctx.breakCount) (hzero : ctx.loopCount ≠ 0) :
    ctx.forBreak = { ctx with loopCount := ctx.loopCount + 1, opKeyIndex := ctx.loopIndex } := by
  unfold forBreak
  rw [if_neg hzero]
  exact if_neg (BitVec.not_le.mpr h)

lemma OpCtx.forBreak_enter (h : ctx.loopCount < ctx.breakCount) (hzero : ctx.loopCount = 0) :
    ctx.forBreak = { ctx with loopIndex := ctx.opKeyIndex, loopCount := ctx.loopCount + 1 } := by
  unfold forBreak
  rw [if_pos hzero]
  exact if_neg (BitVec.not_le.mpr h)

lemma Machine.runOp_forBreak (h : s.ctx.matchBlacklist = false) :
    m.runOp forBreakOp s =
      .ok { s.fetched forBreakOp with ctx := (s.fetched forBreakOp).ctx.forBreak } := by
  have hblack : (s.fetched forBreakOp).ctx.forBreak.matchBlacklist = false := by
    rw [← h]
    unfold forBreak
    dsimp only
    split_ifs <;> rfl
  unfold runOp
  rw [(m.execute_ok_iff (by decide)).mpr ⟨rfl, hblack⟩]
  rfl

lemma At.step_forBreak (hload : Loaded m p prog) (h : At prog s (forBreakOp :: rest))
    (hblack : s.ctx.matchBlacklist = false) :
    m.step p s = .ok { s.fetched forBreakOp with ctx := (s.fetched forBreakOp).ctx.forBreak } := by
  have hrun := m.runOp_forBreak hblack
  unfold runOp at hrun
  rw [h.step hload]
  cases hexec : m.execute forBreakOp forBreakOp.code (s.fetched forBreakOp) with
  | error e => rw [hexec] at hrun; exact absurd hrun (by simp [bind, Except.bind])
  | ok t =>
    rw [hexec] at hrun
    exact hrun

end Spz.Bpf
