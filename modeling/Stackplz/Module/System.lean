import Stackplz.Lib.Transition
import Stackplz.Module.Control
import Stackplz.Module.Execute

/-!
# The module in its surroundings

The module together with the tasks that are current on the CPUs and the place of the worker.  An
action is a whole handler, a whole command, one step of the worker, or something the module has no
part in: a running task changes, somebody else writes a debug register.

A context switch and the handler before it are one action: `finish_task_switch` clears `on_cpu` of
the task switched out only after that handler, so no other CPU can run the task before the handler
is done.  A task runs on one CPU at a time, apart from the idle tasks, which all look alike.
-/

namespace Spz

open Fallible Errno Transition Option Function

/-- The module and what runs around it.  `stepActive` is for the proofs only: whether, at the last
hit a CPU took while it was armed, a single step was active already. -/
structure World where
  m : ModuleState
  current : ℕ → KernelTask
  exec : Option ExecPc := none
  stepActive : ℕ → Bool := fun _ => false

/-- What can happen. -/
inductive Action
  /-- Another task is switched in, and `finish_before` runs. -/
  | switch (cpu : ℕ) (task : KernelTask) (env : HookEnv)
  /-- A running task changes, but not into another one. -/
  | touch (cpu : ℕ) (task : KernelTask)
  | finishAfter (cpu : ℕ) (env : HookEnv)
  | exitBefore (cpu : ℕ)
  | exception (cpu : ℕ) (kind : ExceptionKind) (fargs : HookFargs) (env : HookEnv)
  | command (command : Command) (env : ControlEnv)
  /-- The worker takes the pending request. -/
  | workerStart
  | workerStep (input : ExecInput)
  /-- The worker stores the result. -/
  | workerFinish
  /-- Somebody else changes the registers of a CPU. -/
  | foreign (cpu : ℕ) (regs : Regs)

/-- The identity all idle tasks share. -/
def StrongIdentity.Idle (i : StrongIdentity) : Prop := i.pid = 0 ∧ i.tgid = 0
deriving Decidable

/-- The task may be switched in on the CPU: it is an idle task, or it runs nowhere else. -/
def MayRun (cfg : Config) (w : World) (cpu : ℕ) (task : KernelTask) : Prop :=
  task.strong.Idle ∨ ∀ i < cfg.cpuCount, i ≠ cpu → (w.current i).strong ≠ task.strong

instance (cfg : Config) (w : World) (cpu : ℕ) (task : KernelTask) :
    Decidable (MayRun cfg w cpu task) :=
  inferInstanceAs (Decidable (_ ∨ ∀ i < cfg.cpuCount, i ≠ cpu → _))

/-- A single step is active for the task that takes an exception on the CPU. -/
def stepActiveAt (m : ModuleState) (cpu : ℕ) (fargs : HookFargs) : Bool :=
  (m.regs cpu).mdscr &&& mdscrSS != 0 ||
    fargs.regs.any fun r => r.pstate &&& pstateSS != 0

def noteHit (w : World) (cpu : ℕ) (kind : ExceptionKind) (fargs : HookFargs) : ℕ → Bool :=
  if kind ≠ .singleStep ∧ (w.m.debug cpu).state = .armed then
    update w.stepActive cpu (stepActiveAt w.m cpu fargs)
  else w.stepActive

/-- One action; `none` if it is not possible. -/
def worldNext (cfg : Config) (w : World) : Action → Option World
  | .switch cpu task env =>
    if MayRun cfg w cpu task then
      some { w with
        m := finishBefore cfg w.m cpu env
        current := update w.current cpu task }
    else none
  | .touch cpu task =>
    if task.strong = (w.current cpu).strong then
      some { w with current := update w.current cpu task }
    else none
  | .finishAfter cpu env => some { w with m := finishAfter cfg w.m cpu (w.current cpu) env }
  | .exitBefore cpu => some { w with m := exitBefore w.m (w.current cpu) }
  | .exception cpu kind fargs env =>
    some { w with
      m := (exceptionBefore cfg w.m cpu (w.current cpu) kind fargs env).2
      stepActive := noteHit w cpu kind fargs }
  | .command command env => some { w with m := (controlDispatch w.m env command).2 }
  | .workerStart =>
    if w.exec.isNone ∧ w.m.async.state = .pending then
      some { w with
        m := { w.m with async := { w.m.async with state := .running } }
        exec := some (.begin w.m.async.operation w.m.async.targetId) }
    else none
  | .workerStep input => w.exec.bind fun pc =>
    (execStep cfg w.current w.m input pc).map fun out => { w with exec := some out.1, m := out.2 }
  | .workerFinish =>
    match w.exec with
    | some (.finished _ status) =>
      some { w with
        m := { w.m with async := { w.m.async with status := status, state := .done } }
        exec := none }
    | _ => none
  | .foreign cpu regs => some { w with m := { w.m with regs := update w.m.regs cpu regs } }

/-- A freshly initialised module: any registers, any tasks. -/
def WorldInit (cfg : Config) (w : World) : Prop :=
  (∃ backend, w.m = moduleInit w.m.regs backend) ∧ w.exec = none ∧
    ∀ cpu < cfg.cpuCount, MayRun cfg w cpu (w.current cpu)

def moduleSystem (cfg : Config) : System World Action := .ofStep (WorldInit cfg) (worldNext cfg)

/-! ## What one action does -/

/-- Everything an action can do. -/
inductive WorldStep (cfg : Config) (w : World) : Action → World → Prop
  | switch {cpu : ℕ} {task : KernelTask} {env : HookEnv} : MayRun cfg w cpu task →
      WorldStep cfg w (.switch cpu task env) { w with
        m := finishBefore cfg w.m cpu env
        current := update w.current cpu task }
  | touch {cpu : ℕ} {task : KernelTask} : task.strong = (w.current cpu).strong →
      WorldStep cfg w (.touch cpu task) { w with current := update w.current cpu task }
  | finishAfter {cpu : ℕ} {env : HookEnv} {m : ModuleState} :
      SwitchedIn cfg w.m cpu (w.current cpu) env m →
      WorldStep cfg w (.finishAfter cpu env) { w with m := m }
  | exitBefore {cpu : ℕ} {b : Binding} : BindingEffect w.m.binding (w.current cpu) b →
      WorldStep cfg w (.exitBefore cpu) { w with m := { w.m with binding := b } }
  | exception {cpu : ℕ} {kind : ExceptionKind} {fargs : HookFargs} {env : HookEnv}
      {out : HookFargs × ModuleState} :
      ExceptionDone cfg w.m cpu (w.current cpu) kind fargs env out →
      WorldStep cfg w (.exception cpu kind fargs env)
        { w with m := out.2, stepActive := noteHit w cpu kind fargs }
  | command {command : Command} {env : ControlEnv} {m : ModuleState} :
      CommandEffect w.m env command m →
      WorldStep cfg w (.command command env) { w with m := m }
  | workerStart : w.exec = none → w.m.async.state = .pending →
      WorldStep cfg w .workerStart { w with
        m := { w.m with async := { w.m.async with state := .running } }
        exec := some (.begin w.m.async.operation w.m.async.targetId) }
  | workerStep {input : ExecInput} {pc pc' : ExecPc} {m : ModuleState} : w.exec = some pc →
      execStep cfg w.current w.m input pc = some (pc', m) →
      WorldStep cfg w (.workerStep input) { w with exec := some pc', m := m }
  | workerFinish {operation : AsyncOperation} {status : Except Errno Unit} :
      w.exec = some (.finished operation status) →
      WorldStep cfg w .workerFinish { w with
        m := { w.m with async := { w.m.async with status := status, state := .done } }
        exec := none }
  | foreign (cpu : ℕ) (regs : Regs) :
      WorldStep cfg w (.foreign cpu regs)
        { w with m := { w.m with regs := update w.m.regs cpu regs } }

/-- The inversion of a step. -/
theorem worldNext_step {cfg : Config} {w w' : World} {a : Action}
    (h : worldNext cfg w a = some w') : WorldStep cfg w a w' := by
  cases a with
  | switch cpu task env =>
    simp only [worldNext, ite_none_right_eq_some, some.injEq] at h
    obtain ⟨hmay, rfl⟩ := h
    exact .switch hmay
  | touch cpu task =>
    simp only [worldNext, ite_none_right_eq_some, some.injEq] at h
    obtain ⟨hsame, rfl⟩ := h
    exact .touch hsame
  | finishAfter cpu env =>
    cases h
    exact .finishAfter (finishAfter_switchedIn ..)
  | exitBefore cpu =>
    cases h
    exact .exitBefore bindingMarkExit_effect
  | exception cpu kind fargs env =>
    cases h
    exact .exception (exceptionBefore_done ..)
  | command command env =>
    cases h
    exact .command (controlDispatch_effect ..)
  | workerStart =>
    simp only [worldNext, ite_none_right_eq_some, some.injEq, isNone_iff_eq_none] at h
    obtain ⟨⟨hexec, hpend⟩, rfl⟩ := h
    exact .workerStart hexec hpend
  | workerStep input =>
    simp only [worldNext, bind_eq_some_iff, map_eq_some_iff] at h
    obtain ⟨pc, hpc, out, hout, rfl⟩ := h
    exact .workerStep hpc hout
  | workerFinish =>
    simp only [worldNext] at h
    split at h
    next hexec =>
      cases h
      exact .workerFinish hexec
    next => cases h
  | foreign cpu regs =>
    cases h
    exact .foreign cpu regs

variable {C : World → Action → Prop}

/-- The invariant rule for runs of the module whose actions all meet a condition. -/
theorem module_invariant {cfg : Config} {I : World → Prop} (hinit : ∀ w, WorldInit cfg w → I w)
    (hstep : ∀ w a w', I w → C w a → WorldStep cfg w a w' → I w') {w : World}
    (hw : ((moduleSystem cfg).restrict C).Reachable w) : I w := by
  refine System.Reachable.invariant (I := I) hinit (fun w a w' hI hs => ?_) hw
  exact hstep w a w' hI hs.1 (worldNext_step hs.2)

/-! ## What no action changes -/

/-- The worker executes a request exactly while the slot says so, and the operation is the
request's. -/
structure WorkerInv (w : World) : Prop where
  running : ∀ pc, w.exec = some pc →
    w.m.async.state = .running ∧ w.m.async.operation = pc.operation
  idle : w.exec = none → w.m.async.state ≠ .running
  accepting : w.m.acceptingCommands = true

variable {cfg : Config} {w w' : World} {a : Action}

lemma WorkerInv.busy {pc : ExecPc} (h : WorkerInv w) (hexec : w.exec = some pc) :
    asyncBusy w.m.async = true := by
  simp [asyncBusy, (h.running pc hexec).1]

lemma WorkerInv.of_sameRequest (h : WorkerInv w) (hexec : w'.exec = w.exec)
    (hsame : SameRequest w.m w'.m) : WorkerInv w' := by
  refine ⟨fun pc hpc => ?_, fun hnone => ?_, ?_⟩
  · rw [hsame.async]
    exact h.running pc (hexec ▸ hpc)
  · rw [hsame.async]
    exact h.idle (hexec ▸ hnone)
  · rw [hsame.accepting]
    exact h.accepting

lemma finishBefore_sameRequest (cfg : Config) (m : ModuleState) (cpu : ℕ) (env : HookEnv) :
    SameRequest m (finishBefore cfg m cpu env) := by
  obtain ⟨s, ring, h, -⟩ := finishBefore_cases cfg m cpu env
  rw [h]
  exact ⟨rfl, rfl⟩

lemma ExceptionDone.sameRequest {m : ModuleState} {cpu : ℕ} {task : KernelTask}
    {kind : ExceptionKind} {fargs : HookFargs} {env : HookEnv} {out : HookFargs × ModuleState}
    (h : ExceptionDone cfg m cpu task kind fargs env out) : SameRequest m out.2 := by
  obtain ⟨b, s, ring, enabled, h⟩ := h.frame
  rw [h]
  exact ⟨rfl, rfl⟩

/-- Every action keeps it. -/
lemma WorldStep.workerInv (h : WorldStep cfg w a w') (hw : WorkerInv w) : WorkerInv w' := by
  cases h with
  | switch => exact hw.of_sameRequest rfl (finishBefore_sameRequest ..)
  | touch => exact hw.of_sameRequest rfl (.refl _)
  | finishAfter hin => exact hw.of_sameRequest rfl (by cases hin <;> exact ⟨rfl, rfl⟩)
  | exception hdone => exact hw.of_sameRequest rfl hdone.sameRequest
  | command hcmd =>
    refine ⟨fun pc hpc => ?_, fun hnone => hcmd.not_running (hw.idle hnone),
      hcmd.accepting.trans hw.accepting⟩
    obtain ⟨ring, rfl⟩ := hcmd.busy (hw.busy hpc)
    exact hw.running pc hpc
  | workerStart hexec hpend =>
    refine ⟨fun pc hpc => ?_, fun hnone => by simp at hnone, hw.accepting⟩
    cases hpc
    exact ⟨rfl, rfl⟩
  | workerStep hexec hstep =>
    have heff := execStep_effect hstep
    obtain ⟨hrun, hop⟩ := hw.running _ hexec
    refine ⟨fun pc hpc => ?_, fun hnone => by simp at hnone, ?_⟩
    · cases hpc
      show _ = _ ∧ _ = _
      rw [heff.sameRequest.async, heff.operation]
      exact ⟨hrun, hop⟩
    · show _ = _
      rw [heff.sameRequest.accepting]
      exact hw.accepting
  | workerFinish hexec =>
    exact ⟨fun pc hpc => by simp at hpc, fun _ => by simp, hw.accepting⟩
  | _ => exact hw.of_sameRequest rfl ⟨rfl, rfl⟩

lemma WorldInit.workerInv (h : WorldInit cfg w) : WorkerInv w := by
  obtain ⟨⟨backend, hm⟩, hexec, -⟩ := h
  refine ⟨fun pc hpc => by simp [hexec] at hpc, fun _ => ?_, ?_⟩
  · rw [hm]
    simp [moduleInit]
  · rw [hm]
    rfl

/-! ## A small module

Two CPUs: the task the module is bound to runs on CPU 0, the worker on CPU 1.  The setting of the
concrete runs in this development. -/

/-- Two CPUs with one slot of each kind. -/
def tinyConfig : Config := ⟨oneSlotOps, 2, by decide, by decide⟩

def taskOf (pid : U32) : KernelTask :=
  { address := 0xffff000000000000 + pid.setWidth 64
    pid := pid
    tgid := pid
    startTime := 1
    startBootTime := 1
    comm := Vector.replicate 16 0
    exitState := 0
    uid := some 0 }

def someTask : KernelTask := taskOf 100

def workerTask (cpu : ℕ) : KernelTask := taskOf (BitVec.ofNat 32 (10 + cpu))

/-- The module just initialised, with maps supported. -/
def tinyWorld : World :=
  { m := moduleInit (fun _ => blankRegs)
      { complete := true, maxSnapshotBytes := 4096, maxChunkBytes := 512 }
    current := fun cpu => if cpu = 0 then someTask else workerTask cpu }

lemma tinyWorld_init : WorldInit tinyConfig tinyWorld :=
  ⟨⟨_, rfl⟩, rfl, show ∀ cpu < 2, MayRun tinyConfig tinyWorld cpu (tinyWorld.current cpu) by
    decide⟩

def bindSome : Command := .bind { pid := 100, mode := .pid }

def switchTo (task : KernelTask) : List Action := [.switch 0 task {}, .finishAfter 0 {}]

/-- `n` steps of the worker. -/
def workerSteps (n : ℕ) : List Action := List.replicate n (.workerStep {})

/-- Both CPUs have their turn, CPU 0 by switching to its worker thread and back. -/
def bothTurns : List Action :=
  [.workerStep { cpu := 1 }] ++ switchTo (workerTask 0) ++ [.workerStep { cpu := 0 }] ++
    switchTo someTask

/-- The world some actions of the small module lead to. -/
def World.after (w : World) (as : List Action) : World := runFrom (worldNext tinyConfig) w as

/-- The world after a run of the small module. -/
def worldAfter (as : List Action) : World := tinyWorld.after as

lemma worldAfter_reachable (as : List Action)
    (hC : ∀ a ∈ as, ∀ u, C u a) (h : (run (worldNext tinyConfig) tinyWorld as).isSome = true) :
    ((moduleSystem tinyConfig).restrict C).Reachable (worldAfter as) :=
  .steps (.init tinyWorld_init) (runFrom_steps tinyWorld as hC h)

end Spz
