import Stackplz.Module.System

/-!
# Exceptions the module causes

A breakpoint exception at the armed address, or the single step that follows it, is of the module's
own making, and the kernel's handler should not see it.  While register operations succeed and
nobody else touches the registers, every slot the controller holds is as the controller left it
(`QuietInv`), so an exception that is looked at is consumed.

Whether it is looked at depends on the switch `breakpoint_enabled`, and DISABLE, CLEAR and a failing
ENABLE turn that off before they restore the CPUs.  An exception of the bound task in between goes
to the kernel (`exception_forwarded_while_disabling`).  The switch is all there is to it
(`own_exception_consumed_iff`).
-/

namespace Spz

open Fallible Errno Transition ModuleState

/-- Register operations succeed, and nobody else changes a register. -/
def Quiet (_ : World) : Action → Prop
  | .switch _ _ env => env.φ = .succeed
  | .finishAfter _ env => env.φ = .succeed
  | .exception _ _ _ env => env.φ = .succeed
  | .workerStep input => input.φ = .succeed
  | .foreign _ _ => False
  | _ => True

/-! ## One CPU -/

/-- What holds of a CPU: its slot is as the controller left it, and a step is forwarded exactly
if one was active before the hit. -/
structure CpuQuiet (st : CpuState) (r : Regs) (stepActive : Bool) : Prop where
  intact : Intact st r
  forward : st.state = .stepPending → st.forwardSingleStep = stepActive

variable {s : CpuDebug} {active active' : Bool}

lemma CpuQuiet.of_not_stepPending {st : CpuState} {r : Regs} (h : Intact st r)
    (hs : st.state ≠ .stepPending) (active : Bool) : CpuQuiet st r active :=
  ⟨h, fun hp => absurd hp hs⟩

lemma CpuQuiet.restoreCpu (ops : DebugOps) (h : CpuQuiet s.cpu s.regs active) (hw : s.writes = []) :
    CpuQuiet ((debugRestoreCpu ops).exec .succeed s).2.cpu
      ((debugRestoreCpu ops).exec .succeed s).2.regs active := by
  rcases (exec_debugRestoreCpu ops hw h.intact).2 with ⟨-, heq⟩ | ⟨-, -, -, hcpu, -⟩
  · rw [heq]
    exact h
  · have hempty : ((debugRestoreCpu ops).exec .succeed s).2.cpu.state = .empty := by
      rw [hcpu]
      rfl
    exact .of_not_stepPending (intact_empty hempty _) (by simp [hempty]) _

lemma CpuQuiet.armCurrent (ops : DebugOps) (request : DebugRequest) (target : DebugTarget)
    (h : CpuQuiet s.cpu s.regs active) (hw : s.writes = []) :
    CpuQuiet ((debugArmCurrent ops request target).exec .succeed s).2.cpu
      ((debugArmCurrent ops request target).exec .succeed s).2.regs active := by
  rcases exec_debugArmCurrent ops request target hw with ⟨enc, slot, -, harmed⟩ | ⟨e, heq⟩
  · refine .of_not_stepPending harmed.intact ?_ _
    rw [harmed.cpu]
    simp [debugTransition]
  · rw [heq]
    exact h

variable {frame : DebugFrame} {t : CpuDebug} {m : ModuleState}

lemma HitDone.cpuQuiet {concerned : Prop} {observed : U64} {event : Event}
    {out : DebugResult × DebugFrame × Event}
    (h : HitDone concerned frame observed event s out t)
    (harmed : concerned → s.cpu.state = .armed) (hs : CpuQuiet s.cpu s.regs active)
    (hkept : s.cpu.state ≠ .armed → active' = active)
    (hnoted : s.cpu.state = .armed →
      active' = (!(s.regs.mdscr &&& mdscrSS == 0) || !(frame.pstate &&& pstateSS == 0))) :
    CpuQuiet t.cpu t.regs active' := by
  refine ⟨h.intact harmed hs.intact, fun hp => ?_⟩
  cases h with
  | notOwned =>
    rw [hkept (by simp [hp])]
    exact hs.forward hp
  | ended _ _ _ hcpu => simp [hcpu, debugTransition] at hp
  | stepping hc _ _ hcpu =>
    rw [hcpu, hnoted (harmed hc)]
    rfl

lemma StepDone.cpuQuiet {current : DebugTarget}
    {out : DebugResult × DebugFrame} (h : StepDone current frame s out t)
    (hs : CpuQuiet s.cpu s.regs active) : CpuQuiet t.cpu t.regs active := by
  refine ⟨h.intact hs.intact, fun hp => ?_⟩
  cases h with
  | notOwned => exact hs.forward hp
  | rearmed _ _ hcpu => simp [hcpu, debugTransition] at hp

/-! ## Whole runs -/

/-- The invariant. -/
def QuietInv (w : World) : Prop :=
  ∀ cpu, CpuQuiet (w.m.debug cpu) (w.m.regs cpu) (w.stepActive cpu)

variable {cfg : Config} {w w' : World} {a : Action}

lemma QuietInv.of_eq (h : QuietInv w) (hdebug : w'.m.debug = w.m.debug)
    (hregs : w'.m.regs = w.m.regs) (hactive : w'.stepActive = w.stepActive) : QuietInv w' := by
  intro cpu
  rw [hdebug, hregs, hactive]
  exact h cpu

lemma QuietInv.of_cpu (h : QuietInv w) (cpu : ℕ) (hdebug : w'.m.debug = (w.m.withCpu cpu s).debug)
    (hregs : w'.m.regs = (w.m.withCpu cpu s).regs)
    (hactive : ∀ i ≠ cpu, w'.stepActive i = w.stepActive i)
    (hs : CpuQuiet s.cpu s.regs (w'.stepActive cpu)) : QuietInv w' := by
  intro i
  rw [hdebug, hregs]
  by_cases hi : i = cpu
  · subst hi
    simpa using hs
  · rw [withCpu_debug_of_ne hi, withCpu_regs_of_ne hi, hactive i hi]
    exact h i

variable {cpu : ℕ} {kind : ExceptionKind} {fargs : HookFargs} {regs : PtRegs}

lemma noteHit_of_ne {i : ℕ} (hi : i ≠ cpu) (kind : ExceptionKind) (fargs : HookFargs) :
    noteHit w cpu kind fargs i = w.stepActive i := by
  unfold noteHit
  split_ifs
  · exact Function.update_of_ne hi ..
  · rfl

lemma noteHit_kept (h : kind = .singleStep ∨ (w.m.debug cpu).state ≠ .armed) :
    noteHit w cpu kind fargs cpu = w.stepActive cpu := by
  unfold noteHit
  rw [if_neg (by rcases h with h | h <;> simp [h])]

lemma noteHit_noted (hkind : kind ≠ .singleStep) (harmed : (w.m.debug cpu).state = .armed)
    (hregs : fargs.regs = some regs) :
    noteHit w cpu kind fargs cpu = (!((w.m.regs cpu).mdscr &&& mdscrSS == 0) ||
      !(regs.pstate &&& pstateSS == 0)) := by
  unfold noteHit
  rw [if_pos ⟨hkind, harmed⟩, Function.update_self]
  simp [stepActiveAt, hregs, bne]

/-- An exception handler on a sound CPU: it returns, and the CPU is sound. -/
lemma CpuQuiet.handleException
    (target : DebugTarget) (h : QuietInv w) (hregs : fargs.regs = some regs) :
    CpuQuiet
      ((handleException kind target (frameFromRegs regs fargs.far fargs.esr)).exec .succeed
        (w.m.onCpu cpu)).2.cpu
      ((handleException kind target (frameFromRegs regs fargs.far fargs.esr)).exec .succeed
        (w.m.onCpu cpu)).2.regs
      (noteHit w cpu kind fargs cpu) := by
  cases kind with
  | breakpoint =>
    obtain ⟨out, -, hdone⟩ := exec_debugHandleBreak (s := w.m.onCpu cpu) target
      (frameFromRegs regs fargs.far fargs.esr) {} rfl (h cpu).intact
    exact hdone.cpuQuiet BreakConcerns.armed (h cpu) (fun hne => noteHit_kept (.inr hne))
      fun harmed => noteHit_noted (by simp) harmed hregs
  | watchpoint =>
    obtain ⟨out, -, hdone⟩ := exec_debugHandleWatch (s := w.m.onCpu cpu) target
      (frameFromRegs regs fargs.far fargs.esr) {} rfl (h cpu).intact
    exact hdone.cpuQuiet WatchConcerns.armed (h cpu) (fun hne => noteHit_kept (.inr hne))
      fun harmed => noteHit_noted (by simp) harmed hregs
  | singleStep =>
    obtain ⟨out, -, hdone⟩ := exec_debugHandleStep (s := w.m.onCpu cpu) target
      (frameFromRegs regs fargs.far fargs.esr) rfl (h cpu).intact
    rw [noteHit_kept (.inl rfl)]
    unfold Spz.handleException
    rw [exec_bind_pure]
    exact hdone.cpuQuiet (h cpu)

/-- A step of the worker restores or arms one CPU, or touches none. -/
lemma QuietInv.execEffect {input : ExecInput} {pc pc' : ExecPc} (h : QuietInv w)
    (hφ : input.φ = .succeed) (heff : ExecEffect cfg w.current w.m input pc pc' m)
    (exec : Option ExecPc) : QuietInv { w with exec := exec, m := m } := by
  cases heff with
  | enableTurn =>
    unfold enableCpuCallback
    rcases armLiveCurrent_cases cfg w.m input.cpu (w.current input.cpu) input.φ with
      ⟨b, -, harm⟩ | ⟨-, -, target, -, harm⟩
    · rw [harm]
      exact h.of_eq rfl rfl rfl
    · rw [harm]
      refine h.of_cpu input.cpu rfl rfl (fun _ _ => rfl) ?_
      rw [hφ]
      exact (h input.cpu).armCurrent cfg.ops _ target rfl
  | restoreTurn | disableTurn =>
    refine h.of_cpu input.cpu rfl rfl (fun _ _ => rfl) ?_
    rw [hφ]
    exact (h input.cpu).restoreCpu cfg.ops rfl
  | _ => exact h.of_eq rfl rfl rfl

/-- Every quiet action keeps the invariant. -/
lemma QuietInv.step (h : QuietInv w) (hquiet : Quiet w a) (hstep : WorldStep cfg w a w') :
    QuietInv w' := by
  cases hstep with
  | @switch cpu task env =>
    have hφ : env.φ = .succeed := hquiet
    obtain ⟨s, ring, heq, hs⟩ := finishBefore_cases cfg w.m cpu env
    refine h.of_cpu cpu (s := s) (by rw [heq]) (by rw [heq]) (fun _ _ => rfl) ?_
    rcases hs with ⟨-, rfl⟩ | ⟨-, rfl⟩
    · exact h cpu
    · rw [hφ]
      exact (h cpu).restoreCpu cfg.ops rfl
  | @finishAfter cpu env m hin =>
    have hφ : env.φ = .succeed := hquiet
    cases hin with
    | unarmed => exact h.of_eq rfl rfl rfl
    | @armed b maps target =>
      refine h.of_cpu cpu rfl rfl (fun _ _ => rfl) ?_
      rw [hφ]
      exact (h cpu).armCurrent cfg.ops _ target rfl
  | @exception cpu kind fargs env out hdone =>
    have hφ : env.φ = .succeed := hquiet
    have hactive : ∀ i ≠ cpu, noteHit w cpu kind fargs i = w.stepActive i :=
      fun i hi => noteHit_of_ne hi kind fargs
    cases hdone with
    | ignored =>
      refine h.of_cpu cpu (s := w.m.onCpu cpu) (by rw [withCpu_onCpu])
        (by rw [withCpu_onCpu]) hactive ⟨(h cpu).intact, fun hp => ?_⟩
      have hp : (w.m.debug cpu).state = .stepPending := hp
      exact ((h cpu).forward hp).trans (noteHit_kept (.inr (by simp [hp]))).symm
    | @handled target regs _ _ _ hregs =>
      obtain ⟨ring, enabled, heq, -⟩ := deliverException_eq cfg w.m cpu kind target regs fargs env
      rw [heq]
      refine h.of_cpu cpu rfl rfl hactive ?_
      rw [hφ]
      exact CpuQuiet.handleException target h hregs
  | command hcmd => exact h.of_eq (by cases hcmd <;> rfl) (by cases hcmd <;> rfl) rfl
  | workerStep hexec hexecStep => exact h.execEffect hquiet (execStep_effect hexecStep) _
  | foreign => exact hquiet.elim
  | _ => exact h.of_eq rfl rfl rfl

lemma WorldInit.quietInv (h : WorldInit cfg w) : QuietInv w := by
  obtain ⟨⟨backend, hm⟩, -⟩ := h
  intro cpu
  rw [hm]
  exact .of_not_stepPending (intact_empty rfl _) (by simp [moduleInit]) _

lemma quietInv_of_reachable (hw : ((moduleSystem cfg).restrict Quiet).Reachable w) : QuietInv w :=
  module_invariant (fun _ hinit => hinit.quietInv)
    (fun _ _ _ hI hquiet hstep => hI.step hquiet hstep)
    hw

/-! ## The module's own exceptions -/

/-- The CPU's slot is held for the task, and the task is the one the module is bound to. -/
structure HeldForCurrent (m : ModuleState) (cpu : ℕ) (task : KernelTask) : Prop where
  bound : m.binding.state = .bound
  same : m.binding.identity.strong = task.strong
  alive : task.exitState = 0
  readable : task.uid ≠ none
  bindingId : (m.debug cpu).target.bindingId = m.binding.request.bindingId
  generation : (m.debug cpu).target.identity.generation = m.binding.generation
  identity : (m.debug cpu).target.identity.strong = task.strong

instance (m : ModuleState) (cpu : ℕ) (task : KernelTask) : Decidable (HeldForCurrent m cpu task) :=
  decidable_of_iff (m.binding.state = .bound ∧ m.binding.identity.strong = task.strong ∧
      task.exitState = 0 ∧ task.uid ≠ none ∧
      (m.debug cpu).target.bindingId = m.binding.request.bindingId ∧
      (m.debug cpu).target.identity.generation = m.binding.generation ∧
      (m.debug cpu).target.identity.strong = task.strong)
    ⟨fun ⟨h1, h2, h3, h4, h5, h6, h7⟩ => ⟨h1, h2, h3, h4, h5, h6, h7⟩,
      fun ⟨h1, h2, h3, h4, h5, h6, h7⟩ => ⟨h1, h2, h3, h4, h5, h6, h7⟩⟩

/-- An exception the module causes: a breakpoint at the armed address while the CPU is armed for
the current task, or a single step while the CPU is stepping the current task and no single step was
active before the hit. -/
structure OwnException (w : World) (cpu : ℕ) (kind : ExceptionKind) (regs : PtRegs) : Prop where
  held : HeldForCurrent w.m cpu (w.current cpu)
  caused : match kind with
    | .breakpoint => (w.m.debug cpu).state = .armed ∧ (w.m.debug cpu).kind = .breakpoint ∧
        regs.pc = (w.m.debug cpu).request.address
    | .singleStep => (w.m.debug cpu).state = .stepPending ∧ w.stepActive cpu = false
    | .watchpoint => False

lemma HeldForCurrent.target {task : KernelTask}
    (h : HeldForCurrent m cpu task) : ∃ target, currentTarget m task = (.ok (some target), m) ∧
      debugTargetMatches (m.debug cpu).target target = true := by
  obtain ⟨identity, hid⟩ : ∃ identity, extractIdentity task = .ok identity := by
    obtain ⟨uid, huid⟩ := Option.ne_none_iff_exists'.mp h.readable
    exact ⟨_, by rw [extractIdentity, huid]⟩
  have hmatch := bindingMatchesCurrent_bound h.bound h.same h.alive hid
  refine ⟨⟨m.binding.request.bindingId, { identity with generation := m.binding.generation }⟩,
    ?_, ?_⟩
  · rw [currentTarget, if_neg (by simp [h.bound]), hmatch]
    rfl
  · have hstrong : (m.debug cpu).target.identity.strong = identity.strong :=
      h.identity.trans (extractIdentity_strong hid).symm
    simp only [TaskIdentity.strong, StrongIdentity.mk.injEq] at hstrong
    simp [debugTargetMatches, h.bindingId, h.generation, hstrong]

/-- The controller consumes the module's own exceptions. -/
lemma OwnException.consumed
    {target : DebugTarget} (far esr : U64) (h : OwnException w cpu kind regs) (hquiet : QuietInv w)
    (hmatch : debugTargetMatches (w.m.debug cpu).target target = true) :
    ∃ frame event, ((handleException kind target (frameFromRegs regs far esr)).exec .succeed
      (w.m.onCpu cpu)).1 = .ok (.consumed, frame, event) := by
  have hcpu := hquiet cpu
  cases kind with
  | breakpoint =>
    have hconcerns : BreakConcerns target (frameFromRegs regs far esr) (w.m.debug cpu) :=
      ⟨h.caused, hmatch⟩
    obtain ⟨out, hr, hdone⟩ := exec_debugHandleBreak (s := w.m.onCpu cpu) target
      (frameFromRegs regs far esr) {} rfl hcpu.intact
    refine ⟨out.2.1, out.2.2, hr.trans ?_⟩
    generalize ((debugHandleBreak target (frameFromRegs regs far esr) {}).exec .succeed
      (w.m.onCpu cpu)).2 = t at hdone
    cases hdone with
    | notOwned hnot => exact absurd hconcerns hnot
    | _ => rfl
  | singleStep =>
    obtain ⟨hstate, hactive⟩ := h.caused
    have hforward : (w.m.debug cpu).forwardSingleStep = false := (hcpu.forward hstate).trans hactive
    obtain ⟨out, hr, hdone⟩ := exec_debugHandleStep (s := w.m.onCpu cpu) target
      (frameFromRegs regs far esr) rfl hcpu.intact
    refine ⟨out.2, {}, ?_⟩
    unfold handleException
    rw [exec_bind_pure, hr]
    generalize ((debugHandleStep target (frameFromRegs regs far esr)).exec .succeed
      (w.m.onCpu cpu)).2 = t at hdone
    cases hdone with
    | notOwned hnot => exact absurd ⟨hstate, hmatch⟩ hnot
    | rearmed =>
      simp only [onCpu, hforward]
      rfl
  | watchpoint => exact h.caused.elim

/-- An exception the module causes is kept from the kernel exactly while the breakpoint is switched
on. -/
theorem own_exception_consumed_iff (cfg : Config) {w : World}
    (hw : ((moduleSystem cfg).restrict Quiet).Reachable w) {cpu : ℕ} (hcpu : cpu < cfg.cpuCount)
    {kind : ExceptionKind} {fargs : HookFargs} {regs : PtRegs} (hregs : fargs.regs = some regs)
    (hskip : fargs.skipOrigin = false) (hown : OwnException w cpu kind regs) (now : U64) :
    (exceptionBefore cfg w.m cpu (w.current cpu) kind fargs { now := now }).1.skipOrigin = true ↔
      w.m.breakpointEnabled = true := by
  cases hen : w.m.breakpointEnabled with
  | false =>
    rw [exceptionBefore_disabled hen]
    simp [hskip]
  | true =>
    obtain ⟨target, htarget, hmatch⟩ := hown.held.target
    obtain ⟨frame, event, hr⟩ := OwnException.consumed fargs.far fargs.esr hown
      (quietInv_of_reachable hw) hmatch
    have hdeliver : exceptionBefore cfg w.m cpu (w.current cpu) kind fargs { now := now } =
        deliverException cfg w.m cpu kind target regs fargs { now := now } := by
      unfold exceptionBefore exceptionInside
      rw [if_neg (by simp [hen]), if_neg (by omega), htarget, hregs]
    rw [hdeliver]
    unfold deliverException runDebug
    simp only [hr, concludeException]

/-! ## Concrete runs -/

/-- The break command for an instruction of the task. -/
def breakSome : Command :=
  .break { id := 1, kind := .execute, address := 0x1000, length := 4, mode := .repeat }

/-- Bind, configure and enable the breakpoint; CPU 0 is armed when the task is switched back in. -/
def armingRun : List Action :=
  [.command bindSome {}, .finishAfter 0 {}, .command breakSome {}, .command (.enable 1) {},
    .workerStart] ++ workerSteps 2 ++ bothTurns ++ workerSteps 1 ++ [.workerFinish]

/-- The registers of the task at that instruction, and the arguments of the hooks there. -/
def hitRegs : PtRegs := { pc := 0x1000 }

def hitFargs : HookFargs := { regs := some hitRegs }

/-- DISABLE is submitted and has turned the switch off; no CPU has been restored yet. -/
def disablingRun : List Action := [.command (.disable 1) {}, .workerStart] ++ workerSteps 2

lemma armingRun_quiet : ∀ a ∈ armingRun, ∀ u, Quiet u a := by
  simp [armingRun, bothTurns, switchTo, workerSteps, Quiet]

/-- Armed and switched on, the hit is consumed. -/
theorem own_exception_consumed_armed :
    OwnException (worldAfter armingRun) 0 .breakpoint hitRegs ∧
    (exceptionBefore tinyConfig (worldAfter armingRun).m 0 ((worldAfter armingRun).current 0)
      .breakpoint hitFargs { now := 0 }).1.skipOrigin = true := by
  have hown : OwnException (worldAfter armingRun) 0 .breakpoint hitRegs :=
    ⟨by decide +kernel, by decide +kernel⟩
  exact ⟨hown, (own_exception_consumed_iff tinyConfig
    (worldAfter_reachable armingRun armingRun_quiet (by decide +kernel)) (by decide) rfl rfl hown
    0).mpr (by decide +kernel)⟩

/-- While DISABLE is under way the module's own exceptions reach the kernel.  DISABLE has turned the
switch off and not yet restored CPU 0: the hit of the task running there, or the step after a hit it
had taken before, is not looked at. -/
theorem exception_forwarded_while_disabling :
    (∃ w, ((moduleSystem tinyConfig).restrict Quiet).Reachable w ∧
      OwnException w 0 .breakpoint hitRegs ∧
      (exceptionBefore tinyConfig w.m 0 (w.current 0) .breakpoint hitFargs {}).1.skipOrigin
        = false) ∧
    (∃ w, ((moduleSystem tinyConfig).restrict Quiet).Reachable w ∧
      OwnException w 0 .singleStep hitRegs ∧
      (exceptionBefore tinyConfig w.m 0 (w.current 0) .singleStep hitFargs {}).1.skipOrigin
        = false) := by
  refine ⟨⟨worldAfter (armingRun ++ disablingRun), worldAfter_reachable _ ?_ (by decide +kernel),
      ⟨by decide +kernel, by decide +kernel⟩, by decide +kernel⟩,
    ⟨worldAfter (armingRun ++ .exception 0 .breakpoint hitFargs {} :: disablingRun),
      worldAfter_reachable _ ?_ (by decide +kernel), ⟨by decide +kernel, by decide +kernel⟩,
      by decide +kernel⟩⟩
  all_goals simp [armingRun, disablingRun, bothTurns, switchTo, workerSteps, Quiet]

end Spz
