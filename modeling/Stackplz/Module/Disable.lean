import Stackplz.Module.Switch

/-!
# Disabling the breakpoint

A disable command that is answered with success should stop the breakpoint for good, until somebody
enables it again.  The command looks at the switch `breakpoint_enabled` alone: if it is off the
answer is given without a request.  That is right as far as the CPUs go (`Settled`).  But the switch
is also off while an ENABLE waits for the worker or has not got to its store yet, and that ENABLE is
executed all the same (`disable_answered_before_enable`).

`Disabling` is what such an answer should mean: the switch is off and no ENABLE is ahead, or the
DISABLE that will turn it off is on its way.
-/

namespace Spz

open Fallible Errno Transition

/-! ## What is on its way -/

/-- The worker executes an ENABLE that has not turned the switch on yet. -/
def ExecPc.beforeEnable : ExecPc → Bool
  | .begin operation _ => operation = .enable
  | .enableStore => true
  | _ => false

/-- An ENABLE is ahead: it waits for the worker, or the worker has not turned the switch on
yet. -/
def EnableAhead (w : World) : Prop :=
  w.m.async.state = .pending ∧ w.m.async.operation = .enable ∨
    w.exec.any ExecPc.beforeEnable = true
deriving Decidable

/-- The breakpoint is off, or a DISABLE is on its way. -/
inductive Disabling (w : World) : Prop
  | off : w.m.breakpointEnabled = false → ¬ EnableAhead w → Disabling w
  | waiting : w.exec = none → w.m.async.state = .pending → w.m.async.operation = .disable →
      w.m.breakpoint.id = w.m.async.targetId → Disabling w
  | taken {id : U32} : w.exec = some (.begin .disable id) → w.m.breakpoint.id = id → Disabling w
  | storing : w.exec = some (.disableStore false) → Disabling w

variable {cfg : Config} {w w' : World} {a : Action}

/-- What is on its way stays so under the hooks, which at most turn the switch off. -/
structure SameCourse (w w' : World) : Prop where
  exec : w'.exec = w.exec
  async : w'.m.async = w.m.async
  request : w'.m.breakpoint = w.m.breakpoint
  off : w.m.breakpointEnabled = false → w'.m.breakpointEnabled = false

lemma SameCourse.of_eq (hexec : w'.exec = w.exec) (hasync : w'.m.async = w.m.async)
    (hrequest : w'.m.breakpoint = w.m.breakpoint)
    (hswitch : w'.m.breakpointEnabled = w.m.breakpointEnabled) : SameCourse w w' :=
  ⟨hexec, hasync, hrequest, fun h => hswitch.trans h⟩

lemma Disabling.sameCourse (h : Disabling w) (hsame : SameCourse w w') : Disabling w' := by
  cases h with
  | off hoff hahead =>
    refine .off (hsame.off hoff) ?_
    rwa [EnableAhead, hsame.async, hsame.exec]
  | waiting hexec hpend hop hid =>
    refine .waiting (hsame.exec.trans hexec) ?_ ?_ ?_
    · rw [hsame.async, hpend]
    · rw [hsame.async, hop]
    · rw [hsame.async, hsame.request, hid]
  | taken hexec hid => exact .taken (hsame.exec.trans hexec) (by rw [hsame.request, hid])
  | storing hexec => exact .storing (hsame.exec.trans hexec)

variable {m : ModuleState}

lemma ExceptionDone.stays_off {cpu : ℕ} {task : KernelTask}
    {kind : ExceptionKind} {fargs : HookFargs} {env : HookEnv} {out : HookFargs × ModuleState}
    (h : ExceptionDone cfg m cpu task kind fargs env out) (hoff : m.breakpointEnabled = false) :
    out.2.breakpointEnabled = false := by
  cases h with
  | ignored => exact hoff
  | handled hon => simp [hoff] at hon

/-- No command but enable puts an ENABLE ahead. -/
lemma Disabling.command (h : Disabling w) (hworker : WorkerInv w) {env : ControlEnv}
    {command : Command} (hcmd : CommandEffect w.m env command m)
    (hother : ∀ id, command ≠ .enable id) : Disabling { w with m := m } := by
  by_cases hbusy : asyncBusy w.m.async = true
  · obtain ⟨ring, rfl⟩ := hcmd.busy hbusy
    exact h.sameCourse (.of_eq rfl rfl rfl rfl)
  · have hidle : asyncBusy w.m.async = false := by simpa using hbusy
    have hexec := hworker.exec_none hidle
    cases h with
    | waiting _ hpend => simp [asyncBusy, hpend] at hidle
    | taken hpc => simp [hexec] at hpc
    | storing hpc => simp [hexec] at hpc
    | off hoff hahead =>
      cases hcmd with
      | @submitted _ operation targetId hen _ =>
        refine .off hoff ?_
        have hnot : operation ≠ .enable := fun hop => hother targetId (hen hop)
        simp only [EnableAhead, hexec, Option.any_none, or_false, Bool.false_eq_true]
        rintro ⟨hpend, hop⟩
        rcases asyncSubmit_effect w.m.async operation targetId env.queue with
          hsame | ⟨-, ⟨hdone, -⟩ | ⟨-, hop', -⟩⟩
        · rw [hsame] at hpend
          simp [asyncBusy, hpend] at hidle
        · simp [hdone] at hpend
        · exact hnot (hop'.symm.trans hop)
      | _ => exact .off hoff hahead

/-- Past its store an ENABLE does not turn the switch on again, and no other operation does. -/
lemma ExecEffect.not_beforeEnable {current : ℕ → KernelTask} {m' : ModuleState}
    {input : ExecInput} {pc pc' : ExecPc} (h : ExecEffect cfg current m input pc pc' m')
    (hpc : pc.beforeEnable = false) (hoff : m.breakpointEnabled = false) :
    pc'.beforeEnable = false ∧ m'.breakpointEnabled = false := by
  have heach : ∀ visit failed, (∀ left, (visit left).beforeEnable = false) →
      (∀ e, (failed e).beforeEnable = false) →
      (runEachCpu cfg input.transport visit failed).beforeEnable = false := by
    intro visit failed hvisit hfailed
    unfold runEachCpu
    cases input.transport with
    | ok _ => exact hvisit _
    | error e => exact hfailed e
  cases h with
  | enableAccepted | enableStored => simp [ExecPc.beforeEnable] at hpc
  | auditStarted => exact ⟨heach _ _ (fun _ => rfl) fun _ => rfl, hoff⟩
  | enableUndone | disableStored => exact ⟨heach _ _ (fun _ => rfl) fun _ => rfl, rfl⟩
  | enableTurn =>
    refine ⟨rfl, ?_⟩
    rw [enableCpuCallback, armLiveCurrent_disabled cfg hoff]
    exact hoff
  | @enableDone status => exact ⟨by cases status <;> rfl, hoff⟩
  | @disableDone clear status => exact ⟨by cases status <;> cases clear <;> rfl, hoff⟩
  | mapsCleared => exact ⟨by cases (mapsClear m.maps input.mapsBusy).1 <;> rfl, hoff⟩
  | _ => exact ⟨rfl, hoff⟩

/-- A step of the worker. -/
lemma Disabling.workerStep (h : Disabling w) (hworker : WorkerInv w) {input : ExecInput}
    {pc pc' : ExecPc} (hexec : w.exec = some pc)
    (hstep : execStep cfg w.current w.m input pc = some (pc', m)) :
    Disabling { w with exec := some pc', m := m } := by
  have heff := execStep_effect hstep
  have hrunning : m.async.state = .running := by
    rw [heff.sameRequest.async]
    exact (hworker.running pc hexec).1
  -- a world in which the worker has gone on is one with nothing pending
  have hoff : m.breakpointEnabled = false → pc'.beforeEnable = false →
      Disabling { w with exec := some pc', m := m } := fun hm hpc =>
    .off hm (by simp [EnableAhead, hrunning, hpc])
  cases h with
  | off hm hahead =>
    simp only [EnableAhead, hexec, Option.any_some, not_or, Bool.not_eq_true] at hahead
    obtain ⟨hpc', hm'⟩ := heff.not_beforeEnable hahead.2 hm
    exact hoff hm' hpc'
  | waiting hnone => simp [hexec] at hnone
  | taken hpc hid =>
    obtain rfl : pc = _ := Option.some.inj (hexec.symm.trans hpc)
    simp only [execStep, execBegin, hid, bne_self_eq_false, Bool.and_false, Bool.false_eq_true,
      if_false, Option.some.injEq, Prod.mk.injEq] at hstep
    obtain ⟨rfl, rfl⟩ := hstep
    exact .storing rfl
  | storing hpc =>
    obtain rfl : pc = _ := Option.some.inj (hexec.symm.trans hpc)
    simp only [execStep, Option.some.injEq, Prod.mk.injEq] at hstep
    obtain ⟨rfl, rfl⟩ := hstep
    refine hoff rfl ?_
    unfold runEachCpu
    cases input.transport <;> rfl

/-- Every action but an enable command keeps it. -/
lemma Disabling.step (h : Disabling w) (hworker : WorkerInv w) (hstep : WorldStep cfg w a w')
    (hother : ∀ id env, a ≠ .command (.enable id) env) : Disabling w' := by
  cases hstep with
  | @switch cpu task env =>
    obtain ⟨s, ring, heq, -⟩ := finishBefore_cases cfg w.m cpu env
    rw [heq]
    exact h.sameCourse (.of_eq rfl rfl rfl rfl)
  | finishAfter hin => exact h.sameCourse (by cases hin <;> exact .of_eq rfl rfl rfl rfl)
  | exception hdone =>
    obtain ⟨b, s, ring, enabled, heq⟩ := hdone.frame
    have hoff := hdone.stays_off
    rw [heq] at hoff ⊢
    exact h.sameCourse ⟨rfl, rfl, rfl, hoff⟩
  | @command command env m hcmd =>
    exact h.command hworker hcmd fun id hid => hother id env (by rw [hid])
  | workerStart hexec hpend =>
    cases h with
    | off hoff hahead =>
      refine .off hoff ?_
      simp only [EnableAhead, hpend, true_and, not_or] at hahead
      simp [EnableAhead, ExecPc.beforeEnable, hahead.1]
    | waiting _ _ hop hid =>
      rw [hop]
      exact .taken rfl hid
    | taken hpc => simp [hexec] at hpc
    | storing hpc => simp [hexec] at hpc
  | workerStep hexec hexecStep => exact h.workerStep hworker hexec hexecStep
  | workerFinish hexec =>
    cases h with
    | off hoff => exact .off hoff (by simp [EnableAhead])
    | waiting hpc | taken hpc | storing hpc => simp [hexec] at hpc
  | _ => exact h.sameCourse (.of_eq rfl rfl rfl rfl)

/-! ## The answer -/

lemma asyncSubmit_ok {r : AsyncRequest} {operation : AsyncOperation} {targetId : U32}
    {queue : Except Errno Unit} {id : U64}
    (h : (asyncSubmit r operation targetId queue).1 = .ok id) : asyncBusy r = false ∧
      (asyncSubmit r operation targetId queue).2.state = .pending ∧
      (asyncSubmit r operation targetId queue).2.operation = operation ∧
      (asyncSubmit r operation targetId queue).2.targetId = targetId := by
  unfold asyncSubmit at h ⊢
  split_ifs at h ⊢ with hnone hbusy
  cases queue with
  | ok _ => exact ⟨by simpa using hbusy, rfl, rfl, rfl⟩
  | error e => cases h

lemma disabling_of_answer (hworker : WorkerInv w) {id : U32} {env : ControlEnv}
    (hid : w.m.breakpoint.id = id)
    (hok : (controlDispatch w.m env (.disable id)).1.isOk = true) (hahead : ¬ EnableAhead w) :
    Disabling { w with m := (controlDispatch w.m env (.disable id)).2 } := by
  simp only [controlDispatch] at hok ⊢
  split_ifs at hok ⊢ with hoff
  · exact .off (by simpa using hoff) hahead
  · simp only [controlAsync, hworker.accepting, Bool.not_true, Bool.false_eq_true, if_false]
      at hok ⊢
    cases hsubmit : (asyncSubmit w.m.async .disable id env.queue).1 with
    | error e => simp [hsubmit, Except.map, Except.isOk, Except.toBool] at hok
    | ok n =>
      obtain ⟨hidle, hpend, hop, htarget⟩ := asyncSubmit_ok hsubmit
      exact .waiting (hworker.exec_none hidle) hpend hop (hid.trans htarget.symm)

/-- What happens after the answer: nobody enables the breakpoint. -/
def NoEnable (w : World) (a : Action) : Prop :=
  Reaching w a ∧ ∀ id env, a ≠ .command (.enable id) env

/-- A disable command that answers success takes effect if no ENABLE is ahead of it: in every
later state in which no request is pending or running, the switch is off and no CPU is active. -/
theorem disable_takes_effect (cfg : Config) (id : U32) (env : ControlEnv) {w w' : World}
    (hw : ((moduleSystem cfg).restrict Reaching).Reachable w)
    (hconf : w.m.breakpointConfigured = true ∧ w.m.breakpoint.id = id)
    (hok : (controlDispatch w.m env (.disable id)).1.isOk = true) (hahead : ¬ EnableAhead w)
    (hrun : ((moduleSystem cfg).restrict NoEnable).Steps
      { w with m := (controlDispatch w.m env (.disable id)).2 } w')
    (hidle : asyncBusy w'.m.async = false) :
    w'.m.breakpointEnabled = false ∧
      ∀ cpu < cfg.cpuCount, ¬ (w'.m.debug cpu).state.Active := by
  have hsettled := settled_of_reachable hw
  have hstart : Settled cfg { w with m := (controlDispatch w.m env (.disable id)).2 } :=
    hsettled.step (a := .command (.disable id) env) ⟨trivial, by simp⟩
      (.command (controlDispatch_effect ..))
  have hdisabling := disabling_of_answer hsettled.worker hconf.2 hok hahead
  obtain ⟨hsettled', hdisabling'⟩ : Settled cfg w' ∧ Disabling w' := by
    refine System.Steps.invariant (I := fun u => Settled cfg u ∧ Disabling u) ?_ hrun
      ⟨hstart, hdisabling⟩
    rintro u a u' ⟨hu, hd⟩ ⟨⟨hreach, hother⟩, hnext⟩
    have hstep := worldNext_step hnext
    exact ⟨hu.step hreach hstep, hd.step hu.worker hstep hother⟩
  have hexec := hsettled'.worker.exec_none hidle
  cases hdisabling' with
  | off hoff =>
    exact ⟨hoff, fun cpu hcpu =>
      hsettled'.truthful.inactive hoff (by simp [World.toRestore, hexec]) hcpu⟩
  | waiting _ hpend => simp [asyncBusy, hpend] at hidle
  | taken hpc => simp [hexec] at hpc
  | storing hpc => simp [hexec] at hpc

/-! ## Concrete runs -/

/-- The worker executes the pending request from start to end, both CPUs having their turn. -/
def workerRun : List Action :=
  [.workerStart] ++ workerSteps 2 ++ bothTurns ++ workerSteps 1 ++ [.workerFinish]

/-- The world in which the disable command is given has been answered. -/
def World.disabled (w : World) : World :=
  { w with m := (controlDispatch w.m {} (.disable 1)).2 }

lemma workerRun_noEnable : ∀ a ∈ workerRun, ∀ u, NoEnable u a := by
  simp [workerRun, bothTurns, switchTo, workerSteps, NoEnable, Reaching, Quiet]

lemma armingRun_reachable :
    ((moduleSystem tinyConfig).restrict Reaching).Reachable (worldAfter armingRun) :=
  worldAfter_reachable _
    (by simp [armingRun, bothTurns, switchTo, workerSteps, Reaching, Quiet]) (by decide +kernel)

/-- An armed CPU: the command submits a request, and when that is done the CPU is empty. -/
theorem disable_takes_effect_armed :
    ((worldAfter armingRun).m.debug 0).state = .armed ∧
    ((worldAfter armingRun).disabled.after workerRun).m.breakpointEnabled = false ∧
    ∀ cpu < 2, ¬ (((worldAfter armingRun).disabled.after workerRun).m.debug cpu).state.Active := by
  exact ⟨by decide +kernel, disable_takes_effect tinyConfig 1 {} armingRun_reachable
    (by decide +kernel) (by decide +kernel) (by decide +kernel)
    (runFrom_steps _ workerRun workerRun_noEnable (by decide +kernel)) (by decide +kernel)⟩

/-- Bind and configure the breakpoint, and submit an ENABLE the worker has not taken yet. -/
def enableSubmitted : List Action :=
  [.command bindSome {}, .finishAfter 0 {}, .command breakSome {}, .command (.enable 1) {}]

/-- The worker executes the pending DISABLE, but `run_each_cpu` has no memory for its work items. -/
def failedRun : List Action :=
  [.workerStart] ++ workerSteps 1 ++ [.workerStep { transport := .error ENOMEM }, .workerFinish]

/-- A disable command is answered with success, and the breakpoint ends up armed.  First, the
ENABLE before it is still pending: the switch is off, so the command answers 0 without a request,
and the ENABLE is executed after it.  Second, the DISABLE it submits turns the switch off and does
not reach the CPUs: CPU 0 stays armed. -/
theorem disable_answered_before_enable :
    (∃ w w' : World, ((moduleSystem tinyConfig).restrict Reaching).Reachable w ∧
      (w.m.breakpointConfigured = true ∧ w.m.breakpoint.id = 1) ∧
      (controlDispatch w.m {} (.disable 1)).1.isOk = true ∧
      ((moduleSystem tinyConfig).restrict NoEnable).Steps w.disabled w' ∧
      asyncBusy w'.m.async = false ∧ w'.m.breakpointEnabled = true ∧
      (w'.m.debug 0).state = .armed) ∧
    (∃ w w' : World, ((moduleSystem tinyConfig).restrict Quiet).Reachable w ∧
      (w.m.breakpointConfigured = true ∧ w.m.breakpoint.id = 1) ∧
      (controlDispatch w.m {} (.disable 1)).1.isOk = true ∧
      ((moduleSystem tinyConfig).restrict Quiet).Steps w.disabled w' ∧
      asyncBusy w'.m.async = false ∧ (w'.m.debug 0).state = .armed) := by
  refine ⟨⟨worldAfter enableSubmitted, (worldAfter enableSubmitted).disabled.after workerRun,
      worldAfter_reachable _ (by simp [enableSubmitted, bindSome, breakSome, Reaching, Quiet])
        (by decide +kernel), by decide +kernel, by decide +kernel,
      runFrom_steps _ workerRun workerRun_noEnable (by decide +kernel), by decide +kernel,
      by decide +kernel, by decide +kernel⟩,
    ⟨worldAfter armingRun, (worldAfter armingRun).disabled.after failedRun,
      worldAfter_reachable _ armingRun_quiet (by decide +kernel), by decide +kernel,
      by decide +kernel,
      runFrom_steps _ failedRun (by simp [failedRun, workerSteps, Quiet]) (by decide +kernel),
      by decide +kernel, by decide +kernel⟩⟩

end Spz
