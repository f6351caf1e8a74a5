import Stackplz.Module.System

/-!
# CLEAR as a session boundary

CLEAR tears a session down step by step while handlers keep running.  `Cleared` says what it has
achieved by the time it stands at each step, and that the handlers cannot undo it, with one
exception: between the clearing of the maps store and the clearing of the binding, the handler after
a switch still sees the old binding and captures the task again
(`clear_returns_with_captured_task`).  In runs without such a capture a CLEAR that returns 0 leaves
an empty session (`clear_leaves_empty_session`).
-/

namespace Spz

open Fallible Errno Transition

/-- An empty session: what a new client finds after CLEAR. -/
structure SessionEmpty (cfg : Config) (m : ModuleState) : Prop where
  binding : m.binding.state = .empty
  maps : m.maps.Vacant
  configured : m.breakpointConfigured = false
  enabled : m.breakpointEnabled = false
  debug : AllDebugEmpty cfg m
  ring : m.ring = ringInit

/-- The condition: between the clearing of the maps store and the clearing of the binding no
handler captures a task. -/
def NoCaptureInClear (w : World) : Action → Prop
  | .finishAfter cpu env => w.exec = some .clearBinding → ¬ WouldCapture w.m (w.current cpu) env
  | _ => True

/-! ## What CLEAR has achieved -/

def clearStage : ExecPc → ℕ
  | .disableCpus true _ _ => 1
  | .clearWait => 1
  | .clearCheck => 1
  | .clearMaps => 2
  | .clearBinding => 3
  | .clearBreakpoint => 4
  | .clearRing => 5
  | _ => 0

/-- What CLEAR has achieved by a stage. -/
structure Cleared (cfg : Config) (m : ModuleState) (stage : ℕ) : Prop where
  enabled : 1 ≤ stage → m.breakpointEnabled = false
  debug : 2 ≤ stage → AllDebugEmpty cfg m
  maps : 3 ≤ stage → m.maps.Vacant
  binding : 4 ≤ stage → m.binding.state = .empty
  configured : 5 ≤ stage → m.breakpointConfigured = false

variable {cfg : Config} {w w' : World} {a : Action} {m m' : ModuleState} {stage : ℕ}

lemma cleared_zero (cfg : Config) (m : ModuleState) : Cleared cfg m 0 :=
  ⟨by simp, by simp, by simp, by simp, by simp⟩

lemma Cleared.of_eq (h : Cleared cfg m stage)
    (henabled : m'.breakpointEnabled = m.breakpointEnabled) (hdebug : m'.debug = m.debug)
    (hmaps : m'.maps = m.maps) (hbinding : m'.binding = m.binding)
    (hconf : m'.breakpointConfigured = m.breakpointConfigured) : Cleared cfg m' stage := by
  refine ⟨fun hs => ?_, fun hs => ?_, fun hs => ?_, fun hs => ?_, fun hs => ?_⟩
  · rw [henabled]
    exact h.enabled hs
  · unfold AllDebugEmpty
    rw [hdebug]
    exact h.debug hs
  · rw [hmaps]
    exact h.maps hs
  · rw [hbinding]
    exact h.binding hs
  · rw [hconf]
    exact h.configured hs

variable {cpu : ℕ} {task : KernelTask} {env : HookEnv}

lemma AllDebugEmpty.restore (h : AllDebugEmpty cfg m) (hcpu : cpu < cfg.cpuCount) (φ : Oracle Errno)
    : AllDebugEmpty cfg (m.withCpu cpu ((debugRestoreCpu cfg.ops).exec φ (m.onCpu cpu)).2) := by
  rw [exec_debugRestoreCpu_empty cfg.ops φ (h cpu hcpu), ModuleState.withCpu_onCpu]
  exact h

section

variable (h : Cleared cfg m stage)
include h

lemma Cleared.finishBefore (cpu : ℕ) (env : HookEnv) :
    Cleared cfg (finishBefore cfg m cpu env) stage := by
  obtain ⟨s, ring, heq, ⟨-, hs⟩ | ⟨hcpu, hs⟩⟩ := finishBefore_cases cfg m cpu env
  · rw [heq, hs, ModuleState.withCpu_onCpu]
    exact h.of_eq rfl rfl rfl rfl rfl
  · rw [heq, hs]
    exact ⟨h.enabled, fun hs => (h.debug hs).restore hcpu env.φ, h.maps, h.binding, h.configured⟩

lemma Cleared.withBinding {b : Binding}
    (hb : BindingEffect m.binding task b) : Cleared cfg { m with binding := b } stage := by
  refine ⟨h.enabled, h.debug, h.maps, fun hs => ?_, h.configured⟩
  show b.state = .empty
  rw [hb.of_empty (h.binding hs)]
  exact h.binding hs

/-- The handler after a switch undoes nothing, unless it captures a task while the maps store is
cleared and the binding is not. -/
lemma Cleared.switchedIn (hpos : 1 ≤ stage) (hin : SwitchedIn cfg m cpu task env m')
    (hcap : stage = 3 → ¬ WouldCapture m task env) : Cleared cfg m' stage := by
  obtain ⟨b, b', maps, ring, hb, hb', hmaps, rfl⟩ := hin.disabled (h.enabled hpos)
  refine ⟨h.enabled, h.debug, fun hs => ?_, fun hs => ?_, h.configured⟩
  · cases hmaps with
    | same => exact h.maps hs
    | captured hwould hobs =>
      -- at stage 3 the condition forbids it, later there is no binding to observe
      by_cases hthree : stage = 3
      · exact absurd hwould (hcap hthree)
      · exact absurd (h.binding (by omega)) (bindingObserveCurrent_state hobs)
  · have hempty := h.binding hs
    obtain rfl := hb.of_empty hempty
    show b'.state = .empty
    rw [hb'.of_empty hempty]
    exact hempty

lemma Cleared.exception (hpos : 1 ≤ stage)
    {kind : ExceptionKind} {fargs : HookFargs} {out : HookFargs × ModuleState}
    (hdone : ExceptionDone cfg m cpu task kind fargs env out) : Cleared cfg out.2 stage := by
  cases hdone with
  | ignored hb => exact h.withBinding hb
  | handled hen => simp [h.enabled hpos] at hen

end

variable {current : ℕ → KernelTask} {input : ExecInput} {pc pc' : ExecPc}

/-- A step of the worker takes CLEAR to the next stage. -/
lemma Cleared.execEffect (h : Cleared cfg m (clearStage pc)) (hsound : m.maps.Sound)
    (heff : ExecEffect cfg current m input pc pc' m') : Cleared cfg m' (clearStage pc') := by
  cases heff with
  | disableStored =>
    rename_i clear
    have hstage : clearStage (runEachCpu cfg input.transport (.disableCpus clear · (.ok ()))
        fun e => .finished (disableOperation clear) (.error e)) ≤ 1 := by
      unfold runEachCpu
      cases input.transport <;> cases clear <;> simp [clearStage]
    exact ⟨fun _ => rfl, by omega, by omega, by omega, by omega⟩
  | @disableTurn clear left status hmem =>
    cases clear with
    | false => exact cleared_zero ..
    | true =>
      refine ⟨h.enabled, ?_, ?_, ?_, ?_⟩ <;> simp [clearStage]
  | @disableDone clear status =>
    cases clear with
    | false => cases status <;> exact cleared_zero ..
    | true =>
      cases status with
      | ok _ => exact h
      | error e => exact cleared_zero ..
  | clearWaited => exact h
  | clearChecked hempty =>
    refine ⟨fun _ => h.enabled le_rfl, fun _ => hempty, ?_, ?_, ?_⟩ <;> simp [clearStage]
  | mapsCleared =>
    cases hclear : (mapsClear m.maps input.mapsBusy).1 with
    | error e => exact cleared_zero ..
    | ok _ =>
      refine ⟨fun _ => h.enabled (by simp [clearStage]), fun _ => h.debug le_rfl,
        fun _ => mapsClear_vacant hsound hclear, ?_, ?_⟩ <;> simp [clearStage, clearMapsResult]
  | bindingCleared =>
    exact ⟨fun _ => h.enabled (by simp [clearStage]), fun _ => h.debug (by simp [clearStage]),
      fun _ => h.maps le_rfl, fun _ => rfl, by simp [clearStage]⟩
  | breakpointCleared =>
    exact ⟨fun _ => h.enabled (by simp [clearStage]), fun _ => h.debug (by simp [clearStage]),
      fun _ => h.maps (by simp [clearStage]), fun _ => h.binding le_rfl, fun _ => rfl⟩
  | auditStarted | enableStored | enableUndone =>
    unfold runEachCpu
    cases input.transport <;> exact cleared_zero ..
  | @enableDone status => cases status <;> exact cleared_zero ..
  | @disableAccepted targetId clear => exact cleared_zero ..
  | _ => exact cleared_zero ..

/-! ## Whole runs -/

/-- The invariant: CLEAR has achieved what it has come to. -/
structure ClearInv (cfg : Config) (w : World) : Prop where
  worker : WorkerInv w
  sound : w.m.maps.Sound
  progress : ∀ pc, w.exec = some pc → Cleared cfg w.m (clearStage pc)

lemma ClearInv.of_idle (hworker : WorkerInv w) (hsound : w.m.maps.Sound)
    (hexec : ∀ pc, w.exec = some pc → clearStage pc = 0) : ClearInv cfg w :=
  ⟨hworker, hsound, fun pc hpc => hexec pc hpc ▸ cleared_zero ..⟩

lemma MapsAfterSwitch.sound {maps : Maps}
    (h : MapsAfterSwitch m task env maps) (hsound : m.maps.Sound) : maps.Sound := by
  cases h with
  | same => exact hsound
  | captured => simp [Maps.Sound]

lemma ExecEffect.sound
    (h : ExecEffect cfg current m input pc pc' m') (hsound : m.maps.Sound) : m'.maps.Sound := by
  cases h with
  | rendered hmaps =>
    subst hmaps
    exact mapsSnapshot_sound hsound _ _ _ _
  | mapsCleared => exact mapsClear_sound hsound _
  | enableTurn =>
    unfold enableCpuCallback
    rcases armLiveCurrent_cases cfg m input.cpu (current input.cpu) input.φ with
      ⟨b, -, h⟩ | ⟨-, -, target, -, h⟩
    all_goals
      rw [h]
      exact hsound
  | _ => exact hsound

lemma clearStage_eq_three (h : clearStage pc = 3) : pc = .clearBinding := by
  unfold clearStage at h
  split at h <;> simp_all

/-- Every action under the condition keeps the invariant. -/
lemma ClearInv.step (h : ClearInv cfg w) (hcond : NoCaptureInClear w a)
    (hstep : WorldStep cfg w a w') : ClearInv cfg w' := by
  have hworker := hstep.workerInv h.worker
  cases hstep with
  | @switch cpu task env =>
    obtain ⟨s, ring, heq, -⟩ := finishBefore_cases cfg w.m cpu env
    refine ⟨hworker, ?_, fun pc hpc => (h.progress pc hpc).finishBefore _ _⟩
    dsimp only
    rw [heq]
    exact h.sound
  | touch => exact ⟨hworker, h.sound, h.progress⟩
  | finishAfter hin =>
    refine ⟨hworker, hin.maps.sound h.sound, fun pc hpc => ?_⟩
    rcases Nat.eq_zero_or_pos (clearStage pc) with hzero | hpos
    · exact hzero ▸ cleared_zero ..
    · refine (h.progress pc hpc).switchedIn hpos hin fun hthree => hcond ?_
      rw [← clearStage_eq_three hthree]
      exact hpc
  | exitBefore hb => exact ⟨hworker, h.sound, fun pc hpc => (h.progress pc hpc).withBinding hb⟩
  | exception hdone =>
    refine ⟨hworker, ?_, fun pc hpc => ?_⟩
    · obtain ⟨b, s, ring, enabled, heq⟩ := hdone.frame
      dsimp only
      rw [heq]
      exact h.sound
    · rcases Nat.eq_zero_or_pos (clearStage pc) with hzero | hpos
      · exact hzero ▸ cleared_zero ..
      · exact (h.progress pc hpc).exception hpos hdone
  | command hcmd =>
    refine ⟨hworker, ?_, fun pc hpc => ?_⟩
    · cases hcmd <;> exact h.sound
    · obtain ⟨ring, rfl⟩ := hcmd.busy (h.worker.busy hpc)
      exact (h.progress pc hpc).of_eq rfl rfl rfl rfl rfl
  | workerStart => exact .of_idle hworker h.sound fun pc hpc => by cases hpc; rfl
  | workerStep hexec hexecStep =>
    have heff := execStep_effect hexecStep
    refine ⟨hworker, heff.sound h.sound, fun pc hpc => ?_⟩
    cases hpc
    exact (h.progress _ hexec).execEffect h.sound heff
  | workerFinish => exact .of_idle hworker h.sound fun pc hpc => by simp at hpc
  | foreign =>
    exact ⟨hworker, h.sound, fun pc hpc => (h.progress pc hpc).of_eq rfl rfl rfl rfl rfl⟩

lemma clearInv_of_reachable (hw : ((moduleSystem cfg).restrict NoCaptureInClear).Reachable w) :
    ClearInv cfg w := by
  refine module_invariant (fun w hinit => ?_) (fun w a w' hI hcond hstep => hI.step hcond hstep) hw
  refine .of_idle hinit.workerInv ?_ fun pc hpc => ?_
  · obtain ⟨⟨backend, hm⟩, -⟩ := hinit
    rw [hm]
    exact mapsInit_sound backend
  · rw [hinit.2.1] at hpc
    cases hpc

/-- A CLEAR that returns 0 leaves an empty session, in every run in which no task is captured
between the clearing of the maps store and the clearing of the binding; and once the worker has
stored the result, no bind is refused as busy. -/
theorem clear_leaves_empty_session (cfg : Config) (input : ExecInput) {w w' : World}
    (hw : ((moduleSystem cfg).restrict NoCaptureInClear).Reachable w)
    (hstep : worldNext cfg w (.workerStep input) = some w')
    (hret : w'.exec = some (.finished .clear (.ok ()))) :
    SessionEmpty cfg w'.m ∧
      ∃ w'', worldNext cfg w' .workerFinish = some w'' ∧
        ∀ command, (controlBind w''.m command).1 ≠ .error EBUSY := by
  have hinv := clearInv_of_reachable hw
  have hworker := (worldNext_step hstep).workerInv hinv.worker
  have hempty : SessionEmpty cfg w'.m := by
    cases worldNext_step hstep with
    | workerStep hexec hexecStep =>
      have heff := execStep_effect hexecStep
      simp only [Option.some.injEq] at hret
      obtain ⟨rfl, rfl⟩ := heff.clear_returns hret
      have hdone := hinv.progress _ hexec
      exact ⟨hdone.binding (by simp [clearStage]), hdone.maps (by simp [clearStage]),
        hdone.configured le_rfl, hdone.enabled (by simp [clearStage]),
        hdone.debug (by simp [clearStage]), rfl⟩
  refine ⟨hempty, ?_⟩
  simp only [worldNext, hret, Option.some.injEq, exists_eq_left']
  intro command
  refine controlBind_ready ?_ rfl ?_ ?_ command
  · exact hworker.accepting
  · exact hempty.maps.hasTask
  · exact hempty.configured

/-! ## Two concrete runs -/

/-- A CLEAR up to its last step, after the given actions. -/
def clearRun (before : List Action) : List Action :=
  before ++ [.command .clear {}, .workerStart] ++ workerSteps 2 ++
    [.workerStep { cpu := 1 }, .workerStep { cpu := 0 }] ++ workerSteps 6

/-- A session that only bound: CLEAR returns 0 and the session is empty. -/
theorem clear_leaves_empty_session_bound : ∃ w' : World,
    w'.exec = some (.finished .clear (.ok ())) ∧ SessionEmpty tinyConfig w'.m := by
  have hreach : ((moduleSystem tinyConfig).restrict NoCaptureInClear).Reachable
      (worldAfter (clearRun [.command bindSome {}])) :=
    worldAfter_reachable _ (by simp [clearRun, workerSteps, NoCaptureInClear]) rfl
  exact ⟨_, rfl, (clear_leaves_empty_session tinyConfig {} hreach rfl rfl).1⟩

/-- CLEAR returns 0 with a task captured.  The task is switched in after the maps store was
cleared and before the binding is; the next bind is refused. -/
theorem clear_returns_with_captured_task : ∃ w w' w'' : World,
    (moduleSystem tinyConfig).Reachable w ∧
    worldNext tinyConfig w (.workerStep {}) = some w' ∧
    w'.exec = some (.finished .clear (.ok ())) ∧ w'.m.maps.task = some someTask.address ∧
    worldNext tinyConfig w' .workerFinish = some w'' ∧
    ∀ command, (controlBind w''.m command).1 = .error EBUSY :=
  ⟨_, _, _, run_reachable tinyWorld_init
      ([.command bindSome {}, .finishAfter 0 {}, .command .clear {}, .workerStart] ++
        workerSteps 2 ++ bothTurns ++ workerSteps 4 ++ switchTo (workerTask 0) ++
        switchTo someTask ++ workerSteps 2) rfl,
    rfl, rfl, rfl, rfl, fun _ => rfl⟩

end Spz
