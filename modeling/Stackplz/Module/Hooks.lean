import Stackplz.Module.State

/-!
# The hook handlers

The handlers of `runtime.c` for `finish_task_switch` (before and after), `do_exit` and the three
debug exceptions, each as one step of the module on the CPU it runs on, with the task that is
current there.  A CPU number outside the configuration stands for `current_cpu` failing.

Register operations fail with negative codes, as those of `arm64/debug_regs.c` do, so a failed
handler of the controller cannot be mistaken for one that consumed its exception.
-/

namespace Spz

open Fallible Errno

/-- What a handler gets from its surroundings: the time, the answers of the register operations,
and how the maps store and its backend react. -/
structure HookEnv where
  now : U64 := 0
  φ : Oracle Errno := .succeed
  mapsBusy : Bool := false
  retain : Except Errno Unit := .ok ()

variable (cfg : Config)

/-! ## Parts -/

/-- `spz_module_publish_integrity`. -/
def publishIntegrity (m : ModuleState) (cpu : ℕ) (status : Errno) (flags : U16) (now : U64) :
    ModuleState :=
  if cpu ≥ cfg.cpuCount then m
  else { m with
    ring := (ringPush m.ring cpu
      { type := .integrity
        flags := flags
        timestamp := now
        value := BitVec.ofInt 64 status.code }).2 }

/-- `spz_module_current_target`: the target if the current task is the bound one. -/
def currentTarget (m : ModuleState) (task : KernelTask) :
    Except Errno (Option DebugTarget) × ModuleState :=
  if m.binding.state ≠ .bound then (.ok none, m)
  else
    let out := bindingMatchesCurrent m.binding task m.binding.generation
    (out.1.map fun identity => identity.map fun i =>
        { bindingId := m.binding.request.bindingId, identity := i },
      { m with binding := out.2 })

/-- `spz_module_arm_live_current`. -/
def armLiveCurrent (m : ModuleState) (cpu : ℕ) (task : KernelTask) (φ : Oracle Errno) :
    Except Errno Unit × ModuleState :=
  if !m.breakpointEnabled || !m.breakpointConfigured then (.ok (), m)
  else
    match currentTarget m task with
    | (.error e, m') => (.error e, m')
    | (.ok none, m') => (.ok (), m')
    | (.ok (some target), m') =>
      m'.runDebug cpu (debugArmCurrent cfg.ops m'.breakpoint target) φ

/-! ## Context switches and exit -/

/-- `spz_module_finish_before`. -/
def finishBefore (m : ModuleState) (cpu : ℕ) (env : HookEnv) : ModuleState :=
  if cpu ≥ cfg.cpuCount then m
  else
    match m.runDebug cpu (debugRestoreCpu cfg.ops) env.φ with
    | (.ok (), m') => m'
    | (.error e, m') => publishIntegrity cfg m' cpu e flagInterference env.now

section

variable (m : ModuleState) (cpu : ℕ) (task : KernelTask)

/-- `spz_module_finish_after`, the part that captures a task that was just observed. -/
def captureObserved (identity : TaskIdentity) (env : HookEnv) : ModuleState :=
  match mapsCaptureTask m.maps task.address identity.generation env.mapsBusy env.retain with
  | (.ok (), maps) => { m with maps := maps }
  | (.error e, maps) =>
    if e = EOPNOTSUPP ∨ e = EBUSY then { m with maps := maps }
    else publishIntegrity cfg { m with maps := maps } cpu e 0 env.now

/-- `spz_module_finish_after`, the part that arms the CPU for its new task. -/
def armAfterSwitch (env : HookEnv) : ModuleState :=
  match armLiveCurrent cfg m cpu task env.φ with
  | (.ok (), m') => m'
  | (.error e, m') =>
    if e = EBUSY then m' else publishIntegrity cfg m' cpu e flagInterference env.now

/-- `spz_module_finish_after`. -/
def finishAfter (env : HookEnv) : ModuleState :=
  if cpu ≥ cfg.cpuCount then m
  else
    let observed := bindingObserveCurrent m.binding task
    let m' := { m with binding := observed.2 }
    match observed.1 with
    | .error e => publishIntegrity cfg m' cpu e 0 env.now
    | .ok none => armAfterSwitch cfg m' cpu task env
    | .ok (some identity) =>
      if mapsHasTask m'.maps then armAfterSwitch cfg m' cpu task env
      else armAfterSwitch cfg (captureObserved cfg m' cpu task identity env) cpu task env

end

/-- `spz_module_exit_before`. -/
def exitBefore (m : ModuleState) (task : KernelTask) : ModuleState :=
  { m with binding := (bindingMarkExit m.binding task).2 }

/-! ## Exceptions -/

/-- The saved user registers the hooked kernel function was given a pointer to. -/
structure PtRegs where
  x : Vector U64 31 := Vector.replicate 31 0
  sp : U64 := 0
  pc : U64 := 0
  pstate : U64 := 0
deriving DecidableEq

/-- `struct spz_hook_fargs` of an exception hook; `regs` is `none` for a null pointer. -/
structure HookFargs where
  far : U64 := 0
  esr : U64 := 0
  regs : Option PtRegs := none
  ret : U64 := 0
  skipOrigin : Bool := false
deriving DecidableEq

def frameFromRegs (regs : PtRegs) (far esr : U64) : DebugFrame :=
  { x := regs.x
    sp := regs.sp
    pc := regs.pc
    pstate := regs.pstate
    esr := esr
    far := far
    kernelMode := regs.pstate &&& 0xf != 0 }

def frameWriteback (fargs : HookFargs) (frame : DebugFrame) : HookFargs :=
  { fargs with regs := fargs.regs.map fun r => { r with pstate := frame.pstate } }

def handleException (kind : ExceptionKind) (target : DebugTarget) (frame : DebugFrame) :
    Ctl (DebugResult × DebugFrame × Event) :=
  match kind with
  | .breakpoint => debugHandleBreak target frame {}
  | .watchpoint => debugHandleWatch target frame {}
  | .singleStep => debugHandleStep target frame >>= fun out => pure (out.1, out.2, {})

section

variable (m : ModuleState) (cpu : ℕ)

/-- `spz_module_exception_before` after a hit was consumed: its event is pushed, and a request for
one hit is switched off. -/
def recordHit (event : Event) (now : U64) : ModuleState :=
  { m with
    ring := (ringPush m.ring cpu { event with timestamp := now }).2
    breakpointEnabled := if m.breakpoint.mode = .once then false else m.breakpointEnabled }

/-- `spz_module_exception_before` after the controller has answered. -/
def concludeException (kind : ExceptionKind) (fargs : HookFargs) (now : U64) :
    Except Errno (DebugResult × DebugFrame × Event) → HookFargs × ModuleState
  | .error e => (fargs, publishIntegrity cfg m cpu e flagInterference now)
  | .ok (.notOwned, _, _) => (fargs, m)
  | .ok (.forwardOriginal, frame, _) => (frameWriteback fargs frame, m)
  | .ok (.consumed, frame, event) =>
    ({ frameWriteback fargs frame with skipOrigin := true, ret := 0 },
      if kind = .singleStep then m else recordHit m cpu event now)

/-- `spz_module_exception_before` for an exception of the bound task. -/
def deliverException (kind : ExceptionKind) (target : DebugTarget) (regs : PtRegs)
    (fargs : HookFargs) (env : HookEnv) : HookFargs × ModuleState :=
  let out := m.runDebug cpu
    (handleException kind target (frameFromRegs regs fargs.far fargs.esr)) env.φ
  concludeException cfg out.2 cpu kind fargs env.now out.1

/-- `spz_module_exception_before` between entering and leaving. -/
def exceptionInside (task : KernelTask) (kind : ExceptionKind) (fargs : HookFargs) (env : HookEnv) :
    HookFargs × ModuleState :=
  if cpu ≥ cfg.cpuCount then (fargs, m)
  else
    match currentTarget m task with
    | (.error _, m') => (fargs, m')
    | (.ok none, m') => (fargs, m')
    | (.ok (some target), m') =>
      match fargs.regs with
      | none => (fargs, m')
      | some regs => deliverException cfg m' cpu kind target regs fargs env

/-- `spz_module_exception_before`. -/
def exceptionBefore (task : KernelTask) (kind : ExceptionKind) (fargs : HookFargs) (env : HookEnv) :
    HookFargs × ModuleState :=
  if !m.breakpointEnabled then (fargs, m) else exceptionInside cfg m cpu task kind fargs env

end

/-! ## What they do -/

variable {m : ModuleState} {cpu : ℕ} {task : KernelTask} {env : HookEnv}

lemma publishIntegrity_eq (m : ModuleState) (cpu : ℕ) (status : Errno) (flags : U16) (now : U64) :
    ∃ ring, publishIntegrity cfg m cpu status flags now = { m with ring := ring } := by
  unfold publishIntegrity
  split_ifs
  · exact ⟨m.ring, rfl⟩
  · exact ⟨_, rfl⟩

lemma currentTarget_eq (m : ModuleState) (task : KernelTask) :
    ∃ b, BindingEffect m.binding task b ∧ (currentTarget m task).2 = { m with binding := b } := by
  unfold currentTarget
  split_ifs
  · exact ⟨m.binding, .same, rfl⟩
  · exact ⟨_, bindingMatchesCurrent_effect _, rfl⟩

lemma currentTarget_some {target : DebugTarget} (h : (currentTarget m task).1 = .ok (some target)) :
    (currentTarget m task).2 = m ∧ m.binding.state = .bound ∧
      target.identity.strong = task.strong ∧ m.binding.identity.strong = task.strong := by
  unfold currentTarget at h ⊢
  split_ifs at h ⊢ with hbound
  · cases h
  · cases hmatch : (bindingMatchesCurrent m.binding task m.binding.generation).1 with
    | error e => simp [hmatch, Except.map] at h
    | ok found =>
      cases found with
      | none => simp [hmatch, Except.map] at h
      | some identity =>
        obtain ⟨hstate, hsame, hid, hb, -⟩ := bindingMatchesCurrent_some hmatch
        simp only [hmatch, Except.map, Option.map, Except.ok.injEq, Option.some.injEq] at h
        subst h
        refine ⟨?_, hstate, hid, hb⟩
        show { m with binding := (bindingMatchesCurrent m.binding task _).2 } = m
        rw [hsame]

lemma armLiveCurrent_disabled (h : m.breakpointEnabled = false) (cpu : ℕ) (task : KernelTask)
    (φ : Oracle Errno) : armLiveCurrent cfg m cpu task φ = (.ok (), m) := by
  simp [armLiveCurrent, h]

section

variable (m)

/-- Arming the current task: the binding may be found to have ended; or the task is the bound
one and the controller is asked to arm the CPU. -/
lemma armLiveCurrent_cases (cpu : ℕ) (task : KernelTask) (φ : Oracle Errno) :
    (∃ b, BindingEffect m.binding task b ∧
      (armLiveCurrent cfg m cpu task φ).2 = { m with binding := b }) ∨
    m.breakpointEnabled = true ∧ m.breakpointConfigured = true ∧ ∃ target,
      (currentTarget m task).1 = .ok (some target) ∧
      armLiveCurrent cfg m cpu task φ =
        m.runDebug cpu (debugArmCurrent cfg.ops m.breakpoint target) φ := by
  unfold armLiveCurrent
  split_ifs with hoff
  · exact .inl ⟨m.binding, .same, rfl⟩
  · obtain ⟨b, heff, hb⟩ := currentTarget_eq m task
    cases hct : currentTarget m task with
    | mk found m' =>
      rw [hct] at hb
      cases found with
      | error e => exact .inl ⟨b, heff, hb⟩
      | ok found =>
        cases found with
        | none => exact .inl ⟨b, heff, hb⟩
        | some target =>
          have hsame : m' = m := by
            have hfound : (currentTarget m task).1 = .ok (some target) := by rw [hct]
            have h := (currentTarget_some hfound).1
            rwa [hct] at h
          simp only [Bool.or_eq_true, Bool.not_eq_true', not_or, Bool.not_eq_false] at hoff
          refine .inr ⟨hoff.1, hoff.2, target, rfl, ?_⟩
          rw [hsame]

/-- `spz_module_finish_before`: the CPU is restored, and the ring may have an event more. -/
lemma finishBefore_cases (cpu : ℕ) (env : HookEnv) :
    ∃ s ring, finishBefore cfg m cpu env = { m.withCpu cpu s with ring := ring } ∧
      (cfg.cpuCount ≤ cpu ∧ s = m.onCpu cpu ∨ cpu < cfg.cpuCount ∧
        s = ((debugRestoreCpu cfg.ops).exec env.φ (m.onCpu cpu)).2) := by
  unfold finishBefore
  split_ifs with hcpu
  · exact ⟨m.onCpu cpu, m.ring, by rw [ModuleState.withCpu_onCpu], .inl ⟨hcpu, rfl⟩⟩
  · cases hrun : m.runDebug cpu (debugRestoreCpu cfg.ops) env.φ with
    | mk r m' =>
      have hm' : m' = m.withCpu cpu ((debugRestoreCpu cfg.ops).exec env.φ (m.onCpu cpu)).2 :=
        (congrArg Prod.snd hrun).symm
      subst hm'
      cases r with
      | ok _ => exact ⟨_, m.ring, rfl, .inr ⟨by omega, rfl⟩⟩
      | error e =>
        obtain ⟨ring, h⟩ := publishIntegrity_eq cfg
          (m.withCpu cpu ((debugRestoreCpu cfg.ops).exec env.φ (m.onCpu cpu)).2) cpu e
          flagInterference env.now
        exact ⟨_, ring, h, .inr ⟨by omega, rfl⟩⟩

lemma captureObserved_eq (cpu : ℕ) (task : KernelTask) (identity : TaskIdentity)
    (env : HookEnv) : ∃ ring, captureObserved cfg m cpu task identity env =
      { m with
        maps := (mapsCaptureTask m.maps task.address identity.generation env.mapsBusy env.retain).2
        ring := ring } := by
  unfold captureObserved
  split
  next hcap => exact ⟨m.ring, by rw [hcap]⟩
  next e maps hcap =>
    rw [hcap]
    split_ifs
    · exact ⟨m.ring, rfl⟩
    · exact publishIntegrity_eq cfg { m with maps := maps } ..

lemma armAfterSwitch_eq (cpu : ℕ) (task : KernelTask) (env : HookEnv) :
    ∃ ring, armAfterSwitch cfg m cpu task env =
      { (armLiveCurrent cfg m cpu task env.φ).2 with ring := ring } := by
  unfold armAfterSwitch
  split
  next m' harm => exact ⟨m'.ring, by rw [harm]⟩
  next e m' harm =>
    rw [harm]
    split_ifs
    · exact ⟨m'.ring, rfl⟩
    · exact publishIntegrity_eq ..

end

/-- A handler after a switch takes a reference to the task: the binding selects it, the store has
room for it, and nothing is in the way. -/
structure WouldCapture (m : ModuleState) (task : KernelTask) (env : HookEnv) : Prop where
  selected : ∃ identity, (bindingObserveCurrent m.binding task).1 = .ok (some identity)
  supported : mapsSupported m.maps = true
  free : m.maps.task = none
  idle : env.mapsBusy = false
  retained : env.retain = .ok ()

/-- The maps store after the handler: as it was, or with the task just observed. -/
inductive MapsAfterSwitch (m : ModuleState) (task : KernelTask) (env : HookEnv) : Maps → Prop
  | same : MapsAfterSwitch m task env m.maps
  | captured {identity : TaskIdentity} : WouldCapture m task env →
      (bindingObserveCurrent m.binding task).1 = .ok (some identity) →
      MapsAfterSwitch m task env { m.maps with
        task := some task.address, taskGeneration := identity.generation, state := .taskCaptured }

/-- Everything the handler after a switch can do: the binding is taken up or found to have
ended, the task is captured, and the CPU is armed for the task if the task is the bound one. -/
inductive SwitchedIn (cfg : Config) (m : ModuleState) (cpu : ℕ) (task : KernelTask)
    (env : HookEnv) : ModuleState → Prop
  | unarmed {b b' : Binding} {maps : Maps} (ring : Ring) : BindingEffect m.binding task b →
      BindingEffect b task b' → MapsAfterSwitch m task env maps →
      SwitchedIn cfg m cpu task env { m with binding := b', maps := maps, ring := ring }
  | armed {b : Binding} {maps : Maps} {target : DebugTarget} (ring : Ring) :
      m.breakpointEnabled = true → m.breakpointConfigured = true →
      BindingEffect m.binding task b → b.state = .bound → b.identity.strong = task.strong →
      target.identity.strong = task.strong → MapsAfterSwitch m task env maps →
      SwitchedIn cfg m cpu task env
        { m.withCpu cpu ((debugArmCurrent cfg.ops m.breakpoint target).exec env.φ (m.onCpu cpu)).2
          with binding := b, maps := maps, ring := ring }

lemma mapsAfterSwitch_capture {identity : TaskIdentity}
    (hobs : (bindingObserveCurrent m.binding task).1 = .ok (some identity)) :
    MapsAfterSwitch m task env (mapsCaptureTask m.maps task.address identity.generation
      env.mapsBusy env.retain).2 := by
  unfold mapsCaptureTask
  split_ifs with hgen hsup hbusy
  · exact .same
  · exact .same
  · exact .same
  · cases htask : m.maps.task with
    | some held => exact .same
    | none =>
      cases hret : env.retain with
      | error e => exact .same
      | ok _ =>
        exact .captured ⟨⟨identity, hobs⟩, by simpa using hsup, htask, by simpa using hbusy, hret⟩
          hobs

lemma armAfterSwitch_switchedIn {b : Binding} {maps : Maps} (ring : Ring)
    (hb : BindingEffect m.binding task b) (hmaps : MapsAfterSwitch m task env maps) :
    SwitchedIn cfg m cpu task env
      (armAfterSwitch cfg { m with binding := b, maps := maps, ring := ring } cpu task env) := by
  obtain ⟨ring', h⟩ := armAfterSwitch_eq cfg
    { m with binding := b, maps := maps, ring := ring } cpu task env
  rw [h]
  rcases armLiveCurrent_cases cfg { m with binding := b, maps := maps, ring := ring }
    cpu task env.φ with ⟨b', hb', harm⟩ | ⟨hen, hconf, target, htarget, harm⟩
  · rw [harm]
    exact .unarmed ring' hb hb' hmaps
  · obtain ⟨-, hbound, htid, hbid⟩ := currentTarget_some htarget
    rw [harm]
    exact .armed ring' hen hconf hb hbound hbid htid hmaps

/-- `spz_module_finish_after`. -/
lemma finishAfter_switchedIn (m : ModuleState) (cpu : ℕ) (task : KernelTask) (env : HookEnv) :
    SwitchedIn cfg m cpu task env (finishAfter cfg m cpu task env) := by
  have hobs : BindingEffect m.binding task (bindingObserveCurrent m.binding task).2 :=
    bindingObserveCurrent_effect
  unfold finishAfter
  split_ifs
  · exact .unarmed m.ring .same .same .same
  · dsimp only
    split
    next e _ =>
      obtain ⟨ring, h⟩ := publishIntegrity_eq cfg
        { m with binding := (bindingObserveCurrent m.binding task).2 } cpu e 0 env.now
      rw [h]
      exact .unarmed ring hobs .same .same
    next _ => exact armAfterSwitch_switchedIn cfg m.ring hobs .same
    next identity hid =>
      split_ifs
      · exact armAfterSwitch_switchedIn cfg m.ring hobs .same
      · obtain ⟨ring, h⟩ := captureObserved_eq cfg
          { m with binding := (bindingObserveCurrent m.binding task).2 } cpu task identity env
        rw [h]
        exact armAfterSwitch_switchedIn cfg ring hobs (mapsAfterSwitch_capture hid)

variable {cfg}

lemma SwitchedIn.maps {m' : ModuleState} (h : SwitchedIn cfg m cpu task env m') :
    MapsAfterSwitch m task env m'.maps := by
  cases h with
  | unarmed _ _ _ hmaps => exact hmaps
  | armed _ _ _ _ _ _ _ hmaps => exact hmaps

lemma SwitchedIn.disabled {m' : ModuleState} (h : SwitchedIn cfg m cpu task env m')
    (hoff : m.breakpointEnabled = false) : ∃ b b' maps ring, BindingEffect m.binding task b ∧
      BindingEffect b task b' ∧ MapsAfterSwitch m task env maps ∧
      m' = { m with binding := b', maps := maps, ring := ring } := by
  cases h with
  | unarmed ring hb hb' hmaps => exact ⟨_, _, _, ring, hb, hb', hmaps, rfl⟩
  | armed _ hen => simp [hoff] at hen

lemma exceptionBefore_disabled (h : m.breakpointEnabled = false) (cpu : ℕ) (task : KernelTask)
    (kind : ExceptionKind) (fargs : HookFargs) (env : HookEnv) :
    exceptionBefore cfg m cpu task kind fargs env = (fargs, m) := by
  simp [exceptionBefore, h]

/-- Everything an exception handler can do. -/
inductive ExceptionDone (cfg : Config) (m : ModuleState) (cpu : ℕ) (task : KernelTask)
    (kind : ExceptionKind) (fargs : HookFargs) (env : HookEnv) : HookFargs × ModuleState → Prop
  /-- It was not looked at, or not an exception of the bound task. -/
  | ignored {b : Binding} : BindingEffect m.binding task b →
      ExceptionDone cfg m cpu task kind fargs env (fargs, { m with binding := b })
  /-- The controller has answered. -/
  | handled {target : DebugTarget} {regs : PtRegs} : m.breakpointEnabled = true →
      cpu < cfg.cpuCount → (currentTarget m task).1 = .ok (some target) →
      fargs.regs = some regs →
      ExceptionDone cfg m cpu task kind fargs env
        (deliverException cfg m cpu kind target regs fargs env)

section

variable (m : ModuleState) (cpu : ℕ) (task : KernelTask) (kind : ExceptionKind) (fargs : HookFargs)
  (env : HookEnv)

variable (cfg) in
/-- Inside the handler: the exception is not one of the bound task, or the controller answers. -/
lemma exceptionInside_cases :
    (∃ b, BindingEffect m.binding task b ∧
      exceptionInside cfg m cpu task kind fargs env = (fargs, { m with binding := b })) ∨
    cpu < cfg.cpuCount ∧ ∃ target regs, (currentTarget m task).1 = .ok (some target) ∧
      fargs.regs = some regs ∧ exceptionInside cfg m cpu task kind fargs env =
        deliverException cfg m cpu kind target regs fargs env := by
  unfold exceptionInside
  split_ifs with hcpu
  · exact .inl ⟨m.binding, .same, rfl⟩
  · obtain ⟨b, heff, hb⟩ := currentTarget_eq m task
    cases hct : currentTarget m task with
    | mk found m' =>
      rw [hct] at hb
      obtain rfl : m' = { m with binding := b } := hb
      cases found with
      | error e => exact .inl ⟨b, heff, rfl⟩
      | ok found =>
        cases found with
        | none => exact .inl ⟨b, heff, rfl⟩
        | some target =>
          have hfound : (currentTarget m task).1 = .ok (some target) := by rw [hct]
          have hsame : { m with binding := b } = m := by
            have h := (currentTarget_some hfound).1
            rwa [hct] at h
          cases hregs : fargs.regs with
          | none => exact .inl ⟨b, heff, rfl⟩
          | some regs =>
            refine .inr ⟨by omega, target, regs, rfl, rfl, ?_⟩
            dsimp only
            rw [hsame]

lemma exceptionBefore_done : ExceptionDone cfg m cpu task kind fargs env
      (exceptionBefore cfg m cpu task kind fargs env) := by
  unfold exceptionBefore
  split_ifs with hoff
  · exact .ignored .same
  · rcases exceptionInside_cases cfg m cpu task kind fargs env with
      ⟨b, hb, heq⟩ | ⟨hcpu, target, regs, htarget, hregs, heq⟩
    · rw [heq]
      exact .ignored hb
    · rw [heq]
      exact .handled (by simpa using hoff) hcpu htarget hregs

end

variable (cfg) in
/-- The answer to an exception touches the ring, and switches the breakpoint off after a hit that
was to be the only one. -/
lemma concludeException_eq (m : ModuleState) (cpu : ℕ) (kind : ExceptionKind) (fargs : HookFargs)
    (now : U64) (r : Except Errno (DebugResult × DebugFrame × Event)) :
    ∃ ring enabled, (concludeException cfg m cpu kind fargs now r).2 =
        { m with ring := ring, breakpointEnabled := enabled } ∧
      (enabled = m.breakpointEnabled ∨ enabled = false ∧ m.breakpoint.mode = .once ∧
        kind ≠ .singleStep ∧ ∃ frame event, r = .ok (.consumed, frame, event)) := by
  match r with
  | .error e =>
    obtain ⟨ring, h⟩ := publishIntegrity_eq cfg m cpu e flagInterference now
    exact ⟨ring, m.breakpointEnabled, h, .inl rfl⟩
  | .ok (.notOwned, _, _) => exact ⟨m.ring, m.breakpointEnabled, rfl, .inl rfl⟩
  | .ok (.forwardOriginal, _, _) => exact ⟨m.ring, m.breakpointEnabled, rfl, .inl rfl⟩
  | .ok (.consumed, frame, event) =>
    by_cases hkind : kind = .singleStep
    · refine ⟨m.ring, m.breakpointEnabled, ?_, .inl rfl⟩
      simp only [concludeException, if_pos hkind]
    · by_cases hmode : m.breakpoint.mode = .once
      · refine ⟨(recordHit m cpu event now).ring, false, ?_,
          .inr ⟨rfl, hmode, hkind, frame, event, rfl⟩⟩
        simp only [concludeException, if_neg hkind, recordHit, if_pos hmode]
      · refine ⟨(recordHit m cpu event now).ring, m.breakpointEnabled, ?_, .inl rfl⟩
        simp only [concludeException, if_neg hkind, recordHit, if_neg hmode]

variable (cfg) in
lemma deliverException_eq (m : ModuleState) (cpu : ℕ) (kind : ExceptionKind) (target : DebugTarget)
    (regs : PtRegs) (fargs : HookFargs) (env : HookEnv) :
    ∃ ring enabled, (deliverException cfg m cpu kind target regs fargs env).2 =
        { m.withCpu cpu ((handleException kind target
            (frameFromRegs regs fargs.far fargs.esr)).exec env.φ (m.onCpu cpu)).2
          with ring := ring, breakpointEnabled := enabled } ∧
      (enabled = m.breakpointEnabled ∨ enabled = false ∧ m.breakpoint.mode = .once ∧
        kind ≠ .singleStep ∧ ∃ frame event, ((handleException kind target
          (frameFromRegs regs fargs.far fargs.esr)).exec env.φ (m.onCpu cpu)).1 =
            .ok (.consumed, frame, event)) :=
  concludeException_eq cfg _ cpu kind fargs env.now _

lemma ExceptionDone.frame {kind : ExceptionKind} {fargs : HookFargs}
    {out : HookFargs × ModuleState} (h : ExceptionDone cfg m cpu task kind fargs env out) :
    ∃ b s ring enabled, out.2 = { m.withCpu cpu s with
      binding := b, ring := ring, breakpointEnabled := enabled } := by
  cases h with
  | @ignored b _ =>
    exact ⟨b, m.onCpu cpu, m.ring, m.breakpointEnabled, by rw [ModuleState.withCpu_onCpu]⟩
  | @handled target regs _ _ _ _ =>
    obtain ⟨ring, enabled, h, -⟩ := deliverException_eq cfg m cpu kind target regs fargs env
    exact ⟨m.binding, _, ring, enabled, h⟩

end Spz
