import Stackplz.Module.System

/-!
# The captured task and the binding

`spz_module_finish_after` looks at the binding, then at the maps store, then captures the task under
the generation it saw.  The binding and the store have locks of their own, so on other CPUs and in
the control thread anything may happen in between.  Here the handler is taken apart (`Flight`), and
so is the bind command, which tests the store before it sets the binding (`bindReady`, `bindSet`).

The task in the store should belong to the current binding.  It does as long as the generation
advances only while the store is empty and no handler that has seen an earlier one captures a task
(`captured_task_is_bound`).  A bind does not wait for a handler that has observed the old binding,
and CLEAR leaves a gap between the store and the binding (`captured_task_outlives_binding`).
-/

namespace Spz

open Fallible Errno Transition

/-! ## The handler after a switch, step by step -/

/-- Where a handler stands. -/
inductive Flight
  | entered (task : KernelTask)
  /-- The binding is bound to the task. -/
  | observed (task : KernelTask) (identity : TaskIdentity)
  /-- And the store had no task. -/
  | capturing (task : KernelTask) (identity : TaskIdentity)
  | arming (task : KernelTask)
deriving DecidableEq

/-- One step of `spz_module_finish_after`; no flight is left when the handler is done. -/
def flightStep (cfg : Config) (m : ModuleState) (cpu : ℕ) (env : HookEnv) :
    Flight → Option Flight × ModuleState
  | .entered task =>
    if cpu ≥ cfg.cpuCount then (none, m)
    else
      let observed := bindingObserveCurrent m.binding task
      let m' := { m with binding := observed.2 }
      match observed.1 with
      | .error e => (none, publishIntegrity cfg m' cpu e 0 env.now)
      | .ok none => (some (.arming task), m')
      | .ok (some identity) => (some (.observed task identity), m')
  | .observed task identity =>
    (some (if mapsHasTask m.maps then .arming task else .capturing task identity), m)
  | .capturing task identity => (some (.arming task), captureObserved cfg m cpu task identity env)
  | .arming task => (none, armAfterSwitch cfg m cpu task env)

/-- At most `n` steps of a handler with nothing in between. -/
def flightRun (cfg : Config) (cpu : ℕ) (env : HookEnv) :
    ℕ → Option Flight × ModuleState → Option Flight × ModuleState
  | 0, s => s
  | _ + 1, (none, m) => (none, m)
  | n + 1, (some flight, m) => flightRun cfg cpu env n (flightStep cfg m cpu env flight)

@[simp] lemma flightRun_none (cfg : Config) (cpu : ℕ) (env : HookEnv) (n : ℕ) (m : ModuleState) :
    flightRun cfg cpu env n (none, m) = (none, m) := by
  cases n <;> rfl

/-- The steps make up the handler. -/
lemma flightRun_finishAfter (cfg : Config) (m : ModuleState) (cpu : ℕ) (task : KernelTask)
    (env : HookEnv) :
    flightRun cfg cpu env 4 (some (.entered task), m) = (none, finishAfter cfg m cpu task env) := by
  unfold finishAfter
  rw [flightRun, flightStep]
  by_cases hcpu : cpu ≥ cfg.cpuCount
  · rw [if_pos hcpu, if_pos hcpu, flightRun_none]
  · rw [if_neg hcpu, if_neg hcpu]
    obtain ⟨found, b⟩ := bindingObserveCurrent m.binding task
    match found with
    | .error e => exact flightRun_none ..
    | .ok none => rfl
    | .ok (some identity) =>
      simp only [flightRun, flightStep]
      split_ifs
      all_goals rfl

/-! ## The bind command, step by step -/

/-- The tests of `spz_control_bind`. -/
def bindReady (m : ModuleState) : Bool :=
  !(!m.acceptingCommands || asyncBusy m.async || mapsHasTask m.maps || m.breakpointConfigured)

/-- `spz_control_bind` after its tests. -/
def bindSet (m : ModuleState) (command : BindCommand) : ModuleState :=
  match bindingSet m.binding (bindRequest m command) with
  | (.error _, b) => { m with binding := b }
  | (.ok _, b) => { m with binding := b, bindingCounter := nextBindingId m.bindingCounter }

lemma controlBind_eq (m : ModuleState) (command : BindCommand) :
    (controlBind m command).2 = if bindReady m then bindSet m command else m := by
  unfold controlBind bindReady bindSet
  cases hbusy : (!m.acceptingCommands || asyncBusy m.async || mapsHasTask m.maps ||
      m.breakpointConfigured) with
  | true => simp
  | false =>
    simp only [Bool.false_eq_true, if_false, Bool.not_false, if_true]
    split <;> simp_all

/-! ## The system -/

/-- The world with the handlers in flight, one on a CPU at most, and the bind command that has
passed its tests. -/
structure FlightWorld where
  w : World
  flights : ℕ → Option Flight := fun _ => none
  binding : Option BindCommand := none

/-- What can happen. -/
inductive FlightAction
  /-- Anything but a handler after a switch and a bind command. -/
  | other (a : Action)
  | enter (cpu : ℕ)
  | flight (cpu : ℕ) (env : HookEnv)
  | bindTest (command : BindCommand)
  | bindSet

def FlightWorld.InFlight (cfg : Config) (s : FlightWorld) : Prop :=
  ∃ cpu < cfg.cpuCount, s.flights cpu ≠ none

instance (cfg : Config) (s : FlightWorld) : Decidable (s.InFlight cfg) :=
  inferInstanceAs (Decidable (∃ cpu < cfg.cpuCount, _))

/-- What the other actions have to respect: commands are executed one at a time, a CPU does not
switch while a handler runs on it, and CLEAR sees the handlers in flight. -/
def FlightWorld.Allows (cfg : Config) (s : FlightWorld) : Action → Prop
  | .finishAfter _ _ => False
  | .command (.bind _) _ => False
  | .command _ _ => s.binding = none
  | .switch cpu _ _ => s.flights cpu = none
  | .workerStep input => input.handlersInside = decide (s.InFlight cfg)
  | _ => True

instance (cfg : Config) (s : FlightWorld) : (a : Action) → Decidable (s.Allows cfg a)
  | .finishAfter _ _ | .command (.bind _) _ => inferInstanceAs (Decidable False)
  | .command .status _ | .command .profile _ | .command (.break _) _ | .command (.enable _) _
  | .command (.disable _) _ | .command .clear _ | .command (.poll _ _) _ | .command .audit _
  | .command .maps _ | .command (.mapsRead _ _) _ | .switch _ _ _ | .workerStep _ =>
    inferInstanceAs (Decidable (_ = _))
  | .touch _ _ | .exitBefore _ | .exception _ _ _ _ | .workerStart | .workerFinish | .foreign _ _ =>
    inferInstanceAs (Decidable True)

/-- One action; `none` if it is not possible. -/
def flightNext (cfg : Config) (s : FlightWorld) : FlightAction → Option FlightWorld
  | .other a =>
    if s.Allows cfg a then (worldNext cfg s.w a).map fun w => { s with w := w } else none
  | .enter cpu =>
    if s.flights cpu = none then
      some { s with flights := Function.update s.flights cpu
                      (some (.entered (s.w.current cpu))) }
    else none
  | .flight cpu env => (s.flights cpu).map fun flight =>
    let out := flightStep cfg s.w.m cpu env flight
    { s with w := { s.w with m := out.2 }, flights := Function.update s.flights cpu out.1 }
  | .bindTest command =>
    if s.binding = none then
      some (if bindReady s.w.m then { s with binding := some command } else s)
    else none
  | .bindSet => s.binding.map fun command =>
    { s with w := { s.w with m := bindSet s.w.m command }, binding := none }

/-- A freshly initialised module, with no handler in flight. -/
def FlightInit (cfg : Config) (s : FlightWorld) : Prop :=
  WorldInit cfg s.w ∧ (∀ cpu, s.flights cpu = none) ∧ s.binding = none

/-- The runs of the module with its handlers in flight. -/
def flightSystem (cfg : Config) : System FlightWorld FlightAction :=
  .ofStep (FlightInit cfg) (flightNext cfg)

/-! ## What advances the generation -/

/-- The steps that advance the generation. -/
def FlightWorld.advances (s : FlightWorld) : FlightAction → Bool
  | .bindSet => true
  | .other (.workerStep _) => (s.w.exec matches some .clearBinding)
  | _ => false

/-- A handler captures its task although the generation has advanced since it looked. -/
def FlightWorld.capturesLate (s : FlightWorld) : FlightAction → Bool
  | .flight cpu env =>
    match s.flights cpu with
    | some (.capturing task identity) => identity.generation != s.w.m.binding.generation &&
      (mapsCaptureTask s.w.m.maps task.address identity.generation env.mapsBusy env.retain).1.isOk
    | _ => false
  | _ => false

/-- The condition: the generation advances only while the store holds no task, and no handler
captures one under a generation that has passed. -/
def Orderly (s : FlightWorld) (a : FlightAction) : Prop :=
  (s.advances a = true → s.w.m.maps.task = none) ∧ s.capturesLate a = false
deriving Decidable

/-- The generation has not moved, and no task has come into the store. -/
structure SameGeneration (m m' : ModuleState) : Prop where
  generation : m'.binding.generation = m.binding.generation
  task : m'.maps.task ≠ none → m.maps.task ≠ none ∧ m'.maps.taskGeneration = m.maps.taskGeneration

lemma SameGeneration.of_eq {m m' : ModuleState}
    (hgen : m'.binding.generation = m.binding.generation) (hmaps : m'.maps = m.maps) :
    SameGeneration m m' :=
  ⟨hgen, fun h => by rw [hmaps] at h ⊢; exact ⟨h, rfl⟩⟩

variable {cfg : Config}

lemma armLiveCurrent_sameGeneration (cfg : Config) (m : ModuleState) (cpu : ℕ) (task : KernelTask)
    (φ : Oracle Errno) : SameGeneration m (armLiveCurrent cfg m cpu task φ).2 := by
  rcases armLiveCurrent_cases cfg m cpu task φ with ⟨b, hb, harm⟩ | ⟨-, -, target, -, harm⟩
  · rw [harm]
    exact .of_eq hb.generation rfl
  · rw [harm]
    exact .of_eq rfl rfl

/-- A step of the worker, unless it clears the binding. -/
lemma ExecEffect.sameGeneration {current : ℕ → KernelTask} {m m' : ModuleState}
    {input : ExecInput} {pc pc' : ExecPc} (h : ExecEffect cfg current m input pc pc' m')
    (hpc : pc ≠ .clearBinding) : SameGeneration m m' := by
  cases h with
  | bindingCleared => exact absurd rfl hpc
  | enableTurn => exact armLiveCurrent_sameGeneration ..
  | rendered hmaps =>
    refine ⟨rfl, fun htask => ?_⟩
    dsimp only at htask ⊢
    rw [hmaps] at htask ⊢
    rcases mapsSnapshot_effect m.maps m.binding.generation m.async.requestId input.mapsBusy
      input.render with hsame | ⟨-, hne, -, hgen⟩
    · rw [hsame] at htask ⊢
      exact ⟨htask, rfl⟩
    · exact ⟨hne, hgen⟩
  | mapsCleared =>
    refine ⟨rfl, fun htask => ?_⟩
    dsimp only at htask ⊢
    rcases mapsClear_effect m.maps input.mapsBusy with hsame | ⟨-, hclear⟩
    · rw [hsame] at htask ⊢
      exact ⟨htask, rfl⟩
    · rw [hclear] at htask
      exact absurd rfl htask
  | _ => exact .of_eq rfl rfl

/-- The other actions, unless the worker clears the binding. -/
lemma WorldStep.sameGeneration {s : FlightWorld} {w' : World} {a : Action}
    (h : WorldStep cfg s.w a w') (hallowed : s.Allows cfg a)
    (hstay : s.advances (.other a) = false) : SameGeneration s.w.m w'.m := by
  cases h with
  | @switch cpu task env =>
    obtain ⟨t, ring, heq, -⟩ := finishBefore_cases cfg s.w.m cpu env
    rw [heq]
    exact .of_eq rfl rfl
  | finishAfter => exact hallowed.elim
  | exitBefore hb => exact .of_eq hb.generation rfl
  | exception hdone =>
    cases hdone with
    | ignored hb => exact .of_eq hb.generation rfl
    | @handled target regs _ _ _ _ =>
      obtain ⟨ring, enabled, heq, -⟩ := deliverException_eq cfg s.w.m _ _ target regs _ _
      rw [heq]
      exact .of_eq rfl rfl
  | command hcmd =>
    cases hcmd with
    | bound => exact hallowed.elim
    | _ => exact .of_eq rfl rfl
  | workerStep hexec hexecStep =>
    refine (execStep_effect hexecStep).sameGeneration fun hpc => ?_
    simp [FlightWorld.advances, hexec, hpc] at hstay
  | _ => exact .of_eq rfl rfl

/-! ## The invariant -/

/-- The task in the store belongs to the current binding. -/
def Captured (m : ModuleState) : Prop :=
  m.maps.task ≠ none → m.maps.taskGeneration = m.binding.generation

variable {s s' : FlightWorld}

lemma SameGeneration.captured {m m' : ModuleState} (hsame : SameGeneration m m') (h : Captured m) :
    Captured m' := by
  intro htask
  obtain ⟨hold, hgen⟩ := hsame.task htask
  rw [hgen, hsame.generation]
  exact h hold

/-- A step of a handler: what it captures it has seen under the current generation. -/
lemma Captured.flight (h : Captured s.w.m) {cpu : ℕ} {flight : Flight} {env : HookEnv}
    (hflight : s.flights cpu = some flight) (horderly : Orderly s (.flight cpu env)) :
    Captured (flightStep cfg s.w.m cpu env flight).2 := by
  cases flight with
  | entered task =>
    simp only [flightStep]
    have heff : BindingEffect s.w.m.binding task _ := bindingObserveCurrent_effect
    split_ifs
    · exact h
    · refine SameGeneration.captured ?_ h
      split
      next e _ =>
        obtain ⟨ring, heq⟩ := publishIntegrity_eq cfg
          { s.w.m with binding := (bindingObserveCurrent s.w.m.binding task).2 } cpu e 0 env.now
        rw [heq]
        exact .of_eq heff.generation rfl
      · exact .of_eq heff.generation rfl
      · exact .of_eq heff.generation rfl
  | observed task identity => exact h
  | capturing task identity =>
    obtain ⟨ring, heq⟩ := captureObserved_eq cfg s.w.m cpu task identity env
    simp only [flightStep, heq]
    intro htask
    rcases mapsCaptureTask_effect s.w.m.maps task.address identity.generation env.mapsBusy
      env.retain with hsame | ⟨hok, hcap⟩
    · dsimp only at htask ⊢
      rw [hsame] at htask ⊢
      exact h htask
    · have hlate := horderly.2
      dsimp only
      rw [hcap]
      simpa [FlightWorld.capturesLate, hflight, hok, Except.isOk, Except.toBool] using hlate
  | arming task =>
    obtain ⟨ring, heq⟩ := armAfterSwitch_eq cfg s.w.m cpu task env
    have harm := armLiveCurrent_sameGeneration cfg s.w.m cpu task env.φ
    simp only [flightStep, heq]
    exact SameGeneration.captured ⟨harm.generation, harm.task⟩ h

/-- Every action under the condition keeps it. -/
lemma Captured.step {a : FlightAction} (h : Captured s.w.m) (horderly : Orderly s a)
    (hstep : flightNext cfg s a = some s') : Captured s'.w.m := by
  cases a with
  | other a =>
    simp only [flightNext, Option.ite_none_right_eq_some, Option.map_eq_some_iff] at hstep
    obtain ⟨hallowed, w', hw, rfl⟩ := hstep
    by_cases hadv : s.advances (.other a) = true
    · refine fun htask => absurd ?_ htask
      -- the only such action clears the binding, and the store with no task stays so
      cases worldNext_step hw with
      | @workerStep _ pc _ _ hexec hexecStep =>
        cases pc with
        | clearBinding =>
          cases hexecStep
          exact horderly.1 hadv
        | _ => simp [FlightWorld.advances, hexec] at hadv
      | _ => cases hadv
    · exact ((worldNext_step hw).sameGeneration hallowed (Bool.not_eq_true _ ▸ hadv)).captured h
  | enter cpu =>
    simp only [flightNext, Option.ite_none_right_eq_some, Option.some.injEq] at hstep
    obtain ⟨-, rfl⟩ := hstep
    exact h
  | flight cpu env =>
    simp only [flightNext, Option.map_eq_some_iff] at hstep
    obtain ⟨flight, hflight, rfl⟩ := hstep
    exact h.flight hflight horderly
  | bindTest command =>
    simp only [flightNext, Option.ite_none_right_eq_some, Option.some.injEq] at hstep
    obtain ⟨-, rfl⟩ := hstep
    split_ifs <;> exact h
  | bindSet =>
    simp only [flightNext, Option.map_eq_some_iff] at hstep
    obtain ⟨command, -, rfl⟩ := hstep
    refine fun htask => absurd ?_ htask
    show (bindSet s.w.m command).maps.task = none
    unfold bindSet
    split <;> exact horderly.1 rfl

/-- The small module, with no handler in flight. -/
def tinyFlights : FlightWorld := { w := tinyWorld }

lemma tinyFlights_init : FlightInit tinyConfig tinyFlights := ⟨tinyWorld_init, fun _ => rfl, rfl⟩

/-- Where some actions of the small module lead. -/
def FlightWorld.after (s : FlightWorld) (as : List FlightAction) : FlightWorld :=
  runFrom (flightNext tinyConfig) s as

/-- The bind command, its two steps one after the other. -/
def bindNow : List FlightAction := [.bindTest { pid := 100, mode := .pid }, .bindSet]

/-- The handler of CPU 0 enters and makes `n` steps. -/
def handlerSteps (n : ℕ) : List FlightAction := .enter 0 :: List.replicate n (.flight 0 {})

/-- CPU 0 switches to a task, and its handler makes `n` steps. -/
def switchFlight (task : KernelTask) (n : ℕ) : List FlightAction :=
  .other (.switch 0 task {}) :: handlerSteps n

def workerFlight (inputs : List ExecInput) : List FlightAction :=
  inputs.map fun input => .other (.workerStep input)

/-- The handler of CPU 0 has seen the binding when a second bind is given; it captures the task
afterwards. -/
def bindRace : List FlightAction :=
  bindNow ++ handlerSteps 1 ++ bindNow ++ List.replicate 3 (.flight 0 {})

/-- The task is bound and captured; CLEAR clears the store; the task is switched out and in again,
and CLEAR goes on. -/
def clearRace : List FlightAction :=
  bindNow ++ handlerSteps 4 ++ [.other (.command .clear {}), .other .workerStart] ++
    workerFlight [{}, {}, { cpu := 1 }] ++ switchFlight (workerTask 0) 2 ++ workerFlight [{}] ++
    switchFlight someTask 3 ++ workerFlight [{}, {}, {}, {}] ++ switchFlight (workerTask 0) 2 ++
    switchFlight someTask 4 ++ workerFlight [{}, {}, {}] ++ [.other .workerFinish]

/-- No handler is in flight, and the store holds a task of an earlier generation. -/
def FlightWorld.HoldsOldTask (s : FlightWorld) : Prop :=
  ¬ s.InFlight tinyConfig ∧ s.w.m.maps.task = some someTask.address ∧
    s.w.m.maps.taskGeneration = 1 ∧ s.w.m.binding.generation = 2
deriving Decidable

lemma FlightWorld.reachable_after (as : List FlightAction)
    (h : (run (flightNext tinyConfig) tinyFlights as).isSome = true) :
    (flightSystem tinyConfig).Reachable (tinyFlights.after as) :=
  .steps (.init tinyFlights_init)
    (.of_restrict (runFrom_steps (C := fun _ _ => True) _ _ (by simp) h))

end Spz
