import Stackplz.Module.Hooks

/-!
# Executing an asynchronous request

`spz_module_async_execute` step by step.  Handlers run on every CPU while the worker executes a
request, so what matters is where the worker stands (`ExecPc`) and what one of its steps does to the
module (`execStep`): a store, a clear, one CPU's turn in `run_each_cpu`, a test.

`run_each_cpu` takes the CPUs in any order and keeps the first error.  If its transport fails, no
CPU gets a turn.  `ExecInput` holds what a step gets from outside.
-/

namespace Spz

open Fallible Errno Option

/-- What a step of the worker gets from outside. -/
structure ExecInput where
  /-- The CPU whose turn it is. -/
  cpu : ℕ := 0
  /-- Whether `run_each_cpu` reaches the CPUs. -/
  transport : Except Errno Unit := .ok ()
  /-- `spz_profile_cpu_topology_unchanged`. -/
  topology : Except Errno Unit := .ok ()
  /-- Some handler stays inside for as long as CLEAR waits. -/
  handlersInside : Bool := false
  mapsBusy : Bool := false
  render : Except Errno Rendering := .error EINVAL
  /-- `platform.audit_owner`: whether it fails, and what it adds to the event. -/
  auditOwner : U64 → Event → Bool × Event := fun _ event => (false, event)
  φ : Oracle Errno := .succeed
  now : U64 := 0

/-- Where the worker stands.  `left` are the CPUs that still have their turn in `run_each_cpu`,
`status` is the first error so far. -/
inductive ExecPc
  | begin (operation : AsyncOperation) (targetId : U32)
  | enableStore
  | enableCpus (left : List ℕ) (status : Except Errno Unit)
  | enableUndo (status : Errno)
  | enableRestore (left : List ℕ) (status : Errno)
  | disableStore (clear : Bool)
  | disableCpus (clear : Bool) (left : List ℕ) (status : Except Errno Unit)
  | clearWait
  | clearCheck
  | clearMaps
  | clearBinding
  | clearBreakpoint
  | clearRing
  | auditCpus (left : List ℕ) (status : Except Errno Unit)
  | finished (operation : AsyncOperation) (status : Except Errno Unit)

def disableOperation (clear : Bool) : AsyncOperation := if clear then .clear else .disable

def ExecPc.operation : ExecPc → AsyncOperation
  | .begin operation _ => operation
  | .enableStore => .enable
  | .enableCpus _ _ => .enable
  | .enableUndo _ => .enable
  | .enableRestore _ _ => .enable
  | .disableStore clear => disableOperation clear
  | .disableCpus clear _ _ => disableOperation clear
  | .clearWait => .clear
  | .clearCheck => .clear
  | .clearMaps => .clear
  | .clearBinding => .clear
  | .clearBreakpoint => .clear
  | .clearRing => .clear
  | .auditCpus _ _ => .audit
  | .finished operation _ => operation

variable (cfg : Config)

/-! ## `run_each_cpu` -/

def allCpus : List ℕ := List.range cfg.cpuCount

def firstError : Except Errno Unit → Except Errno Unit → Except Errno Unit
  | .error e, _ => .error e
  | .ok (), .error e => .error (transportError e)
  | .ok (), .ok () => .ok ()

def restoreCpuCallback (m : ModuleState) (cpu : ℕ) (φ : Oracle Errno) :
    Except Errno Unit × ModuleState :=
  m.runDebug cpu (debugRestoreCpu cfg.ops) φ

/-- `spz_enable_cpu_callback`, which runs on the CPU it is for. -/
def enableCpuCallback (m : ModuleState) (cpu : ℕ) (task : KernelTask) (φ : Oracle Errno) :
    Except Errno Unit × ModuleState :=
  armLiveCurrent cfg m cpu task φ

/-! ## The audit -/

/-- What the audit reads of a slot. -/
structure SlotImage where
  kind : SlotKind
  slot : ℕ
  owner : U64
  value : U64
  control : U32

def auditSlot (kind : SlotKind) (slot : ℕ) : Ctl SlotImage := do
  let owner ← readOwner kind slot
  let value ← readValue kind slot
  let control ← readControl kind slot
  pure ⟨kind, slot, owner, value, control⟩

/-- Read the slots in order up to the first that cannot be read. -/
def auditSlots : List (SlotKind × ℕ) → Ctl (List SlotImage × Except Errno Unit)
  | [] => pure ([], .ok ())
  | (kind, slot) :: rest => do
    match ← attempt (auditSlot kind slot) with
    | .error e => pure ([], .error e)
    | .ok image => do
      let out ← auditSlots rest
      pure (image :: out.1, out.2)

/-- The event for a slot that is owned or enabled. -/
def auditFinding (input : ExecInput) (image : SlotImage) : Option Event :=
  if image.owner = 0 ∧ image.control &&& ctrlEnable = 0 then none
  else
    let event : Event :=
      { type := .integrity
        timestamp := input.now
        slotKind := slotKindNumber image.kind
        slotIndex := BitVec.ofNat 16 image.slot
        value := image.value
        observedControl := image.control
        control := if image.owner ≠ 0 then 1 else 0
        flags := if (image.owner == 0) != (image.control &&& ctrlEnable == 0) then flagInterference
          else 0 }
    if image.owner ≠ 0 then
      let out := input.auditOwner image.owner event
      some (if out.1 then { out.2 with flags := out.2.flags ||| flagInterference } else out.2)
    else some event

/-- Push a finding and count it if there was room. -/
def auditPush (cpu : ℕ) (m : ModuleState) (event : Event) : ModuleState :=
  match ringPush m.ring cpu event with
  | (.ok (), ring) => { m with ring := ring, auditEvents := m.auditEvents + 1 }
  | (.error _, ring) => { m with ring := ring }

/-- `spz_module_audit_cpu`. -/
def auditCpu (m : ModuleState) (cpu : ℕ) (input : ExecInput) : Except Errno Unit × ModuleState :=
  match ((auditSlots (debugSlots cfg.ops)).exec input.φ (m.onCpu cpu)).1 with
  | .error e => (.error e, m)
  | .ok (images, status) =>
    (status, (images.filterMap (auditFinding input)).foldl (auditPush cpu) m)

/-! ## The steps -/

/-- Where ENABLE goes when every CPU has had its turn. -/
def enableResult : Except Errno Unit → ExecPc
  | .ok () => .finished .enable (.ok ())
  | .error e => .enableUndo e

/-- Where DISABLE and CLEAR go when every CPU has had its turn. -/
def disableResult (clear : Bool) : Except Errno Unit → ExecPc
  | .ok () => if clear then .clearWait else .finished .disable (.ok ())
  | .error e => .finished (disableOperation clear) (.error e)

/-- Where CLEAR goes from `spz_maps_clear`. -/
def clearMapsResult : Except Errno Unit → ExecPc
  | .ok () => .clearBinding
  | .error e => .finished .clear (.error e)

/-- Where the worker goes when it calls `run_each_cpu`: to the CPUs, or past them. -/
def runEachCpu (transport : Except Errno Unit) (visit : List ℕ → ExecPc) (failed : Errno → ExecPc) :
    ExecPc :=
  match transport with
  | .ok () => visit (allCpus cfg)
  | .error e => failed e

/-- The tests `spz_module_async_execute` makes before it changes anything, and all of MAPS. -/
def execBegin (m : ModuleState) (operation : AsyncOperation) (targetId : U32) (input : ExecInput) :
    ExecPc × ModuleState :=
  match operation with
  | .none => (.finished .none (.error EINVAL), m)
  | .maps =>
    if m.binding.state ≠ .bound then (.finished .maps (.error EAGAIN), m)
    else
      let out := mapsSnapshot m.maps m.binding.generation m.async.requestId input.mapsBusy
        input.render
      (.finished .maps out.1, { m with maps := out.2 })
  | .enable =>
    if !m.breakpointConfigured || m.breakpoint.id != targetId then
      (.finished .enable (.error ENOENT), m)
    else if m.binding.state ≠ .bound then (.finished .enable (.error EAGAIN), m)
    else
      match input.topology with
      | .error e => (.finished .enable (.error e), m)
      | .ok () => (.enableStore, m)
  | .disable =>
    if m.breakpointConfigured && m.breakpoint.id != targetId then
      (.finished .disable (.error ENOENT), m)
    else (.disableStore false, m)
  | .clear => (.disableStore true, m)
  | .audit =>
    (runEachCpu cfg input.transport (.auditCpus · (.ok ())) fun e => .finished .audit (.error e),
      { m with auditEvents := 0 })

/-- One step of `spz_module_async_execute`; `none` if it has returned or it is not the turn of the
CPU in the input. -/
def execStep (current : ℕ → KernelTask) (m : ModuleState) (input : ExecInput) :
    ExecPc → Option (ExecPc × ModuleState)
  | .begin operation targetId => some (execBegin cfg m operation targetId input)
  | .enableStore =>
    some (runEachCpu cfg input.transport (.enableCpus · (.ok ())) .enableUndo,
      { m with breakpointEnabled := true })
  | .enableCpus [] status => some (enableResult status, m)
  | .enableCpus (cpu :: rest) status =>
    if input.cpu ∈ cpu :: rest then
      let out := enableCpuCallback cfg m input.cpu (current input.cpu) input.φ
      some (.enableCpus ((cpu :: rest).erase input.cpu) (firstError status out.1), out.2)
    else none
  | .enableUndo status =>
    some (runEachCpu cfg input.transport (.enableRestore · status)
        fun _ => .finished .enable (.error status),
      { m with breakpointEnabled := false })
  | .enableRestore [] status => some (.finished .enable (.error status), m)
  | .enableRestore (cpu :: rest) status =>
    if input.cpu ∈ cpu :: rest then
      let out := restoreCpuCallback cfg m input.cpu input.φ
      some (.enableRestore ((cpu :: rest).erase input.cpu) status, out.2)
    else none
  | .disableStore clear =>
    some (runEachCpu cfg input.transport (.disableCpus clear · (.ok ()))
        fun e => .finished (disableOperation clear) (.error e),
      { m with breakpointEnabled := false })
  | .disableCpus clear [] status => some (disableResult clear status, m)
  | .disableCpus clear (cpu :: rest) status =>
    if input.cpu ∈ cpu :: rest then
      let out := restoreCpuCallback cfg m input.cpu input.φ
      some (.disableCpus clear ((cpu :: rest).erase input.cpu) (firstError status out.1), out.2)
    else none
  | .clearWait =>
    some (if input.handlersInside then .finished .clear (.error EBUSY) else .clearCheck, m)
  | .clearCheck =>
    some (if AllDebugEmpty cfg m then .clearMaps else .finished .clear (.error EUCLEAN), m)
  | .clearMaps =>
    let out := mapsClear m.maps input.mapsBusy
    some (clearMapsResult out.1, { m with maps := out.2 })
  | .clearBinding => some (.clearBreakpoint, { m with binding := bindingClear m.binding })
  | .clearBreakpoint =>
    some (.clearRing, { m with breakpoint := {}, breakpointConfigured := false })
  | .clearRing => some (.finished .clear (.ok ()), { m with ring := ringInit })
  | .auditCpus [] status => some (.finished .audit status, m)
  | .auditCpus (cpu :: rest) status =>
    if input.cpu ∈ cpu :: rest then
      let out := auditCpu cfg m input.cpu input
      some (.auditCpus ((cpu :: rest).erase input.cpu) (firstError status out.1), out.2)
    else none
  | .finished _ _ => none

/-! ## What a step does -/

/-- Everything a step of the worker can do. -/
inductive ExecEffect (current : ℕ → KernelTask) (m : ModuleState) (input : ExecInput) :
    ExecPc → ExecPc → ModuleState → Prop
  /-- A test failed before anything was changed. -/
  | refused {operation : AsyncOperation} {targetId : U32} {e : Errno} : operation ≠ .clear →
      (operation = .disable → m.breakpointConfigured = true ∧ m.breakpoint.id ≠ targetId) →
      ExecEffect current m input (.begin operation targetId) (.finished operation (.error e)) m
  | rendered {targetId : U32} {status : Except Errno Unit} {maps : Maps} :
      maps = (mapsSnapshot m.maps m.binding.generation m.async.requestId input.mapsBusy
        input.render).2 →
      ExecEffect current m input (.begin .maps targetId) (.finished .maps status)
        { m with maps := maps }
  | enableAccepted {targetId : U32} : m.breakpointConfigured = true → m.breakpoint.id = targetId →
      m.binding.state = .bound →
      ExecEffect current m input (.begin .enable targetId) .enableStore m
  | disableAccepted {targetId : U32} (clear : Bool) :
      ExecEffect current m input (.begin (disableOperation clear) targetId) (.disableStore clear) m
  | auditStarted {targetId : U32} :
      ExecEffect current m input (.begin .audit targetId)
        (runEachCpu cfg input.transport (.auditCpus · (.ok ()))
          fun e => .finished .audit (.error e))
        { m with auditEvents := 0 }
  | enableStored :
      ExecEffect current m input .enableStore
        (runEachCpu cfg input.transport (.enableCpus · (.ok ())) .enableUndo)
        { m with breakpointEnabled := true }
  | enableTurn {left : List ℕ} {status : Except Errno Unit} : input.cpu ∈ left →
      ExecEffect current m input (.enableCpus left status)
        (.enableCpus (left.erase input.cpu) (firstError status
          (enableCpuCallback cfg m input.cpu (current input.cpu) input.φ).1))
        (enableCpuCallback cfg m input.cpu (current input.cpu) input.φ).2
  | enableDone {status : Except Errno Unit} :
      ExecEffect current m input (.enableCpus [] status) (enableResult status) m
  | enableUndone {status : Errno} :
      ExecEffect current m input (.enableUndo status)
        (runEachCpu cfg input.transport (.enableRestore · status)
          fun _ => .finished .enable (.error status))
        { m with breakpointEnabled := false }
  | restoreTurn {left : List ℕ} {status : Errno} : input.cpu ∈ left →
      ExecEffect current m input (.enableRestore left status)
        (.enableRestore (left.erase input.cpu) status)
        (restoreCpuCallback cfg m input.cpu input.φ).2
  | restoreDone {status : Errno} :
      ExecEffect current m input (.enableRestore [] status) (.finished .enable (.error status)) m
  | disableStored {clear : Bool} :
      ExecEffect current m input (.disableStore clear)
        (runEachCpu cfg input.transport (.disableCpus clear · (.ok ()))
          fun e => .finished (disableOperation clear) (.error e))
        { m with breakpointEnabled := false }
  | disableTurn {clear : Bool} {left : List ℕ} {status : Except Errno Unit} : input.cpu ∈ left →
      ExecEffect current m input (.disableCpus clear left status)
        (.disableCpus clear (left.erase input.cpu) (firstError status
          (restoreCpuCallback cfg m input.cpu input.φ).1))
        (restoreCpuCallback cfg m input.cpu input.φ).2
  | disableDone {clear : Bool} {status : Except Errno Unit} :
      ExecEffect current m input (.disableCpus clear [] status) (disableResult clear status) m
  /-- CLEAR gave up: a handler stayed, or a CPU is not empty. -/
  | clearGaveUp {pc : ExecPc} {e : Errno} : pc = .clearWait ∨ pc = .clearCheck →
      ExecEffect current m input pc (.finished .clear (.error e)) m
  | clearWaited : input.handlersInside = false →
      ExecEffect current m input .clearWait .clearCheck m
  | clearChecked : AllDebugEmpty cfg m → ExecEffect current m input .clearCheck .clearMaps m
  | mapsCleared :
      ExecEffect current m input .clearMaps (clearMapsResult (mapsClear m.maps input.mapsBusy).1)
        { m with maps := (mapsClear m.maps input.mapsBusy).2 }
  | bindingCleared :
      ExecEffect current m input .clearBinding .clearBreakpoint
        { m with binding := bindingClear m.binding }
  | breakpointCleared :
      ExecEffect current m input .clearBreakpoint .clearRing
        { m with breakpoint := {}, breakpointConfigured := false }
  | ringCleared :
      ExecEffect current m input .clearRing (.finished .clear (.ok ())) { m with ring := ringInit }
  | auditTurn {left : List ℕ} {status status' : Except Errno Unit} {ring : Ring} {n : U32} :
      ExecEffect current m input (.auditCpus left status)
        (.auditCpus (left.erase input.cpu) status') { m with ring := ring, auditEvents := n }
  | auditDone {status : Except Errno Unit} :
      ExecEffect current m input (.auditCpus [] status) (.finished .audit status) m

variable {cfg} {current : ℕ → KernelTask} {m m' : ModuleState} {input : ExecInput} {pc pc' : ExecPc}

lemma foldl_auditPush_eq (cpu : ℕ) (events : List Event) (m : ModuleState) :
    ∃ ring n, events.foldl (auditPush cpu) m = { m with ring := ring, auditEvents := n } := by
  induction events generalizing m with
  | nil => exact ⟨m.ring, m.auditEvents, rfl⟩
  | cons event events ih =>
    have hpush : ∃ ring n, auditPush cpu m event = { m with ring := ring, auditEvents := n } := by
      unfold auditPush
      split
      · exact ⟨_, _, rfl⟩
      · exact ⟨_, m.auditEvents, rfl⟩
    obtain ⟨ring, n, hpush⟩ := hpush
    obtain ⟨ring', n', h⟩ := ih { m with ring := ring, auditEvents := n }
    exact ⟨ring', n', by rw [List.foldl_cons, hpush, h]⟩

lemma auditCpu_eq (cfg : Config) (m : ModuleState) (cpu : ℕ) (input : ExecInput) :
    ∃ ring n, (auditCpu cfg m cpu input).2 = { m with ring := ring, auditEvents := n } := by
  unfold auditCpu
  split
  · exact ⟨m.ring, m.auditEvents, rfl⟩
  · exact foldl_auditPush_eq ..

lemma execBegin_effect (cfg : Config) (current : ℕ → KernelTask) (m : ModuleState)
    (input : ExecInput) (operation : AsyncOperation) (targetId : U32) :
    ExecEffect cfg current m input (.begin operation targetId)
      (execBegin cfg m operation targetId input).1
      (execBegin cfg m operation targetId input).2 := by
  cases operation with
  | none => exact .refused (by simp) (by simp)
  | clear => exact .disableAccepted true
  | audit => exact .auditStarted
  | maps =>
    simp only [execBegin]
    split_ifs
    · exact .refused (by simp) (by simp)
    · exact .rendered rfl
  | disable =>
    simp only [execBegin]
    split_ifs with hother
    · refine .refused (by simp) fun _ => ?_
      simpa using hother
    · exact .disableAccepted false
  | enable =>
    simp only [execBegin]
    split_ifs with hmissing hunbound
    · exact .refused (by simp) (by simp)
    · exact .refused (by simp) (by simp)
    · simp only [Bool.or_eq_true, Bool.not_eq_true', bne_iff_ne, not_or, Bool.not_eq_false,
        not_not] at hmissing
      cases input.topology with
      | error e => exact .refused (by simp) (by simp)
      | ok _ => exact .enableAccepted hmissing.1 hmissing.2 (not_not.mp hunbound)

/-- The inversion of a step of the worker. -/
theorem execStep_effect (h : execStep cfg current m input pc = some (pc', m')) :
    ExecEffect cfg current m input pc pc' m' := by
  cases pc with
  | begin operation targetId =>
    simp only [execStep, some.injEq] at h
    have heff := execBegin_effect cfg current m input operation targetId
    rwa [h] at heff
  | enableStore => cases h; exact .enableStored
  | enableUndo status => cases h; exact .enableUndone
  | disableStore clear => cases h; exact .disableStored
  | clearMaps => cases h; exact .mapsCleared
  | clearBinding => cases h; exact .bindingCleared
  | clearBreakpoint => cases h; exact .breakpointCleared
  | clearRing => cases h; exact .ringCleared
  | finished operation status => cases h
  | clearWait =>
    simp only [execStep, some.injEq, Prod.mk.injEq] at h
    obtain ⟨rfl, rfl⟩ := h
    split_ifs with hinside
    · exact .clearGaveUp (.inl rfl)
    · exact .clearWaited (by simpa using hinside)
  | clearCheck =>
    simp only [execStep, some.injEq, Prod.mk.injEq] at h
    obtain ⟨rfl, rfl⟩ := h
    split_ifs with hempty
    · exact .clearChecked hempty
    · exact .clearGaveUp (.inr rfl)
  | enableCpus left status =>
    cases left with
    | nil => cases h; exact .enableDone
    | cons cpu rest =>
      simp only [execStep, ite_none_right_eq_some, some.injEq, Prod.mk.injEq] at h
      obtain ⟨hmem, rfl, rfl⟩ := h
      exact .enableTurn hmem
  | enableRestore left status =>
    cases left with
    | nil => cases h; exact .restoreDone
    | cons cpu rest =>
      simp only [execStep, ite_none_right_eq_some, some.injEq, Prod.mk.injEq] at h
      obtain ⟨hmem, rfl, rfl⟩ := h
      exact .restoreTurn hmem
  | disableCpus clear left status =>
    cases left with
    | nil => cases h; exact .disableDone
    | cons cpu rest =>
      simp only [execStep, ite_none_right_eq_some, some.injEq, Prod.mk.injEq] at h
      obtain ⟨hmem, rfl, rfl⟩ := h
      exact .disableTurn hmem
  | auditCpus left status =>
    cases left with
    | nil => cases h; exact .auditDone
    | cons cpu rest =>
      simp only [execStep, ite_none_right_eq_some, some.injEq, Prod.mk.injEq] at h
      obtain ⟨-, rfl, rfl⟩ := h
      obtain ⟨ring, n, h⟩ := auditCpu_eq cfg m input.cpu input
      rw [h]
      exact .auditTurn

/-- What the handlers and the steps of the worker leave alone. -/
structure SameRequest (m m' : ModuleState) : Prop where
  async : m'.async = m.async
  accepting : m'.acceptingCommands = m.acceptingCommands

lemma SameRequest.refl (m : ModuleState) : SameRequest m m := ⟨rfl, rfl⟩

variable (h : ExecEffect cfg current m input pc pc' m')
include h

lemma ExecEffect.sameRequest : SameRequest m m' := by
  cases h with
  | enableTurn =>
    unfold enableCpuCallback
    rcases armLiveCurrent_cases cfg m input.cpu (current input.cpu) input.φ with
      ⟨b, -, h⟩ | ⟨-, -, target, -, h⟩
    all_goals
      rw [h]
      exact ⟨rfl, rfl⟩
  | _ => exact ⟨rfl, rfl⟩

lemma ExecEffect.operation : pc'.operation = pc.operation := by
  have heach : ∀ visit failed operation, (∀ left, (visit left).operation = operation) →
      (∀ e, (failed e).operation = operation) →
      (runEachCpu cfg input.transport visit failed).operation = operation := by
    intro visit failed operation hvisit hfailed
    unfold runEachCpu
    cases input.transport with
    | ok _ => exact hvisit _
    | error e => exact hfailed e
  cases h with
  | auditStarted | enableStored | enableUndone | disableStored =>
    exact heach _ _ _ (fun _ => rfl) fun _ => rfl
  | @enableDone status => cases status <;> rfl
  | @disableDone clear status => cases status <;> cases clear <;> rfl
  | mapsCleared => cases (mapsClear m.maps input.mapsBusy).1 <;> rfl
  | clearGaveUp hpc => rcases hpc with rfl | rfl <;> rfl
  | _ => rfl

lemma ExecEffect.clear_returns (hret : pc' = .finished .clear (.ok ())) :
    pc = .clearRing ∧ m' = { m with ring := ringInit } := by
  have hop : pc.operation = .clear := by rw [← h.operation, hret]; rfl
  cases h with
  | ringCleared => exact ⟨rfl, rfl⟩
  | disableStored =>
    unfold runEachCpu at hret
    cases htransport : input.transport <;> simp [htransport] at hret
  | @disableDone clear status => cases status <;> cases clear <;> simp [disableResult] at hret
  | mapsCleared =>
    cases hclear : (mapsClear m.maps input.mapsBusy).1 <;> simp [hclear, clearMapsResult] at hret
  | auditStarted | enableStored | enableDone | enableUndone => simp [ExecPc.operation] at hop
  | _ => simp at hret

end Spz
