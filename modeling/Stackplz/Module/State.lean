import Stackplz.Debug.Calls
import Stackplz.Ring
import Stackplz.Binding
import Stackplz.Maps

/-!
# The module's state

`struct spz_module_state` after `spz_module_core_init`, and the single slot for asynchronous
requests of `async.c`.  The debug registers of the CPUs stand beside the controller's records: they
are the hardware, and what the module knows of them it reads through its register operations.

The two gate words `active_handlers` and `control_busy` are not here.  They decide whether a handler
or a command runs at all, which is the subject of `Stackplz.Module.ExitGate`.
-/

namespace Spz

open Fallible Errno

/-! ## The asynchronous request -/

inductive AsyncState
  | free | pending | running | done
deriving DecidableEq, Repr

inductive AsyncOperation
  | none | enable | disable | clear | audit | maps
deriving DecidableEq, Repr

structure AsyncRequest where
  state : AsyncState := .free
  operation : AsyncOperation := .none
  requestId : U64 := 0
  nextRequestId : U64 := 0
  targetId : U32 := 0
  status : Except Errno Unit := .ok ()

def asyncBusy (r : AsyncRequest) : Bool := r.state == .pending || r.state == .running

def asyncNextId (r : AsyncRequest) : U64 :=
  if r.nextRequestId + 1 = 0 then 1 else r.nextRequestId + 1

/-- An error as the transport reports it: a positive code becomes `-EIO`. -/
def transportError (e : Errno) : Errno := if e.code < 0 then e else EIO

/-- `spz_async_submit`; `queue` is what the backend answers.  Returns the request's number. -/
def asyncSubmit (r : AsyncRequest) (operation : AsyncOperation) (targetId : U32)
    (queue : Except Errno Unit) : Except Errno U64 × AsyncRequest :=
  if operation = .none then (.error EINVAL, r)
  else if asyncBusy r then (.error EBUSY, r)
  else
    let id := asyncNextId r
    let submitted : AsyncRequest :=
      { state := .pending
        operation := operation
        requestId := id
        nextRequestId := id
        targetId := targetId
        status := .error EINPROGRESS }
    match queue with
    | .ok () => (.ok id, submitted)
    | .error e =>
      (.error (transportError e),
        { submitted with status := .error (transportError e), state := .done })

lemma asyncSubmit_busy {r : AsyncRequest} (h : asyncBusy r = true) (operation : AsyncOperation)
    (targetId : U32) (queue : Except Errno Unit) :
    ∃ e, asyncSubmit r operation targetId queue = (.error e, r) := by
  unfold asyncSubmit
  split_ifs
  all_goals exact ⟨_, rfl⟩

/-- What a submit does: nothing, or the slot holds the request, or holds it as failed. -/
lemma asyncSubmit_effect (r : AsyncRequest) (operation : AsyncOperation) (targetId : U32)
    (queue : Except Errno Unit) :
    (asyncSubmit r operation targetId queue).2 = r ∨
      asyncBusy r = false ∧ ((asyncSubmit r operation targetId queue).2.state = .done ∧
          (∃ e, (asyncSubmit r operation targetId queue).1 = .error e) ∨
        (asyncSubmit r operation targetId queue).2.state = .pending ∧
          (asyncSubmit r operation targetId queue).2.operation = operation ∧
          (asyncSubmit r operation targetId queue).2.targetId = targetId) := by
  unfold asyncSubmit
  split_ifs with hnone hbusy
  · exact .inl rfl
  · exact .inl rfl
  · refine .inr ⟨by simpa using hbusy, ?_⟩
    cases queue with
    | ok _ => exact .inr ⟨rfl, rfl, rfl⟩
    | error e => exact .inl ⟨rfl, _, rfl⟩

/-! ## The module -/

/-- What `spz_module_core_init` is given and nothing changes afterwards. -/
structure Config where
  ops : DebugOps
  cpuCount : ℕ
  cpuCount_pos : 0 < cpuCount
  cpuCount_le : cpuCount ≤ maxCpus

/-- `struct spz_module_state`, and the debug registers of the CPUs. -/
structure ModuleState where
  binding : Binding := {}
  debug : ℕ → CpuState := fun _ => {}
  regs : ℕ → Regs
  ring : Ring := ringInit
  maps : Maps
  breakpoint : DebugRequest := {}
  async : AsyncRequest := {}
  breakpointConfigured : Bool := false
  breakpointEnabled : Bool := false
  acceptingCommands : Bool := true
  bindingCounter : U32 := 0
  auditEvents : U32 := 0

/-- `spz_module_core_init`, for the given hardware and maps backend. -/
def moduleInit (regs : ℕ → Regs) (backend : MapsBackend) : ModuleState :=
  { regs := regs, maps := mapsInit backend }

namespace ModuleState

/-- The controller's view of one CPU at the start of a call. -/
def onCpu (m : ModuleState) (cpu : ℕ) : CpuDebug := ⟨m.debug cpu, m.regs cpu, []⟩

/-- Put back one CPU after a call. -/
def withCpu (m : ModuleState) (cpu : ℕ) (s : CpuDebug) : ModuleState :=
  { m with
    debug := Function.update m.debug cpu s.cpu
    regs := Function.update m.regs cpu s.regs }

def runDebug {α : Type} (m : ModuleState) (cpu : ℕ) (program : Ctl α) (φ : Oracle Errno) :
    Except Errno α × ModuleState :=
  let out := program.exec φ (m.onCpu cpu)
  (out.1, m.withCpu cpu out.2)

variable {m : ModuleState} {cpu i : ℕ} {s : CpuDebug}

@[simp] lemma withCpu_debug_self : (m.withCpu cpu s).debug cpu = s.cpu :=
  Function.update_self ..

@[simp] lemma withCpu_regs_self : (m.withCpu cpu s).regs cpu = s.regs :=
  Function.update_self ..

lemma withCpu_debug_of_ne (h : i ≠ cpu) : (m.withCpu cpu s).debug i = m.debug i :=
  Function.update_of_ne h ..

lemma withCpu_regs_of_ne (h : i ≠ cpu) : (m.withCpu cpu s).regs i = m.regs i :=
  Function.update_of_ne h ..

@[simp] lemma withCpu_onCpu : m.withCpu cpu (m.onCpu cpu) = m := by
  simp [withCpu, onCpu]

end ModuleState

def AllDebugEmpty (cfg : Config) (m : ModuleState) : Prop :=
  ∀ cpu < cfg.cpuCount, (m.debug cpu).state = .empty

instance (cfg : Config) (m : ModuleState) : Decidable (AllDebugEmpty cfg m) :=
  inferInstanceAs (Decidable (∀ cpu < cfg.cpuCount, _))

/-- A CPU at which the hardware is set up for the target. -/
def DebugState.Active (d : DebugState) : Prop := d = .armed ∨ d = .stepPending
deriving Decidable

end Spz
