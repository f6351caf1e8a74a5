import Stackplz.Lib.Threads
import Stackplz.Module.System

/-!
# The exit gate

Two words decide what runs in the module.  `active_handlers` counts the handlers inside in its low
31 bits, `control_busy` says whether a command is being executed, and the top bit of either closes
the gate.  `spz_module_begin_exit` closes both and then looks whether the module is at rest;
`spz_module_abort_exit` opens them again.

Here every atomic load, store and read-modify-write of these words is a step of its own, and so is
every load of `spz_module_can_exit`.  Handlers, commands and exit calls are pools of threads of any
size.  What a handler does once it is inside, what a command does, and the steps of the worker are
those of the other modules.  `ready` is set throughout, as it is once the module is initialised.
-/

namespace Spz

open Fallible Errno Transition Threads BitVec

def gateClosed : U32 := 0x80000000#32

def gateCountMask : U32 := 0x7fffffff#32

/-! ## Handlers -/

/-- What a handler does between entering and leaving. -/
inductive HookCall
  | finishBefore (cpu : ℕ) (env : HookEnv)
  | finishAfter (cpu : ℕ) (task : KernelTask) (env : HookEnv)
  | exitBefore (task : KernelTask)
  | exception (cpu : ℕ) (task : KernelTask) (kind : ExceptionKind) (fargs : HookFargs)
      (env : HookEnv)

def HookCall.run (cfg : Config) (m : ModuleState) : HookCall → ModuleState
  | .finishBefore cpu env => Spz.finishBefore cfg m cpu env
  | .finishAfter cpu task env => Spz.finishAfter cfg m cpu task env
  | .exitBefore task => Spz.exitBefore m task
  | .exception cpu task kind fargs env => (exceptionInside cfg m cpu task kind fargs env).2

/-- Where a handler stands: outside, in the loop of `spz_handler_enter` with the value it has
loaded, or inside. -/
inductive HandlerPc
  | outside
  | entering (observed : U32)
  | inside
deriving DecidableEq

def HandlerPc.isInside : HandlerPc → Bool
  | .inside => true
  | _ => false

/-! ## Commands -/

/-- Where a call of `spz_control_execute` stands: outside, holding `control_busy`, or about to
release it. -/
inductive CommandPc
  | outside
  | inside
  | executed
deriving DecidableEq

def CommandPc.isInside : CommandPc → Bool
  | .outside => false
  | _ => true

/-! ## Exit calls -/

/-- The loads of `spz_module_can_exit`, with what has been loaded and is still to be looked at. -/
inductive CheckPc
  | loadHandlers
  | loadControl (handlers : U32)
  | loadAsync (handlers control : U32)
  | loadEnabled
  | loadConfigured
  | loadDebug (cpu : ℕ)
  | loadBinding
  | loadMaps (binding : BindingState)
deriving DecidableEq

/-- Where an exit call stands, by what it does next.  `result` is what `spz_module_begin_exit` will
return after `spz_module_abort_exit`; it is `none` when the latter was called from outside. -/
inductive ExitPc
  | idle
  | stopCommands
  | closeControl
  | reopen
  | closeHandlers
  | check (pc : CheckPc)
  | quiesce
  | abortHandlers (result : Option Errno)
  | abortControl (result : Option Errno)
  | abortAccept (result : Option Errno)
  /-- `spz_module_begin_exit` has returned. -/
  | returned (result : Except Errno Unit)
deriving DecidableEq

/-- No call is being executed. -/
def ExitPc.atRest : ExitPc → Bool
  | .idle => true
  | .returned _ => true
  | _ => false

/-- The call has closed the control gate and not opened it again. -/
def ExitPc.holds : ExitPc → Bool
  | .closeHandlers => true
  | .check _ => true
  | .quiesce => true
  | .abortHandlers _ => true
  | .abortControl _ => true
  | _ => false

/-- The call is about to store 0 in `active_handlers`. -/
def ExitPc.aborting : ExitPc → Bool
  | .abortHandlers _ => true
  | _ => false

/-! ## The system -/

/-- The module with its gate words and the threads around it.  `inForce` is for the statements only:
some `spz_module_begin_exit` has returned 0, and `spz_module_abort_exit` has not been called
since. -/
structure GateState where
  m : ModuleState
  current : ℕ → KernelTask
  exec : Option ExecPc := none
  activeHandlers : U32 := 0
  controlBusy : U32 := 0
  handlers : List HandlerPc
  commands : List CommandPc
  exits : List ExitPc
  inForce : Bool := false

def GateState.insideCount (s : GateState) : ℕ := s.handlers.countP HandlerPc.isInside

def GateState.commandCount (s : GateState) : ℕ := s.commands.countP CommandPc.isInside

/-- What can happen; the number is the thread's. -/
inductive GateAction
  /-- The load of `spz_handler_enter`. -/
  | handlerLoad (i : ℕ)
  /-- The compare-and-exchange of `spz_handler_enter`, after its tests. -/
  | handlerTry (i : ℕ)
  | handlerCall (i : ℕ) (call : HookCall)
  | handlerLeave (i : ℕ)
  | commandEnter (i : ℕ)
  | commandDispatch (i : ℕ) (command : Command) (env : ControlEnv)
  | commandLeave (i : ℕ)
  | workerStart
  | workerStep (input : ExecInput)
  | workerFinish
  /-- Other tasks run. -/
  | schedule (current : ℕ → KernelTask)
  /-- `spz_module_begin_exit` is called. -/
  | beginExit (i : ℕ)
  /-- `spz_module_abort_exit` is called from outside. -/
  | abortExit (i : ℕ)
  /-- An exit call goes on; `quiesced` is what the backend answers if it is asked. -/
  | exitStep (i : ℕ) (quiesced : Except Errno Unit)

/-- A handler after the tests of `spz_handler_enter`. -/
def handlerTry (s : GateState) (i : ℕ) (observed : U32) : GateState :=
  if observed &&& gateClosed ≠ 0 ∨ observed &&& gateCountMask = gateCountMask then
    { s with handlers := s.handlers.set i .outside }
  else if s.activeHandlers = observed then
    { s with activeHandlers := observed + 1, handlers := s.handlers.set i .inside }
  else { s with handlers := s.handlers.set i (.entering s.activeHandlers) }

section

variable (cfg : Config) (s : GateState)

/-- One load of `spz_module_can_exit`. -/
def checkStep : CheckPc → ExitPc
  | .loadHandlers => .check (.loadControl s.activeHandlers)
  | .loadControl handlers => .check (.loadAsync handlers s.controlBusy)
  | .loadAsync handlers control =>
    if asyncBusy s.m.async = true ∨ handlers &&& gateCountMask ≠ 0 ∨
        control &&& gateCountMask ≠ 0 then
      .abortHandlers (some EBUSY)
    else .check .loadEnabled
  | .loadEnabled =>
    if s.m.breakpointEnabled then .abortHandlers (some EBUSY) else .check .loadConfigured
  | .loadConfigured =>
    if s.m.breakpointConfigured then .abortHandlers (some EBUSY) else .check (.loadDebug 0)
  | .loadDebug cpu =>
    if cpu ≥ cfg.cpuCount then .check .loadBinding
    else if (s.m.debug cpu).state = .empty then .check (.loadDebug (cpu + 1))
    else .abortHandlers (some EBUSY)
  | .loadBinding => .check (.loadMaps s.m.binding.state)
  | .loadMaps binding =>
    if s.m.maps.state ≠ .unsupported ∧ s.m.maps.state ≠ .empty then .abortHandlers (some EBUSY)
    else if binding = .empty then .quiesce
    else .abortHandlers (some EBUSY)

/-- One step of an exit call; `none` where no call is being executed. -/
def exitNext (i : ℕ) (quiesced : Except Errno Unit) :
    ExitPc → Option GateState
  | .idle => none
  | .returned _ => none
  | .stopCommands =>
    some { s with
      m := { s.m with acceptingCommands := false }
      exits := s.exits.set i .closeControl }
  | .closeControl =>
    if s.controlBusy = 0 then
      some { s with controlBusy := gateClosed, exits := s.exits.set i .closeHandlers }
    else some { s with exits := s.exits.set i .reopen }
  | .reopen =>
    some { s with
      m := { s.m with acceptingCommands := true }
      exits := s.exits.set i (.returned (.error EBUSY)) }
  | .closeHandlers =>
    if s.activeHandlers = 0 then
      some { s with
        activeHandlers := gateClosed
        exits := s.exits.set i (.check .loadHandlers) }
    else some { s with exits := s.exits.set i (.abortHandlers (some EBUSY)) }
  | .check pc => some { s with exits := s.exits.set i (checkStep cfg s pc) }
  | .quiesce =>
    match quiesced with
    | .ok () => some { s with exits := s.exits.set i (.returned (.ok ())), inForce := true }
    | .error e => some { s with exits := s.exits.set i (.abortHandlers (some e)) }
  | .abortHandlers result =>
    some { s with activeHandlers := 0, exits := s.exits.set i (.abortControl result) }
  | .abortControl result =>
    some { s with controlBusy := 0, exits := s.exits.set i (.abortAccept result) }
  | .abortAccept result =>
    some { s with
      m := { s.m with acceptingCommands := true }
      exits := s.exits.set i (match result with
        | none => .idle
        | some e => .returned (.error e)) }

/-- One action; `none` if it is not possible. -/
def gateNext : GateAction → Option GateState
  | .handlerLoad i =>
    if s.handlers[i]? = some .outside then
      some { s with handlers := s.handlers.set i (.entering s.activeHandlers) }
    else none
  | .handlerTry i =>
    match s.handlers[i]? with
    | some (.entering observed) => some (handlerTry s i observed)
    | _ => none
  | .handlerCall i call =>
    if s.handlers[i]? = some .inside then some { s with m := call.run cfg s.m } else none
  | .handlerLeave i =>
    if s.handlers[i]? = some .inside then
      some { s with
        activeHandlers := s.activeHandlers - 1
        handlers := s.handlers.set i .outside }
    else none
  | .commandEnter i =>
    if s.commands[i]? = some .outside then
      some (if s.controlBusy = 0 then
        { s with controlBusy := 1, commands := s.commands.set i .inside } else s)
    else none
  | .commandDispatch i command env =>
    if s.commands[i]? = some .inside then
      some { s with
        m := (controlDispatch s.m env command).2
        commands := s.commands.set i .executed }
    else none
  | .commandLeave i =>
    -- a command that cannot be parsed leaves without having done anything
    if s.commands[i]? = some .inside ∨ s.commands[i]? = some .executed then
      some { s with controlBusy := 0, commands := s.commands.set i .outside }
    else none
  | .workerStart =>
    if s.exec.isNone ∧ s.m.async.state = .pending then
      some { s with
        m := { s.m with async := { s.m.async with state := .running } }
        exec := some (.begin s.m.async.operation s.m.async.targetId) }
    else none
  | .workerStep input => s.exec.bind fun pc =>
    (execStep cfg s.current s.m { input with handlersInside := s.activeHandlers != 0 } pc).map
      fun out => { s with exec := some out.1, m := out.2 }
  | .workerFinish =>
    match s.exec with
    | some (.finished _ status) =>
      some { s with
        m := { s.m with async := { s.m.async with status := status, state := .done } }
        exec := none }
    | _ => none
  | .schedule current => some { s with current := current }
  | .beginExit i =>
    if s.exits[i]?.any ExitPc.atRest then some { s with exits := s.exits.set i .stopCommands }
    else none
  | .abortExit i =>
    if s.exits[i]?.any ExitPc.atRest then
      some { s with exits := s.exits.set i (.abortHandlers none), inForce := false }
    else none
  | .exitStep i quiesced => s.exits[i]?.bind (exitNext cfg s i quiesced)

end

/-- A freshly initialised module and any number of threads, all outside. -/
def GateInit (s : GateState) : Prop :=
  (∃ backend, s.m = moduleInit s.m.regs backend) ∧ s.exec = none ∧ s.activeHandlers = 0 ∧
    s.controlBusy = 0 ∧ (∀ pc ∈ s.handlers, pc = .outside) ∧ (∀ pc ∈ s.commands, pc = .outside) ∧
    (∀ pc ∈ s.exits, pc = .idle) ∧ s.inForce = false

def gateSystem (cfg : Config) : System GateState GateAction := .ofStep GateInit (gateNext cfg)

/-! ## The words -/

/-- The word of the handlers while `n` of them are inside: closed, or their number. -/
def GateWord (word : U32) (n : ℕ) : Prop :=
  word = gateClosed ∧ n = 0 ∨ word = BitVec.ofNat 32 n ∧ n < 2 ^ 31

section Word

variable {word : U32} {n : ℕ}

lemma ofNat_ne_gateClosed (hn : n < 2 ^ 31) : BitVec.ofNat 32 n ≠ gateClosed := by
  intro h
  have := congrArg BitVec.toNat h
  rw [BitVec.toNat_ofNat, Nat.mod_eq_of_lt (by omega)] at this
  simp only [gateClosed, toNat_ofNat] at this
  omega

lemma toNat_and_gateCountMask (word : U32) :
    (word &&& gateCountMask).toNat = word.toNat % 2 ^ 31 := by
  rw [show gateCountMask = BitVec.ofNat 32 (2 ^ 31 - 1) from rfl]
  exact Bits.toNat_and_lowMask word (by decide)

lemma GateWord.count (h : GateWord word n) : (word &&& gateCountMask).toNat = n := by
  rw [toNat_and_gateCountMask]
  rcases h with ⟨rfl, rfl⟩ | ⟨rfl, hn⟩
  · decide
  · rw [toNat_ofNat]
    omega

lemma GateWord.eq_ofNat (h : GateWord word n) (hopen : word ≠ gateClosed) :
    word = BitVec.ofNat 32 n ∧ n < 2 ^ 31 :=
  h.resolve_left fun hclosed => hopen hclosed.1

lemma GateWord.ne_gateClosed (h : GateWord word n) (hn : 0 < n) : word ≠ gateClosed := by
  rcases h with ⟨-, rfl⟩ | ⟨rfl, hlt⟩
  · omega
  · exact ofNat_ne_gateClosed hlt

lemma GateWord.of_zero (h : GateWord 0 n) : n = 0 := by
  have := h.count
  simpa using this.symm

lemma GateWord.admits (h : GateWord word n) (hopen : word ≠ gateClosed) (hn : n < 2 ^ 31 - 1) :
    ¬ (word &&& gateClosed ≠ 0 ∨ word &&& gateCountMask = gateCountMask) := by
  obtain ⟨rfl, -⟩ := h.eq_ofNat hopen
  rintro (hclosed | hfull)
  · refine hclosed ?_
    rw [show gateClosed = twoPow 32 31 by decide, and_twoPow, getLsbD_ofNat,
      Nat.testBit_lt_two_pow (by omega)]
    simp
  · have := congrArg BitVec.toNat hfull
    rw [h.count] at this
    simp only [gateCountMask, toNat_ofNat] at this
    omega

lemma GateWord.enter (h : GateWord word n)
    (hpass : ¬ (word &&& gateClosed ≠ 0 ∨ word &&& gateCountMask = gateCountMask)) :
    word ≠ gateClosed ∧ GateWord (word + 1) (n + 1) ∧ word + 1 ≠ gateClosed := by
  have hopen : word ≠ gateClosed := fun hclosed => hpass (.inl (by rw [hclosed]; decide))
  obtain ⟨rfl, hn⟩ := h.eq_ofNat hopen
  have hroom : n + 1 < 2 ^ 31 := by
    by_contra hge
    obtain rfl : n = 2 ^ 31 - 1 := by omega
    exact hpass (.inr (by decide))
  rw [show BitVec.ofNat 32 n + 1 = BitVec.ofNat 32 (n + 1) from (BitVec.ofNat_add n 1).symm]
  exact ⟨hopen, .inr ⟨rfl, hroom⟩, ofNat_ne_gateClosed hroom⟩

/-- A handler that leaves is not counted any more. -/
lemma GateWord.leave (h : GateWord word (n + 1)) :
    GateWord (word - 1) n ∧ word - 1 ≠ gateClosed := by
  obtain ⟨rfl, hn⟩ := h.eq_ofNat (h.ne_gateClosed (by omega))
  have hsub : BitVec.ofNat 32 (n + 1) - 1 = BitVec.ofNat 32 n := by
    rw [BitVec.ofNat_add]
    exact add_sub_cancel _ _
  rw [hsub]
  exact ⟨.inr ⟨rfl, by omega⟩, ofNat_ne_gateClosed (by omega)⟩

end Word

/-- The word of the commands: closed by the one holder of the gate, or the number of commands
being executed, which is 0 or 1. -/
def ControlWord (word : U32) (commands holders : ℕ) : Prop :=
  holders = 1 ∧ word = gateClosed ∧ commands = 0 ∨
    holders = 0 ∧ word = BitVec.ofNat 32 commands ∧ commands ≤ 1

end Spz
