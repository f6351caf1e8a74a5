import Stackplz.Debug.Registers
import Stackplz.Debug.Request

/-!
# The debug-slot controller

`core/debug.c`, function by function, on one CPU.  A function of the source that returns an error
number fails here with it, and one that returns a `spz_debug_result` returns it.  The argument
checks for null pointers and for `cpu >= cpu_count` have no counterpart: the CPU is the one whose
`CpuDebug` the program runs on.  `ops.barrier` orders the register writes for the hardware and
changes nothing, so it is left out.

The exception frame is the caller's copy.  The only caller writes it back exactly when the result
is `consumed` or `forwardOriginal`, so it is part of a result and not of a failure.
-/

namespace Spz

open Fallible Errno

/-! ## The state record -/

/-- The successor of a transition count; 0 is skipped. -/
def nextTransition (t : U64) : U64 := if t + 1 = 0 then 1 else t + 1

def debugTransition (next : DebugState) (st : CpuState) : CpuState :=
  { st with transition := nextTransition st.transition, state := next }

def debugResetState (st : CpuState) : CpuState :=
  { transition := nextTransition st.transition, state := .empty }

/-- The failure paths that leave the slot to nobody. -/
def quarantine : Ctl Unit := modifyCpu (debugTransition .quarantined)

def debugValidTarget (target : DebugTarget) : Bool :=
  target.bindingId != 0 && target.identity.generation != 0 &&
    (target.identity.pid != 0 || target.identity.tgid != 0)

def debugTargetMatches (expected current : DebugTarget) : Bool :=
  expected.bindingId == current.bindingId &&
    expected.identity.generation == current.identity.generation &&
    expected.identity.pid == current.identity.pid &&
    expected.identity.tgid == current.identity.tgid &&
    expected.identity.startTime == current.identity.startTime &&
    expected.identity.startBootTime == current.identity.startBootTime

def debugSlotCount (ops : DebugOps) (kind : SlotKind) : ℕ :=
  if kind = .breakpoint then ops.brpCount else ops.wrpCount

/-! ## Reading the hardware -/

/-- The loop of `spz_debug_find_slot`, from the given slot count downwards. -/
def debugFindSlotBelow (kind : SlotKind) : ℕ → Ctl (ℕ × U64 × U32)
  | 0 => fail EBUSY
  | index + 1 => do
    let owner ← readOwner kind index
    let control ← readControl kind index
    if (owner == 0) != (control &&& ctrlEnable == 0) then fail EBUSY
    else if owner ≠ 0 then debugFindSlotBelow kind index
    else do
      let value ← readValue kind index
      pure (index, value, control)

/-- `spz_debug_find_slot`: the highest slot that is neither owned nor enabled. -/
def debugFindSlot (ops : DebugOps) (kind : SlotKind) : Ctl (ℕ × U64 × U32) :=
  debugFindSlotBelow kind (debugSlotCount ops kind)

/-- `spz_debug_live_image`: owner, value and control of the slot in the record. -/
def debugLiveImage (st : CpuState) : Ctl (U64 × U64 × U32) := do
  let owner ← readOwner st.kind st.slot
  let value ← readValue st.kind st.slot
  let control ← readControl st.kind st.slot
  pure (owner, value, control)

/-- The test `spz_debug_restore_cpu`, `spz_debug_handle_hit` and `spz_debug_handle_step` make before
they touch the slot: if it is owned, or does not hold the programmed value and `control`, the CPU is
quarantined.  Otherwise the value and control read. -/
def debugCheckImage (st : CpuState) (control : U32) : Ctl (U64 × U32) := do
  let (owner, liveValue, liveControl) ← debugLiveImage st
  if owner ≠ 0 ∨ liveValue ≠ st.programmedValue ∨ liveControl ≠ control then do
    quarantine
    fail EUCLEAN
  else pure (liveValue, liveControl)

/-- The loop of `spz_debug_other_state_requires_mde` over the given slots. -/
def debugAnyRequiresMde (owned : CpuState) : List (SlotKind × ℕ) → Ctl Bool
  | [] => pure false
  | (kind, slot) :: rest =>
    if kind = owned.kind ∧ slot = owned.slot then debugAnyRequiresMde owned rest
    else do
      match ← attempt (readOwner kind slot) with
      | .error _ => pure true
      | .ok owner =>
        match ← attempt (readControl kind slot) with
        | .error _ => pure true
        | .ok control =>
          if owner ≠ 0 ∨ control &&& ctrlEnable ≠ 0 then pure true
          else debugAnyRequiresMde owned rest

/-- The slots of a CPU in the order the source visits them. -/
def debugSlots (ops : DebugOps) : List (SlotKind × ℕ) :=
  (List.range ops.brpCount).map (fun slot => (.breakpoint, slot)) ++
    (List.range ops.wrpCount).map fun slot => (.watchpoint, slot)

def debugOtherStateRequiresMde (ops : DebugOps) (owned : CpuState) : Ctl Bool :=
  debugAnyRequiresMde owned (debugSlots ops)

/-! ## Arming -/

def debugRollbackArm : Ctl Unit := do
  let s ← get
  let st := s.cpu
  let (owner, liveValue, liveControl) ←
    (debugLiveImage st).onFail quarantine fun _ => EUCLEAN
  if owner ≠ 0 ∨ liveValue ≠ st.programmedValue ∨
      (liveControl ≠ st.programmedControl ∧ liveControl ≠ st.savedControl) then do
    quarantine
    fail EUCLEAN
  else do
    onlyIf (liveControl = st.programmedControl)
      ((writeControl st.kind st.slot st.savedControl).onFail quarantine fun _ => EIO)
    (writeValue st.kind st.slot st.savedValue).onFail quarantine fun _ => EIO
    modifyCpu debugResetState

/-- The record `spz_debug_arm_current` fills in before its first write. -/
def armedRecord (request : DebugRequest) (target : DebugTarget) (enc : Encoding) (slot : ℕ)
    (savedValue : U64) (savedControl : U32) (savedMdscr : U64) (st : CpuState) : CpuState :=
  { transition := st.transition
    kind := requestSlotKind request
    slot := slot
    savedValue := savedValue
    savedControl := savedControl
    savedMdscr := savedMdscr
    programmedValue := enc.value
    programmedControl := enc.control
    disabledControl := enc.control &&& ~~~ctrlEnable
    addedMde := savedMdscr &&& mdscrMDE == 0
    request := request
    target := target }

/-- The writes of `spz_debug_arm_current`, with the way back when one fails. -/
def debugProgramSlot (enc : Encoding) (kind : SlotKind) (slot : ℕ) (savedMdscr : U64) :
    Ctl Unit := do
  (writeValue kind slot enc.value).onFail (modifyCpu debugResetState) id
  (writeControl kind slot enc.control).onFail debugRollbackArm id
  onlyIf (savedMdscr &&& mdscrMDE = 0)
    ((writeMdscr (savedMdscr ||| mdscrMDE)).onFail debugRollbackArm id)
  modifyCpu (debugTransition .armed)

def debugArmCurrent (ops : DebugOps) (request : DebugRequest) (target : DebugTarget) :
    Ctl Unit := do
  if !debugValidTarget target then fail EINVAL
  else do
    let s ← get
    if s.cpu.state ≠ .empty then fail EBUSY
    else
      match debugValidateRequest request with
      | .error e => fail e
      | .ok enc => do
        let (slot, savedValue, savedControl) ← debugFindSlot ops (requestSlotKind request)
        let savedMdscr ← readMdscr
        modifyCpu fun st => debugTransition .snapshotted
          (armedRecord request target enc slot savedValue savedControl savedMdscr st)
        debugProgramSlot enc (requestSlotKind request) slot savedMdscr

/-! ## Restoring -/

/-- The control word a live slot must hold in a state. -/
def expectedControl (st : CpuState) : U32 :=
  if st.state = .snapshotted then st.savedControl
  else if st.state = .armed then st.programmedControl
  else st.disabledControl

/-- `MDSCR` without the SS bit, if the controller set it. -/
def withoutAddedSs (st : CpuState) (mdscr : U64) : U64 :=
  if st.addedMdscrSs then mdscr &&& ~~~mdscrSS else mdscr

/-- The `MDSCR` value `spz_debug_restore_cpu` wants. -/
def restoredMdscr (st : CpuState) (mdscr : U64) (keepMde : Bool) : U64 :=
  if keepMde then withoutAddedSs st mdscr else withoutAddedSs st mdscr &&& ~~~mdscrMDE

section

variable (ops : DebugOps) (st : CpuState)

/-- Whether `spz_debug_restore_cpu` has to leave MDE set. -/
def debugKeepMde : Ctl Bool :=
  if st.addedMde then debugOtherStateRequiresMde ops st else pure true

/-- `spz_debug_restore_cpu` once the slot is disabled: put the saved registers back. -/
def debugPutBack (mdscr : U64) : Ctl Unit := do
  (writeValue st.kind st.slot st.savedValue).onFail quarantine id
  (writeControl st.kind st.slot st.savedControl).onFail quarantine id
  let keepMde ← debugKeepMde ops st
  let restored := restoredMdscr st mdscr keepMde
  onlyIf (restored ≠ mdscr) ((writeMdscr restored).onFail quarantine id)
  modifyCpu debugResetState

/-- The writes of `spz_debug_restore_cpu`; a failure anywhere quarantines the slot. -/
def debugRestoreSlot (liveControl : U32) (mdscr : U64) :
    Ctl Unit := do
  onlyIf (liveControl &&& ctrlEnable ≠ 0)
    ((writeControl st.kind st.slot st.disabledControl).onFail quarantine id)
  debugPutBack ops st mdscr

end

def debugRestoreCpu (ops : DebugOps) : Ctl Unit := do
  let s ← get
  let st := s.cpu
  if st.state = .empty then pure ()
  else if st.state = .quarantined then fail EUCLEAN
  else do
    let (_, liveControl) ← debugCheckImage st (expectedControl st)
    let mdscr ← readMdscr
    modifyCpu (debugTransition .restoring)
    debugRestoreSlot ops st liveControl mdscr

/-! ## Hits and steps -/

def slotKindNumber : SlotKind → U16
  | .unset => 0
  | .breakpoint => 1
  | .watchpoint => 2

def debugFillEvent (st : CpuState) (frame : DebugFrame) (observedAddress liveValue : U64)
    (liveControl : U32) (mdscr : U64) : Event :=
  { type := if st.kind = .breakpoint then .breakpoint else .watchpoint
    bindingId := st.target.bindingId
    breakpointId := st.request.id
    generation := st.target.identity.generation
    taskCookie := st.target.identity.taskCookie
    pid := st.target.identity.pid
    tgid := st.target.identity.tgid
    uid := st.target.identity.uid
    startTime := st.target.identity.startTime
    startBootTime := st.target.identity.startBootTime
    comm := st.target.identity.comm
    exceptionClass := ((frame.esr >>> 26) &&& 0x3f).setWidth 32
    slotKind := slotKindNumber st.kind
    slotIndex := BitVec.ofNat 16 st.slot
    requestedAddress := st.request.address
    observedAddress := observedAddress
    value := liveValue
    control := st.programmedControl
    observedControl := liveControl
    mdscr := mdscr
    x := frame.x
    sp := frame.sp
    pc := frame.pc
    pstate := frame.pstate }

/-- The hit ends the request: it was for one hit, or the watchpoint was hit in the kernel. -/
def endsRequest (st : CpuState) (frame : DebugFrame) : Prop :=
  st.request.mode = .once ∨ (st.kind = .watchpoint ∧ frame.kernelMode = true)
deriving Decidable

/-- The bookkeeping of a step: which SS bits the controller adds, and whether somebody else was
stepping already. -/
def noteStep (mdscr pstate : U64) (st : CpuState) : CpuState :=
  { st with
    addedMdscrSs := mdscr &&& mdscrSS == 0
    addedPstateSs := pstate &&& pstateSS == 0
    forwardSingleStep := !(mdscr &&& mdscrSS == 0) || !(pstate &&& pstateSS == 0) }

/-- The part of `spz_debug_handle_hit` after the slot has been disabled: a hit that ends the
request is done, any other is stepped over. -/
def debugAfterHit (st : CpuState) (frame : DebugFrame) (event : Event) (mdscr : U64) :
    Ctl (DebugResult × DebugFrame × Event) := do
  if endsRequest st frame then do
    modifyCpu (debugTransition .oneShotDone)
    pure (.consumed, frame,
      if frame.kernelMode then { event with flags := event.flags ||| flagKernelUaccess }
      else event)
  else do
    modifyCpu (noteStep mdscr frame.pstate)
    onlyIf (mdscr ||| mdscrSS ≠ mdscr)
      ((writeMdscr (mdscr ||| mdscrSS)).onFail quarantine id)
    modifyCpu (debugTransition .stepPending)
    pure (.consumed, { frame with pstate := frame.pstate ||| pstateSS }, event)

def debugHandleHit (current : DebugTarget) (frame : DebugFrame) (observedAddress : U64)
    (event : Event) : Ctl (DebugResult × DebugFrame × Event) := do
  let s ← get
  let st := s.cpu
  if !debugTargetMatches st.target current then pure (.notOwned, frame, event)
  else do
    let (liveValue, liveControl) ← debugCheckImage st st.programmedControl
    let mdscr ← readMdscr
    let filled := debugFillEvent st frame observedAddress liveValue liveControl mdscr
    (writeControl st.kind st.slot st.disabledControl).onFail quarantine id
    modifyCpu (debugTransition .hitDisabled)
    debugAfterHit st frame filled mdscr

def debugHandleBreak (current : DebugTarget) (frame : DebugFrame) (event : Event) :
    Ctl (DebugResult × DebugFrame × Event) := do
  let s ← get
  if s.cpu.state ≠ .armed ∨ s.cpu.kind ≠ .breakpoint ∨ frame.pc ≠ s.cpu.request.address then
    pure (.notOwned, frame, event)
  else debugHandleHit current frame frame.pc event

/-- The range and direction test of `spz_debug_handle_watch`. -/
def watchConcerns (request : DebugRequest) (frame : DebugFrame) : Bool :=
  let last := request.address + request.length.setWidth 64
  let isWrite := frame.esr &&& esrWNR != 0
  !(frame.far < request.address || frame.far ≥ last) &&
    !((request.kind == .read && isWrite) || (request.kind == .write && !isWrite))

def debugHandleWatch (current : DebugTarget) (frame : DebugFrame) (event : Event) :
    Ctl (DebugResult × DebugFrame × Event) := do
  let s ← get
  if s.cpu.state ≠ .armed ∨ s.cpu.kind ≠ .watchpoint then pure (.notOwned, frame, event)
  else if !watchConcerns s.cpu.request frame then pure (.notOwned, frame, event)
  else debugHandleHit current frame frame.far event

/-- The bookkeeping of a step is dropped once the step is over. -/
def forgetStep (st : CpuState) : CpuState :=
  { st with addedMdscrSs := false, addedPstateSs := false, forwardSingleStep := false }

def debugHandleStep (current : DebugTarget) (frame : DebugFrame) :
    Ctl (DebugResult × DebugFrame) := do
  let s ← get
  let st := s.cpu
  if st.state ≠ .stepPending ∨ !debugTargetMatches st.target current then
    pure (.notOwned, frame)
  else do
    let _ ← debugCheckImage st st.disabledControl
    let mdscr ← readMdscr
    let restored := withoutAddedSs st mdscr
    onlyIf (restored ≠ mdscr) ((writeMdscr restored).onFail quarantine id)
    (writeControl st.kind st.slot st.programmedControl).onFail quarantine id
    modifyCpu fun c => debugTransition .armed (forgetStep c)
    pure (if st.forwardSingleStep then .forwardOriginal else .consumed,
      if st.addedPstateSs then { frame with pstate := frame.pstate &&& ~~~pstateSS } else frame)

/-! ## The entry points as one type of calls -/

/-- The calls other code makes into the controller for a CPU. -/
inductive Call
  | armCurrent (request : DebugRequest) (target : DebugTarget)
  | restoreCpu
  | handleBreak (current : DebugTarget) (frame : DebugFrame)
  | handleWatch (current : DebugTarget) (frame : DebugFrame)
  | handleStep (current : DebugTarget) (frame : DebugFrame)

/-- The program a call runs; only how it ends matters to a sequence of calls. -/
def Call.body (ops : DebugOps) : Call → Ctl Unit
  | .armCurrent request target => debugArmCurrent ops request target
  | .restoreCpu => debugRestoreCpu ops
  | .handleBreak current frame => debugHandleBreak current frame {} >>= fun _ => pure ()
  | .handleWatch current frame => debugHandleWatch current frame {} >>= fun _ => pure ()
  | .handleStep current frame => debugHandleStep current frame >>= fun _ => pure ()

/-- Make a call: the list of issued writes starts empty. -/
def Call.exec (ops : DebugOps) (call : Call) (φ : Oracle Errno) (s : CpuDebug) :
    Except Errno Unit × CpuDebug :=
  (call.body ops).exec φ { s with writes := [] }

end Spz
