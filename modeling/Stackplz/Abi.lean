import Mathlib.Algebra.Group.Int.Defs
import Mathlib.Algebra.Group.Nat.Defs
import Mathlib.Tactic.Common

/-!
# The wire ABI and the shared vocabulary

The fixed-width types, error numbers, enumerations and records of `abi.h`, `core.h`, `task.h` and
`debug.h`.  Machine integers are bit vectors, so every wrap-around and every mask means here what
it means in the source.  A record's default value is the all-zero record that `memset` leaves.
-/

namespace Spz

abbrev U8 := BitVec 8
abbrev U16 := BitVec 16
abbrev U32 := BitVec 32
abbrev U64 := BitVec 64

/-! ## Counters

A 64-bit counter is the number it stands for until it wraps around.
-/

variable {word : U64}

lemma toNat_add_one_lt (hlast : word ≠ BitVec.allOnes 64) : word.toNat + 1 < 2 ^ 64 := by
  have hlt := word.isLt
  have hne : word.toNat ≠ 2 ^ 64 - 1 := fun heq => hlast (by
    rw [← BitVec.toNat_inj, heq, BitVec.toNat_allOnes])
  omega

lemma ofNat_toNat_add_one (word : U64) : BitVec.ofNat 64 (word.toNat + 1) = word + 1 := by
  rw [← BitVec.toNat_inj, BitVec.toNat_add, BitVec.toNat_ofNat]
  rfl

lemma toNat_add_one (h : word ≠ BitVec.allOnes 64) : (word + 1).toNat = word.toNat + 1 := by
  rw [← ofNat_toNat_add_one, BitVec.toNat_ofNat, Nat.mod_eq_of_lt (toNat_add_one_lt h)]

lemma add_one_ne_zero_of_ne (h : word ≠ BitVec.allOnes 64) : word + 1 ≠ 0 := by
  intro hzero
  have := congrArg BitVec.toNat hzero
  rw [toNat_add_one h] at this
  exact Nat.succ_ne_zero _ this

/-! ## Error numbers -/

/-- A nonzero `int` result.  Functions of the source return 0 or a small result on success and one
of these on failure; the register operations may return any nonzero code. -/
structure Errno where
  code : Int
  code_ne_zero : code ≠ 0
  code_int : -2 ^ 31 ≤ code ∧ code < 2 ^ 31
deriving DecidableEq, Repr

namespace Errno

def ENOENT : Errno := ⟨-2, by decide, by decide⟩
def ESRCH : Errno := ⟨-3, by decide, by decide⟩
def EINTR : Errno := ⟨-4, by decide, by decide⟩
def EIO : Errno := ⟨-5, by decide, by decide⟩
def E2BIG : Errno := ⟨-7, by decide, by decide⟩
def EAGAIN : Errno := ⟨-11, by decide, by decide⟩
def ENOMEM : Errno := ⟨-12, by decide, by decide⟩
def EFAULT : Errno := ⟨-14, by decide, by decide⟩
def EBUSY : Errno := ⟨-16, by decide, by decide⟩
def EINVAL : Errno := ⟨-22, by decide, by decide⟩
def ENOSPC : Errno := ⟨-28, by decide, by decide⟩
def ERANGE : Errno := ⟨-34, by decide, by decide⟩
def EOVERFLOW : Errno := ⟨-75, by decide, by decide⟩
def EOPNOTSUPP : Errno := ⟨-95, by decide, by decide⟩
def EINPROGRESS : Errno := ⟨-115, by decide, by decide⟩
def ESTALE : Errno := ⟨-116, by decide, by decide⟩
def EUCLEAN : Errno := ⟨-117, by decide, by decide⟩

end Errno

/-! ## Limits -/

def maxCpus : ℕ := 8

def ringCapacity : ℕ := 64

def commLen : ℕ := 16

def debugMaxSlots : ℕ := 16

/-- A task name as the kernel stores it. -/
abbrev Comm := Vector U8 16

/-! ## Enumerations -/

inductive EventType
  | none | breakpoint | watchpoint | integrity | loss | task
deriving DecidableEq, Repr

inductive BindMode
  | invalid | pid | tgid | either
deriving DecidableEq, Repr

inductive BreakKind
  | invalid | execute | read | write | readWrite
deriving DecidableEq, Repr

inductive BreakMode
  | invalid | once | repeat
deriving DecidableEq, Repr

/-- `enum spz_debug_slot_kind`; `unset` is the value 0 a zeroed record holds. -/
inductive SlotKind
  | unset | breakpoint | watchpoint
deriving DecidableEq, Repr

inductive DebugState
  | empty | snapshotted | armed | hitDisabled | stepPending | oneShotDone | restoring | quarantined
deriving DecidableEq, Repr

/-- `enum spz_debug_result`: what a handler that did not fail returns. -/
inductive DebugResult
  | notOwned | consumed | forwardOriginal
deriving DecidableEq, Repr

inductive ExceptionKind
  | breakpoint | watchpoint | singleStep
deriving DecidableEq, Repr

/-! ## Bits -/

/-- `SPZ_DEBUG_CTRL_ENABLE`. -/
def ctrlEnable : U32 := 1#32

def mdscrSS : U64 := 1#64 <<< 0

def mdscrMDE : U64 := 1#64 <<< 15

def pstateSS : U64 := 1#64 <<< 21

def esrWNR : U64 := 1#64 <<< 6

/-- `SPZ_EVENT_FLAG_KERNEL_UACCESS`. -/
def flagKernelUaccess : U16 := 0x0001#16

/-- `SPZ_EVENT_FLAG_INTERFERENCE`. -/
def flagInterference : U16 := 0x0002#16

/-! ## Records -/

structure TaskIdentity where
  generation : U64 := 0
  taskCookie : U64 := 0
  pid : U32 := 0
  tgid : U32 := 0
  uid : U32 := 0
  startTime : U64 := 0
  startBootTime : U64 := 0
  comm : Comm := Vector.replicate 16 0
deriving DecidableEq, Repr

structure DebugRequest where
  id : U32 := 0
  kind : BreakKind := .invalid
  address : U64 := 0
  length : U8 := 0
  mode : BreakMode := .invalid
deriving DecidableEq, Repr

structure DebugTarget where
  bindingId : U32 := 0
  identity : TaskIdentity := {}
deriving DecidableEq, Repr

/-- `struct spz_debug_frame`: the saved user registers of an exception. -/
structure DebugFrame where
  x : Vector U64 31 := Vector.replicate 31 0
  sp : U64 := 0
  pc : U64 := 0
  pstate : U64 := 0
  esr : U64 := 0
  far : U64 := 0
  kernelMode : Bool := false
deriving DecidableEq, Repr

/-- `struct spz_event`, with `struct spz_registers` flattened into it. -/
structure Event where
  magic : U32 := 0
  version : U16 := 0
  size : U16 := 0
  type : EventType := .none
  flags : U16 := 0
  cpu : U32 := 0
  sequence : U64 := 0
  timestamp : U64 := 0
  bindingId : U32 := 0
  breakpointId : U32 := 0
  generation : U64 := 0
  taskCookie : U64 := 0
  pid : U32 := 0
  tgid : U32 := 0
  uid : U32 := 0
  reserved0 : U32 := 0
  startTime : U64 := 0
  startBootTime : U64 := 0
  comm : Comm := Vector.replicate 16 0
  exceptionClass : U32 := 0
  slotKind : U16 := 0
  slotIndex : U16 := 0
  requestedAddress : U64 := 0
  observedAddress : U64 := 0
  value : U64 := 0
  control : U32 := 0
  observedControl : U32 := 0
  mdscr : U64 := 0
  x : Vector U64 31 := Vector.replicate 31 0
  sp : U64 := 0
  pc : U64 := 0
  pstate : U64 := 0
  reserved1 : U32 := 0
  crc32 : U32 := 0
deriving DecidableEq

end Spz
