import Stackplz.Abi
import Stackplz.Lib.Fallible

/-!
# The debug registers of one CPU and the operations on them

`struct spz_debug_ops` reaches the hardware through eight function pointers.  Here the hardware is
a register file (`Regs`), and an operation is a `Fallible` step on it: it either succeeds, or
returns a nonzero code and leaves the registers alone.  Which operation of a call fails is up to
the oracle the call is run with.

The state an operation works on, `CpuDebug`, is the controller's record for the CPU together with
that CPU's registers.  A third component is there for the proofs only: the register writes the
current call has issued, each with the slot selected and the registers as they were at that moment,
whether or not the write then succeeded.
-/

namespace Spz

open Fallible

/-- The breakpoint and watchpoint registers of one CPU, `MDSCR_EL1`, and the kernel's per-slot
owner words (`bp_on_reg`, `wp_on_reg`). -/
structure Regs where
  value : SlotKind → ℕ → U64
  control : SlotKind → ℕ → U32
  owner : SlotKind → ℕ → U64
  mdscr : U64

namespace Regs

/-- Registers after a write of `DBGBVR`/`DBGWVR`. -/
def setValue (r : Regs) (kind : SlotKind) (slot : ℕ) (v : U64) : Regs :=
  { r with value := fun k i => if k = kind ∧ i = slot then v else r.value k i }

/-- Registers after a write of `DBGBCR`/`DBGWCR`. -/
def setControl (r : Regs) (kind : SlotKind) (slot : ℕ) (c : U32) : Regs :=
  { r with control := fun k i => if k = kind ∧ i = slot then c else r.control k i }

/-- Registers after a write of `MDSCR_EL1`. -/
def setMdscr (r : Regs) (v : U64) : Regs := { r with mdscr := v }

/-- The slot is in use by someone: it has an owner, or it is enabled. -/
def inUse (r : Regs) (kind : SlotKind) (slot : ℕ) : Prop :=
  r.owner kind slot ≠ 0 ∨ r.control kind slot &&& ctrlEnable ≠ 0
deriving Decidable

variable (r : Regs) (kind k : SlotKind) (slot i : ℕ) (v : U64) (c : U32)

@[simp] lemma setValue_control : (r.setValue kind slot v).control = r.control := rfl
@[simp] lemma setValue_owner : (r.setValue kind slot v).owner = r.owner := rfl
@[simp] lemma setValue_mdscr : (r.setValue kind slot v).mdscr = r.mdscr := rfl
@[simp] lemma setControl_value : (r.setControl kind slot c).value = r.value := rfl
@[simp] lemma setControl_owner : (r.setControl kind slot c).owner = r.owner := rfl
@[simp] lemma setControl_mdscr : (r.setControl kind slot c).mdscr = r.mdscr := rfl
@[simp] lemma setMdscr_value : (r.setMdscr v).value = r.value := rfl
@[simp] lemma setMdscr_control : (r.setMdscr v).control = r.control := rfl
@[simp] lemma setMdscr_owner : (r.setMdscr v).owner = r.owner := rfl
@[simp] lemma setMdscr_mdscr : (r.setMdscr v).mdscr = v := rfl

@[simp] lemma setValue_value_self : (r.setValue kind slot v).value kind slot = v := by
  simp [setValue]

@[simp] lemma setControl_control_self : (r.setControl kind slot c).control kind slot = c := by
  simp [setControl]

lemma setControl_control_of_ne (h : ¬ (k = kind ∧ i = slot)) :
    (r.setControl kind slot c).control k i = r.control k i := by
  simp only [setControl, if_neg h]

lemma setValue_eq_self (h : r.value kind slot = v) : r.setValue kind slot v = r := by
  have : (fun k i => if k = kind ∧ i = slot then v else r.value k i) = r.value := by
    funext k i
    split_ifs with hk
    · rw [hk.1, hk.2, h]
    · rfl
  simp only [setValue, this]

lemma setControl_eq_self (h : r.control kind slot = c) : r.setControl kind slot c = r := by
  have : (fun k i => if k = kind ∧ i = slot then c else r.control k i) = r.control := by
    funext k i
    split_ifs with hk
    · rw [hk.1, hk.2, h]
    · rfl
  simp only [setControl, this]

@[simp] lemma setValue_setValue (v' : U64) :
    (r.setValue kind slot v).setValue kind slot v' = r.setValue kind slot v' := by
  have : (fun k i => if k = kind ∧ i = slot then v'
      else if k = kind ∧ i = slot then v else r.value k i)
      = fun k i => if k = kind ∧ i = slot then v' else r.value k i := by
    funext k i
    split_ifs <;> rfl
  simp only [setValue, this]

@[simp] lemma setControl_setControl (c' : U32) :
    (r.setControl kind slot c).setControl kind slot c' = r.setControl kind slot c' := by
  have : (fun k i => if k = kind ∧ i = slot then c'
      else if k = kind ∧ i = slot then c else r.control k i)
      = fun k i => if k = kind ∧ i = slot then c' else r.control k i := by
    funext k i
    split_ifs <;> rfl
  simp only [setControl, this]

lemma setControl_setValue :
    (r.setControl kind slot c).setValue kind slot v
      = (r.setValue kind slot v).setControl kind slot c := rfl

lemma setMdscr_setControl :
    (r.setMdscr v).setControl kind slot c = (r.setControl kind slot c).setMdscr v := rfl

lemma setMdscr_setValue (m : U64) :
    (r.setMdscr m).setValue kind slot v = (r.setValue kind slot v).setMdscr m := rfl

@[simp] lemma setMdscr_setMdscr (m : U64) : (r.setMdscr v).setMdscr m = r.setMdscr m := rfl

end Regs

/-! ## The controller's record for a CPU -/

/-- `struct spz_debug_cpu_state`. -/
structure CpuState where
  state : DebugState := .empty
  kind : SlotKind := .unset
  slot : ℕ := 0
  savedValue : U64 := 0
  savedControl : U32 := 0
  savedMdscr : U64 := 0
  programmedValue : U64 := 0
  programmedControl : U32 := 0
  disabledControl : U32 := 0
  addedMde : Bool := false
  addedMdscrSs : Bool := false
  addedPstateSs : Bool := false
  forwardSingleStep : Bool := false
  transition : U64 := 0
  request : DebugRequest := {}
  target : DebugTarget := {}
deriving DecidableEq

/-- A register write, as the controller issues it. -/
inductive RegWrite
  | value (kind : SlotKind) (slot : ℕ) (v : U64)
  | control (kind : SlotKind) (slot : ℕ) (c : U32)
  | mdscr (v : U64)
deriving DecidableEq

/-- The slot whose register a write goes to, if it goes to a slot. -/
def RegWrite.slot? : RegWrite → Option (SlotKind × ℕ)
  | .value kind slot _ => some (kind, slot)
  | .control kind slot _ => some (kind, slot)
  | .mdscr _ => none

/-- A write that was issued, with what held at that moment. -/
structure IssuedWrite where
  write : RegWrite
  selected : SlotKind × ℕ
  before : Regs

/-- One CPU: the controller's record, the hardware, and the writes of the current call. -/
structure CpuDebug where
  cpu : CpuState
  regs : Regs
  writes : List IssuedWrite := []

/-- The counts of `struct spz_debug_ops`, as `spz_debug_controller_init` accepts them. -/
structure DebugOps where
  brpCount : ℕ
  wrpCount : ℕ
  brpCount_pos : 0 < brpCount
  brpCount_le : brpCount ≤ debugMaxSlots
  wrpCount_pos : 0 < wrpCount
  wrpCount_le : wrpCount ≤ debugMaxSlots

/-- A program of the controller on one CPU. -/
abbrev Ctl := Fallible CpuDebug Errno

/-! ## The operations -/

def CpuDebug.issue (w : RegWrite) (s : CpuDebug) : CpuDebug :=
  { s with writes := ⟨w, (s.cpu.kind, s.cpu.slot), s.regs⟩ :: s.writes }

section

variable (kind : SlotKind) (slot : ℕ)

def readValue : Ctl U64 :=
  op id fun s => (s.regs.value kind slot, s)

def readControl : Ctl U32 :=
  op id fun s => (s.regs.control kind slot, s)

def readOwner : Ctl U64 :=
  op id fun s => (s.regs.owner kind slot, s)

end

def readMdscr : Ctl U64 :=
  op id fun s => (s.regs.mdscr, s)

def writeValue (kind : SlotKind) (slot : ℕ) (v : U64) : Ctl Unit :=
  op (·.issue (.value kind slot v)) fun s => ((), { s with regs := s.regs.setValue kind slot v })

def writeControl (kind : SlotKind) (slot : ℕ) (c : U32) : Ctl Unit :=
  op (·.issue (.control kind slot c)) fun s =>
    ((), { s with regs := s.regs.setControl kind slot c })

def writeMdscr (v : U64) : Ctl Unit :=
  op (·.issue (.mdscr v)) fun s => ((), { s with regs := s.regs.setMdscr v })

/-- Change the controller's record. -/
def modifyCpu (f : CpuState → CpuState) : Ctl Unit :=
  modify fun s => { s with cpu := f s.cpu }

end Spz
