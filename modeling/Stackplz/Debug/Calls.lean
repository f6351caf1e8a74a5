import Stackplz.Debug.Spec

/-!
# One call, and sequences of calls

`CallEffect` says once, for all five entry points, everything a call can do to a CPU.  Each
invariant of a sequence of calls is a case analysis of it, and none of them looks at a function of
the controller again.

`Consistent` is the invariant under which the specifications of `Stackplz.Debug.Spec` apply: the
record is in one of the states that survive a call, and the control word the controller uses to
disable its slot has ENABLE clear.
-/

namespace Spz

open Fallible

/-- The control word a call compares its slot with, if it gets as far as inspecting the slot. -/
def Call.inspects : Call → CpuState → Option U32
  | .armCurrent _ _, _ => none
  | .restoreCpu, st =>
    if st.state = .empty ∨ st.state = .quarantined then none else some (expectedControl st)
  | .handleBreak current frame, st =>
    if BreakConcerns current frame st then some st.programmedControl else none
  | .handleWatch current frame, st =>
    if WatchConcerns current frame st then some st.programmedControl else none
  | .handleStep current _, st =>
    if StepConcerns current st then some st.disabledControl else none

variable {current : DebugTarget} {frame : DebugFrame} {st : CpuState}

lemma BreakConcerns.armed (h : BreakConcerns current frame st) : st.state = .armed := h.1.1

lemma WatchConcerns.armed (h : WatchConcerns current frame st) : st.state = .armed := h.1.1

/-- No call looks at the slot of an empty or quarantined CPU. -/
lemma inspects_idle (h : st.state = .empty ∨ st.state = .quarantined) : ∀ call : Call,
    call.inspects st = none
  | .armCurrent _ _ => rfl
  | .restoreCpu => if_pos h
  | .handleBreak _ _ => if_neg fun hc => by simp [hc.armed] at h
  | .handleWatch _ _ => if_neg fun hc => by simp [hc.armed] at h
  | .handleStep _ _ => if_neg fun hc => by simp [hc.1] at h

/-- Everything a call can do: the call, how it ends, and the CPU after it. -/
inductive CallEffect (F : Set (Oracle Errno)) (ops : DebugOps) (s : CpuDebug) :
    Call → Except Errno Unit → CpuDebug → Prop
  /-- It was refused, did not concern the slot, or could not read it. -/
  | unchanged (call : Call) (r : Except Errno Unit) : CallEffect F ops s call r s
  /-- The slot is armed. -/
  | armed {request : DebugRequest} {target : DebugTarget} {enc : Encoding} {slot : ℕ}
      {t : CpuDebug} : Armed ops request target s t enc slot →
      CallEffect F ops s (.armCurrent request target) (.ok ()) t
  /-- An arm failed half way. -/
  | unarmed {request : DebugRequest} {target : DebugTarget} {e : Errno} {t : CpuDebug} :
      Faulty F → s.cpu.state = .empty →
      t.cpu.state = .empty ∧ t.regs = s.regs ∨ t.cpu.state = .quarantined →
      CallEffect F ops s (.armCurrent request target) (.error e) t
  /-- The slot is restored. -/
  | restored {t : CpuDebug} {keep : Bool} :
      Call.inspects .restoreCpu s.cpu = some (expectedControl s.cpu) →
      ¬ Mismatch s.cpu s.regs (expectedControl s.cpu) →
      t.cpu = debugResetState (debugTransition .restoring s.cpu) →
      RegsRestored F ops s.cpu s.regs t.regs keep →
      CallEffect F ops s .restoreCpu (.ok ()) t
  /-- A hit disabled the slot for good. -/
  | ended {call : Call} {t : CpuDebug} : s.cpu.state = .armed →
      ¬ Mismatch s.cpu s.regs s.cpu.programmedControl →
      t.cpu = debugTransition .oneShotDone (debugTransition .hitDisabled s.cpu) →
      t.regs = s.regs.setControl s.cpu.kind s.cpu.slot s.cpu.disabledControl →
      CallEffect F ops s call (.ok ()) t
  /-- A hit disabled the slot for one step. -/
  | stepping {call : Call} {pstate : U64} {t : CpuDebug} : s.cpu.state = .armed →
      ¬ Mismatch s.cpu s.regs s.cpu.programmedControl →
      t.cpu = debugTransition .stepPending
        (noteStep s.regs.mdscr pstate (debugTransition .hitDisabled s.cpu)) →
      t.regs = (s.regs.setControl s.cpu.kind s.cpu.slot s.cpu.disabledControl).setMdscr
        (s.regs.mdscr ||| mdscrSS) →
      CallEffect F ops s call (.ok ()) t
  /-- The step is over and the slot is armed again. -/
  | rearmed {call : Call} {t : CpuDebug} : s.cpu.state = .stepPending →
      ¬ Mismatch s.cpu s.regs s.cpu.disabledControl →
      t.cpu = debugTransition .armed (forgetStep s.cpu) →
      t.regs = (s.regs.setControl s.cpu.kind s.cpu.slot s.cpu.programmedControl).setMdscr
        (withoutAddedSs s.cpu s.regs.mdscr) →
      CallEffect F ops s call (.ok ()) t
  /-- The slot was not as the controller left it. -/
  | mismatch {call : Call} {control : U32} {e : Errno} {t : CpuDebug} :
      call.inspects s.cpu = some control → Mismatch s.cpu s.regs control →
      t = { s with cpu := debugTransition .quarantined s.cpu } →
      CallEffect F ops s call (.error e) t
  /-- The slot was as the controller left it, and a write failed. -/
  | quarantined {call : Call} {control : U32} {e : Errno} {t : CpuDebug} : Faulty F →
      call.inspects s.cpu = some control → t.cpu.state = .quarantined →
      CallEffect F ops s call (.error e) t

variable {F : Set (Oracle Errno)} {ops : DebugOps} {s t : CpuDebug} {call : Call}
variable {r : Except Errno Unit}

lemma InspectFailed.effect {control : U32} {e : Errno} (hin : call.inspects s.cpu = some control)
    (h : InspectFailed F control s t) : CallEffect F ops s call (.error e) t := by
  rcases h with ⟨-, rfl⟩ | ⟨hbad, rfl⟩ | ⟨hF, -, hquar⟩
  · exact .unchanged _ _
  · exact .mismatch hin hbad rfl
  · exact .quarantined hF hin hquar

variable {concerned : Prop} {observed : U64} {event : Event}
  {out : DebugResult × DebugFrame × Event} {φ : Oracle Errno} {request : DebugRequest}
  {target : DebugTarget}

lemma HitDone.effect (harmed : concerned → s.cpu.state = .armed)
    (h : HitDone concerned frame observed event s out t) : CallEffect F ops s call (.ok ()) t := by
  cases h with
  | notOwned => exact .unchanged _ _
  | ended hc himage _ hcpu hregs _ => exact .ended (harmed hc) himage hcpu hregs
  | stepping hc himage _ hcpu hregs _ => exact .stepping (harmed hc) himage hcpu hregs

lemma StepDone.effect {out : DebugResult × DebugFrame}
    (h : StepDone current frame s out t) : CallEffect F ops s call (.ok ()) t := by
  cases h with
  | notOwned => exact .unchanged _ _
  | rearmed hc himage hcpu hregs => exact .rearmed hc.1 himage hcpu hregs

/-! ## The invariant of the record -/

/-- The states a call can leave behind. -/
def DebugState.Settled (d : DebugState) : Prop :=
  d = .empty ∨ d = .armed ∨ d = .stepPending ∨ d = .oneShotDone ∨ d = .quarantined

/-- The record is settled, and while a slot is held its disabling control word disables. -/
structure Consistent (st : CpuState) : Prop where
  settled : st.state.Settled
  disables : st.state ≠ .empty → st.state ≠ .quarantined →
    st.disabledControl &&& ctrlEnable = 0

lemma consistent_of_idle (h : st.state = .empty ∨ st.state = .quarantined) :
    Consistent st where
  settled := h.elim .inl fun h => .inr (.inr (.inr (.inr h)))
  disables h₁ h₂ := (h.elim h₁ h₂).elim

/-- A call keeps the record consistent. -/
lemma CallEffect.consistent (hs : Consistent s.cpu) (h : CallEffect F ops s call r t) :
    Consistent t.cpu := by
  cases h with
  | unchanged => exact hs
  | armed h =>
    rw [h.cpu]
    exact ⟨.inr (.inl rfl), fun _ _ => Bits.and_not_and_self⟩
  | unarmed _ _ h => exact consistent_of_idle (h.imp And.left id)
  | restored _ _ hcpu _ =>
    rw [hcpu]
    exact consistent_of_idle (.inl rfl)
  | ended harmed _ hcpu _ =>
    rw [hcpu]
    exact ⟨.inr (.inr (.inr (.inl rfl))), fun _ _ => hs.disables (by simp [harmed])
      (by simp [harmed])⟩
  | stepping harmed _ hcpu _ =>
    rw [hcpu]
    exact ⟨.inr (.inr (.inl rfl)), fun _ _ => hs.disables (by simp [harmed]) (by simp [harmed])⟩
  | rearmed hstep _ hcpu _ =>
    rw [hcpu]
    exact ⟨.inr (.inl rfl), fun _ _ => hs.disables (by simp [hstep]) (by simp [hstep])⟩
  | mismatch _ _ ht =>
    rw [ht]
    exact consistent_of_idle (.inr rfl)
  | quarantined _ _ hquar => exact consistent_of_idle (.inr hquar)

/-! ## Every call has such an effect -/

variable (ops) in
/-- Every call has an effect of `CallEffect` and writes only as it may. -/
lemma wp_call (hs : Consistent s.cpu) (hw : WritesOk s.regs s) : ∀ call : Call,
    wp F (call.body ops) (fun a t => CallEffect F ops s call (.ok a) t ∧ WritesOk s.regs t)
      (fun e t => CallEffect F ops s call (.error e) t ∧ WritesOk s.regs t) s
  | .armCurrent request target => by
    refine wp_mono (wp_debugArmCurrent hw) ?_ ?_
    · rintro - t ⟨⟨enc, slot, harmed⟩, htw⟩
      exact ⟨.armed harmed, htw⟩
    · rintro e t ⟨rfl | ⟨hF, hempty, h⟩, htw⟩
      · exact ⟨.unchanged _ _, htw⟩
      · exact ⟨.unarmed hF hempty h, htw⟩
  | .restoreCpu => by
    have hin : s.cpu.state ≠ .empty → s.cpu.state ≠ .quarantined →
        Call.inspects .restoreCpu s.cpu = some (expectedControl s.cpu) := fun h₁ h₂ =>
      if_neg (by simp [h₁, h₂])
    refine wp_mono (wp_debugRestoreCpu hw hs.disables) ?_ ?_
    · rintro - t ⟨⟨-, rfl⟩ | ⟨hne, hnq, himage, hcpu, keep, hregs⟩, htw⟩
      · exact ⟨.unchanged _ _, htw⟩
      · exact ⟨.restored (hin hne hnq) himage hcpu hregs, htw⟩
    · rintro e t ⟨⟨-, rfl⟩ | ⟨hne, hnq, h⟩, htw⟩
      · exact ⟨.unchanged _ _, htw⟩
      · exact ⟨h.effect (hin hne hnq), htw⟩
  | .handleBreak current frame => by
    refine wp_bind (wp_mono (wp_debugHandleBreak hw) ?_ ?_)
    · rintro out t ⟨h, htw⟩
      exact wp_pure ⟨h.effect BreakConcerns.armed, htw⟩
    · rintro e t ⟨hc, h, htw⟩
      exact ⟨h.effect (if_pos hc), htw⟩
  | .handleWatch current frame => by
    refine wp_bind (wp_mono (wp_debugHandleWatch hw) ?_ ?_)
    · rintro out t ⟨h, htw⟩
      exact wp_pure ⟨h.effect WatchConcerns.armed, htw⟩
    · rintro e t ⟨hc, h, htw⟩
      exact ⟨h.effect (if_pos hc), htw⟩
  | .handleStep current frame => by
    refine wp_bind (wp_mono (wp_debugHandleStep hw) ?_ ?_)
    · rintro out t ⟨h, htw⟩
      exact wp_pure ⟨h.effect, htw⟩
    · rintro e t ⟨hc, h, htw⟩
      exact ⟨h.effect (if_pos hc), htw⟩

variable (ops) in
/-- What one execution of a call does, and that its writes obey the discipline. -/
theorem Call.exec_effect (hs : Consistent s.cpu) (hφ : φ ∈ F) (call : Call) :
    CallEffect F ops { s with writes := [] } call (call.exec ops φ s).1 (call.exec ops φ s).2 ∧
      WritesOk s.regs (call.exec ops φ s).2 := by
  have h := wp_call ops (F := F) (s := { s with writes := [] }) hs (writesOk_nil rfl) call
  cases hr : (call.exec ops φ s).1 with
  | ok a => exact wp_exec_ok h hφ hr
  | error e => exact wp_exec_error h hφ hr

lemma exec_armed (h : ((Call.armCurrent request target).exec ops φ s).1 = .ok ()) :
    ∃ enc slot, Armed ops request target { s with writes := [] }
      ((Call.armCurrent request target).exec ops φ s).2 enc slot := by
  have hwp : wp Set.univ (debugArmCurrent ops request target) _ _ { s with writes := [] } :=
    wp_debugArmCurrent (writesOk_nil rfl)
  exact (wp_exec_ok hwp (Set.mem_univ φ) h).1

variable (ops) in
/-- A call keeps the record consistent, whatever fails. -/
lemma Call.exec_consistent (hs : Consistent s.cpu) (φ : Oracle Errno) (call : Call) :
    Consistent (call.exec ops φ s).2.cpu :=
  CallEffect.consistent (s := { s with writes := [] }) hs
    (Call.exec_effect ops hs (Set.mem_univ φ) call).1

/-- Restoring an empty CPU does nothing, whatever would fail. -/
lemma exec_debugRestoreCpu_empty (ops : DebugOps) (φ : Oracle Errno) (h : s.cpu.state = .empty) :
    (debugRestoreCpu ops).exec φ s = (.ok (), s) := by
  have hrun : debugRestoreCpu ops φ 0 s = (.ok (), 0, s) := by
    unfold debugRestoreCpu
    rw [bind_apply_ok (rfl : get φ 0 s = (.ok s, 0, s))]
    simp only [h, if_true]
    rfl
  unfold Fallible.exec
  rw [hrun]

/-! ## Runs without faults and without interference

As long as every operation succeeds and nobody else touches the slot, the slot stays as the
controller left it, and no call fails for another reason than that it is refused. -/

/-- The slot of the record `st` is as the controller left it in the registers `r`. -/
structure Intact (st : CpuState) (r : Regs) : Prop where
  state : st.state = .empty ∨ st.state = .armed ∨ st.state = .stepPending ∨ st.state = .oneShotDone
  image : st.state ≠ .empty → ¬ Mismatch st r (expectedControl st)
  disables : st.state ≠ .empty → st.disabledControl &&& ctrlEnable = 0

lemma intact_empty (h : st.state = .empty) (r : Regs) : Intact st r :=
  ⟨.inl h, fun hne => absurd h hne, fun hne => absurd h hne⟩

section

variable {r : Regs} (h : Intact st r)
include h

lemma Intact.not_quarantined : st.state ≠ .quarantined := by
  intro hq
  have := h.state
  simp [hq] at this

lemma Intact.image_armed (hs : st.state = .armed) : ¬ Mismatch st r st.programmedControl := by
  have himage := h.image (by simp [hs])
  rwa [show expectedControl st = st.programmedControl by simp [expectedControl, hs]] at himage

lemma Intact.image_stepPending (hs : st.state = .stepPending) :
    ¬ Mismatch st r st.disabledControl := by
  have himage := h.image (by simp [hs])
  rwa [show expectedControl st = st.disabledControl by simp [expectedControl, hs]] at himage

end

lemma Armed.intact {enc : Encoding} {slot : ℕ}
    (h : Armed ops request target s t enc slot) : Intact t.cpu t.regs := by
  have howner : s.regs.owner (requestSlotKind request) slot = 0 := by
    have hfree := h.free
    simp only [Regs.inUse, not_or, not_not] at hfree
    exact hfree.1
  rw [h.cpu, h.regs]
  refine ⟨.inr (.inl rfl), fun _ => ?_, fun _ => Bits.and_not_and_self⟩
  simp [Mismatch, expectedControl, snapshot, debugTransition, armedRecord, armedRegs, howner]

lemma HitDone.intact (h : HitDone concerned frame observed event s out t)
    (harmed : concerned → s.cpu.state = .armed) (hs : Intact s.cpu s.regs) :
    Intact t.cpu t.regs := by
  cases h with
  | notOwned => exact hs
  | ended hc himage _ hcpu hregs _ =>
    rw [hcpu, hregs]
    refine ⟨.inr (.inr (.inr rfl)), fun _ => ?_, fun _ => hs.disables (by simp [harmed hc])⟩
    simp only [Mismatch, not_or, not_not] at himage
    simp [Mismatch, expectedControl, debugTransition, himage]
  | stepping hc himage _ hcpu hregs _ =>
    rw [hcpu, hregs]
    refine ⟨.inr (.inr (.inl rfl)), fun _ => ?_, fun _ => hs.disables (by simp [harmed hc])⟩
    simp only [Mismatch, not_or, not_not] at himage
    simp [Mismatch, expectedControl, debugTransition, noteStep, himage]

lemma StepDone.intact {out : DebugResult × DebugFrame}
    (h : StepDone current frame s out t) (hs : Intact s.cpu s.regs) : Intact t.cpu t.regs := by
  cases h with
  | notOwned => exact hs
  | rearmed hc himage hcpu hregs =>
    rw [hcpu, hregs]
    refine ⟨.inr (.inl rfl), fun _ => ?_, fun _ => hs.disables (by simp [hc.1])⟩
    simp only [Mismatch, not_or, not_not] at himage
    simp [Mismatch, expectedControl, debugTransition, forgetStep, himage]

section Quiet

variable (ops : DebugOps) (request : DebugRequest) (target current : DebugTarget)
variable (frame : DebugFrame) (event : Event) (hw : s.writes = [])
include hw

lemma exec_debugArmCurrent :
    (∃ enc slot, ((debugArmCurrent ops request target).exec .succeed s).1 = .ok () ∧
      Armed ops request target s
        ((debugArmCurrent ops request target).exec .succeed s).2 enc slot) ∨
    ∃ e, (debugArmCurrent ops request target).exec .succeed s = (.error e, s) := by
  have hwp : wp faultless (debugArmCurrent ops request target) _ _ s :=
    wp_debugArmCurrent (writesOk_nil hw)
  cases hr : ((debugArmCurrent ops request target).exec .succeed s).1 with
  | ok a =>
    obtain ⟨enc, slot, h⟩ := (wp_exec_ok hwp succeed_mem_faultless hr).1
    exact .inl ⟨enc, slot, rfl, h⟩
  | error e =>
    rcases (wp_exec_error hwp succeed_mem_faultless hr).1 with heq | ⟨hF, -⟩
    · exact .inr ⟨e, Prod.ext hr heq⟩
    · exact (not_faulty_faultless hF).elim

variable (hs : Intact s.cpu s.regs)
include hs

lemma exec_debugRestoreCpu :
    ((debugRestoreCpu ops).exec .succeed s).1 = .ok () ∧
      RestoreDone faultless ops s ((debugRestoreCpu ops).exec .succeed s).2 := by
  have hwp : wp faultless (debugRestoreCpu ops) _ _ s :=
    wp_debugRestoreCpu (writesOk_nil hw) fun h _ => hs.disables h
  cases hr : ((debugRestoreCpu ops).exec .succeed s).1 with
  | ok a => exact ⟨rfl, (wp_exec_ok hwp succeed_mem_faultless hr).1⟩
  | error e =>
    rcases (wp_exec_error hwp succeed_mem_faultless hr).1 with ⟨hq, -⟩ | ⟨hne, -, h⟩
    · exact absurd hq hs.not_quarantined
    · exact absurd h.mismatch (hs.image hne)

lemma exec_debugHandleBreak :
    ∃ out, ((debugHandleBreak current frame event).exec .succeed s).1 = .ok out ∧
      HitDone (BreakConcerns current frame s.cpu) frame frame.pc event s out
        ((debugHandleBreak current frame event).exec .succeed s).2 := by
  obtain ⟨out, hout, hdone, -⟩ := wp_exec_returns (wp_debugHandleBreak (writesOk_nil hw))
    succeed_mem_faultless fun _ _ h => hs.image_armed h.1.armed h.2.1.mismatch
  exact ⟨out, hout, hdone⟩

lemma exec_debugHandleWatch :
    ∃ out, ((debugHandleWatch current frame event).exec .succeed s).1 = .ok out ∧
      HitDone (WatchConcerns current frame s.cpu) frame frame.far event s out
        ((debugHandleWatch current frame event).exec .succeed s).2 := by
  obtain ⟨out, hout, hdone, -⟩ := wp_exec_returns (wp_debugHandleWatch (writesOk_nil hw))
    succeed_mem_faultless fun _ _ h => hs.image_armed h.1.armed h.2.1.mismatch
  exact ⟨out, hout, hdone⟩

lemma exec_debugHandleStep :
    ∃ out, ((debugHandleStep current frame).exec .succeed s).1 = .ok out ∧
      StepDone current frame s out ((debugHandleStep current frame).exec .succeed s).2 := by
  obtain ⟨out, hout, hdone, -⟩ := wp_exec_returns (wp_debugHandleStep (writesOk_nil hw))
    succeed_mem_faultless fun _ _ h => hs.image_stepPending h.1.1 h.2.1.mismatch
  exact ⟨out, hout, hdone⟩

end Quiet

/-! ## A small CPU

One breakpoint and one watchpoint register, all zero, and an execute breakpoint for one task: the
inputs of the concrete runs in this development. -/

/-- A controller for a CPU with one slot of each kind. -/
def oneSlotOps : DebugOps :=
  ⟨1, 1, by decide, by decide, by decide, by decide⟩

/-- Registers nobody uses. -/
def blankRegs : Regs := ⟨fun _ _ => 0, fun _ _ => 0, fun _ _ => 0, 0⟩

/-- A CPU after `spz_debug_controller_init`. -/
def blankCpu : CpuDebug := ⟨{}, blankRegs, []⟩

/-- A repeating breakpoint on the instruction at `0x1000`. -/
def pageBreak : DebugRequest :=
  { id := 1, kind := .execute, address := 0x1000, length := 4, mode := .repeat }

def someTarget : DebugTarget :=
  { bindingId := 1, identity := { generation := 1, pid := 100, tgid := 100 } }

/-- The small CPU with that breakpoint armed for `someTarget`. -/
def armedCpu : CpuDebug :=
  ((Call.armCurrent pageBreak someTarget).exec oneSlotOps .succeed blankCpu).2

end Spz
