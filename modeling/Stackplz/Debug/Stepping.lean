import Stackplz.Debug.Calls
import Stackplz.Lib.Transition

/-!
# Stepping over a breakpoint across context switches

One task with a repeating execute breakpoint, and any number of CPUs it may run on.  Switching it
out is `spz_debug_restore_cpu` on its CPU, switching it in is `spz_debug_arm_current`; a hit and the
step that follows go through the handlers, which see the task's `PSTATE` in the exception frame and
may write it back.  Nobody but the controller sets `MDSCR.SS` or the task's `PSTATE.SS`.

The controller remembers in the CPU's record that it set `PSTATE.SS`, and the restore at a context
switch drops the record.  A task switched out between a hit and its step therefore takes the bit
along (`step_forwarded_after_switch`).  Without such a switch stepping is transparent
(`stepping_transparent`).
-/

namespace Spz

open Fallible Transition Option

/-- The CPUs, where the task runs, and its `PSTATE`. -/
structure StepWorld where
  cpus : ℕ → CpuDebug
  on : Option ℕ
  pstate : U64

/-- What happens to the task and to the CPUs. -/
inductive StepAction
  /-- The task is switched in on a CPU. -/
  | switchIn (cpu : ℕ) (φ : Oracle Errno)
  /-- The task is switched out. -/
  | switchOut (φ : Oracle Errno)
  /-- The task takes a breakpoint exception. -/
  | hit (frame : DebugFrame) (φ : Oracle Errno)
  /-- The task takes a single-step exception. -/
  | step (frame : DebugFrame) (φ : Oracle Errno)
  /-- The task runs: its `PSTATE` changes, but SS does not become set. -/
  | run (pstate : U64)
  /-- Somebody else changes the registers of a CPU, but does not set `MDSCR.SS`. -/
  | others (cpu : ℕ) (regs : Regs)

namespace StepWorld

def update (w : StepWorld) (cpu : ℕ) (s : CpuDebug) : StepWorld :=
  { w with cpus := Function.update w.cpus cpu s }

/-- A CPU at the start of a call: no write issued yet. -/
def fresh (w : StepWorld) (cpu : ℕ) : CpuDebug := { w.cpus cpu with writes := [] }

end StepWorld

/-- `PSTATE` after an exception handler: the frame is written back if the handler acted. -/
def writtenBack (pstate : U64) : Except Errno (DebugResult × DebugFrame) → U64
  | .ok (.consumed, frame) => frame.pstate
  | .ok (.forwardOriginal, frame) => frame.pstate
  | .ok (.notOwned, _) => pstate
  | .error _ => pstate

section

variable (ops : DebugOps) (request : DebugRequest) (target : DebugTarget)

/-- One action; `none` if it is not possible. -/
def stepNext (w : StepWorld) :
    StepAction → Option StepWorld
  | .switchIn cpu φ =>
    if w.on = none then
      some { w.update cpu ((debugArmCurrent ops request target).exec φ (w.fresh cpu)).2 with
        on := some cpu }
    else none
  | .switchOut φ => w.on.map fun cpu =>
    { w.update cpu ((debugRestoreCpu ops).exec φ (w.fresh cpu)).2 with on := none }
  | .hit frame φ => w.on.map fun cpu =>
    let out := (debugHandleBreak target { frame with pstate := w.pstate } {}).exec φ (w.fresh cpu)
    { w.update cpu out.2 with
      pstate := writtenBack w.pstate (out.1.map fun r => (r.1, r.2.1)) }
  | .step frame φ => w.on.map fun cpu =>
    let out := (debugHandleStep target { frame with pstate := w.pstate }).exec φ (w.fresh cpu)
    { w.update cpu out.2 with pstate := writtenBack w.pstate out.1 }
  | .run pstate =>
    if w.on ≠ none ∧ (pstate &&& pstateSS = 0 ∨ w.pstate &&& pstateSS ≠ 0) then
      some { w with pstate := pstate }
    else none
  | .others cpu regs =>
    if regs.mdscr &&& mdscrSS = 0 ∨ (w.cpus cpu).regs.mdscr &&& mdscrSS ≠ 0 then
      some (w.update cpu { w.cpus cpu with regs := regs })
    else none

/-- Runs from a state in which no CPU is in use, the task is switched out, and nobody has set SS. -/
def steppingSystem : System StepWorld StepAction :=
  .ofStep (fun w => (∀ cpu, (w.cpus cpu).cpu = {} ∧ (w.cpus cpu).regs.mdscr &&& mdscrSS = 0) ∧
    w.on = none ∧ w.pstate &&& pstateSS = 0) (stepNext ops request target)

end

/-- The condition: register operations succeed, nobody else touches the slot the controller
holds, and the task is not switched out between a hit and its step. -/
def StepUninterrupted (w : StepWorld) : StepAction → Prop
  | .switchIn _ φ => φ = .succeed
  | .switchOut φ => φ = .succeed ∧
      ∀ cpu, w.on = some cpu → (w.cpus cpu).cpu.state ≠ .stepPending
  | .hit _ φ => φ = .succeed
  | .step _ φ => φ = .succeed
  | .run _ => True
  | .others cpu regs =>
    let s := w.cpus cpu
    s.cpu.state ≠ .empty →
      regs.owner s.cpu.kind s.cpu.slot = s.regs.owner s.cpu.kind s.cpu.slot ∧
      regs.value s.cpu.kind s.cpu.slot = s.regs.value s.cpu.kind s.cpu.slot ∧
      regs.control s.cpu.kind s.cpu.slot = s.regs.control s.cpu.kind s.cpu.slot

/-! ## One CPU -/

/-- What holds of every CPU: its slot is intact; a slot held is held for the task's repeating
breakpoint; and SS is set in `MDSCR` only while the task steps, by the controller alone. -/
structure StepReady (request : DebugRequest) (target : DebugTarget) (st : CpuState) (r : Regs) :
    Prop where
  intact : Intact st r
  ongoing : st.state ≠ .oneShotDone
  held : st.state ≠ .empty → st.target = target ∧ st.request = request ∧ st.kind = .breakpoint
  mdscr : st.state ≠ .stepPending → r.mdscr &&& mdscrSS = 0
  added : st.state = .stepPending →
    st.addedMdscrSs = true ∧ st.addedPstateSs = true ∧ st.forwardSingleStep = false

variable {request : DebugRequest} {target : DebugTarget} {s : CpuDebug}

lemma mdscrMDE_disjoint : mdscrMDE &&& mdscrSS = 0 := by decide

lemma debugTargetMatches_self (target : DebugTarget) : debugTargetMatches target target = true := by
  simp [debugTargetMatches]

lemma StepReady.armCurrent (ops : DebugOps) (hkind : request.kind = .execute)
    (hs : StepReady request target s.cpu s.regs) (hw : s.writes = [])
    (hidle : s.cpu.state ≠ .stepPending) :
    StepReady request target ((debugArmCurrent ops request target).exec .succeed s).2.cpu
        ((debugArmCurrent ops request target).exec .succeed s).2.regs ∧
      ((debugArmCurrent ops request target).exec .succeed s).2.cpu.state ≠ .stepPending := by
  rcases exec_debugArmCurrent ops request target hw with ⟨enc, slot, -, h⟩ | ⟨e, h⟩
  · have hintact := h.intact
    have hregs := h.regs
    rw [h.cpu] at hintact ⊢
    rw [hregs] at hintact ⊢
    refine ⟨⟨hintact, by simp [debugTransition], fun _ => ⟨rfl, rfl, if_pos hkind⟩, fun _ => ?_,
      fun h => by simp [debugTransition] at h⟩, by simp [debugTransition]⟩
    show (s.regs.mdscr ||| mdscrMDE) &&& mdscrSS = 0
    rw [Bits.or_and_of_disjoint mdscrMDE_disjoint]
    exact hs.mdscr hidle
  · rw [h]
    exact ⟨hs, hidle⟩

/-- Switching out at any time but between a hit and its step: the CPU is empty. -/
lemma StepReady.restoreCpu (ops : DebugOps) (hs : StepReady request target s.cpu s.regs)
    (hw : s.writes = []) (hidle : s.cpu.state ≠ .stepPending) :
    StepReady request target ((debugRestoreCpu ops).exec .succeed s).2.cpu
        ((debugRestoreCpu ops).exec .succeed s).2.regs ∧
      ((debugRestoreCpu ops).exec .succeed s).2.cpu.state ≠ .stepPending := by
  rcases (exec_debugRestoreCpu ops hw hs.intact).2 with ⟨-, h⟩ | ⟨-, -, -, hcpu, keep, hregs⟩
  · rw [h]
    exact ⟨hs, hidle⟩
  · have hempty : ((debugRestoreCpu ops).exec .succeed s).2.cpu.state = .empty := by
      rw [hcpu]
      rfl
    refine ⟨⟨intact_empty hempty _, by simp [hempty], by simp [hempty], fun _ => ?_,
      by simp [hempty]⟩, by simp [hempty]⟩
    have hss : withoutAddedSs s.cpu s.regs.mdscr &&& mdscrSS = 0 := by
      unfold withoutAddedSs
      split
      · exact Bits.and_not_and_self
      · exact hs.mdscr hidle
    rw [hregs.regs]
    show restoredMdscr s.cpu s.regs.mdscr keep &&& mdscrSS = 0
    unfold restoredMdscr
    split
    · exact hss
    · exact Bits.and_and_eq_zero hss

/-- A hit: the task steps with a `PSTATE.SS` the record accounts for, or nothing happened. -/
lemma StepReady.handleBreak (frame : DebugFrame) (event : Event) (hmode : request.mode = .repeat)
    (hs : StepReady request target s.cpu s.regs) (hw : s.writes = [])
    (hss : s.cpu.state ≠ .stepPending → frame.pstate &&& pstateSS = 0) :
    ∃ out, ((debugHandleBreak target frame event).exec .succeed s).1 = .ok out ∧
      StepReady request target ((debugHandleBreak target frame event).exec .succeed s).2.cpu
        ((debugHandleBreak target frame event).exec .succeed s).2.regs ∧
      (((debugHandleBreak target frame event).exec .succeed s).2.cpu.state = .stepPending ∨
        out = (.notOwned, frame, event) ∧
        ((debugHandleBreak target frame event).exec .succeed s).2 = s) := by
  obtain ⟨out, hr, h⟩ := exec_debugHandleBreak target frame event hw hs.intact
  refine ⟨out, hr, ?_⟩
  have hintact := h.intact BreakConcerns.armed hs.intact
  generalize ((debugHandleBreak target frame event).exec .succeed s).2 = t at h hintact ⊢
  cases h with
  | notOwned => exact ⟨hs, .inr ⟨rfl, rfl⟩⟩
  | ended hc _ hends =>
    -- a repeating execute breakpoint is never done
    obtain ⟨-, hreq, hkind⟩ := hs.held (by simp [hc.armed])
    rcases hends with h | h
    · simp [hreq, hmode] at h
    · simp [hkind] at h
  | stepping hc _ _ hcpu hregs _ =>
    have hmdscr := hs.mdscr (by simp [hc.armed])
    have hpstate := hss (by simp [hc.armed])
    have hheld := hs.held (by simp [hc.armed])
    rw [hcpu] at hintact ⊢
    refine ⟨⟨hintact, by simp [debugTransition], fun _ => hheld,
      fun h => absurd rfl h, fun _ => ?_⟩, .inl rfl⟩
    simp [debugTransition, noteStep, hmdscr, hpstate]

/-- A step: consumed, and `PSTATE.SS` is clear again. -/
lemma StepReady.handleStep (frame : DebugFrame) (hs : StepReady request target s.cpu s.regs)
    (hw : s.writes = []) (hstep : s.cpu.state = .stepPending) :
    ((debugHandleStep target frame).exec .succeed s).1 =
        .ok (.consumed, { frame with pstate := frame.pstate &&& ~~~pstateSS }) ∧
      StepReady request target ((debugHandleStep target frame).exec .succeed s).2.cpu
        ((debugHandleStep target frame).exec .succeed s).2.regs ∧
      ((debugHandleStep target frame).exec .succeed s).2.cpu.state ≠ .stepPending := by
  obtain ⟨out, hr, h⟩ := exec_debugHandleStep target frame hw hs.intact
  have hintact := h.intact hs.intact
  rw [hr]
  generalize ((debugHandleStep target frame).exec .succeed s).2 = t at h hintact ⊢
  obtain ⟨htarget, hheld⟩ := hs.held (by simp [hstep])
  obtain ⟨haddedM, haddedP, hforward⟩ := hs.added hstep
  cases h with
  | notOwned hnot =>
    refine absurd ⟨hstep, ?_⟩ hnot
    rw [htarget]
    exact debugTargetMatches_self target
  | rearmed hc _ hcpu hregs =>
    rw [hcpu] at hintact ⊢
    refine ⟨by simp [hforward, haddedP], ⟨hintact, by simp [debugTransition],
      fun _ => ⟨htarget, hheld⟩, fun _ => ?_, fun h => by simp [debugTransition] at h⟩,
      by simp [debugTransition]⟩
    rw [hregs]
    show withoutAddedSs s.cpu s.regs.mdscr &&& mdscrSS = 0
    rw [withoutAddedSs, if_pos haddedM]
    exact Bits.and_not_and_self

/-- A step exception that is not the controller's: nothing happens. -/
lemma handleStep_notOwned (target : DebugTarget) (frame : DebugFrame)
    (hintact : Intact s.cpu s.regs) (hw : s.writes = []) (hstep : s.cpu.state ≠ .stepPending) :
    (debugHandleStep target frame).exec .succeed s = (.ok (.notOwned, frame), s) := by
  obtain ⟨out, hr, h⟩ := exec_debugHandleStep target frame hw hintact
  have hsame : out = (.notOwned, frame) ∧
      ((debugHandleStep target frame).exec .succeed s).2 = s := by
    generalize ((debugHandleStep target frame).exec .succeed s).2 = t at h ⊢
    cases h with
    | notOwned => exact ⟨rfl, rfl⟩
    | rearmed hc => exact absurd hc.1 hstep
  exact Prod.ext (by rw [hr, hsame.1]) hsame.2

/-! ## The whole system -/

/-- The invariant: every CPU is ready, only the CPU the task runs on may be stepping, and
`PSTATE.SS` is clear unless it is. -/
structure StepInv (request : DebugRequest) (target : DebugTarget) (w : StepWorld) : Prop where
  ready : ∀ cpu, StepReady request target (w.cpus cpu).cpu (w.cpus cpu).regs
  pending : ∀ cpu, (w.cpus cpu).cpu.state = .stepPending → w.on = some cpu
  clear : (∀ cpu, (w.cpus cpu).cpu.state ≠ .stepPending) → w.pstate &&& pstateSS = 0

namespace StepInv

variable {w w' : StepWorld} {cpu : ℕ}

section

variable (h : StepInv request target w)
include h

/-- If the CPU the task runs on is not stepping, no CPU is. -/
lemma idle (hon : ∀ cpu, w.on = some cpu →
    (w.cpus cpu).cpu.state ≠ .stepPending) (cpu : ℕ) :
    (w.cpus cpu).cpu.state ≠ .stepPending :=
  fun hp => hon cpu (h.pending cpu hp) hp

variable (hs : StepReady request target s.cpu s.regs)
include hs

lemma ready_update
    (i : ℕ) : StepReady request target ((w.update cpu s).cpus i).cpu
      ((w.update cpu s).cpus i).regs := by
  by_cases hi : i = cpu
  · subst hi
    simpa [StepWorld.update] using hs
  · simpa [StepWorld.update, Function.update_of_ne hi] using h.ready i

lemma of_idle (hidle : s.cpu.state ≠ .stepPending)
    (hothers : ∀ i ≠ cpu, (w.cpus i).cpu.state ≠ .stepPending) {on : Option ℕ} {pstate : U64}
    (hclear : pstate &&& pstateSS = 0) :
    StepInv request target { w.update cpu s with on := on, pstate := pstate } := by
  refine ⟨h.ready_update hs, fun i hp => ?_, fun _ => hclear⟩
  exfalso
  by_cases hi : i = cpu
  · subst hi
    simp [StepWorld.update] at hp
    exact hidle hp
  · simp [StepWorld.update, Function.update_of_ne hi] at hp
    exact hothers i hi hp

lemma of_same (hsame : s.cpu = (w.cpus cpu).cpu) : StepInv request target (w.update cpu s) := by
  have hcpu : ∀ i, ((w.update cpu s).cpus i).cpu = (w.cpus i).cpu := by
    intro i
    by_cases hi : i = cpu
    · subst hi
      simpa [StepWorld.update] using hsame
    · simp [StepWorld.update, Function.update_of_ne hi]
  refine ⟨h.ready_update hs, fun i hp => h.pending i (hcpu i ▸ hp),
    fun hidle => h.clear fun i => ?_⟩
  rw [← hcpu i]
  exact hidle i

lemma of_pending (hstep : s.cpu.state = .stepPending) (hon : w.on = some cpu) (pstate : U64) :
    StepInv request target { w.update cpu s with pstate := pstate } := by
  refine ⟨h.ready_update hs, fun i hp => ?_, fun hidle => ?_⟩
  · by_cases hi : i = cpu
    · rw [hi]
      exact hon
    · simp only [StepWorld.update, Function.update_of_ne hi] at hp
      exact h.pending i hp
  · exact absurd hstep (by simpa [StepWorld.update] using hidle cpu)

end

/-- Every action under the condition keeps the invariant. -/
lemma step {ops : DebugOps} (hkind : request.kind = .execute) (hmode : request.mode = .repeat)
    (h : StepInv request target w) {a : StepAction} (hcond : StepUninterrupted w a)
    (hnext : stepNext ops request target w a = some w') : StepInv request target w' := by
  cases a with
  | switchIn cpu φ =>
    obtain rfl : φ = .succeed := hcond
    simp only [stepNext, ite_none_right_eq_some, some.injEq] at hnext
    obtain ⟨hon, rfl⟩ := hnext
    have hidle := h.idle (by simp [hon])
    have hready := (h.ready cpu).armCurrent (s := w.fresh cpu) ops hkind rfl (hidle cpu)
    exact h.of_idle hready.1 hready.2 (fun i _ => hidle i) (h.clear hidle)
  | switchOut φ =>
    obtain ⟨rfl, hnot⟩ := hcond
    simp only [stepNext, map_eq_some_iff] at hnext
    obtain ⟨cpu, hon, rfl⟩ := hnext
    have hidle := h.idle hnot
    have hready := (h.ready cpu).restoreCpu (s := w.fresh cpu) ops rfl (hidle cpu)
    exact h.of_idle hready.1 hready.2 (fun i _ => hidle i) (h.clear hidle)
  | hit frame φ =>
    obtain rfl : φ = .succeed := hcond
    simp only [stepNext, map_eq_some_iff] at hnext
    obtain ⟨cpu, hon, rfl⟩ := hnext
    have hss : (w.cpus cpu).cpu.state ≠ .stepPending → w.pstate &&& pstateSS = 0 := fun hne =>
      h.clear (h.idle fun i hi => by rw [hon, some.injEq] at hi; exact hi ▸ hne)
    obtain ⟨out, hr, hready, hstep | ⟨rfl, hsame⟩⟩ := (h.ready cpu).handleBreak (s := w.fresh cpu)
      { frame with pstate := w.pstate } {} hmode rfl hss
    · exact h.of_pending hready hstep hon _
    · rw [hr, hsame]
      exact h.of_same (h.ready cpu) rfl
  | step frame φ =>
    obtain rfl : φ = .succeed := hcond
    simp only [stepNext, map_eq_some_iff] at hnext
    obtain ⟨cpu, hon, rfl⟩ := hnext
    by_cases hstep : (w.cpus cpu).cpu.state = .stepPending
    · obtain ⟨hr, hready, hidle⟩ := (h.ready cpu).handleStep (s := w.fresh cpu)
        { frame with pstate := w.pstate } rfl hstep
      rw [hr]
      refine h.of_idle hready hidle (fun i hi hp => ?_) Bits.and_not_and_self
      exact hi (some.inj ((h.pending i hp).symm.trans hon))
    · rw [handleStep_notOwned (s := w.fresh cpu) target _ (h.ready cpu).intact rfl hstep]
      exact h.of_same (h.ready cpu) rfl
  | run pstate =>
    simp only [stepNext, ite_none_right_eq_some, some.injEq] at hnext
    obtain ⟨⟨-, hss⟩, rfl⟩ := hnext
    exact ⟨h.ready, h.pending, fun hidle => hss.resolve_right (not_not.mpr (h.clear hidle))⟩
  | others cpu regs =>
    simp only [stepNext, ite_none_right_eq_some, some.injEq] at hnext
    obtain ⟨hss, rfl⟩ := hnext
    have hready := h.ready cpu
    refine h.of_same ⟨⟨hready.intact.state, fun hne => ?_, hready.intact.disables⟩, hready.ongoing,
      hready.held, fun hidle => ?_, hready.added⟩ rfl
    · obtain ⟨howner, hvalue, hcontrol⟩ := hcond hne
      have himage := hready.intact.image hne
      simpa only [Mismatch, howner, hvalue, hcontrol] using himage
    · exact hss.resolve_right (not_not.mpr (hready.mdscr hidle))

end StepInv

/-- Stepping is transparent in every run in which the task is never switched out between a hit
and its step: a step that acts is consumed, and the task is switched in on an empty CPU only with
`PSTATE.SS` clear. -/
theorem stepping_transparent (ops : DebugOps) {request : DebugRequest} {target : DebugTarget}
    (hkind : request.kind = .execute) (hmode : request.mode = .repeat) {w : StepWorld}
    (hw : ((steppingSystem ops request target).restrict StepUninterrupted).Reachable w) :
    (∀ cpu (frame : DebugFrame), w.on = some cpu → (w.cpus cpu).cpu.state = .stepPending →
      ∃ frame', ((debugHandleStep target { frame with pstate := w.pstate }).exec .succeed
        (w.fresh cpu)).1 = .ok (.consumed, frame')) ∧
    (∀ cpu, w.on = none → (w.cpus cpu).cpu.state = .empty → w.pstate &&& pstateSS = 0) := by
  have hinv : StepInv request target w := by
    refine System.Reachable.invariant (I := StepInv request target) (fun w hinit => ?_)
      (fun w a w' hI hstep => ?_) hw
    · obtain ⟨hcpus, hon, hss⟩ := hinit
      refine ⟨fun cpu => ?_, fun cpu hp => ?_, fun _ => hss⟩
      · rw [(hcpus cpu).1]
        exact ⟨intact_empty rfl _, by simp, by simp, fun _ => (hcpus cpu).2, by simp⟩
      · simp [(hcpus cpu).1] at hp
    · exact hI.step hkind hmode hstep.1 hstep.2
  refine ⟨fun cpu frame hon hstep => ?_, fun cpu hon _ => ?_⟩
  · exact ⟨_, ((hinv.ready cpu).handleStep (s := w.fresh cpu) _ rfl hstep).1⟩
  · exact hinv.clear (hinv.idle (by simp [hon]))

/-! ## Two concrete runs -/

/-- Small CPUs, the task switched out. -/
def restingWorld : StepWorld := ⟨fun _ => blankCpu, none, 0⟩

lemma restingWorld_init : (steppingSystem oneSlotOps pageBreak someTarget).init restingWorld :=
  ⟨fun _ => ⟨rfl, show blankRegs.mdscr &&& mdscrSS = 0 by decide⟩, rfl, by decide⟩

/-- The frame of a hit of `pageBreak`. -/
def pageFrame : DebugFrame := { pc := 0x1000 }

/-- Switched in and hit, the task is about to step, and the step is consumed. -/
theorem stepping_transparent_resting :
    ∃ w : StepWorld, w.on = some 0 ∧ (w.cpus 0).cpu.state = .stepPending ∧
      ∃ frame', ((debugHandleStep someTarget { pageFrame with pstate := w.pstate }).exec .succeed
        (w.fresh 0)).1 = .ok (.consumed, frame') := by
  have hreach : ((steppingSystem oneSlotOps pageBreak someTarget).restrict
      StepUninterrupted).Reachable _ :=
    .step (a := .hit pageFrame .succeed) (.step (a := .switchIn 0 .succeed)
      (.init (s := restingWorld) restingWorld_init) ⟨rfl, rfl⟩) ⟨rfl, rfl⟩
  exact ⟨_, rfl, rfl, (stepping_transparent oneSlotOps rfl rfl hreach).1 0 pageFrame rfl rfl⟩

/-- A context switch between a hit and its step breaks stepping.  The task is switched in again
with `PSTATE.SS` set; and after its next hit the step is forwarded to the kernel. -/
theorem step_forwarded_after_switch :
    (∃ w, (steppingSystem oneSlotOps pageBreak someTarget).Reachable w ∧ w.on = none ∧
      (w.cpus 0).cpu.state = .empty ∧ w.pstate &&& pstateSS ≠ 0) ∧
    (∃ w, (steppingSystem oneSlotOps pageBreak someTarget).Reachable w ∧ w.on = some 0 ∧
      (w.cpus 0).cpu.state = .stepPending ∧
      ∃ frame', ((debugHandleStep someTarget { pageFrame with pstate := w.pstate }).exec .succeed
        (w.fresh 0)).1 = .ok (.forwardOriginal, frame')) :=
  ⟨⟨_, run_reachable restingWorld_init
      [.switchIn 0 .succeed, .hit pageFrame .succeed, .switchOut .succeed] rfl,
      rfl, rfl, by decide⟩,
    ⟨_, run_reachable restingWorld_init
      [.switchIn 0 .succeed, .hit pageFrame .succeed, .switchOut .succeed, .switchIn 0 .succeed,
        .hit pageFrame .succeed] rfl,
      rfl, rfl, _, rfl⟩⟩

end Spz
