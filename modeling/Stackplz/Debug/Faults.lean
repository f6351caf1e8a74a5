import Stackplz.Debug.Calls
import Stackplz.Lib.Transition

/-!
# The controller under failing operations and foreign writes

A CPU on which calls are made with arbitrary oracles — any register operation may fail — and on
which somebody else may replace any register between two calls.  Two results about every state
such a CPU can reach:

* `settled_under_faults` — what state a call leaves behind, what the registers then hold, and
  that a slot which is not as the controller left it is never written again;
* `address_written_only_when_free` — every address write goes to the selected slot while that
  slot is unowned and disabled, and no register of an owned slot is written.
-/

namespace Spz

open Fallible Transition

/-- What can happen to a CPU. -/
inductive CpuAction
  /-- A call whose operations fail as the oracle says. -/
  | call (call : Call) (φ : Oracle Errno)
  /-- Somebody else changes the registers. -/
  | foreign (regs : Regs)

/-- A CPU from `spz_debug_controller_init` on, with any registers. -/
def faultySystem (ops : DebugOps) : System CpuDebug CpuAction where
  init s := s.cpu = {}
  step s a s' :=
    match a with
    | .call call φ => s' = (call.exec ops φ s).2
    | .foreign regs => s' = { s with regs := regs }

variable {ops : DebugOps} {s t u : CpuDebug} {call : Call} {φ : Oracle Errno}

lemma faultySystem_consistent (h : (faultySystem ops).Reachable s) : Consistent s.cpu := by
  refine System.Reachable.invariant (I := fun s => Consistent s.cpu) ?_ ?_ h
  · intro s hs
    rw [show s.cpu = {} from hs]
    exact consistent_of_idle (.inl rfl)
  · rintro s (⟨call, φ⟩ | regs) s' hs hstep
    · rw [show s' = (call.exec ops φ s).2 from hstep]
      exact Call.exec_consistent ops hs φ call
    · rw [show s' = { s with regs := regs } from hstep]
      exact hs

/-! ## Quarantine is final -/

variable {st : CpuState} {F : Set (Oracle Errno)} {r : Except Errno Unit}

section

variable (hs : s.cpu.state = .quarantined)
include hs

lemma CallEffect.eq_of_quarantined (h : CallEffect F ops s call r t) : t = s := by
  have hin := inspects_idle (.inr hs)
  cases h with
  | unchanged => rfl
  | armed h => simp [h.empty] at hs
  | unarmed _ hempty _ => simp [hempty] at hs
  | restored hsome _ _ _ | mismatch hsome _ _ | quarantined _ hsome _ => simp [hin] at hsome
  | ended harmed _ _ _ => simp [harmed] at hs
  | stepping harmed _ _ _ => simp [harmed] at hs
  | rearmed hstep _ _ _ => simp [hstep] at hs

lemma exec_quarantined (call : Call) (φ : Oracle Errno) :
    (call.exec ops φ s).2 = { s with writes := [] } :=
  (Call.exec_effect ops (consistent_of_idle (.inr hs)) (Set.mem_univ φ) call).1.eq_of_quarantined hs

lemma steps_quarantined (h : (faultySystem ops).Steps s t) : t.cpu = s.cpu := by
  refine System.Steps.invariant (I := fun t => t.cpu = s.cpu) ?_ h rfl
  rintro t (⟨call, φ⟩ | regs) u ht hstep
  · rw [show u = (call.exec ops φ t).2 from hstep, exec_quarantined (by rw [ht, hs])]
    exact ht
  · rw [show u = { t with regs := regs } from hstep]
    exact ht

end

/-! ## A slot that is not as it was left -/

/-- The call inspects its slot, reads it successfully, and finds an owner, another value or another
control word. -/
def Call.FindsMismatch (call : Call) (φ : Oracle Errno) (s : CpuDebug) : Prop :=
  ∃ control owner value live, call.inspects s.cpu = some control ∧
    (debugLiveImage s.cpu).exec φ s = (.ok (owner, value, live), s) ∧
    (owner ≠ 0 ∨ value ≠ s.cpu.programmedValue ∨ live ≠ control)

/-- Reading the slot again with nothing but the list of writes changed gives the same image. -/
lemma debugLiveImage_apply {image : U64 × U64 × U32} (hregs : t.regs = s.regs)
    (h : (debugLiveImage st).exec φ s = (.ok image, s)) :
    debugLiveImage st φ 0 t = (.ok image, 3, t) := by
  simp only [debugLiveImage, exec, readOwner, readValue, readControl, Bind.bind, Fallible.bind, op,
    Pure.pure, Fallible.pure] at h ⊢
  cases h₀ : φ 0 with
  | some e => simp [h₀] at h
  | none =>
    cases h₁ : φ 1 with
    | some e => simp [h₀, h₁] at h
    | none =>
      cases h₂ : φ 2 with
      | some e => simp [h₀, h₁, h₂] at h
      | none =>
        simp only [h₀, h₁, h₂, id_eq, Nat.zero_add, Nat.reduceAdd, Prod.mk.injEq,
          Except.ok.injEq, and_true] at h ⊢
        rw [hregs, h]

lemma debugCheckImage_apply {control live : U32} {owner value : U64}
    (h : debugLiveImage st φ 0 s = (.ok (owner, value, live), 3, s))
    (hbad : owner ≠ 0 ∨ value ≠ st.programmedValue ∨ live ≠ control) :
    debugCheckImage st control φ 0 s =
      (.error .EUCLEAN, 3, { s with cpu := debugTransition .quarantined s.cpu }) := by
  rw [debugCheckImage, bind_apply_ok h]
  show (if owner ≠ 0 ∨ value ≠ st.programmedValue ∨ live ≠ control then _ else _ : Ctl _) φ 3 s = _
  rw [if_pos hbad]
  rfl

lemma debugHandleHit_apply {current : DebugTarget} {frame : DebugFrame} {observed : U64}
    {event : Event} (hmatch : debugTargetMatches s.cpu.target current = true)
    (h : debugCheckImage s.cpu s.cpu.programmedControl φ 0 s = (.error .EUCLEAN, 3, t)) :
    debugHandleHit current frame observed event φ 0 s = (.error .EUCLEAN, 3, t) := by
  rw [debugHandleHit, bind_apply_ok (show get φ 0 s = (.ok s, 0, s) from rfl),
    if_neg (by simp [hmatch])]
  exact bind_apply_error h

/-- A call that finds its slot changed writes nothing and quarantines the CPU. -/
lemma body_of_findsMismatch (h : call.FindsMismatch φ s) :
    call.body ops φ 0 { s with writes := [] } = (.error .EUCLEAN, 3,
      { s with cpu := debugTransition .quarantined s.cpu, writes := [] }) := by
  obtain ⟨control, owner, value, live, hin, hread, hbad⟩ := h
  have himage := debugLiveImage_apply (s := s) (t := { s with writes := [] }) rfl hread
  have hcheck : debugCheckImage s.cpu control φ 0 _ = _ := debugCheckImage_apply himage hbad
  have hget : (get : Ctl CpuDebug) φ 0 { s with writes := [] } =
      (.ok { s with writes := [] }, 0, { s with writes := [] }) := rfl
  cases call with simp only [Call.inspects, Option.ite_none_left_eq_some, not_or,
    Option.ite_none_right_eq_some, Option.some.injEq, reduceCtorEq] at hin
  | restoreCpu =>
    obtain ⟨⟨hempty, hquar⟩, rfl⟩ := hin
    rw [Call.body, debugRestoreCpu, bind_apply_ok hget, if_neg hempty, if_neg hquar]
    exact bind_apply_error hcheck
  | handleBreak current frame =>
    obtain ⟨⟨⟨harmed, hkind, hpc⟩, hmatch⟩, rfl⟩ := hin
    refine bind_apply_error ?_
    rw [debugHandleBreak, bind_apply_ok hget, if_neg (by simp [harmed, hkind, hpc])]
    exact debugHandleHit_apply hmatch hcheck
  | handleWatch current frame =>
    obtain ⟨⟨⟨harmed, hkind, hrange⟩, hmatch⟩, rfl⟩ := hin
    refine bind_apply_error ?_
    rw [debugHandleWatch, bind_apply_ok hget, if_neg (by simp [harmed, hkind]),
      if_neg (by simp [hrange])]
    exact debugHandleHit_apply hmatch hcheck
  | handleStep current frame =>
    obtain ⟨⟨hstep, hmatch⟩, rfl⟩ := hin
    refine bind_apply_error ?_
    rw [debugHandleStep, bind_apply_ok hget, if_neg (by simp [hstep, hmatch])]
    exact bind_apply_error hcheck

/-! ## What a call leaves behind -/

lemma live_of_not_mismatch {r : Regs} {control : U32} (h : ¬ Mismatch st r control) :
    r.value st.kind st.slot = st.programmedValue ∧ r.control st.kind st.slot = control := by
  simp only [Mismatch, not_or, not_not] at h
  exact h.2

/-- A call that takes the CPU to `ARMED` leaves the programmed image in the slot. -/
lemma CallEffect.live_of_armed
    (h : CallEffect F ops s call r t) (hs : s.cpu.state ≠ .armed) (ht : t.cpu.state = .armed) :
    t.regs.value t.cpu.kind t.cpu.slot = t.cpu.programmedValue ∧
      t.regs.control t.cpu.kind t.cpu.slot = t.cpu.programmedControl := by
  cases h with
  | unchanged => exact absurd ht hs
  | armed h =>
    rw [h.cpu, h.regs]
    exact ⟨Regs.setValue_value_self _ _ _ _, Regs.setControl_control_self _ _ _ _⟩
  | unarmed _ _ h => rcases h with ⟨h, -⟩ | h <;> simp [h] at ht
  | restored _ _ hcpu _ =>
    rw [hcpu] at ht
    cases ht
  | ended harmed _ _ _ => exact absurd harmed hs
  | stepping harmed _ _ _ => exact absurd harmed hs
  | rearmed _ himage hcpu hregs =>
    rw [hcpu, hregs]
    exact ⟨(live_of_not_mismatch himage).1, Regs.setControl_control_self _ _ _ _⟩
  | mismatch _ _ ht' =>
    rw [ht'] at ht
    cases ht
  | quarantined _ _ h => simp [h] at ht

/-- A call that takes the CPU to `STEP_PENDING` or `ONE_SHOT_DONE` leaves the slot disabled. -/
lemma CallEffect.disabled_of_hit (h : CallEffect F ops s call r t) (hs : Consistent s.cpu)
    (hne : t.cpu.state ≠ s.cpu.state) (ht : t.cpu.state = .stepPending ∨ t.cpu.state = .oneShotDone)
    : t.regs.control t.cpu.kind t.cpu.slot &&& ctrlEnable = 0 := by
  cases h with
  | unchanged => exact absurd rfl hne
  | armed h => simp [h.cpu, debugTransition] at ht
  | unarmed _ _ h => rcases h with ⟨h, -⟩ | h <;> simp [h] at ht
  | restored _ _ hcpu _ => simp [hcpu, debugResetState] at ht
  | ended harmed _ hcpu hregs | stepping harmed _ hcpu hregs =>
    rw [hcpu, hregs]
    show (s.regs.setControl s.cpu.kind s.cpu.slot _).control s.cpu.kind s.cpu.slot &&& _ = 0
    rw [Regs.setControl_control_self]
    exact hs.disables (by simp [harmed]) (by simp [harmed])
  | rearmed _ _ hcpu _ => simp [hcpu, debugTransition] at ht
  | mismatch _ _ ht' => simp [ht', debugTransition] at ht
  | quarantined _ _ h => simp [h] at ht

lemma CallEffect.arm_failed {request : DebugRequest} {target : DebugTarget} {e : Errno}
    (h : CallEffect F ops s (.armCurrent request target) (.error e) t) (hs : s.cpu.state = .empty) :
    t.cpu.state = .empty ∧ t.regs = s.regs ∨ t.cpu.state = .quarantined := by
  cases h with
  | unchanged => exact .inl ⟨hs, rfl⟩
  | unarmed _ _ h => exact h
  | mismatch _ _ ht => exact .inr (by rw [ht]; rfl)
  | quarantined _ _ h => exact .inr h

/-! ## The two results -/

/-- The states and registers of a CPU under faults and interference.  After every call made in
a reachable state: the record is settled; a call that took the CPU to `ARMED` left the programmed
image in the slot; one that entered `STEP_PENDING` or `ONE_SHOT_DONE` left it disabled; a failed arm
of an empty CPU undid itself or quarantined; a call that found its slot changed wrote nothing and
quarantined; and quarantine is final. -/
theorem settled_under_faults (ops : DebugOps) {s : CpuDebug}
    (hs : (faultySystem ops).Reachable s) (call : Call) (φ : Oracle Errno) :
    let t := (call.exec ops φ s).2
    t.cpu.state ∈ [.empty, .armed, .stepPending, .oneShotDone, .quarantined] ∧
    (s.cpu.state ≠ .armed → t.cpu.state = .armed →
      t.regs.value t.cpu.kind t.cpu.slot = t.cpu.programmedValue ∧
        t.regs.control t.cpu.kind t.cpu.slot = t.cpu.programmedControl) ∧
    (t.cpu.state ≠ s.cpu.state → t.cpu.state = .stepPending ∨ t.cpu.state = .oneShotDone →
      t.regs.control t.cpu.kind t.cpu.slot &&& ctrlEnable = 0) ∧
    (∀ request target e, call = .armCurrent request target → s.cpu.state = .empty →
      (call.exec ops φ s).1 = .error e →
      t.cpu.state = .empty ∧ t.regs = s.regs ∨ t.cpu.state = .quarantined) ∧
    (call.FindsMismatch φ s → t.writes = [] ∧ t.cpu.state = .quarantined) ∧
    (s.cpu.state = .quarantined → ∀ u, (faultySystem ops).Steps s u →
      u.cpu.state = .quarantined ∧ ∀ call φ, (Call.exec ops call φ u).2.writes = []) := by
  intro t
  have hcons : Consistent s.cpu := faultySystem_consistent hs
  have heff := (Call.exec_effect ops hcons (Set.mem_univ φ) call).1
  refine ⟨?_, heff.live_of_armed, heff.disabled_of_hit hcons, ?_, ?_, ?_⟩
  · have hsettled := (Call.exec_consistent ops hcons φ call).settled
    simpa [DebugState.Settled] using hsettled
  · rintro request target e rfl hempty herr
    rw [herr] at heff
    exact heff.arm_failed hempty
  · intro hfinds
    have ht : t = { s with cpu := debugTransition .quarantined s.cpu, writes := [] } := by
      show (call.body ops φ 0 { s with writes := [] }).2.2 = _
      rw [body_of_findsMismatch hfinds]
    rw [ht]
    exact ⟨rfl, rfl⟩
  · intro hquar u hsteps
    have hu : u.cpu.state = .quarantined := by rw [steps_quarantined hquar hsteps, hquar]
    exact ⟨hu, fun call φ => by rw [exec_quarantined hu]⟩

/-- The small CPU, armed, after somebody moved its breakpoint. -/
def movedCpu : CpuDebug :=
  { armedCpu with regs := armedCpu.regs.setValue .breakpoint 0 0x2000 }

lemma movedCpu_reachable : (faultySystem oneSlotOps).Reachable movedCpu :=
  .step (a := .foreign _) (.step (a := .call (.armCurrent pageBreak someTarget) .succeed)
    (.init (s := blankCpu) rfl) rfl) rfl

/-- A restore of the moved breakpoint writes nothing and quarantines. -/
theorem settled_under_faults_moved :
    ((Call.restoreCpu).exec oneSlotOps .succeed movedCpu).2.writes = [] ∧
      ((Call.restoreCpu).exec oneSlotOps .succeed movedCpu).2.cpu.state = .quarantined := by
  have hfinds : Call.restoreCpu.FindsMismatch .succeed movedCpu :=
    ⟨_, _, _, _, rfl, rfl, .inr (.inl (by decide))⟩
  exact (settled_under_faults oneSlotOps movedCpu_reachable .restoreCpu .succeed).2.2.2.2.1 hfinds

/-- Without the restriction to calls that *take* the CPU to `ARMED` the image need not be the
programmed one: a second arm is refused, the CPU stays `ARMED`, and the foreign address stays in
the slot. -/
theorem refused_arm_leaves_foreign_address :
    ∃ s, (faultySystem oneSlotOps).Reachable s ∧ ∃ request target φ,
      let t := ((Call.armCurrent request target).exec oneSlotOps φ s).2
      t.cpu.state = .armed ∧ t.regs.value t.cpu.kind t.cpu.slot ≠ t.cpu.programmedValue :=
  ⟨movedCpu, movedCpu_reachable, pageBreak, someTarget, .succeed, by decide, by decide⟩

/-- Address registers are written only on a disabled, unowned slot. -/
theorem address_written_only_when_free (ops : DebugOps) {s : CpuDebug}
    (hs : (faultySystem ops).Reachable s) (call : Call) (φ : Oracle Errno) :
    ∀ w ∈ (call.exec ops φ s).2.writes,
      (∀ kind slot v, w.write = .value kind slot v → (kind, slot) = w.selected ∧
        w.before.owner kind slot = 0 ∧ w.before.control kind slot &&& ctrlEnable = 0) ∧
      (∀ kind slot, w.write.slot? = some (kind, slot) → s.regs.owner kind slot = 0) := by
  intro w hw
  have hok := (Call.exec_effect ops (faultySystem_consistent hs) (Set.mem_univ φ) call).2 w hw
  refine ⟨fun kind slot v hv => ⟨hok.selected kind slot ?_, hok.disabled kind slot v hv⟩,
    hok.unowned⟩
  rw [hv]
  rfl

/-- The first write of an arm is an address write, and it obeys the rule. -/
theorem address_written_only_when_free_blank :
    ∃ w ∈ ((Call.armCurrent pageBreak someTarget).exec oneSlotOps .succeed blankCpu).2.writes,
      w.write = .value .breakpoint 0 0x1000 ∧ (.breakpoint, 0) = w.selected ∧
        w.before.owner .breakpoint 0 = 0 ∧ w.before.control .breakpoint 0 &&& ctrlEnable = 0 := by
  have h := address_written_only_when_free oneSlotOps (.init (s := blankCpu) rfl)
    (.armCurrent pageBreak someTarget) .succeed
  refine ⟨_, List.mem_of_getElem? (i := 2) rfl, rfl, ?_⟩
  exact (h _ (List.mem_of_getElem? (i := 2) rfl)).1 .breakpoint 0 0x1000 rfl

end Spz
