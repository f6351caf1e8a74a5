import Stackplz.Debug.Calls
import Stackplz.Lib.Transition

/-!
# Exact restoration

Runs in which every register operation succeeds and nobody but the controller touches the
registers.  The invariant is `Held b s`: the CPU `s` holds a slot it took when the registers were
`b`, and the registers are still a known function of `b` and the record (`heldRegs`).

* A held slot always passes the image test (`Held.image`), so no call of such a run quarantines.
* Restoring a held slot gives `b` back, `MDSCR.MDE` possibly excepted (`restoredRegs_held`).

`Home ops base r` is what a restore promises about the registers `r` compared with those before
the arm; it composes, so it also holds across any number of arm and restore cycles.
-/

namespace Spz

open Fallible Transition Regs

variable {ops : DebugOps} {b base r : Regs} {st : CpuState} {s t : CpuDebug} {call : Call}

/-! ## A held slot -/

/-- `MDSCR` while a slot taken at the registers `b` is held. -/
def heldMdscr (b : Regs) (st : CpuState) : U64 :=
  if st.state = .stepPending then b.mdscr ||| mdscrMDE ||| mdscrSS else b.mdscr ||| mdscrMDE

/-- The registers while a slot taken at the registers `b` is held. -/
def heldRegs (b : Regs) (st : CpuState) : Regs :=
  ((b.setValue st.kind st.slot st.programmedValue).setControl st.kind st.slot
    (expectedControl st)).setMdscr (heldMdscr b st)

/-- The record `st` and the registers `r` of a CPU that holds a slot it took at the registers
`b`. -/
structure Held (b : Regs) (st : CpuState) (r : Regs) : Prop where
  state : st.state = .armed ∨ st.state = .stepPending ∨ st.state = .oneShotDone
  free : ¬ b.inUse st.kind st.slot
  savedValue : st.savedValue = b.value st.kind st.slot
  savedControl : st.savedControl = b.control st.kind st.slot
  addedMde : st.addedMde = (b.mdscr &&& mdscrMDE == 0)
  addedMdscrSs : st.addedMdscrSs =
    (st.state == .stepPending && (b.mdscr ||| mdscrMDE) &&& mdscrSS == 0)
  regs : r = heldRegs b st

lemma heldRegs_write (c : U32) (m : U64) :
    ((heldRegs b st).setControl st.kind st.slot c).setMdscr m =
      ((b.setValue st.kind st.slot st.programmedValue).setControl
        st.kind st.slot c).setMdscr m := by
  rw [heldRegs, setMdscr_setControl, setMdscr_setMdscr, setControl_setControl]

lemma Held.unowned (h : Held b st r) : b.owner st.kind st.slot = 0 := by
  have hfree := h.free
  simp only [inUse, not_or, not_not] at hfree
  exact hfree.1

lemma Held.image (h : Held b st r) : ¬ Mismatch st r (expectedControl st) := by
  rw [h.regs]
  simp [Mismatch, heldRegs, h.unowned]

lemma Held.withoutAddedSs (h : Held b st r) : withoutAddedSs st r.mdscr = b.mdscr ||| mdscrMDE := by
  rw [h.regs, Spz.withoutAddedSs, h.addedMdscrSs]
  show (if _ then heldMdscr b st &&& ~~~mdscrSS else heldMdscr b st) = _
  by_cases hstep : st.state = .stepPending
  · by_cases hclear : (b.mdscr ||| mdscrMDE) &&& mdscrSS = 0
    · simp only [heldMdscr, hstep, hclear, beq_self_eq_true, Bool.and_self, if_true]
      exact Bits.or_and_not_self hclear
    · simp only [heldMdscr, hstep, beq_eq_false_iff_ne.mpr hclear, Bool.and_false, if_true]
      exact isFlag_mdscrSS.or_eq_self hclear
  · simp [heldMdscr, hstep]

/-! ## The calls keep it -/

lemma Armed.held {request : DebugRequest} {target : DebugTarget} {enc : Encoding} {slot : ℕ}
    (h : Armed ops request target s t enc slot) : Held s.regs t.cpu t.regs := by
  rw [h.cpu, h.regs]
  exact ⟨.inl rfl, h.free, rfl, rfl, rfl, rfl, rfl⟩

lemma Held.ended (h : Held b st r) (harmed : st.state = .armed) :
    Held b (debugTransition .oneShotDone (debugTransition .hitDisabled st))
      (r.setControl st.kind st.slot st.disabledControl) := by
  refine ⟨.inr (.inr rfl), h.free, h.savedValue, h.savedControl, h.addedMde, ?_, ?_⟩
  · show st.addedMdscrSs = _
    rw [h.addedMdscrSs, harmed]
    rfl
  · rw [h.regs, heldRegs, heldMdscr, harmed, setMdscr_setControl, setControl_setControl]
    rfl

lemma Held.stepping (h : Held b st r) (harmed : st.state = .armed) (pstate : U64) :
    Held b (debugTransition .stepPending
        (noteStep r.mdscr pstate (debugTransition .hitDisabled st)))
      ((r.setControl st.kind st.slot st.disabledControl).setMdscr (r.mdscr ||| mdscrSS)) := by
  have hmdscr : r.mdscr = b.mdscr ||| mdscrMDE := by
    rw [h.regs]
    simp [heldRegs, heldMdscr, harmed]
  rw [hmdscr]
  refine ⟨.inr (.inl rfl), h.free, h.savedValue, h.savedControl, h.addedMde, rfl, ?_⟩
  rw [h.regs, heldRegs_write]
  rfl

lemma Held.rearmed (h : Held b st r) :
    Held b (debugTransition .armed (forgetStep st))
      ((r.setControl st.kind st.slot st.programmedControl).setMdscr
        (Spz.withoutAddedSs st r.mdscr)) := by
  rw [h.withoutAddedSs]
  refine ⟨.inl rfl, h.free, h.savedValue, h.savedControl, h.addedMde, rfl, ?_⟩
  rw [h.regs, heldRegs_write]
  rfl

/-! ## Back home -/

/-- `r` is `base` up to `MDSCR.MDE`, which is set in addition only if some slot is in use. -/
structure Home (ops : DebugOps) (base r : Regs) : Prop where
  value : r.value = base.value
  control : r.control = base.control
  owner : r.owner = base.owner
  mdscr : r.mdscr = base.mdscr ∨
    r.mdscr = base.mdscr ||| mdscrMDE ∧ ∃ p ∈ debugSlots ops, base.inUse p.1 p.2

lemma Home.refl (ops : DebugOps) (r : Regs) : Home ops r r := ⟨rfl, rfl, rfl, .inl rfl⟩

lemma Home.inUse_iff (h : Home ops base r) (p : SlotKind × ℕ) :
    r.inUse p.1 p.2 ↔ base.inUse p.1 p.2 := by
  rw [inUse, inUse, h.owner, h.control]

lemma Home.trans (h₁ : Home ops base b) (h₂ : Home ops b r) : Home ops base r where
  value := h₂.value.trans h₁.value
  control := h₂.control.trans h₁.control
  owner := h₂.owner.trans h₁.owner
  mdscr := by
    rcases h₂.mdscr with heq | ⟨heq, p, hp, huse⟩
    · rw [heq]
      exact h₁.mdscr
    · refine .inr ⟨?_, p, hp, (h₁.inUse_iff p).mp huse⟩
      rcases h₁.mdscr with hb | ⟨hb, -⟩
      · rw [heq, hb]
      · rw [heq, hb, BitVec.or_assoc, BitVec.or_self]

/-- Restoring a held slot leads home. -/
lemma Held.restored {r' : Regs} {keep : Bool} (h : Held b st r)
    (hr : RegsRestored faultless ops st r r' keep) : Home ops b r' := by
  have hregs : r' = b.setMdscr (restoredMdscr st r.mdscr keep) := by
    rw [hr.regs, restoredRegs, h.regs, heldRegs]
    simp only [setMdscr_setValue, setMdscr_setControl, setMdscr_setMdscr,
      setControl_setValue, setValue_setValue, setControl_setControl]
    rw [setValue_eq_self _ _ _ _ h.savedValue.symm, setControl_eq_self _ _ _ _ h.savedControl.symm]
  refine ⟨by rw [hregs]; rfl, by rw [hregs]; rfl, by rw [hregs]; rfl, ?_⟩
  have hmdscr : r'.mdscr = restoredMdscr st r.mdscr keep := by rw [hregs]; rfl
  rw [hmdscr, restoredMdscr, h.withoutAddedSs]
  cases keep with
  | false =>
    -- MDE was added, so removing it gives the original word
    have hclear : b.mdscr &&& mdscrMDE = 0 := by
      simpa [h.addedMde] using (hr.cleared rfl).1
    exact .inl (Bits.or_and_not_self hclear)
  | true =>
    rcases hr.kept rfl with hadded | ⟨p, hp, hne, huse⟩ | hF
    · -- MDE was set before the arm
      have hset : b.mdscr &&& mdscrMDE ≠ 0 := by
        simpa [h.addedMde] using hadded
      exact .inl (isFlag_mdscrMDE.or_eq_self hset)
    · rw [h.regs] at huse
      exact .inr ⟨rfl, p, hp, (inUse_write_iff hne).mp huse⟩
    · exact (not_faulty_faultless hF).elim

/-! ## Whole runs -/

/-- The invariant of a quiet run that started from the registers `base`: the CPU is empty and
the registers are home, or it holds a slot that it took when they were. -/
def Tracks (ops : DebugOps) (base : Regs) (s : CpuDebug) : Prop :=
  s.cpu.state = .empty ∧ Home ops base s.regs ∨ ∃ b, Home ops base b ∧ Held b s.cpu s.regs

lemma inspects_eq_expected {control : U32} (h : call.inspects st = some control) :
    control = expectedControl st := by
  cases call with
  | armCurrent => cases h
  | restoreCpu =>
    simp only [Call.inspects, Option.ite_none_left_eq_some, Option.some.injEq] at h
    exact h.2.symm
  | handleStep current frame =>
    simp only [Call.inspects, Option.ite_none_right_eq_some, Option.some.injEq] at h
    simp [expectedControl, h.1.1, h.2]
  | _ =>
    simp only [Call.inspects, Option.ite_none_right_eq_some, Option.some.injEq] at h
    simp [expectedControl, h.1.armed, h.2]

lemma Tracks.held (h : Tracks ops base s) (hne : s.cpu.state ≠ .empty) :
    ∃ b, Home ops base b ∧ Held b s.cpu s.regs :=
  h.resolve_left fun hempty => hne hempty.1

/-- A call without faults keeps the invariant. -/
lemma CallEffect.tracks {res : Except Errno Unit} (h : CallEffect faultless ops s call res t)
    (hs : Tracks ops base s) : Tracks ops base t := by
  cases h with
  | unchanged => exact hs
  | armed h =>
    rcases hs with ⟨-, hhome⟩ | ⟨b, -, hheld⟩
    · exact .inr ⟨s.regs, hhome, h.held⟩
    · have := hheld.state
      simp [h.empty] at this
  | unarmed hF | quarantined hF => exact (not_faulty_faultless hF).elim
  | restored hin himage hcpu hr =>
    obtain ⟨b, hhome, hheld⟩ := hs.held fun hempty => by simp [inspects_idle (.inl hempty)] at hin
    exact .inl ⟨by rw [hcpu]; rfl, hhome.trans (hheld.restored hr)⟩
  | ended harmed _ hcpu hregs =>
    obtain ⟨b, hhome, hheld⟩ := hs.held (by simp [harmed])
    exact .inr ⟨b, hhome, by rw [hcpu, hregs]; exact hheld.ended harmed⟩
  | stepping harmed _ hcpu hregs =>
    obtain ⟨b, hhome, hheld⟩ := hs.held (by simp [harmed])
    exact .inr ⟨b, hhome, by rw [hcpu, hregs]; exact hheld.stepping harmed _⟩
  | rearmed hstep _ hcpu hregs =>
    obtain ⟨b, hhome, hheld⟩ := hs.held (by simp [hstep])
    exact .inr ⟨b, hhome, by rw [hcpu, hregs]; exact hheld.rearmed⟩
  | mismatch hin hbad ht =>
    obtain ⟨b, hhome, hheld⟩ := hs.held fun hempty => by simp [inspects_idle (.inl hempty)] at hin
    rw [inspects_eq_expected hin] at hbad
    exact absurd hbad hheld.image

/-- A CPU from `spz_debug_controller_init` on, on which every operation succeeds and nobody else
touches the registers. -/
def quietSystem (ops : DebugOps) : System CpuDebug Call where
  init s := s.cpu = {}
  step s call s' := s' = (call.exec ops .succeed s).2

lemma quietSystem_step (hs : Consistent s.cpu ∧ Tracks ops base s)
    (h : (quietSystem ops).step s call t) : Consistent t.cpu ∧ Tracks ops base t := by
  rw [show t = (call.exec ops .succeed s).2 from h]
  exact ⟨Call.exec_consistent ops hs.1 _ call,
    (Call.exec_effect ops hs.1 (Set.mem_singleton _) call).1.tracks hs.2⟩

lemma quietSystem_consistent (h : (quietSystem ops).Reachable s) : Consistent s.cpu := by
  refine System.Reachable.invariant (I := fun s => Consistent s.cpu) ?_ ?_ h
  · intro s hs
    rw [show s.cpu = {} from hs]
    exact consistent_of_idle (.inl rfl)
  · intro s call t hs hstep
    rw [show t = (call.exec ops .succeed s).2 from hstep]
    exact Call.exec_consistent ops hs _ call

/-- The debug registers are restored exactly.  In every run of calls whose operations succeed
and whose registers nobody else changes: a call writes to no slot but the selected one; and when
the CPU is empty again after an arm, all value and control registers hold what they held before
the arm, and so does `MDSCR`, except that MDE may have been left set for another slot in use. -/
theorem registers_restored (ops : DebugOps) {s : CpuDebug} (hs : (quietSystem ops).Reachable s) :
    (∀ call : Call, ∀ w ∈ (call.exec ops .succeed s).2.writes, ∀ kind slot,
      w.write.slot? = some (kind, slot) → (kind, slot) = w.selected) ∧
    (∀ request target t, s.cpu.state = .empty →
      ((Call.armCurrent request target).exec ops .succeed s).1 = .ok () →
      (quietSystem ops).Steps ((Call.armCurrent request target).exec ops .succeed s).2 t →
      t.cpu.state = .empty →
      t.regs.value = s.regs.value ∧ t.regs.control = s.regs.control ∧
        (t.regs.mdscr = s.regs.mdscr ∨ t.regs.mdscr = s.regs.mdscr ||| mdscrMDE ∧
          OtherInUse ops ((Call.armCurrent request target).exec ops .succeed s).2.cpu t.regs)) := by
  have hcons := quietSystem_consistent hs
  refine ⟨fun call w hw kind slot => ?_, fun request target t hempty hok hsteps htempty => ?_⟩
  · exact ((Call.exec_effect ops hcons (Set.mem_univ _) call).2 w hw).selected kind slot
  · obtain ⟨enc, slot, harm⟩ := exec_armed hok
    have htracks := System.Steps.invariant (fun _ _ _ hu hstep => quietSystem_step hu hstep) hsteps
      ⟨Call.exec_consistent ops hcons _ _, .inr ⟨s.regs, Home.refl ops s.regs, harm.held⟩⟩
    rcases htracks.2 with ⟨-, hhome⟩ | ⟨b, -, hheld⟩
    · refine ⟨hhome.value, hhome.control, hhome.mdscr.imp_right fun ⟨hmde, p, hp, huse⟩ => ?_⟩
      refine ⟨hmde, p, hp, ?_, (hhome.inUse_iff p).mpr huse⟩
      -- the slot the arm took was free, so it is not the one in use
      rintro rfl
      rw [harm.cpu] at huse
      exact harm.free huse
    · have := hheld.state
      simp [htempty] at this

/-- Arming, hitting, stepping over and restoring the small CPU's breakpoint. -/
theorem registers_restored_blank :
    ∃ t, t.cpu.state = .empty ∧ t.regs.value = blankRegs.value ∧
      t.regs.control = blankRegs.control ∧
      (quietSystem oneSlotOps).Steps armedCpu t := by
  have hsteps : (quietSystem oneSlotOps).Steps armedCpu _ :=
    .tail (a := .restoreCpu) (.tail (a := .handleStep someTarget {})
      (.tail (a := .handleBreak someTarget { pc := 0x1000 }) .refl rfl) rfl) rfl
  have h := (registers_restored oneSlotOps (.init (s := blankCpu) rfl)).2 pageBreak someTarget _
    rfl rfl hsteps rfl
  exact ⟨_, rfl, h.1, h.2.1, hsteps⟩

end Spz
