import Stackplz.Debug.Controller
import Stackplz.Lib.Bits

/-!
# What each controller call can do

One specification per function of `core/debug.c`, each for a variable set of oracles `F`.  The
callers — the fault analysis, the restoration argument, the module's hooks — cite these and never
unfold a function.

Two notions recur.  `Mismatch` is what the live-image test looks for: the slot has an owner, or its
value or control register is not what the controller left there.  `WriteOk start w` is the
discipline every issued write obeys, relative to the registers `start` at the beginning of the
call.
-/

namespace Spz

open Fallible Errno Regs RegWrite

/-! ## The discipline of writes -/

/-- The slot of the record is owned, or does not hold the programmed value and `control`. -/
def Mismatch (st : CpuState) (r : Regs) (control : U32) : Prop :=
  r.owner st.kind st.slot ≠ 0 ∨ r.value st.kind st.slot ≠ st.programmedValue ∨
    r.control st.kind st.slot ≠ control
deriving Decidable

/-- How a write may be issued in a call that started with the registers `start`: it goes to the
selected slot, that slot had no owner when the call started, and an address register is written
only while its slot is unowned and disabled. -/
structure WriteOk (start : Regs) (w : IssuedWrite) : Prop where
  selected : ∀ k i, w.write.slot? = some (k, i) → (k, i) = w.selected
  unowned : ∀ k i, w.write.slot? = some (k, i) → start.owner k i = 0
  disabled : ∀ k i v, w.write = .value k i v →
    w.before.owner k i = 0 ∧ w.before.control k i &&& ctrlEnable = 0

/-- All writes issued so far obey the discipline. -/
def WritesOk (start : Regs) (s : CpuDebug) : Prop := ∀ w ∈ s.writes, WriteOk start w

variable {start r : Regs} {k : SlotKind} {i : ℕ} {c : U32} {v observed : U64} {st : CpuState}
  {ops : DebugOps} {t : CpuDebug} {current : DebugTarget} {frame : DebugFrame} {event : Event}

lemma writesOk_nil {s : CpuDebug} (h : s.writes = []) : WritesOk start s := by
  intro w hw
  rw [h] at hw
  cases hw

lemma writesOk_issue {s : CpuDebug} {w : RegWrite} (h : WritesOk start s)
    (hw : WriteOk start ⟨w, (s.cpu.kind, s.cpu.slot), s.regs⟩) : WritesOk start (s.issue w) := by
  intro w' hw'
  rcases List.mem_cons.mp hw' with rfl | hw'
  · exact hw
  · exact h w' hw'

/-- A write to the selected slot, which had no owner. -/
lemma writeOk_slot {w : RegWrite} (hslot : w.slot? = some (k, i)) (hstart : start.owner k i = 0)
    (hvalue : ∀ k i v, w = .value k i v → r.owner k i = 0 ∧ r.control k i &&& ctrlEnable = 0) :
    WriteOk start ⟨w, (k, i), r⟩ where
  selected k' i' h := Option.some.inj (h.symm.trans hslot)
  unowned k' i' h := by
    cases h.symm.trans hslot
    exact hstart
  disabled := hvalue

lemma writeOk_control (hstart : start.owner k i = 0) : WriteOk start ⟨.control k i c, (k, i), r⟩ :=
  writeOk_slot rfl hstart (by simp)

lemma writeOk_value (hstart : start.owner k i = 0) (howner : r.owner k i = 0)
    (hctl : r.control k i &&& ctrlEnable = 0) : WriteOk start ⟨.value k i v, (k, i), r⟩ := by
  refine writeOk_slot rfl hstart ?_
  rintro _ _ _ ⟨⟩
  exact ⟨howner, hctl⟩

lemma writeOk_mdscr :
    WriteOk start ⟨.mdscr v, (k, i), r⟩ where
  selected k' i' h := by simp [slot?] at h
  unowned k' i' h := by simp [slot?] at h
  disabled k' i' v' h := by simp at h

/-! ## The register operations -/

variable {F : Set (Oracle Errno)} {α : Type} {Q : α → CpuDebug → Prop}
variable {E : Errno → CpuDebug → Prop} {s : CpuDebug} {kind : SlotKind} {slot : ℕ}

lemma wp_readValue {Q : U64 → CpuDebug → Prop} (herr : Faulty F → ∀ e, E e s)
    (hok : Q (s.regs.value kind slot) s) : wp F (readValue kind slot) Q E s := wp_op herr hok

lemma wp_readControl {Q : U32 → CpuDebug → Prop} (herr : Faulty F → ∀ e, E e s)
    (hok : Q (s.regs.control kind slot) s) : wp F (readControl kind slot) Q E s := wp_op herr hok

lemma wp_readOwner {Q : U64 → CpuDebug → Prop} (herr : Faulty F → ∀ e, E e s)
    (hok : Q (s.regs.owner kind slot) s) : wp F (readOwner kind slot) Q E s := wp_op herr hok

lemma wp_readMdscr {Q : U64 → CpuDebug → Prop} (herr : Faulty F → ∀ e, E e s)
    (hok : Q s.regs.mdscr s) : wp F readMdscr Q E s := wp_op herr hok

/-- State after a successful register write. -/
def CpuDebug.wrote (s : CpuDebug) (w : RegWrite) (r : Regs) : CpuDebug :=
  { s.issue w with regs := r }

section

variable (w : RegWrite)

@[simp] lemma wrote_cpu (r : Regs) : (s.wrote w r).cpu = s.cpu := rfl
@[simp] lemma wrote_regs (r : Regs) : (s.wrote w r).regs = r := rfl
@[simp] lemma issue_cpu : (s.issue w).cpu = s.cpu := rfl
@[simp] lemma issue_regs : (s.issue w).regs = s.regs := rfl

end

section

variable {Q : Unit → CpuDebug → Prop}

lemma wp_writeValue (herr : Faulty F → ∀ e, E e (s.issue (.value kind slot v)))
    (hok : Q () (s.wrote (.value kind slot v) (s.regs.setValue kind slot v))) :
    wp F (writeValue kind slot v) Q E s := wp_op herr hok

lemma wp_writeControl (herr : Faulty F → ∀ e, E e (s.issue (.control kind slot c)))
    (hok : Q () (s.wrote (.control kind slot c) (s.regs.setControl kind slot c))) :
    wp F (writeControl kind slot c) Q E s := wp_op herr hok

lemma wp_writeMdscr (herr : Faulty F → ∀ e, E e (s.issue (.mdscr v)))
    (hok : Q () (s.wrote (.mdscr v) (s.regs.setMdscr v))) :
    wp F (writeMdscr v) Q E s := wp_op herr hok

end

lemma wp_modifyCpu {f : CpuState → CpuState} {Q : Unit → CpuDebug → Prop}
    (h : Q () { s with cpu := f s.cpu }) : wp F (modifyCpu f) Q E s := wp_modify h

/-! A write whose failure quarantines the CPU keeps the discipline on both ways out. -/

section Quarantine

variable {report : Errno → Errno} {Q : Unit → CpuDebug → Prop}

lemma wp_write_quarantine {w : RegWrite} {r : Regs} {m : Fallible CpuDebug Errno Unit}
    (hm : ∀ {Q : Unit → CpuDebug → Prop} {E : Errno → CpuDebug → Prop},
      (Faulty F → ∀ e, E e (s.issue w)) → Q () (s.wrote w r) → wp F m Q E s)
    (hw : WritesOk start s)
    (hok : WriteOk start ⟨w, (s.cpu.kind, s.cpu.slot), s.regs⟩)
    (hfail : ∀ e t, Faulty F → WritesOk start t → t.cpu.state = .quarantined → E e t)
    (h : ∀ t, t.cpu = s.cpu → t.regs = r → WritesOk start t → Q () t) :
    wp F (m.onFail quarantine report) Q E s :=
  wp_onFail (hm (fun hF _ => wp_modifyCpu (hfail _ _ hF (writesOk_issue hw hok) rfl))
    (h _ rfl rfl (writesOk_issue hw hok)))

lemma wp_writeMdscr_quarantine {m v : U64} (hm : s.regs.mdscr = m) (hw : WritesOk start s)
    (hfail : ∀ e t, Faulty F → WritesOk start t → t.cpu.state = .quarantined → E e t)
    (h : ∀ t, t.cpu = s.cpu → t.regs = s.regs.setMdscr v → WritesOk start t → Q () t) :
    wp F (onlyIf (v ≠ m) ((writeMdscr v).onFail quarantine report)) Q E s := by
  refine wp_onlyIf (fun _ => wp_write_quarantine wp_writeMdscr hw writeOk_mdscr hfail h) ?_
  intro hsame
  rw [not_not] at hsame
  exact h s rfl (by rw [hsame, ← hm]; rfl) hw

end Quarantine

/-! ## Reading functions -/

lemma wp_debugLiveImage {Q : U64 × U64 × U32 → CpuDebug → Prop} (herr : Faulty F → ∀ e, E e s)
    (hok : Q (s.regs.owner st.kind st.slot, s.regs.value st.kind st.slot,
      s.regs.control st.kind st.slot) s) : wp F (debugLiveImage st) Q E s :=
  wp_bind <| wp_readOwner herr <| wp_bind <| wp_readValue herr <|
    wp_bind <| wp_readControl herr <| wp_pure hok

variable {control : U32} {request : DebugRequest} {target : DebugTarget}
  {out : DebugResult × DebugFrame × Event}

/-- The image test ends in one of three ways: a read failed; the image is wrong and the CPU is
quarantined; the image is right. -/
lemma wp_debugCheckImage {Q : U64 × U32 → CpuDebug → Prop} (herr : Faulty F → ∀ e, E e s)
    (hbad : Mismatch st s.regs control →
      E EUCLEAN { s with cpu := debugTransition .quarantined s.cpu })
    (hok : ¬ Mismatch st s.regs control →
      Q (s.regs.value st.kind st.slot, s.regs.control st.kind st.slot) s) :
    wp F (debugCheckImage st control) Q E s :=
  wp_bind <| wp_debugLiveImage herr <| wp_ite
    (fun h => wp_bind <| wp_modifyCpu <| wp_fail <| hbad h) (fun h => wp_pure <| hok h)

/-- `spz_debug_find_slot` returns a slot that is not in use, with what its registers hold, and
changes nothing. -/
lemma wp_debugFindSlotBelow (kind : SlotKind) : ∀ n : ℕ,
    wp F (debugFindSlotBelow kind n)
      (fun found t => t = s ∧ found.1 < n ∧ ¬ s.regs.inUse kind found.1 ∧
        found.2 = (s.regs.value kind found.1, s.regs.control kind found.1))
      (fun _ t => t = s) s
  | 0 => wp_fail rfl
  | n + 1 => by
    refine wp_bind (wp_readOwner (fun _ _ => rfl) ?_)
    refine wp_bind (wp_readControl (fun _ _ => rfl) ?_)
    refine wp_ite (fun _ => wp_fail rfl) (fun hagree => ?_)
    refine wp_ite (fun _ => ?_) (fun howner => ?_)
    · refine wp_mono (wp_debugFindSlotBelow kind n) (fun found t h => ?_) (fun _ _ h => h)
      exact ⟨h.1, Nat.lt_succ_of_lt h.2.1, h.2.2⟩
    · refine wp_bind (wp_readValue (fun _ _ => rfl) (wp_pure ⟨rfl, Nat.lt_succ_self n, ?_, rfl⟩))
      -- the two tests agreed and the owner word is 0, so the slot is disabled
      simp only [not_not] at howner
      simp only [howner, beq_self_eq_true, bne_iff_ne, ne_eq, Bool.true_eq, beq_iff_eq,
        not_not] at hagree
      simp [inUse, howner, hagree]

/-- `spz_debug_other_state_requires_mde` changes nothing; without faults it reports whether one of
the slots, the owned one apart, is in use. -/
lemma wp_debugAnyRequiresMde (owned : CpuState) : ∀ slots : List (SlotKind × ℕ),
    wp F (debugAnyRequiresMde owned slots)
      (fun b t => t = s ∧ (Faulty F ∧ b = true ∨ (b = true ↔
        ∃ p ∈ slots, p ≠ (owned.kind, owned.slot) ∧ s.regs.inUse p.1 p.2)))
      (fun _ _ => False) s
  | [] => wp_pure ⟨rfl, .inr (by simp)⟩
  | (k, i) :: rest => by
    have ih := wp_debugAnyRequiresMde owned rest
    refine wp_ite (fun hsame => ?_) (fun hother => ?_)
    · refine wp_mono ih (fun b t h => ⟨h.1, h.2.imp_right fun hb => ?_⟩) (fun _ _ h => h)
      simp [hb, hsame.1, hsame.2]
    · refine wp_bind (wp_attempt (wp_readOwner (fun hF _ => wp_pure ⟨rfl, .inl ⟨hF, rfl⟩⟩) ?_))
      refine wp_bind (wp_attempt (wp_readControl (fun hF _ => wp_pure ⟨rfl, .inl ⟨hF, rfl⟩⟩) ?_))
      have hne : (k, i) ≠ (owned.kind, owned.slot) := by
        simpa only [ne_eq, Prod.mk.injEq] using hother
      refine wp_ite (fun huse => wp_pure ⟨rfl, .inr ?_⟩) (fun hfree => ?_)
      · simp only [true_iff]
        exact ⟨(k, i), List.mem_cons_self, hne, huse⟩
      · refine wp_mono ih (fun b t h => ⟨h.1, h.2.imp_right fun hb => ?_⟩) (fun _ _ h => h)
        simp only [hb, List.mem_cons, exists_eq_or_imp, hne, ne_eq, not_false_eq_true, true_and]
        exact ⟨.inr, fun h => h.resolve_left hfree⟩

/-! ## Flags -/

lemma isFlag_mdscrMDE : Bits.IsFlag mdscrMDE := Bits.isFlag_shiftLeft (by decide)
lemma isFlag_mdscrSS : Bits.IsFlag mdscrSS := Bits.isFlag_shiftLeft (by decide)

/-! ## Arming -/

/-- Registers a rollback finds: the new address is in place, the control word may be. -/
def partlyArmed (r : Regs) (st : CpuState) (c : U32) : Regs :=
  (r.setValue st.kind st.slot st.programmedValue).setControl st.kind st.slot c

lemma partlyArmed_undo (hv : r.value st.kind st.slot = st.savedValue)
    (hc : r.control st.kind st.slot = st.savedControl) :
    (partlyArmed r st st.savedControl).setValue st.kind st.slot st.savedValue = r := by
  rw [partlyArmed, setControl_setValue, setValue_setValue,
    setValue_eq_self _ _ _ _ hv, setControl_eq_self _ _ _ _ hc]

/-- `spz_debug_rollback_arm` restores the slot or quarantines it.  Every oracle that lets it
reach the end leaves exactly the registers `r` from before the arm. -/
lemma wp_debugRollbackArm (hregs : s.regs = partlyArmed r s.cpu c)
    (hc : c = s.cpu.programmedControl ∨ c = s.cpu.savedControl)
    (howner : r.owner s.cpu.kind s.cpu.slot = 0) (hstart : start.owner s.cpu.kind s.cpu.slot = 0)
    (hv : r.value s.cpu.kind s.cpu.slot = s.cpu.savedValue)
    (hsaved : r.control s.cpu.kind s.cpu.slot = s.cpu.savedControl)
    (hdis : s.cpu.savedControl &&& ctrlEnable = 0) (hw : WritesOk start s) {P : CpuDebug → Prop}
    (hdone : ∀ t, t.cpu.state = .empty → t.regs = r → WritesOk start t → P t)
    (hquar : ∀ t, t.cpu.state = .quarantined → WritesOk start t → P t) :
    wp F debugRollbackArm (fun _ t => P t) (fun _ t => P t) s := by
  -- the last two steps, from the point where the control register is back
  have finish : ∀ t : CpuDebug, t.cpu = s.cpu → t.regs = partlyArmed r s.cpu s.cpu.savedControl →
      WritesOk start t →
      wp F (do
        (writeValue s.cpu.kind s.cpu.slot s.cpu.savedValue).onFail quarantine fun _ => EIO
        modifyCpu debugResetState) (fun _ t => P t) (fun _ t => P t) t := by
    intro t hcpu htregs htw
    refine wp_bind (wp_write_quarantine wp_writeValue htw ?_
      (fun _ u _ huw hus => hquar u hus huw) ?_)
    · rw [hcpu, htregs]
      refine writeOk_value hstart howner ?_
      rw [partlyArmed, setControl_control_self]
      exact hdis
    · intro u hucpu huregs huw
      refine wp_modifyCpu (hdone _ rfl ?_ huw)
      rw [← partlyArmed_undo hv hsaved, ← htregs]
      exact huregs
  refine wp_bind (wp_get ?_)
  refine wp_bind (wp_onFail (wp_debugLiveImage (fun _ _ => wp_modifyCpu (hquar _ rfl hw)) ?_))
  refine wp_ite (fun hbad => ?_) (fun _ => ?_)
  · exfalso
    simp only [hregs, partlyArmed, setControl_owner, setValue_owner, howner,
      setControl_value, setValue_value_self, setControl_control_self] at hbad
    rcases hc with rfl | rfl <;> simp at hbad
  · refine wp_bind (wp_onlyIf (fun _ => ?_) (fun hne => finish s rfl ?_ hw))
    · refine wp_write_quarantine wp_writeControl hw (writeOk_control hstart)
        (fun _ u _ huw hus => hquar u hus huw) (fun u hucpu huregs huw => finish u hucpu ?_ huw)
      rw [huregs, hregs, partlyArmed, setControl_setControl]
      rfl
    · have hctl : s.regs.control s.cpu.kind s.cpu.slot = c := by
        rw [hregs, partlyArmed, setControl_control_self]
      rw [hctl] at hne
      rw [hregs, hc.resolve_left hne]

/-- The state in which `spz_debug_arm_current` starts to write: the record is filled in. -/
def snapshot (request : DebugRequest) (target : DebugTarget) (enc : Encoding) (slot : ℕ)
    (s : CpuDebug) : CpuDebug :=
  { s with cpu := debugTransition .snapshotted (armedRecord request target enc slot
      (s.regs.value (requestSlotKind request) slot)
      (s.regs.control (requestSlotKind request) slot) s.regs.mdscr s.cpu) }

/-- The registers a successful arm leaves. -/
def armedRegs (r : Regs) (enc : Encoding) (kind : SlotKind) (slot : ℕ) : Regs :=
  ((r.setValue kind slot enc.value).setControl kind slot enc.control).setMdscr
    (r.mdscr ||| mdscrMDE)

/-- A successful arm: from `s` to `t`, with the encoding and the slot it used. -/
structure Armed (ops : DebugOps) (request : DebugRequest) (target : DebugTarget)
    (s t : CpuDebug) (enc : Encoding) (slot : ℕ) : Prop where
  empty : s.cpu.state = .empty
  valid : debugValidTarget target = true
  accepted : debugValidateRequest request = .ok enc
  slot_lt : slot < debugSlotCount ops (requestSlotKind request)
  free : ¬ s.regs.inUse (requestSlotKind request) slot
  cpu : t.cpu = debugTransition .armed (snapshot request target enc slot s).cpu
  regs : t.regs = armedRegs s.regs enc (requestSlotKind request) slot

/-- A failed arm: nothing has changed; or an operation failed, and the registers are back as
they were or the CPU is quarantined. -/
def ArmFailed (F : Set (Oracle Errno)) (s t : CpuDebug) : Prop :=
  t = s ∨ Faulty F ∧ s.cpu.state = .empty ∧
    (t.cpu.state = .empty ∧ t.regs = s.regs ∨ t.cpu.state = .quarantined)

/-- The writes of an arm, from the filled-in record. -/
lemma wp_debugProgramSlot {enc : Encoding} (hempty : s.cpu.state = .empty)
    (hfree : ¬ s.regs.inUse (requestSlotKind request) slot) (hw : WritesOk s.regs s) :
    wp F (debugProgramSlot enc (requestSlotKind request) slot s.regs.mdscr)
      (fun _ t => t.cpu = debugTransition .armed (snapshot request target enc slot s).cpu ∧
        t.regs = armedRegs s.regs enc (requestSlotKind request) slot ∧ WritesOk s.regs t)
      (fun _ t => ArmFailed F s t ∧ WritesOk s.regs t) (snapshot request target enc slot s) := by
  set kind := requestSlotKind request
  obtain ⟨howner, hdis⟩ : s.regs.owner kind slot = 0 ∧
      s.regs.control kind slot &&& ctrlEnable = 0 := by
    simpa only [inUse, not_or, not_not] using hfree
  have hctl : ∀ r : Regs, WriteOk s.regs ⟨.control kind slot enc.control, (kind, slot), r⟩ :=
    fun r => writeOk_control howner
  -- both later failures go through the rollback
  have back : ∀ t : CpuDebug, Faulty F → t.cpu = (snapshot request target enc slot s).cpu →
      (∃ c, t.regs = partlyArmed s.regs t.cpu c ∧
        (c = t.cpu.programmedControl ∨ c = t.cpu.savedControl)) → WritesOk s.regs t →
      wp F debugRollbackArm (fun _ t => ArmFailed F s t ∧ WritesOk s.regs t)
        (fun _ t => ArmFailed F s t ∧ WritesOk s.regs t) t := by
    rintro t hF hcpu ⟨c, hregs, hc⟩ htw
    have hpc : t.cpu.kind = kind ∧ t.cpu.slot = slot ∧ t.cpu.savedValue = s.regs.value kind slot ∧
        t.cpu.savedControl = s.regs.control kind slot := by
      rw [hcpu]; exact ⟨rfl, rfl, rfl, rfl⟩
    obtain ⟨hk, hi, hsv, hsc⟩ := hpc
    refine wp_debugRollbackArm hregs hc ?_ ?_ ?_ ?_ ?_ htw ?_ ?_
    · rw [hk, hi]; exact howner
    · rw [hk, hi]; exact howner
    · rw [hk, hi, hsv]
    · rw [hk, hi, hsc]
    · rw [hsc]; exact hdis
    · exact fun t' hs' hr' hw' => ⟨.inr ⟨hF, hempty, .inl ⟨hs', hr'⟩⟩, hw'⟩
    · exact fun t' hs' hw' => ⟨.inr ⟨hF, hempty, .inr hs'⟩, hw'⟩
  have hvw : WritesOk s.regs (((snapshot request target enc slot s).issue
      (.value kind slot enc.value))) := writesOk_issue hw (writeOk_value howner howner hdis)
  refine wp_bind (wp_onFail (wp_writeValue (fun hF _ => ?_) ?_))
  · exact wp_modifyCpu ⟨.inr ⟨hF, hempty, .inl ⟨rfl, rfl⟩⟩, hvw⟩
  refine wp_bind (wp_onFail (wp_writeControl (fun hF _ => ?_) ?_))
  · refine back _ hF rfl ⟨s.regs.control kind slot, ?_, .inr rfl⟩ (writesOk_issue hvw (hctl _))
    exact (setControl_eq_self _ _ _ _ rfl).symm
  refine wp_bind (wp_onlyIf (fun _ => wp_onFail (wp_writeMdscr (fun hF _ => ?_) ?_))
    (fun hset => ?_))
  · exact back _ hF rfl ⟨enc.control, rfl, .inl rfl⟩
      (writesOk_issue (writesOk_issue hvw (hctl _)) writeOk_mdscr)
  · exact wp_modifyCpu ⟨rfl, rfl, writesOk_issue (writesOk_issue hvw (hctl _)) writeOk_mdscr⟩
  · refine wp_modifyCpu ⟨rfl, ?_, writesOk_issue hvw (hctl _)⟩
    rw [armedRegs, isFlag_mdscrMDE.or_eq_self hset]
    rfl

/-- `spz_debug_arm_current`. -/
lemma wp_debugArmCurrent (hw : WritesOk s.regs s) :
    wp F (debugArmCurrent ops request target)
      (fun _ t => (∃ enc slot, Armed ops request target s t enc slot) ∧ WritesOk s.regs t)
      (fun _ t => ArmFailed F s t ∧ WritesOk s.regs t) s := by
  refine wp_ite (fun _ => wp_fail ⟨.inl rfl, hw⟩) (fun hvalid => ?_)
  refine wp_bind (wp_get ?_)
  refine wp_ite (fun _ => wp_fail ⟨.inl rfl, hw⟩) (fun hempty => ?_)
  rw [not_not] at hempty
  cases hacc : debugValidateRequest request with
  | error e => exact wp_fail ⟨.inl rfl, hw⟩
  | ok enc =>
    refine wp_bind (wp_mono (wp_debugFindSlotBelow _ _) ?_ ?_)
    · rintro ⟨slot, value, control⟩ t ⟨rfl, hlt, hfree, heq⟩
      dsimp only at hlt hfree heq
      cases heq
      refine wp_bind (wp_readMdscr (fun _ _ => ⟨.inl rfl, hw⟩) ?_)
      refine wp_bind (wp_modifyCpu ?_)
      refine wp_mono (wp_debugProgramSlot hempty hfree hw) ?_ (fun _ _ h => h)
      rintro - u ⟨hcpu, hregs, huw⟩
      exact ⟨⟨enc, slot, hempty, by simpa using hvalid, hacc, hlt, hfree, hcpu, hregs⟩, huw⟩
    · rintro e t rfl
      exact ⟨.inl rfl, hw⟩

/-! ## Restoring -/

lemma inUse_write_iff {p : SlotKind × ℕ} (h : p ≠ (kind, slot)) :
    ((r.setValue kind slot v).setControl kind slot c).inUse p.1 p.2 ↔ r.inUse p.1 p.2 := by
  have hne : ¬ (p.1 = kind ∧ p.2 = slot) := fun ⟨h₁, h₂⟩ => h (Prod.ext h₁ h₂)
  rw [inUse, inUse, setControl_control_of_ne _ _ _ _ _ _ hne]
  rfl

/-- Some slot of the CPU other than the one in the record is owned or enabled. -/
def OtherInUse (ops : DebugOps) (st : CpuState) (r : Regs) : Prop :=
  ∃ p ∈ debugSlots ops, p ≠ (st.kind, st.slot) ∧ r.inUse p.1 p.2

/-- The registers a successful restore leaves. -/
def restoredRegs (r : Regs) (st : CpuState) (keepMde : Bool) : Regs :=
  ((r.setValue st.kind st.slot st.savedValue).setControl st.kind st.slot st.savedControl).setMdscr
    (restoredMdscr st r.mdscr keepMde)

/-- From `r` to `r'` the slot of the record has been restored; MDE was cleared only if the
controller had added it and no other slot needs it. -/
structure RegsRestored (F : Set (Oracle Errno)) (ops : DebugOps) (st : CpuState) (r r' : Regs)
    (keepMde : Bool) : Prop where
  regs : r' = restoredRegs r st keepMde
  cleared : keepMde = false → st.addedMde = true ∧ ¬ OtherInUse ops st r
  kept : keepMde = true → st.addedMde = false ∨ OtherInUse ops st r ∨ Faulty F

lemma wp_debugKeepMde
    (hother : OtherInUse ops st s.regs ↔ OtherInUse ops st r) {Q : Bool → CpuDebug → Prop}
    (h : ∀ keep, (keep = false → st.addedMde = true ∧ ¬ OtherInUse ops st r) →
      (keep = true → st.addedMde = false ∨ OtherInUse ops st r ∨ Faulty F) → Q keep s) :
    wp F (debugKeepMde ops st) Q E s := by
  refine wp_ite (fun hadded => ?_) (fun hadded => wp_pure (h true (by simp) fun _ => .inl ?_))
  · refine wp_mono (wp_debugAnyRequiresMde st _) ?_ (fun _ _ h => h.elim)
    rintro b t ⟨rfl, hb⟩
    refine h b (fun hfalse => ⟨hadded, ?_⟩) (fun htrue => .inr ?_)
    · rcases hb with ⟨-, rfl⟩ | hiff
      · cases hfalse
      · exact fun hin => absurd (hiff.mpr (hother.mpr hin)) (by simp [hfalse])
    · rcases hb with ⟨hF, -⟩ | hiff
      · exact .inr hF
      · exact .inl (hother.mp (hiff.mp htrue))
  · simpa using hadded

/-- The last writes of a restore, from a disabled slot. -/
lemma wp_debugPutBack {cpu : CpuState} (hcpu : s.cpu = cpu) (hk : cpu.kind = st.kind)
    (hi : cpu.slot = st.slot) (hstart : start.owner st.kind st.slot = 0)
    (howner : r.owner st.kind st.slot = 0) (hregs : s.regs = r.setControl st.kind st.slot c)
    (hc : c &&& ctrlEnable = 0) (hw : WritesOk start s) :
    wp F (debugPutBack ops st r.mdscr)
      (fun _ t => WritesOk start t ∧ t.cpu = debugResetState cpu ∧
        ∃ keep, RegsRestored F ops st r t.regs keep)
      (fun _ t => WritesOk start t ∧ Faulty F ∧ t.cpu.state = .quarantined) s := by
  have hfail : ∀ (_ : Errno) (t : CpuDebug), Faulty F → WritesOk start t →
      t.cpu.state = .quarantined → WritesOk start t ∧ Faulty F ∧ t.cpu.state = .quarantined :=
    fun _ _ hF htw hts => ⟨htw, hF, hts⟩
  refine wp_bind (wp_write_quarantine wp_writeValue hw ?_ hfail fun t htcpu htregs htw => ?_)
  · rw [hcpu, hk, hi, hregs]
    exact writeOk_value hstart howner (by simpa using hc)
  refine wp_bind (wp_write_quarantine wp_writeControl htw ?_ hfail fun u hucpu huregs huw => ?_)
  · rw [htcpu, hcpu, hk, hi]
    exact writeOk_control hstart
  have huregs' : u.regs =
      (r.setValue st.kind st.slot st.savedValue).setControl st.kind st.slot st.savedControl := by
    rw [huregs, htregs, hregs, setControl_setValue, setControl_setControl]
  have hmdscr : u.regs.mdscr = r.mdscr := by rw [huregs']; rfl
  have hother : OtherInUse ops st u.regs ↔ OtherInUse ops st r := by
    rw [huregs']
    exact exists_congr fun p => and_congr_right fun _ => and_congr_right fun hp =>
      inUse_write_iff hp
  refine wp_bind (wp_debugKeepMde hother fun keep hclear hkeep => ?_)
  refine wp_bind (wp_writeMdscr_quarantine hmdscr huw hfail fun v hvcpu hvregs hvw => ?_)
  refine wp_modifyCpu ⟨hvw, ?_, keep, ?_, hclear, hkeep⟩
  · rw [hvcpu, hucpu, htcpu, hcpu]
  · rw [hvregs, huregs']
    rfl

/-- A slot is restored, or a fault quarantines the CPU. -/
lemma wp_debugRestoreSlot (hk : s.cpu.kind = st.kind) (hi : s.cpu.slot = st.slot)
    (hstart : start.owner st.kind st.slot = 0) (howner : s.regs.owner st.kind st.slot = 0)
    (hdis : st.disabledControl &&& ctrlEnable = 0) (hw : WritesOk start s) :
    wp F (debugRestoreSlot ops st (s.regs.control st.kind st.slot) s.regs.mdscr)
      (fun _ t => WritesOk start t ∧ t.cpu = debugResetState s.cpu ∧
        ∃ keep, RegsRestored F ops st s.regs t.regs keep)
      (fun _ t => WritesOk start t ∧ Faulty F ∧ t.cpu.state = .quarantined) s := by
  -- the slot ends up disabled whether it has to be written or not
  refine wp_bind (wp_onlyIf (fun _ => ?_) (fun hclear => ?_))
  · refine wp_write_quarantine wp_writeControl hw ?_ (fun _ _ hF htw hts => ⟨htw, hF, hts⟩)
      fun t htcpu htregs htw => wp_debugPutBack htcpu hk hi hstart howner htregs hdis htw
    rw [hk, hi]
    exact writeOk_control hstart
  · rw [not_not] at hclear
    exact wp_debugPutBack rfl hk hi hstart howner (setControl_eq_self _ _ _ _ rfl).symm hclear hw

/-- A restore that returns: the CPU was empty, or its slot has been restored. -/
def RestoreDone (F : Set (Oracle Errno)) (ops : DebugOps) (s t : CpuDebug) : Prop :=
  s.cpu.state = .empty ∧ t = s ∨
  s.cpu.state ≠ .empty ∧ s.cpu.state ≠ .quarantined ∧
    ¬ Mismatch s.cpu s.regs (expectedControl s.cpu) ∧
    t.cpu = debugResetState (debugTransition .restoring s.cpu) ∧
    ∃ keep, RegsRestored F ops s.cpu s.regs t.regs keep

/-- How a call that inspects the slot fails: before it changed anything, because the image was
wrong, or because a write failed. -/
def InspectFailed (F : Set (Oracle Errno)) (control : U32) (s t : CpuDebug) : Prop :=
  Faulty F ∧ t = s ∨
  Mismatch s.cpu s.regs control ∧ t = { s with cpu := debugTransition .quarantined s.cpu } ∨
  Faulty F ∧ ¬ Mismatch s.cpu s.regs control ∧ t.cpu.state = .quarantined

lemma InspectFailed.mismatch
    (h : InspectFailed faultless control s t) : Mismatch s.cpu s.regs control := by
  rcases h with ⟨hF, -⟩ | ⟨hbad, -⟩ | ⟨hF, -⟩
  · exact (not_faulty_faultless hF).elim
  · exact hbad
  · exact (not_faulty_faultless hF).elim

/-- `spz_debug_restore_cpu`. -/
lemma wp_debugRestoreCpu (hw : WritesOk s.regs s)
    (hdis : s.cpu.state ≠ .empty → s.cpu.state ≠ .quarantined →
      s.cpu.disabledControl &&& ctrlEnable = 0) :
    wp F (debugRestoreCpu ops) (fun _ t => RestoreDone F ops s t ∧ WritesOk s.regs t)
      (fun _ t => (s.cpu.state = .quarantined ∧ t = s ∨
        s.cpu.state ≠ .empty ∧ s.cpu.state ≠ .quarantined ∧
          InspectFailed F (expectedControl s.cpu) s t) ∧ WritesOk s.regs t) s := by
  refine wp_bind (wp_get ?_)
  refine wp_ite (fun hempty => wp_pure ⟨.inl ⟨hempty, rfl⟩, hw⟩) (fun hempty => ?_)
  refine wp_ite (fun hquar => wp_fail ⟨.inl ⟨hquar, rfl⟩, hw⟩) (fun hquar => ?_)
  refine wp_bind (wp_debugCheckImage (fun hF _ => ⟨.inr ⟨hempty, hquar, .inl ⟨hF, rfl⟩⟩, hw⟩)
    (fun hbad => ⟨.inr ⟨hempty, hquar, .inr (.inl ⟨hbad, rfl⟩)⟩, hw⟩) (fun himage => ?_))
  refine wp_bind (wp_readMdscr (fun hF _ => ⟨.inr ⟨hempty, hquar, .inl ⟨hF, rfl⟩⟩, hw⟩) ?_)
  refine wp_bind (wp_modifyCpu ?_)
  have howner : s.regs.owner s.cpu.kind s.cpu.slot = 0 := by
    simp only [Mismatch, not_or, not_not] at himage
    exact himage.1
  refine wp_mono (wp_debugRestoreSlot (s := { s with cpu := debugTransition .restoring s.cpu })
    rfl rfl howner howner (hdis hempty hquar) hw) ?_ ?_
  · rintro - t ⟨htw, htcpu, hrestored⟩
    exact ⟨.inr ⟨hempty, hquar, himage, htcpu, hrestored⟩, htw⟩
  · rintro e t ⟨htw, hF, hts⟩
    exact ⟨.inr ⟨hempty, hquar, .inr (.inr ⟨hF, himage, hts⟩)⟩, htw⟩

/-! ## Hits and steps -/

/-- A hit handler that returns: it was not concerned, the hit ended the request, or the target
is about to step over it. -/
inductive HitDone (concerned : Prop) (frame : DebugFrame) (observed : U64) (event : Event)
    (s : CpuDebug) : DebugResult × DebugFrame × Event → CpuDebug → Prop
  | notOwned : ¬ concerned → HitDone concerned frame observed event s (.notOwned, frame, event) s
  | ended {filled : Event} {t : CpuDebug} : concerned →
      ¬ Mismatch s.cpu s.regs s.cpu.programmedControl → endsRequest s.cpu frame →
      t.cpu = debugTransition .oneShotDone (debugTransition .hitDisabled s.cpu) →
      t.regs = s.regs.setControl s.cpu.kind s.cpu.slot s.cpu.disabledControl →
      filled = debugFillEvent s.cpu frame observed s.cpu.programmedValue s.cpu.programmedControl
        s.regs.mdscr →
      HitDone concerned frame observed event s (.consumed, frame,
        if frame.kernelMode then { filled with flags := filled.flags ||| flagKernelUaccess }
        else filled) t
  | stepping {filled : Event} {t : CpuDebug} : concerned →
      ¬ Mismatch s.cpu s.regs s.cpu.programmedControl → ¬ endsRequest s.cpu frame →
      t.cpu = debugTransition .stepPending
        (noteStep s.regs.mdscr frame.pstate (debugTransition .hitDisabled s.cpu)) →
      t.regs = (s.regs.setControl s.cpu.kind s.cpu.slot s.cpu.disabledControl).setMdscr
        (s.regs.mdscr ||| mdscrSS) →
      filled = debugFillEvent s.cpu frame observed s.cpu.programmedValue s.cpu.programmedControl
        s.regs.mdscr →
      HitDone concerned frame observed event s
        (.consumed, { frame with pstate := frame.pstate ||| pstateSS }, filled) t

/-- `spz_debug_handle_hit`. -/
lemma wp_debugHandleHit (hw : WritesOk s.regs s) :
    wp F (debugHandleHit current frame observed event)
      (fun out t => HitDone (debugTargetMatches s.cpu.target current = true) frame observed event
        s out t ∧ WritesOk s.regs t)
      (fun _ t => debugTargetMatches s.cpu.target current = true ∧
        InspectFailed F s.cpu.programmedControl s t ∧ WritesOk s.regs t) s := by
  refine wp_bind (wp_get ?_)
  refine wp_ite (fun hother => wp_pure ⟨.notOwned (by simpa using hother), hw⟩) (fun hmatch => ?_)
  have hmatch : debugTargetMatches s.cpu.target current = true := by simpa using hmatch
  refine wp_bind (wp_debugCheckImage (fun hF _ => ⟨hmatch, .inl ⟨hF, rfl⟩, hw⟩)
    (fun hbad => ⟨hmatch, .inr (.inl ⟨hbad, rfl⟩), hw⟩) (fun himage => ?_))
  refine wp_bind (wp_readMdscr (fun hF _ => ⟨hmatch, .inl ⟨hF, rfl⟩, hw⟩) ?_)
  have hfail : ∀ (_ : Errno) (t : CpuDebug), Faulty F → WritesOk s.regs t →
      t.cpu.state = .quarantined → debugTargetMatches s.cpu.target current = true ∧
        InspectFailed F s.cpu.programmedControl s t ∧ WritesOk s.regs t :=
    fun _ t hF htw hts => ⟨hmatch, .inr (.inr ⟨hF, himage, hts⟩), htw⟩
  obtain ⟨howner, hvalue, hcontrol⟩ : s.regs.owner s.cpu.kind s.cpu.slot = 0 ∧
      s.regs.value s.cpu.kind s.cpu.slot = s.cpu.programmedValue ∧
      s.regs.control s.cpu.kind s.cpu.slot = s.cpu.programmedControl := by
    simpa only [Mismatch, not_or, not_not] using himage
  rw [hvalue, hcontrol]
  refine wp_bind (wp_write_quarantine wp_writeControl hw (writeOk_control howner) hfail
    fun t htcpu htregs htw => wp_bind (wp_modifyCpu ?_))
  have hmdscr : t.regs.mdscr = s.regs.mdscr := by rw [htregs]; rfl
  refine wp_ite (fun hends => ?_) (fun hends => ?_)
  · refine wp_bind (wp_modifyCpu (wp_pure ⟨?_, htw⟩))
    exact .ended hmatch himage hends (by rw [htcpu]) htregs rfl
  · refine wp_bind (wp_modifyCpu (wp_bind ?_))
    refine wp_writeMdscr_quarantine hmdscr htw hfail fun u hucpu huregs huw => ?_
    refine wp_bind (wp_modifyCpu (wp_pure ⟨?_, huw⟩))
    refine .stepping hmatch himage hends ?_ ?_ rfl
    · rw [hucpu, htcpu]
    · rw [huregs, htregs]

section

variable (current : DebugTarget) (frame : DebugFrame) (st : CpuState)

/-- What `spz_debug_handle_break` reacts to. -/
def BreakConcerns : Prop :=
  (st.state = .armed ∧ st.kind = .breakpoint ∧ frame.pc = st.request.address) ∧
    debugTargetMatches st.target current = true
deriving Decidable

/-- What `spz_debug_handle_watch` reacts to. -/
def WatchConcerns : Prop :=
  (st.state = .armed ∧ st.kind = .watchpoint ∧ watchConcerns st.request frame = true) ∧
    debugTargetMatches st.target current = true
deriving Decidable

end

lemma HitDone.guarded {mine concerned : Prop}
    (hmine : mine) (h : HitDone concerned frame observed event s out t) :
    HitDone (mine ∧ concerned) frame observed event s out t := by
  cases h with
  | notOwned hnot => exact .notOwned fun hc => hnot hc.2
  | ended hc himage hends hcpu hregs hev => exact .ended ⟨hmine, hc⟩ himage hends hcpu hregs hev
  | stepping hc himage hends hcpu hregs hev =>
    exact .stepping ⟨hmine, hc⟩ himage hends hcpu hregs hev

lemma HitDone.consumed_iff {concerned : Prop}
    (h : HitDone concerned frame observed event s out t) : out.1 = .consumed ↔ concerned := by
  cases h with
  | notOwned hnot => exact ⟨fun h => (by cases h), fun hc => absurd hc hnot⟩
  | ended hc | stepping hc => exact ⟨fun _ => hc, fun _ => rfl⟩

lemma wp_debugHandleBreak (hw : WritesOk s.regs s) :
    wp F (debugHandleBreak current frame event)
      (fun out t => HitDone (BreakConcerns current frame s.cpu) frame frame.pc event s out t ∧
        WritesOk s.regs t)
      (fun _ t => BreakConcerns current frame s.cpu ∧
        InspectFailed F s.cpu.programmedControl s t ∧ WritesOk s.regs t) s := by
  refine wp_bind (wp_get (wp_ite (fun hnot => ?_) (fun hmine => ?_)))
  · refine wp_pure ⟨.notOwned fun hc => ?_, hw⟩
    rcases hnot with h | h | h
    · exact h hc.1.1
    · exact h hc.1.2.1
    · exact h hc.1.2.2
  · have hmine : s.cpu.state = .armed ∧ s.cpu.kind = .breakpoint ∧
        frame.pc = s.cpu.request.address := by
      simpa only [not_or, ne_eq, not_not] using hmine
    exact wp_mono (wp_debugHandleHit hw) (fun _ _ h => ⟨h.1.guarded hmine, h.2⟩)
      (fun _ _ h => ⟨⟨hmine, h.1⟩, h.2⟩)

/-- `spz_debug_handle_watch`. -/
lemma wp_debugHandleWatch (hw : WritesOk s.regs s) :
    wp F (debugHandleWatch current frame event)
      (fun out t => HitDone (WatchConcerns current frame s.cpu) frame frame.far event s out t ∧
        WritesOk s.regs t)
      (fun _ t => WatchConcerns current frame s.cpu ∧
        InspectFailed F s.cpu.programmedControl s t ∧ WritesOk s.regs t) s := by
  refine wp_bind (wp_get (wp_ite (fun hnot => ?_) (fun hstate => wp_ite (fun hnot => ?_)
    (fun hrange => ?_))))
  · refine wp_pure ⟨.notOwned fun hc => ?_, hw⟩
    rcases hnot with h | h
    · exact h hc.1.1
    · exact h hc.1.2.1
  · refine wp_pure ⟨.notOwned fun hc => ?_, hw⟩
    rw [hc.1.2.2] at hnot
    cases hnot
  · have hmine : s.cpu.state = .armed ∧ s.cpu.kind = .watchpoint ∧
        watchConcerns s.cpu.request frame = true := by
      simpa [and_assoc] using And.intro hstate hrange
    exact wp_mono (wp_debugHandleHit hw) (fun _ _ h => ⟨h.1.guarded hmine, h.2⟩)
      (fun _ _ h => ⟨⟨hmine, h.1⟩, h.2⟩)

/-- What `spz_debug_handle_step` reacts to. -/
def StepConcerns (current : DebugTarget) (st : CpuState) : Prop :=
  st.state = .stepPending ∧ debugTargetMatches st.target current = true
deriving Decidable

/-- A step handler that returns: it was not concerned, or the slot is armed again. -/
inductive StepDone (current : DebugTarget) (frame : DebugFrame) (s : CpuDebug) :
    DebugResult × DebugFrame → CpuDebug → Prop
  | notOwned : ¬ StepConcerns current s.cpu → StepDone current frame s (.notOwned, frame) s
  | rearmed {t : CpuDebug} : StepConcerns current s.cpu →
      ¬ Mismatch s.cpu s.regs s.cpu.disabledControl →
      t.cpu = debugTransition .armed (forgetStep s.cpu) →
      t.regs = (s.regs.setControl s.cpu.kind s.cpu.slot s.cpu.programmedControl).setMdscr
        (withoutAddedSs s.cpu s.regs.mdscr) →
      StepDone current frame s (if s.cpu.forwardSingleStep then .forwardOriginal else .consumed,
        if s.cpu.addedPstateSs then { frame with pstate := frame.pstate &&& ~~~pstateSS }
        else frame) t

/-- `spz_debug_handle_step`. -/
lemma wp_debugHandleStep (hw : WritesOk s.regs s) :
    wp F (debugHandleStep current frame)
      (fun out t => StepDone current frame s out t ∧ WritesOk s.regs t)
      (fun _ t => StepConcerns current s.cpu ∧ InspectFailed F s.cpu.disabledControl s t ∧
        WritesOk s.regs t) s := by
  refine wp_bind (wp_get (wp_ite (fun hnot => ?_) (fun hmine => ?_)))
  · refine wp_pure ⟨.notOwned fun hc => ?_, hw⟩
    rcases hnot with h | h
    · exact h hc.1
    · rw [hc.2] at h
      cases h
  have hmine : StepConcerns current s.cpu := by
    simpa [StepConcerns] using hmine
  refine wp_bind (wp_debugCheckImage (fun hF _ => ⟨hmine, .inl ⟨hF, rfl⟩, hw⟩)
    (fun hbad => ⟨hmine, .inr (.inl ⟨hbad, rfl⟩), hw⟩) (fun himage => ?_))
  refine wp_bind (wp_readMdscr (fun hF _ => ⟨hmine, .inl ⟨hF, rfl⟩, hw⟩) ?_)
  have hfail : ∀ (_ : Errno) (t : CpuDebug), Faulty F → WritesOk s.regs t →
      t.cpu.state = .quarantined → StepConcerns current s.cpu ∧
        InspectFailed F s.cpu.disabledControl s t ∧ WritesOk s.regs t :=
    fun _ t hF htw hts => ⟨hmine, .inr (.inr ⟨hF, himage, hts⟩), htw⟩
  have howner : s.regs.owner s.cpu.kind s.cpu.slot = 0 := by
    simp only [Mismatch, not_or, not_not] at himage
    exact himage.1
  refine wp_bind (wp_writeMdscr_quarantine rfl hw hfail fun t htcpu htregs htw => ?_)
  refine wp_bind (wp_write_quarantine wp_writeControl htw ?_ hfail fun u hucpu huregs huw => ?_)
  · rw [htcpu]
    exact writeOk_control howner
  refine wp_bind (wp_modifyCpu (wp_pure ⟨.rearmed hmine himage ?_ ?_, huw⟩))
  · rw [hucpu, htcpu]
  · rw [huregs, htregs]
    rfl

end Spz
