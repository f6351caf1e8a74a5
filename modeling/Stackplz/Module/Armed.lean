import Stackplz.Module.Disable

/-!
# What an armed CPU rests on

Two results on whole runs.  Whatever fails and whoever else writes to the registers, the switch is
on only while a breakpoint that the controller accepts is configured for a binding
(`enabled_grounded`). The commands and the worker see to it together: a bind is refused while a
breakpoint is configured, a break while the switch is on, and CLEAR turns the switch off before it
forgets either.  While register operations succeed, at most one CPU is active, the one on which the
bound task runs (`one_cpu_active`).
-/

namespace Spz

open Fallible Errno Transition

variable {cfg : Config} {w w' : World} {a : Action}

/-- The invariant.  CLEAR forgets the binding one step before the breakpoint. -/
structure Grounded (w : World) : Prop where
  on : w.m.breakpointEnabled = true → w.m.breakpointConfigured = true
  enabling : w.exec = some .enableStore → w.m.breakpointConfigured = true
  off : ∀ pc, w.exec = some pc → pc.switchedOff = true → w.m.breakpointEnabled = false
  valid : w.m.breakpointConfigured = true → (debugValidateRequest w.m.breakpoint).isOk = true
  bound : w.m.breakpointConfigured = true →
    w.m.binding.state ≠ .empty ∨ w.exec = some .clearBreakpoint

/-- The request is the same, the switch is turned off and the binding ended at most. -/
structure SameGround (w w' : World) : Prop where
  configured : w'.m.breakpointConfigured = w.m.breakpointConfigured
  request : w'.m.breakpoint = w.m.breakpoint
  off : w.m.breakpointEnabled = false → w'.m.breakpointEnabled = false
  binding : w.m.binding.state ≠ .empty → w'.m.binding.state ≠ .empty

lemma BindingEffect.not_empty {b b' : Binding} {task : KernelTask} (h : BindingEffect b task b')
    (hb : b.state ≠ .empty) : b'.state ≠ .empty := by
  cases h with
  | same => exact hb
  | ended _ hstate => rcases hstate with rfl | rfl <;> simp
  | taken => simp

namespace Grounded

lemma moved (h : Grounded w) (hsame : SameGround w w')
    (hclear : w.exec = some .clearBreakpoint → w'.exec = some .clearBreakpoint)
    (henable : w'.exec = some .enableStore → w.m.breakpointConfigured = true)
    (hoff : ∀ pc, w'.exec = some pc → pc.switchedOff = true → w.m.breakpointEnabled = false) :
    Grounded w' := by
  obtain ⟨hconf, hrequest, hswitch, hbinding⟩ := hsame
  refine ⟨fun hon => ?_, fun hpc => hconf.trans (henable hpc),
    fun pc hpc hpost => hswitch (hoff pc hpc hpost), fun hc => ?_, fun hc => ?_⟩
  · rw [hconf]
    refine h.on (Bool.not_eq_false _ ▸ fun hfalse => ?_)
    simp [hswitch hfalse] at hon
  · rw [hrequest]
    exact h.valid (hconf ▸ hc)
  · exact (h.bound (hconf ▸ hc)).imp hbinding hclear

lemma command (h : Grounded w) {env : ControlEnv} {command : Command} {m : ModuleState}
    (hcmd : CommandEffect w.m env command m) : Grounded { w with m := m } := by
  cases hcmd with
  | bound _ _ hconf =>
    have hnot : ¬ w.m.breakpointConfigured = true := by simp [hconf]
    exact ⟨h.on, h.enabling, h.off, h.valid, fun hc => absurd hc hnot⟩
  | configured _ hoff hbound hvalid =>
    refine ⟨fun _ => rfl, fun _ => rfl, h.off, fun _ => ?_, fun _ => .inl hbound⟩
    rw [hvalid]
    rfl
  | _ => exact h.moved ⟨rfl, rfl, id, id⟩ id h.enabling h.off

/-- A step of the worker. -/
lemma execEffect (h : Grounded w) {pc pc' : ExecPc} {m : ModuleState} {input : ExecInput}
    (hexec : w.exec = some pc) (heff : ExecEffect cfg w.current w.m input pc pc' m) :
    Grounded { w with exec := some pc', m := m } := by
  have hmoved : SameGround w { w with exec := some pc', m := m } → pc ≠ .clearBreakpoint →
      (pc' ≠ .enableStore ∧ (pc'.switchedOff = true → pc.switchedOff = true)) →
      Grounded { w with exec := some pc', m := m } := by
    rintro hsame hne ⟨hstore, hpost⟩
    refine h.moved hsame (fun hpc => ?_) (fun hpc => ?_) fun pc'' hpc hoff => ?_
    · exact absurd (Option.some.inj (hexec.symm.trans hpc)) hne
    · exact absurd (Option.some.inj hpc) hstore
    · cases hpc
      exact h.off pc hexec (hpost hoff)
  -- where the binding is still there
  have hbound : pc ≠ .clearBreakpoint → w.m.breakpointConfigured = true →
      w.m.binding.state ≠ .empty := fun hne hconf =>
    (h.bound hconf).resolve_right fun hpc => hne (Option.some.inj (hexec.symm.trans hpc))
  cases heff with
  | enableAccepted hconf =>
    exact ⟨h.on, fun _ => hconf, by simp [ExecPc.switchedOff], h.valid,
      fun _ => .inl (hbound (by simp) hconf)⟩
  | enableStored =>
    have hconf := h.enabling hexec
    refine ⟨fun _ => hconf, fun _ => hconf, ?_, h.valid, fun _ => .inl (hbound (by simp) hconf)⟩
    unfold runEachCpu
    cases input.transport <;> simp [ExecPc.switchedOff]
  | enableTurn =>
    refine hmoved ?_ (by simp) (by simp [ExecPc.switchedOff])
    unfold enableCpuCallback
    rcases armLiveCurrent_cases cfg w.m input.cpu (w.current input.cpu) input.φ with
      ⟨b, hb, harm⟩ | ⟨-, -, target, -, harm⟩
    · rw [harm]
      exact ⟨rfl, rfl, id, hb.not_empty⟩
    · rw [harm]
      exact ⟨rfl, rfl, id, id⟩
  | enableUndone | disableStored =>
    refine ⟨by simp, ?_, fun _ _ _ => rfl, h.valid, fun hconf => .inl (hbound (by simp) hconf)⟩
    unfold runEachCpu
    cases input.transport <;> simp
  | bindingCleared =>
    exact ⟨h.on, by simp, fun _ _ _ => h.off _ hexec rfl, h.valid, fun _ => .inr rfl⟩
  | breakpointCleared =>
    have hoff := h.off _ hexec rfl
    exact ⟨by simp [hoff], by simp, fun _ _ _ => hoff, by simp, by simp⟩
  | auditStarted =>
    refine hmoved ⟨rfl, rfl, id, id⟩ (by simp) ?_
    unfold runEachCpu
    cases input.transport <;> simp [ExecPc.switchedOff]
  | @enableDone status =>
    refine hmoved ⟨rfl, rfl, id, id⟩ (by simp) ?_
    cases status <;> simp [enableResult, ExecPc.switchedOff]
  | @disableDone clear status =>
    refine hmoved ⟨rfl, rfl, id, id⟩ (by simp) ⟨?_, fun _ => rfl⟩
    cases status <;> cases clear <;> simp [disableResult]
  | mapsCleared =>
    refine hmoved ⟨rfl, rfl, id, id⟩ (by simp) ⟨?_, fun _ => rfl⟩
    cases (mapsClear w.m.maps input.mapsBusy).1 <;> simp [clearMapsResult]
  | clearGaveUp hpc =>
    refine hmoved ⟨rfl, rfl, id, id⟩ ?_ (by simp [ExecPc.switchedOff])
    rcases hpc with rfl | rfl <;> simp
  | _ => exact hmoved ⟨rfl, rfl, id, id⟩ (by simp) (by simp [ExecPc.switchedOff])

/-- Every action keeps the invariant. -/
lemma step (h : Grounded w) (hstep : WorldStep cfg w a w') : Grounded w' := by
  cases hstep with
  | @switch cpu task env =>
    obtain ⟨s, ring, heq, -⟩ := finishBefore_cases cfg w.m cpu env
    rw [heq]
    exact h.moved ⟨rfl, rfl, id, id⟩ id h.enabling h.off
  | finishAfter hin =>
    cases hin with
    | unarmed ring hb hb' =>
      exact h.moved ⟨rfl, rfl, id, fun hne => hb'.not_empty (hb.not_empty hne)⟩ id h.enabling h.off
    | armed ring _ _ hb =>
      exact h.moved ⟨rfl, rfl, id, hb.not_empty⟩ id h.enabling h.off
  | exitBefore hb => exact h.moved ⟨rfl, rfl, id, hb.not_empty⟩ id h.enabling h.off
  | @exception cpu kind fargs env out hdone =>
    have hoff := hdone.stays_off
    cases hdone with
    | ignored hb => exact h.moved ⟨rfl, rfl, id, hb.not_empty⟩ id h.enabling h.off
    | @handled target regs =>
      obtain ⟨ring, enabled, heq, -⟩ := deliverException_eq cfg w.m cpu kind target regs fargs env
      rw [heq] at hoff ⊢
      exact h.moved ⟨rfl, rfl, hoff, id⟩ id h.enabling h.off
  | command hcmd => exact h.command hcmd
  | workerStart hexec _ =>
    exact h.moved ⟨rfl, rfl, id, id⟩ (by simp [hexec]) (by simp) (by simp [ExecPc.switchedOff])
  | workerStep hexec hexecStep => exact h.execEffect hexec (execStep_effect hexecStep)
  | workerFinish hexec =>
    exact h.moved ⟨rfl, rfl, id, id⟩ (by simp [hexec]) (by simp) (by simp)
  | _ => exact h.moved ⟨rfl, rfl, id, id⟩ id h.enabling h.off

lemma init (h : WorldInit cfg w) : Grounded w := by
  obtain ⟨⟨backend, hm⟩, hexec, -⟩ := h
  have hoff : w.m.breakpointEnabled = false := by
    rw [hm]
    rfl
  have hconf : w.m.breakpointConfigured = false := by
    rw [hm]
    rfl
  exact ⟨by simp [hoff], by simp [hexec], fun _ _ _ => hoff, by simp [hconf], by simp [hconf]⟩

end Grounded

/-- The switch is on only for a breakpoint that is configured, accepted by the controller, and of a
binding, in every run. -/
theorem enabled_grounded (hw : (moduleSystem cfg).Reachable w)
    (hon : w.m.breakpointEnabled = true) :
    w.m.breakpointConfigured = true ∧ (debugValidateRequest w.m.breakpoint).isOk = true ∧
      w.m.binding.state ≠ .empty := by
  have hinv : Grounded w := System.Reachable.invariant (fun _ hinit => .init hinit)
    (fun _ _ _ h hstep => h.step (worldNext_step hstep)) hw
  have hconf := hinv.on hon
  refine ⟨hconf, hinv.valid hconf, (hinv.bound hconf).resolve_right fun hexec => ?_⟩
  simp [hinv.off _ hexec rfl] at hon

theorem enabled_grounded_armed : (worldAfter armingRun).m.breakpointEnabled = true ∧
    (worldAfter armingRun).m.binding.state ≠ .empty := by
  have hreach : (moduleSystem tinyConfig).Reachable (worldAfter armingRun) :=
    .of_restrict (worldAfter_reachable _ armingRun_quiet (by decide +kernel))
  exact ⟨by decide +kernel, (enabled_grounded hreach (by decide +kernel)).2.2⟩

/-- At most one CPU is active, the one on which the bound task runs: it is set up for that task and
for the configured request. -/
theorem one_cpu_active (hw : ((moduleSystem cfg).restrict Reaching).Reachable w) {cpu : ℕ}
    (hcpu : cpu < cfg.cpuCount) (hactive : (w.m.debug cpu).state.Active) :
    SetUp w cpu ∧ ∀ i < cfg.cpuCount, (w.m.debug i).state.Active → i = cpu := by
  have hsettled := settled_of_reachable hw
  have hset := hsettled.truthful.setUp cpu hcpu hactive
  refine ⟨hset, fun i hi hactive' => ?_⟩
  have hset' := hsettled.truthful.setUp i hi hactive'
  have hsame : (w.current i).strong = (w.current cpu).strong := by
    rw [← hset.current, ← hset'.current, hset.bound, hset'.bound]
  by_contra hne
  have hidle := hsettled.apart i hi cpu hcpu hne hsame
  rw [← hset'.current] at hidle
  exact hset'.notIdle hidle

theorem one_cpu_active_armed : ((worldAfter armingRun).m.debug 0).state.Active ∧
    SetUp (worldAfter armingRun) 0 ∧ ¬ ((worldAfter armingRun).m.debug 1).state.Active := by
  have hactive : ((worldAfter armingRun).m.debug 0).state.Active := .inl (by decide +kernel)
  obtain ⟨hset, hone⟩ := one_cpu_active armingRun_reachable (by decide) hactive
  exact ⟨hactive, hset, fun hother => absurd (hone 1 (by decide) hother) (by decide)⟩

/-- Nothing is quarantined without cause: while register operations succeed and nobody else writes
to the registers, every slot is as the controller left it. -/
theorem cpus_intact (hw : ((moduleSystem cfg).restrict Quiet).Reachable w) (cpu : ℕ) :
    Intact (w.m.debug cpu) (w.m.regs cpu) ∧ (w.m.debug cpu).state ≠ .quarantined :=
  have hintact := (quietInv_of_reachable hw cpu).intact
  ⟨hintact, hintact.not_quarantined⟩

theorem cpus_intact_armed : ((worldAfter armingRun).m.debug 0).state = .armed ∧
    Intact ((worldAfter armingRun).m.debug 0) ((worldAfter armingRun).m.regs 0) :=
  ⟨by decide +kernel, (cpus_intact
    (worldAfter_reachable _ armingRun_quiet (by decide +kernel)) 0).1⟩

/-! ## What the audit says of it -/

/-- What there is to read of a slot. -/
def imageAt (r : Regs) (p : SlotKind × ℕ) : SlotImage :=
  ⟨p.1, p.2, r.owner p.1 p.2, r.value p.1 p.2, r.control p.1 p.2⟩

/-- The audit, which makes three reads for each of `length` slots, has read `k` of them: all, and no
read has failed; or the first read that fails is one for the next slot, and fails like this. -/
def ReadSlots (φ : Oracle Errno) (length k : ℕ) : Except Errno Unit → Prop
  | .ok () => k = length ∧ ∀ i < 3 * length, φ i = none
  | .error e => k < length ∧ ∃ n < 3, φ (3 * k + n) = some e ∧ ∀ i < 3 * k + n, φ i = none

lemma ReadSlots.succ {φ : Oracle Errno} {n length k : ℕ} {status : Except Errno Unit}
    (h : ReadSlots (fun i => φ (n + 3 + i)) length k status) (hnone : ∀ i < 3, φ (n + i) = none) :
    ReadSlots (fun i => φ (n + i)) (length + 1) (k + 1) status := by
  -- the reads from the fourth on are those of the slots that are left
  have hfrom : ∀ {bound}, (∀ i < bound, φ (n + 3 + i) = none) →
      ∀ i < bound + 3, φ (n + i) = none := by
    intro bound hrest i hi
    by_cases hfirst : i < 3
    · exact hnone i hfirst
    · have := hrest (i - 3) (by omega)
      rwa [show n + 3 + (i - 3) = n + i by omega] at this
  cases status with
  | ok _ => exact ⟨congrArg (· + 1) h.1, hfrom h.2⟩
  | error e =>
    obtain ⟨hk, j, hj, he, hbefore⟩ := h
    refine ⟨by omega, j, hj, ?_, ?_⟩
    · rw [← he]
      exact congrArg φ (by omega)
    · rw [show 3 * (k + 1) + j = 3 * k + j + 3 by omega]
      exact hfrom hbefore

/-- A slot is read by three operations, or the first that fails ends it. -/
lemma auditSlot_apply (φ : Oracle Errno) (n : ℕ) (s : CpuDebug) (p : SlotKind × ℕ) :
    (∀ i < 3, φ (n + i) = none) ∧
        auditSlot p.1 p.2 φ n s = (.ok (imageAt s.regs p), n + 3, s) ∨
      ∃ j < 3, ∃ e n', φ (n + j) = some e ∧ (∀ i < j, φ (n + i) = none) ∧
        auditSlot p.1 p.2 φ n s = (.error e, n', s) := by
  unfold auditSlot readOwner readValue readControl
  -- the three reads, up to the first that fails
  cases howner : φ n with
  | some e =>
    exact .inr ⟨0, by decide, e, _, howner, by simp, bind_apply_error (op_apply_error howner)⟩
  | none =>
    rw [bind_apply_ok (op_apply_ok howner)]
    cases hvalue : φ (n + 1) with
    | some e =>
      exact .inr ⟨1, by decide, e, _, hvalue, by simp [howner],
        bind_apply_error (op_apply_error hvalue)⟩
    | none =>
      rw [bind_apply_ok (op_apply_ok hvalue)]
      cases hcontrol : φ (n + 2) with
      | some e =>
        refine .inr ⟨2, by decide, e, _, hcontrol, ?_, bind_apply_error (op_apply_error hcontrol)⟩
        rintro (_ | _ | i) hi
        exacts [howner, hvalue, absurd hi (by omega)]
      | none =>
        rw [bind_apply_ok (op_apply_ok hcontrol)]
        refine .inl ⟨?_, rfl⟩
        rintro (_ | _ | _ | i) hi
        exacts [howner, hvalue, hcontrol, absurd hi (by omega)]

/-- The audit reads the slots in order, up to the first that cannot be read, and writes nothing. -/
lemma auditSlots_apply (φ : Oracle Errno) (n : ℕ) (s : CpuDebug) (slots : List (SlotKind × ℕ)) :
    ∃ k status n', auditSlots slots φ n s =
        (.ok ((slots.take k).map (imageAt s.regs), status), n', s) ∧
      ReadSlots (fun i => φ (n + i)) slots.length k status := by
  induction slots generalizing n with
  | nil => exact ⟨0, .ok (), n, rfl, rfl, by simp⟩
  | cons slot slots ih =>
    unfold auditSlots
    rcases auditSlot_apply φ n s slot with ⟨hnone, hread⟩ | ⟨j, hj, e, n', he, hnone, hread⟩
    · obtain ⟨k, status, n', hrest, hstatus⟩ := ih (n + 3)
      refine ⟨k + 1, status, n', ?_, hstatus.succ hnone⟩
      rw [bind_apply_ok (attempt_apply hread)]
      exact bind_apply_ok hrest
    · refine ⟨0, .error e, n', ?_, by simp, j, hj, by simpa using he, by simpa using hnone⟩
      rw [bind_apply_ok (attempt_apply hread)]
      rfl

/-- The audit of a CPU reports, whatever fails, the slots up to the first that cannot be read, in
order and each once, and returns 0 if these are all slots and the error of the read otherwise. -/
theorem auditCpu_reports (cfg : Config) (m : ModuleState) (cpu : ℕ) (input : ExecInput) :
    ∃ k, ReadSlots input.φ (debugSlots cfg.ops).length k (auditCpu cfg m cpu input).1 ∧
      (auditCpu cfg m cpu input).2 = (((debugSlots cfg.ops).take k).filterMap fun slot =>
        auditFinding input (imageAt (m.regs cpu) slot)).foldl (auditPush cpu) m := by
  obtain ⟨k, status, n', hrun, hread⟩ :=
    auditSlots_apply input.φ 0 (m.onCpu cpu) (debugSlots cfg.ops)
  simp only [zero_add] at hread
  have hcpu : auditCpu cfg m cpu input =
      (status, (((debugSlots cfg.ops).take k).filterMap fun slot =>
      auditFinding input (imageAt (m.regs cpu) slot)).foldl (auditPush cpu) m) := by
    unfold auditCpu Fallible.exec
    rw [hrun]
    dsimp only
    rw [List.filterMap_map]
    rfl
  rw [hcpu]
  exact ⟨k, hread, rfl⟩

lemma enabled_of_accepted {request : DebugRequest} {enc : Encoding}
    (h : debugValidateRequest request = .ok enc) : enc.control &&& ctrlEnable ≠ 0 := by
  have hset : ∀ c : U32, (c ||| ctrlEnable) &&& ctrlEnable ≠ 0 := fun c hc => by
    simpa [ctrlEnable] using congrArg (·.getLsbD 0) hc
  unfold debugValidateRequest at h
  dsimp only at h
  split_ifs at h
  all_goals
    cases h
    exact hset _

/-- A breakpoint that was just armed is reported as interference by the audit: its slot is enabled
and has no owner. -/
theorem audit_flags_armed {ops : DebugOps} {request : DebugRequest} {target : DebugTarget}
    {φ : Oracle Errno} {s t : CpuDebug}
    (h : (Call.armCurrent request target).exec ops φ s = (.ok (), t)) :
    (t.cpu.kind, t.cpu.slot) ∈ debugSlots ops ∧ ∀ input, ∃ event,
      auditFinding input (imageAt t.regs (t.cpu.kind, t.cpu.slot)) = some event ∧
        event.flags = flagInterference := by
  obtain ⟨enc, slot, harmed⟩ := exec_armed (congrArg Prod.fst h)
  rw [h] at harmed
  have hfree := harmed.free
  have henabled := enabled_of_accepted harmed.accepted
  have hslot := harmed.slot_lt
  have hcpu : (t.cpu.kind, t.cpu.slot) = (requestSlotKind request, slot) := by
    rw [harmed.cpu]
    rfl
  simp only [Regs.inUse, not_or, not_not] at hfree
  rw [hcpu]
  refine ⟨?_, fun input => ?_⟩
  · by_cases hkind : request.kind = .execute
    all_goals simpa [requestSlotKind, debugSlotCount, debugSlots, hkind] using hslot
  · rw [harmed.regs]
    simp only [auditFinding, imageAt, armedRegs]
    simpa [hfree] using ⟨henabled, fun hdis => absurd hdis henabled⟩

theorem audit_flags_armed_page : (.breakpoint, armedCpu.cpu.slot) ∈ debugSlots oneSlotOps ∧
    ∃ event, auditFinding {} (imageAt armedCpu.regs (.breakpoint, armedCpu.cpu.slot)) = some event ∧
      event.flags = flagInterference := by
  have harm : (Call.armCurrent pageBreak someTarget).exec oneSlotOps .succeed blankCpu =
    (.ok (), armedCpu) := rfl
  obtain ⟨hvisited, hflags⟩ := audit_flags_armed harm
  exact ⟨hvisited, hflags {}⟩

end Spz
