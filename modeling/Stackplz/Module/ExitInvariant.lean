import Stackplz.Module.ExitGate

/-!
# The invariant of the exit gate

The words of the gate count who is inside, an exit call that has closed the gates finds the module
as it last saw it, and with no exit call on its way commands are accepted (`GateInv`).

Every step keeps this, provided `spz_module_abort_exit` stores 0 in `active_handlers` only while no
handler is inside (`Disciplined`).  What makes it work is that the control gate has one holder at
most: as long as somebody holds it no command runs, and with both gates closed and no request being
executed nobody changes the module.
-/

namespace Spz

open Fallible Errno Transition Threads Option GateState ExitPc CommandPc

/-! ## The invariant -/

/-- The module is at rest: what `spz_module_can_exit` looks for. -/
structure Quiescent (cfg : Config) (m : ModuleState) : Prop where
  async : asyncBusy m.async = false
  enabled : m.breakpointEnabled = false
  configured : m.breakpointConfigured = false
  debug : AllDebugEmpty cfg m
  binding : m.binding.state = .empty
  maps : m.maps.state = .empty ∨ m.maps.state = .unsupported

/-- What `spz_module_can_exit` has found by the time it stands at a load. -/
def Checked (cfg : Config) (m : ModuleState) : CheckPc → Prop
  | .loadEnabled => asyncBusy m.async = false
  | .loadConfigured => asyncBusy m.async = false ∧ m.breakpointEnabled = false
  | .loadDebug cpu => asyncBusy m.async = false ∧ m.breakpointEnabled = false ∧
      m.breakpointConfigured = false ∧ ∀ i < cpu, (m.debug i).state = .empty
  | .loadBinding => asyncBusy m.async = false ∧ m.breakpointEnabled = false ∧
      m.breakpointConfigured = false ∧ AllDebugEmpty cfg m
  | .loadMaps binding => asyncBusy m.async = false ∧ m.breakpointEnabled = false ∧
      m.breakpointConfigured = false ∧ AllDebugEmpty cfg m ∧ m.binding.state = binding
  | _ => True

/-- What an exit call that holds the gate can rely on. -/
def Relies (cfg : Config) (word : U32) (m : ModuleState) : ExitPc → Prop
  | .closeHandlers => word ≠ gateClosed
  | .check pc => word = gateClosed ∧ Checked cfg m pc
  | .quiesce => word = gateClosed ∧ Quiescent cfg m
  | .abortControl _ => word ≠ gateClosed
  | _ => True

/-- How many hold the gate: calls on their way, and one that has returned 0. -/
def GateState.holders (s : GateState) : ℕ := s.exits.countP holds + s.inForce.toNat

/-- No exit call is being executed or in force. -/
def GateState.AtRest (s : GateState) : Prop :=
  (∀ (i : ℕ) (pc : ExitPc), s.exits[i]? = some pc → pc.atRest = true) ∧ s.inForce = false

/-- The invariant. -/
structure GateInv (cfg : Config) (s : GateState) : Prop where
  handlers : GateWord s.activeHandlers s.insideCount
  control : ControlWord s.controlBusy s.commandCount s.holders
  worker : ∀ pc, s.exec = some pc → s.m.async.state = .running
  relies : ∀ (i : ℕ) (pc : ExitPc), s.exits[i]? = some pc → Relies cfg s.activeHandlers s.m pc
  force : s.inForce = true → s.activeHandlers = gateClosed ∧ Quiescent cfg s.m
  opened : s.holders = 0 → s.activeHandlers ≠ gateClosed
  accepting : s.AtRest → s.m.acceptingCommands = true

variable {cfg : Config} {s s' : GateState} {i : ℕ} {pc pc' : ExitPc}

variable {word : U32} {m : ModuleState}

lemma Relies.of_not_holds (h : pc.holds = false) : Relies cfg word m pc := by
  cases pc with
  | closeHandlers | check | quiesce | abortHandlers | abortControl => cases h
  | _ => trivial

lemma Relies.accepting (h : Relies cfg word m pc) (b : Bool) :
    Relies cfg word { m with acceptingCommands := b } pc := by
  cases pc with
  | check pc => exact ⟨h.1, by cases pc <;> exact h.2⟩
  | quiesce =>
    obtain ⟨hword, hasync, henabled, hconf, hdebug, hbinding, hmaps⟩ := h
    exact ⟨hword, hasync, henabled, hconf, hdebug, hbinding, hmaps⟩
  | _ => exact h

/-- The module may change while its gate is open, or while the worker executes a request. -/
lemma Relies.of_module {word' : U32} {m' : ModuleState} (h : Relies cfg word m pc)
    (hword : word' = gateClosed ↔ word = gateClosed)
    (hm : word = gateClosed → asyncBusy m.async = false → m' = m) : Relies cfg word' m' pc := by
  cases pc with
  | closeHandlers | abortControl => exact fun hclosed => h (hword.mp hclosed)
  | quiesce =>
    refine ⟨hword.mpr h.1, ?_⟩
    rw [hm h.1 h.2.async]
    exact h.2
  | check pc =>
    refine ⟨hword.mpr h.1, ?_⟩
    cases pc with
    | loadEnabled => rw [hm h.1 h.2]; exact h.2
    | loadConfigured | loadDebug | loadBinding | loadMaps => rw [hm h.1 h.2.1]; exact h.2
    | _ => trivial
  | _ => trivial

/-! ## Handlers, commands and the worker -/

variable {commands holders : ℕ}

lemma ControlWord.no_command (h : ControlWord word commands holders)
    (hholds : 0 < holders) : holders = 1 ∧ word = gateClosed ∧ commands = 0 := by
  rcases h with h | ⟨hzero, -⟩
  · exact h
  · omega

lemma ControlWord.free (h : ControlWord 0 commands holders) : holders = 0 ∧ commands = 0 := by
  rcases h with ⟨-, hclosed, -⟩ | ⟨hnone, hword, hle⟩
  · exact absurd hclosed (by decide)
  · have := congrArg BitVec.toNat hword
    rw [BitVec.toNat_ofNat, Nat.mod_eq_of_lt (by omega)] at this
    exact ⟨hnone, by simpa using this.symm⟩

lemma holders_pos (hi : s.exits[i]? = some pc) (hpc : pc.holds = true) : 0 < s.holders :=
  Nat.lt_of_lt_of_le (countP_pos hi hpc) (Nat.le_add_right _ _)

/-- The rule for steps of everybody else: they may not close or open the gate of the handlers,
nor change the module while the gates are closed and no request is being executed. -/
lemma GateInv.others (h : GateInv cfg s) (hexits : s'.exits = s.exits)
    (hforce : s'.inForce = s.inForce) (hhandlers : GateWord s'.activeHandlers s'.insideCount)
    (hcontrol : ControlWord s'.controlBusy s'.commandCount s.holders)
    (hworker : ∀ pc, s'.exec = some pc → s'.m.async.state = .running)
    (hword : s'.activeHandlers = gateClosed ↔ s.activeHandlers = gateClosed)
    (hm : s.activeHandlers = gateClosed → s.commandCount = 0 → asyncBusy s.m.async = false →
      s'.m = s.m)
    (haccepting : s'.m.acceptingCommands = s.m.acceptingCommands) : GateInv cfg s' := by
  have hholders : s'.holders = s.holders := by rw [holders, hexits, hforce]; rfl
  refine ⟨hhandlers, by rwa [hholders], hworker, fun i pc hpc => ?_, fun hin => ?_, ?_, ?_⟩
  · rw [hexits] at hpc
    cases hholds : pc.holds with
    | false => exact .of_not_holds hholds
    | true =>
      have hzero := (h.control.no_command (holders_pos hpc hholds)).2.2
      exact (h.relies i pc hpc).of_module hword fun hclosed hidle => hm hclosed hzero hidle
  · rw [hforce] at hin
    obtain ⟨hclosed, hquiet⟩ := h.force hin
    have hpos : 0 < s.holders := by simp [holders, hin]
    have hzero := (h.control.no_command hpos).2.2
    refine ⟨hword.mpr hclosed, ?_⟩
    rw [hm hclosed hzero hquiet.async]
    exact hquiet
  · rw [hholders]
    exact fun hzero hclosed => h.opened hzero (hword.mp hclosed)
  · rw [haccepting]
    rintro ⟨hrest, hin⟩
    rw [hexits] at hrest
    exact h.accepting ⟨hrest, hforce.symm.trans hin⟩

/-- A handler leaves the request and `accepting_commands` alone. -/
lemma HookCall.sameRequest (cfg : Config) (m : ModuleState) (call : HookCall) :
    SameRequest m (call.run cfg m) := by
  cases call with
  | finishBefore cpu env => exact finishBefore_sameRequest ..
  | finishAfter cpu task env =>
    have h := finishAfter_switchedIn cfg m cpu task env
    rw [HookCall.run]
    generalize Spz.finishAfter cfg m cpu task env = m' at h
    cases h <;> exact ⟨rfl, rfl⟩
  | exitBefore task => exact ⟨rfl, rfl⟩
  | exception cpu task kind fargs env =>
    rw [HookCall.run]
    rcases exceptionInside_cases cfg m cpu task kind fargs env with
      ⟨b, -, heq⟩ | ⟨-, target, regs, -, -, heq⟩
    · rw [heq]
      exact ⟨rfl, rfl⟩
    · obtain ⟨ring, enabled, hdeliver, -⟩ :=
        deliverException_eq cfg m cpu kind target regs fargs env
      rw [heq, hdeliver]
      exact ⟨rfl, rfl⟩

section

variable (h : GateInv cfg s)
include h

lemma GateInv.handler_outside {old new : HandlerPc}
    (hi : s.handlers[i]? = some old) (hold : old.isInside = false) (hnew : new.isInside = false) :
    GateInv cfg { s with handlers := s.handlers.set i new } := by
  have hcount : (s.handlers.set i new).countP HandlerPc.isInside = s.insideCount :=
    countP_set_same hi (by rw [hold, hnew])
  refine h.others rfl rfl ?_ h.control h.worker .rfl (fun _ _ _ => rfl) rfl
  show GateWord s.activeHandlers ((s.handlers.set i new).countP HandlerPc.isInside)
  rw [hcount]
  exact h.handlers

lemma GateInv.handlerTry {observed : U32}
    (hi : s.handlers[i]? = some (.entering observed)) : GateInv cfg (handlerTry s i observed) := by
  unfold Spz.handlerTry
  split_ifs with hrefused hsame
  · exact h.handler_outside hi rfl rfl
  · subst hsame
    obtain ⟨hopen, hword, hopen'⟩ := h.handlers.enter hrefused
    have hcount := countP_set_add HandlerPc.isInside hi .inside
    refine h.others rfl rfl ?_ h.control h.worker (iff_of_false hopen' hopen) (fun _ _ _ => rfl) rfl
    show GateWord _ ((s.handlers.set i .inside).countP HandlerPc.isInside)
    simp only [HandlerPc.isInside, Bool.toNat_false, Nat.add_zero, Bool.toNat_true] at hcount
    rw [hcount]
    exact hword
  · exact h.handler_outside hi rfl rfl

lemma GateInv.handlerCall (hi : s.handlers[i]? = some .inside)
    (call : HookCall) : GateInv cfg { s with m := call.run cfg s.m } := by
  have hsame := HookCall.sameRequest cfg s.m call
  have hopen : s.activeHandlers ≠ gateClosed := h.handlers.ne_gateClosed (countP_pos hi rfl)
  refine h.others rfl rfl h.handlers h.control (fun pc hpc => ?_) .rfl
    (fun hclosed => absurd hclosed hopen) hsame.accepting
  show (call.run cfg s.m).async.state = .running
  rw [hsame.async]
  exact h.worker pc hpc

lemma GateInv.handlerLeave (hi : s.handlers[i]? = some .inside) :
    GateInv cfg { s with
      activeHandlers := s.activeHandlers - 1, handlers := s.handlers.set i .outside } := by
  have hcount := countP_set_add HandlerPc.isInside hi .outside
  simp only [HandlerPc.isInside, Bool.toNat_false, Nat.add_zero, Bool.toNat_true] at hcount
  have hbefore : GateWord s.activeHandlers
      ((s.handlers.set i .outside).countP HandlerPc.isInside + 1) := hcount ▸ h.handlers
  have hopen := hbefore.ne_gateClosed (by omega)
  obtain ⟨hword, hopen'⟩ := hbefore.leave
  exact h.others rfl rfl hword h.control h.worker (iff_of_false hopen' hopen) (fun _ _ _ => rfl) rfl

lemma GateInv.commandEnter (hi : s.commands[i]? = some .outside) (hfree : s.controlBusy = 0) :
    GateInv cfg { s with controlBusy := 1, commands := s.commands.set i .inside } := by
  have hcount := countP_set_add isInside hi .inside
  simp only [isInside, Bool.toNat_false, Nat.add_zero, Bool.toNat_true] at hcount
  refine h.others rfl rfl h.handlers ?_ h.worker .rfl (fun _ _ _ => rfl) rfl
  obtain ⟨hnone, hzero⟩ := (hfree ▸ h.control).free
  have hone : (s.commands.set i .inside).countP isInside = 1 := by
    rw [hcount, show s.commands.countP isInside = 0 from hzero]
  show ControlWord 1 ((s.commands.set i .inside).countP isInside) _
  rw [hone]
  exact .inr ⟨hnone, rfl, le_rfl⟩

variable {old : CommandPc}

lemma GateInv.command_alone (hi : s.commands[i]? = some old)
    (hold : old.isInside = true) : s.holders = 0 ∧ s.commandCount = 1 := by
  have hpos : 0 < s.commandCount := countP_pos hi hold
  rcases h.control with ⟨-, -, hzero⟩ | ⟨hnone, -, hle⟩
  · omega
  · exact ⟨hnone, by omega⟩

lemma GateInv.commandDispatch (hi : s.commands[i]? = some .inside)
    (command : Command) (env : ControlEnv) :
    GateInv cfg { s with
      m := (controlDispatch s.m env command).2, commands := s.commands.set i .executed } := by
  have hcount : (s.commands.set i .executed).countP isInside = s.commandCount :=
    countP_set_same hi rfl
  have hcmd := controlDispatch_effect s.m env command
  have halone := h.command_alone hi rfl
  refine h.others rfl rfl h.handlers ?_ (fun pc hpc => ?_) .rfl (fun _ hzero => ?_) hcmd.accepting
  · show ControlWord _ ((s.commands.set i .executed).countP isInside) _
    rw [hcount]
    exact h.control
  · have hrun := h.worker pc hpc
    obtain ⟨ring, heq⟩ := hcmd.busy (by simp [asyncBusy, hrun])
    show (controlDispatch s.m env command).2.async.state = .running
    rw [heq]
    exact hrun
  · omega

lemma GateInv.commandLeave (hi : s.commands[i]? = some old) (hold : old.isInside = true) :
    GateInv cfg { s with controlBusy := 0, commands := s.commands.set i .outside } := by
  obtain ⟨hnone, hone⟩ := h.command_alone hi hold
  have hcount := countP_set_add isInside hi .outside
  rw [hold] at hcount
  simp only [isInside, Bool.toNat_false, Nat.add_zero, Bool.toNat_true] at hcount
  have hzero : (s.commands.set i .outside).countP isInside = 0 := by
    have : s.commands.countP isInside = 1 := hone
    omega
  refine h.others rfl rfl h.handlers ?_ h.worker .rfl (fun _ _ _ => rfl) rfl
  show ControlWord 0 ((s.commands.set i .outside).countP isInside) _
  rw [hzero]
  exact .inr ⟨hnone, rfl, by omega⟩

/-- A step of the worker: the request is being executed, so nobody relies on the module. -/
lemma GateInv.workerStep {input : ExecInput} {pc pc' : ExecPc} (hexec : s.exec = some pc)
    (hstep : execStep cfg s.current s.m input pc = some (pc', m)) :
    GateInv cfg { s with exec := some pc', m := m } := by
  have hrun := h.worker pc hexec
  have hsame := (execStep_effect hstep).sameRequest
  refine h.others rfl rfl h.handlers h.control (fun _ _ => ?_) .rfl (fun _ _ hidle => ?_)
    hsame.accepting
  · show m.async.state = .running
    rw [hsame.async]
    exact hrun
  · simp [asyncBusy, hrun] at hidle

end

/-! ## Exit calls -/

lemma holders_set {t : GateState} (hi : s.exits[i]? = some pc)
    (hexits : t.exits = s.exits.set i pc') :
    t.holders + pc.holds.toNat + s.inForce.toNat =
      s.holders + pc'.holds.toNat + t.inForce.toNat := by
  have hcount := countP_set_add holds hi pc'
  unfold holders
  rw [hexits]
  omega

section

variable (h : GateInv cfg s)
include h

section

variable (hi : s.exits[i]? = some pc)
include hi

lemma GateInv.holds_alone (hpc : pc.holds = true) :
    s.holders = 1 ∧ s.controlBusy = gateClosed ∧ s.commandCount = 0 ∧
      s.inForce = false ∧ ∀ j pc'', j ≠ i → s.exits[j]? = some pc'' → pc''.holds = false := by
  obtain ⟨hone, hword, hzero⟩ := h.control.no_command (holders_pos hi hpc)
  have hpos : 0 < s.exits.countP holds := countP_pos hi hpc
  unfold holders at hone
  have hforce : s.inForce = false := by
    cases hin : s.inForce with
    | false => rfl
    | true =>
      simp only [hin, Bool.toNat_true] at hone
      omega
  refine ⟨hone, hword, hzero, hforce, fun j pc'' hne hj => ?_⟩
  by_contra hholds
  exact hne (eq_of_countP_le_one (by omega) hj hi (by simpa using hholds) hpc)

/-- A call that does not hold the gate and does not take it: only `accepting_commands` changes, and
it is set when the call ends. -/
lemma GateInv.exit_outside (hpc : pc.holds = false) (hpc' : pc'.holds = false) (b : Bool)
    (hrest : pc'.atRest = true → b = true) :
    GateInv cfg { s with
      m := { s.m with acceptingCommands := b }, exits := s.exits.set i pc' } := by
  have hholders : holders { s with
      m := { s.m with acceptingCommands := b }, exits := s.exits.set i pc' } = s.holders := by
    have := holders_set (t := { s with
      m := { s.m with acceptingCommands := b }, exits := s.exits.set i pc' }) hi rfl
    rw [hpc, hpc'] at this
    simpa using this
  refine ⟨h.handlers, ?_, h.worker, fun j pc'' hj => ?_, fun hin => ?_, ?_, fun hat => ?_⟩
  · rw [hholders]
    exact h.control
  · rcases getElem?_set_cases hj with ⟨-, rfl⟩ | ⟨-, hj⟩
    · exact .of_not_holds hpc'
    · exact (h.relies j pc'' hj).accepting b
  · obtain ⟨hclosed, hasync, henabled, hconf, hdebug, hbinding, hmaps⟩ := h.force hin
    exact ⟨hclosed, hasync, henabled, hconf, hdebug, hbinding, hmaps⟩
  · rw [hholders]
    exact h.opened
  · exact hrest (hat.1 i pc' (getElem?_set_self hi pc'))

lemma GateInv.exit_inside (hpc : pc.holds = true) (hpc' : pc'.holds = true)
    (hword : GateWord word s.insideCount) (hrelies : Relies cfg word s.m pc') :
    GateInv cfg { s with activeHandlers := word, exits := s.exits.set i pc' } := by
  obtain ⟨hone, hbusy, hzero, hforce, hothers⟩ := h.holds_alone hi hpc
  have hholders : holders { s with
      activeHandlers := word, exits := s.exits.set i pc' } = 1 := by
    have := holders_set (t := { s with activeHandlers := word, exits := s.exits.set i pc' }) hi rfl
    rw [hpc, hpc', hone] at this
    simpa using this
  refine ⟨hword, .inl ⟨hholders, hbusy, hzero⟩, h.worker, fun j pc'' hj => ?_, fun hin => ?_,
    fun hnone => by omega, fun hat => ?_⟩
  · rcases getElem?_set_cases hj with ⟨-, rfl⟩ | ⟨hne, hj⟩
    · exact hrelies
    · exact .of_not_holds (hothers j pc'' hne hj)
  · exact absurd (hforce.symm.trans hin) (by simp)
  · have hrest := hat.1 i pc' (getElem?_set_self hi pc')
    cases pc' <;> simp [holds, atRest] at hpc' hrest

end

/-- The compare-and-exchange on `control_busy`. -/
lemma GateInv.closeControl (hi : s.exits[i]? = some .closeControl) (hfree : s.controlBusy = 0) :
    GateInv cfg { s with controlBusy := gateClosed, exits := s.exits.set i .closeHandlers } := by
  obtain ⟨hnone, hzero⟩ := (hfree ▸ h.control).free
  have hholders : holders { s with
      controlBusy := gateClosed, exits := s.exits.set i .closeHandlers } = 1 := by
    have := holders_set (t := { s with
      controlBusy := gateClosed, exits := s.exits.set i .closeHandlers }) hi rfl
    rw [hnone] at this
    simpa [holds] using this
  have hnobody : s.exits.countP holds = 0 := by
    unfold holders at hnone
    omega
  refine ⟨h.handlers, .inl ⟨hholders, rfl, hzero⟩, h.worker, fun j pc'' hj => ?_, h.force,
    fun hno => by omega, fun hat => ?_⟩
  · rcases getElem?_set_cases hj with ⟨-, rfl⟩ | ⟨-, hj⟩
    · exact h.opened hnone
    · exact .of_not_holds (eq_false_of_countP_eq_zero hj hnobody)
  · have hrest := hat.1 i _ (getElem?_set_self hi _)
    cases hrest

lemma GateInv.quiesced (hi : s.exits[i]? = some .quiesce) :
    GateInv cfg { s with exits := s.exits.set i (.returned (.ok ())), inForce := true } := by
  obtain ⟨hone, hbusy, hzero, hforce, hothers⟩ := h.holds_alone hi rfl
  have hholders : holders { s with
      exits := s.exits.set i (.returned (.ok ())), inForce := true } = 1 := by
    have := holders_set (t := { s with
      exits := s.exits.set i (.returned (.ok ())), inForce := true }) hi rfl
    rw [hone, hforce] at this
    simpa [holds] using this
  refine ⟨h.handlers, .inl ⟨hholders, hbusy, hzero⟩, h.worker, fun j pc'' hj => ?_,
    fun _ => h.relies i _ hi, fun hno => by omega, fun hat => by simpa using hat.2⟩
  rcases getElem?_set_cases hj with ⟨-, rfl⟩ | ⟨hne, hj⟩
  · exact .of_not_holds rfl
  · exact .of_not_holds (hothers j pc'' hne hj)

/-- The call opens the control gate again, the gate of the handlers being open. -/
lemma GateInv.abortControl {result : Option Errno} (hi : s.exits[i]? = some (.abortControl result))
    : GateInv cfg { s with controlBusy := 0, exits := s.exits.set i (.abortAccept result) } := by
  obtain ⟨hone, -, hzero, hforce, hothers⟩ := h.holds_alone hi rfl
  have hholders : holders { s with
      controlBusy := 0, exits := s.exits.set i (.abortAccept result) } = 0 := by
    have := holders_set (t := { s with
      controlBusy := 0, exits := s.exits.set i (.abortAccept result) }) hi rfl
    rw [hone] at this
    simpa [holds] using this
  have hcontrol : ControlWord 0 s.commandCount 0 := by
    rw [hzero]
    exact .inr ⟨rfl, rfl, by omega⟩
  refine ⟨h.handlers, by rw [hholders]; exact hcontrol, h.worker,
    fun j pc'' hj => ?_, fun hin => ?_, fun _ => h.relies i _ hi, fun hat => ?_⟩
  · rcases getElem?_set_cases hj with ⟨-, rfl⟩ | ⟨hne, hj⟩
    · exact .of_not_holds rfl
    · exact .of_not_holds (hothers j pc'' hne hj)
  · exact absurd (hforce.symm.trans hin) (by simp)
  · have hrest := hat.1 i _ (getElem?_set_self hi _)
    cases hrest

/-- `spz_module_abort_exit` after a call that returned 0 takes the gate over from it. -/
lemma GateInv.abortExit (hi : s.exits[i]? = some pc)
    (hpc : pc.atRest = true) (hforce : s.inForce = true) :
    GateInv cfg { s with exits := s.exits.set i (.abortHandlers none), inForce := false } := by
  have hpos : 0 < s.holders := by simp [holders, hforce]
  obtain ⟨hone, hbusy, hzero⟩ := h.control.no_command hpos
  have hpc' : pc.holds = false := by cases pc <;> simp [atRest, holds] at hpc ⊢
  have hholders : holders { s with
      exits := s.exits.set i (.abortHandlers none), inForce := false } = 1 := by
    have := holders_set (t := { s with
      exits := s.exits.set i (.abortHandlers none), inForce := false }) hi rfl
    rw [hone, hforce, hpc'] at this
    simpa [holds] using this
  have hnobody : s.exits.countP holds = 0 := by
    unfold holders at hone
    simp only [hforce, Bool.toNat_true] at hone
    omega
  refine ⟨h.handlers, .inl ⟨hholders, hbusy, hzero⟩, h.worker, fun j pc'' hj => ?_,
    fun hin => by simp at hin, fun hno => by omega, fun hat => ?_⟩
  · rcases getElem?_set_cases hj with ⟨-, rfl⟩ | ⟨-, hj⟩
    · trivial
    · exact .of_not_holds (eq_false_of_countP_eq_zero hj hnobody)
  · have hrest := hat.1 i _ (getElem?_set_self hi _)
    cases hrest

end

/-- The loads of `spz_module_can_exit` find what they look for, or the call is aborted. -/
lemma checkStep_relies {check : CheckPc} (hclosed : s.activeHandlers = gateClosed)
    (h : Checked cfg s.m check) :
    (checkStep cfg s check).holds = true ∧
      Relies cfg s.activeHandlers s.m (checkStep cfg s check) := by
  cases check with
  | loadAsync handlers control =>
    simp only [checkStep]
    split_ifs with hbusy
    · exact ⟨rfl, trivial⟩
    · simp only [not_or, Bool.not_eq_true] at hbusy
      exact ⟨rfl, hclosed, hbusy.1⟩
  | loadEnabled =>
    simp only [checkStep]
    split_ifs with henabled
    · exact ⟨rfl, trivial⟩
    · exact ⟨rfl, hclosed, h, by simpa using henabled⟩
  | loadConfigured =>
    simp only [checkStep]
    split_ifs with hconf
    · exact ⟨rfl, trivial⟩
    · exact ⟨rfl, hclosed, h.1, h.2, by simpa using hconf, by simp⟩
  | loadDebug cpu =>
    obtain ⟨hasync, henabled, hconf, hdebug⟩ := h
    simp only [checkStep]
    split_ifs with hlast hempty
    · exact ⟨rfl, hclosed, hasync, henabled, hconf, fun i hi => hdebug i (by omega)⟩
    · refine ⟨rfl, hclosed, hasync, henabled, hconf, fun i hi => ?_⟩
      rcases Nat.lt_succ_iff_lt_or_eq.mp hi with hlt | rfl
      · exact hdebug i hlt
      · exact hempty
    · exact ⟨rfl, trivial⟩
  | loadBinding =>
    obtain ⟨hasync, henabled, hconf, hdebug⟩ := h
    exact ⟨rfl, hclosed, hasync, henabled, hconf, hdebug, rfl⟩
  | loadMaps binding =>
    obtain ⟨hasync, henabled, hconf, hdebug, hbinding⟩ := h
    simp only [checkStep]
    split_ifs with hmaps hempty
    · exact ⟨rfl, trivial⟩
    · refine ⟨rfl, hclosed, hasync, henabled, hconf, hdebug, hbinding.trans hempty, ?_⟩
      by_contra hne
      simp only [not_or] at hne
      exact hmaps ⟨hne.2, hne.1⟩
    · exact ⟨rfl, trivial⟩
  | _ => exact ⟨rfl, hclosed, trivial⟩

/-! ## Whole runs -/

/-- The condition: `spz_module_abort_exit` stores 0 in `active_handlers` only while no handler is
inside, and it is called from outside only while a `spz_module_begin_exit` that returned 0 is in
force. -/
def Disciplined (s : GateState) : GateAction → Prop
  | .exitStep i _ => s.exits[i]?.any aborting = true → s.insideCount = 0
  | .abortExit _ => s.inForce = true
  | _ => True

instance (s : GateState) : (a : GateAction) → Decidable (Disciplined s a)
  | .exitStep _ _ => inferInstanceAs (Decidable (_ = _ → _ = _))
  | .abortExit _ => inferInstanceAs (Decidable (_ = _))
  | .handlerLoad _ | .handlerTry _ | .handlerCall _ _ | .handlerLeave _ | .commandEnter _
  | .commandDispatch _ _ _ | .commandLeave _ | .workerStart | .workerStep _ | .workerFinish
  | .schedule _ | .beginExit _ => inferInstanceAs (Decidable True)

/-- A step of an exit call keeps the invariant. -/
lemma GateInv.exitStep (h : GateInv cfg s) {quiesced : Except Errno Unit}
    (hi : s.exits[i]? = some pc) (habort : pc.aborting = true → s.insideCount = 0)
    (hstep : exitNext cfg s i quiesced pc = some s') : GateInv cfg s' := by
  cases pc with
  | stopCommands =>
    cases hstep
    exact h.exit_outside hi rfl rfl false (by simp [atRest])
  | closeControl =>
    simp only [exitNext] at hstep
    split_ifs at hstep with hfree
    · cases hstep
      exact h.closeControl hi hfree
    · cases hstep
      exact h.exit_outside hi rfl rfl s.m.acceptingCommands (by simp [atRest])
  | reopen =>
    cases hstep
    exact h.exit_outside hi rfl rfl true fun _ => rfl
  | closeHandlers =>
    simp only [exitNext] at hstep
    split_ifs at hstep with hfree
    · cases hstep
      have hzero := (hfree ▸ h.handlers).of_zero
      exact h.exit_inside hi rfl rfl (.inl ⟨rfl, hzero⟩) ⟨rfl, trivial⟩
    · cases hstep
      exact h.exit_inside hi rfl rfl h.handlers trivial
  | check check =>
    cases hstep
    obtain ⟨hclosed, hchecked⟩ := h.relies i _ hi
    obtain ⟨hholds, hrelies⟩ := checkStep_relies hclosed hchecked
    exact h.exit_inside hi rfl hholds h.handlers hrelies
  | quiesce =>
    cases quiesced with
    | ok _ =>
      cases hstep
      exact h.quiesced hi
    | error e =>
      cases hstep
      exact h.exit_inside hi rfl rfl h.handlers trivial
  | abortHandlers result =>
    cases hstep
    have hzero := habort rfl
    exact h.exit_inside hi rfl rfl (.inr ⟨by rw [hzero]; rfl, by omega⟩)
      (show (0 : U32) ≠ gateClosed by decide)
  | abortControl result =>
    cases hstep
    exact h.abortControl hi
  | abortAccept result =>
    cases hstep
    exact h.exit_outside hi rfl (by cases result <;> rfl) true fun _ => rfl
  | _ => cases hstep

/-- Every action under the condition keeps the invariant. -/
lemma GateInv.step {a : GateAction} (h : GateInv cfg s) (hdisc : Disciplined s a)
    (hstep : gateNext cfg s a = some s') : GateInv cfg s' := by
  cases a with simp only [gateNext, ite_none_right_eq_some, Option.some.injEq, bind_eq_some_iff,
    map_eq_some_iff] at hstep
  | handlerLoad i =>
    obtain ⟨hi, rfl⟩ := hstep
    exact h.handler_outside hi rfl rfl
  | handlerTry i =>
    split at hstep
    next observed hi =>
      cases hstep
      exact h.handlerTry hi
    next => cases hstep
  | handlerCall i call =>
    obtain ⟨hi, rfl⟩ := hstep
    exact h.handlerCall hi call
  | handlerLeave i =>
    obtain ⟨hi, rfl⟩ := hstep
    exact h.handlerLeave hi
  | commandEnter i =>
    obtain ⟨hi, rfl⟩ := hstep
    split_ifs with hfree
    · exact h.commandEnter hi hfree
    · exact h
  | commandDispatch i command env =>
    obtain ⟨hi, rfl⟩ := hstep
    exact h.commandDispatch hi command env
  | commandLeave i =>
    obtain ⟨hi | hi, rfl⟩ := hstep
    all_goals exact h.commandLeave hi rfl
  | workerStart =>
    obtain ⟨⟨-, hpend⟩, rfl⟩ := hstep
    refine h.others rfl rfl h.handlers h.control (fun _ _ => rfl) .rfl (fun _ _ hidle => ?_) rfl
    simp [asyncBusy, hpend] at hidle
  | workerStep input =>
    obtain ⟨pc, hpc, out, hout, rfl⟩ := hstep
    exact h.workerStep hpc hout
  | workerFinish =>
    split at hstep
    next operation status hexec =>
      cases hstep
      have hrun := h.worker _ hexec
      refine h.others rfl rfl h.handlers h.control (fun _ hpc => by simp at hpc) .rfl
        (fun _ _ hidle => ?_) rfl
      simp [asyncBusy, hrun] at hidle
    next => cases hstep
  | schedule current =>
    cases hstep
    exact h.others rfl rfl h.handlers h.control h.worker .rfl (fun _ _ _ => rfl) rfl
  | beginExit i =>
    obtain ⟨hi, rfl⟩ := hstep
    obtain ⟨pc, hpc, hrest⟩ := (any_eq_true _ _).mp hi
    refine h.exit_outside hpc ?_ rfl s.m.acceptingCommands (by simp [atRest])
    cases pc <;> simp [atRest, holds] at hrest ⊢
  | abortExit i =>
    obtain ⟨hi, rfl⟩ := hstep
    obtain ⟨pc, hpc, hrest⟩ := (any_eq_true _ _).mp hi
    exact h.abortExit hpc hrest hdisc
  | exitStep i quiesced =>
    obtain ⟨pc, hpc, hnext⟩ := hstep
    exact h.exitStep hpc (fun habort => hdisc (by simp [hpc, habort])) hnext

lemma GateInit.gateInv (h : GateInit s) : GateInv cfg s := by
  obtain ⟨⟨backend, hm⟩, hexec, hactive, hbusy, hhandlers, hcommands, hexits, hforce⟩ := h
  have hinside : s.insideCount = 0 :=
    List.countP_eq_zero.mpr fun pc hpc => by simp [hhandlers pc hpc, HandlerPc.isInside]
  have hcommand : s.commandCount = 0 :=
    List.countP_eq_zero.mpr fun pc hpc => by simp [hcommands pc hpc, isInside]
  have hholders : s.holders = 0 := by
    unfold holders
    rw [hforce, List.countP_eq_zero.mpr fun pc hpc => by simp [hexits pc hpc, holds]]
    rfl
  refine ⟨?_, ?_, fun pc hpc => by simp [hexec] at hpc, fun i pc hpc => ?_, by simp [hforce],
    fun _ => by rw [hactive]; decide, fun _ => by rw [hm]; rfl⟩
  · rw [hactive, hinside]
    exact .inr ⟨rfl, by omega⟩
  · rw [hbusy, hcommand, hholders]
    exact .inr ⟨rfl, rfl, by omega⟩
  · rw [hexits pc (List.mem_of_getElem? hpc)]
    trivial

lemma gateInv_of_reachable (hs : ((gateSystem cfg).restrict Disciplined).Reachable s) :
    GateInv cfg s := by
  refine System.Reachable.invariant (I := GateInv cfg) (fun _ hinit => GateInit.gateInv hinit) ?_ hs
  rintro s a s' hI ⟨hdisc, hstep⟩
  exact hI.step hdisc hstep

end Spz
