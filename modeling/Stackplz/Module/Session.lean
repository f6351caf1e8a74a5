import Stackplz.Module.System

/-!
# Polling in a new session

A client starts every session with the cursor 0.  `spz_ring_pop_after` refuses a cursor below the
one it has reached, and only polls move that cursor forward and only CLEAR's `spz_ring_init` puts it
back to 0: no push, and so no handler and no audit, touches it.  A bind asks neither for a CLEAR nor
for a fresh ring, so whether the session can be polled from the beginning depends on what was polled
before it.
-/

namespace Spz

open Errno Transition Option

/-! ## Pushing leaves the cursor alone -/

section Push

variable (ring : Ring) (cpu : ℕ)

lemma ringPublish_consumerAfter (source : Event) :
    (ringPublish ring cpu source).2.consumerAfter = ring.consumerAfter := by
  unfold ringPublish
  dsimp only
  split_ifs
  · rfl
  · rfl
  · rw [nextSequence]
    split_ifs <;> rfl

lemma ringReportLoss_consumerAfter (freeSlots : U64) :
    (ringReportLoss ring cpu freeSlots).2.consumerAfter = ring.consumerAfter := by
  have hpublish := ringPublish_consumerAfter ring cpu (lossEvent (ring.cpu cpu))
  unfold ringReportLoss
  dsimp only
  split_ifs
  · generalize ringPublish ring cpu (lossEvent (ring.cpu cpu)) = out at hpublish ⊢
    obtain ⟨⟨⟩ | ⟨⟩, ring'⟩ := out <;> exact hpublish
  · rfl

lemma ringPush_consumerAfter (event : Event) :
    (ringPush ring cpu event).2.consumerAfter = ring.consumerAfter := by
  unfold ringPush
  dsimp only
  split_ifs with hcpu hfull
  · rfl
  · rfl
  · have hreport := ringReportLoss_consumerAfter ring cpu
      (BitVec.ofNat 64 ringCapacity - (ring.cpu cpu).used)
    generalize ringReportLoss ring cpu _ = out at hreport ⊢
    obtain ⟨⟨⟩ | ⟨⟩, ring'⟩ := out
    · exact hreport
    · have hpublish := ringPublish_consumerAfter ring' cpu event
      dsimp only
      generalize ringPublish ring' cpu event = out at hpublish ⊢
      obtain ⟨⟨e⟩ | ⟨⟩, ring''⟩ := out
      · dsimp only
        split_ifs <;> exact hpublish.trans hreport
      · exact hpublish.trans hreport

end Push

/-! ## The handlers and the worker -/

def ModuleState.cursor (m : ModuleState) : U64 := m.ring.consumerAfter

section Handlers

variable (cfg : Config) (m : ModuleState) (cpu : ℕ) (task : KernelTask)

lemma publishIntegrity_cursor (status : Errno) (flags : U16) (now : U64) :
    (publishIntegrity cfg m cpu status flags now).cursor = m.cursor := by
  unfold publishIntegrity
  split_ifs
  · rfl
  · exact ringPush_consumerAfter ..

lemma finishBefore_cursor (env : HookEnv) : (finishBefore cfg m cpu env).cursor = m.cursor := by
  have hring : (m.runDebug cpu (debugRestoreCpu cfg.ops) env.φ).2.cursor = m.cursor := rfl
  unfold finishBefore
  split_ifs
  · rfl
  · generalize m.runDebug cpu (debugRestoreCpu cfg.ops) env.φ = out at hring ⊢
    obtain ⟨⟨e⟩ | ⟨⟩, m'⟩ := out
    · exact (publishIntegrity_cursor ..).trans hring
    · exact hring

lemma armLiveCurrent_cursor (φ : Fallible.Oracle Errno) :
    (armLiveCurrent cfg m cpu task φ).2.cursor = m.cursor := by
  rcases armLiveCurrent_cases cfg m cpu task φ with ⟨b, -, h⟩ | ⟨-, -, target, -, h⟩
  all_goals
    rw [h]
    rfl

lemma armAfterSwitch_cursor (env : HookEnv) :
    (armAfterSwitch cfg m cpu task env).cursor = m.cursor := by
  have harm := armLiveCurrent_cursor cfg m cpu task env.φ
  unfold armAfterSwitch
  generalize armLiveCurrent cfg m cpu task env.φ = out at harm ⊢
  obtain ⟨⟨e⟩ | ⟨⟩, m'⟩ := out
  · dsimp only
    split_ifs
    · exact harm
    · exact (publishIntegrity_cursor ..).trans harm
  · exact harm

lemma captureObserved_cursor (identity : TaskIdentity) (env : HookEnv) :
    (captureObserved cfg m cpu task identity env).cursor = m.cursor := by
  unfold captureObserved
  split
  · rfl
  · split_ifs
    · rfl
    · exact publishIntegrity_cursor ..

lemma finishAfter_cursor (env : HookEnv) : (finishAfter cfg m cpu task env).cursor = m.cursor := by
  unfold finishAfter
  split_ifs
  · rfl
  · dsimp only
    split
    · exact publishIntegrity_cursor ..
    · exact armAfterSwitch_cursor ..
    · split_ifs
      · exact armAfterSwitch_cursor ..
      · exact (armAfterSwitch_cursor ..).trans (captureObserved_cursor ..)

lemma concludeException_cursor (kind : ExceptionKind) (fargs : HookFargs) (now : U64)
    (r : Except Errno (DebugResult × DebugFrame × Event)) :
    (concludeException cfg m cpu kind fargs now r).2.cursor = m.cursor := by
  match r with
  | .error e => exact publishIntegrity_cursor ..
  | .ok (.notOwned, _, _) => rfl
  | .ok (.forwardOriginal, _, _) => rfl
  | .ok (.consumed, frame, event) =>
    simp only [concludeException]
    split_ifs
    · rfl
    · exact ringPush_consumerAfter ..

lemma exceptionBefore_cursor (kind : ExceptionKind) (fargs : HookFargs) (env : HookEnv) :
    (exceptionBefore cfg m cpu task kind fargs env).2.cursor = m.cursor := by
  obtain ⟨b, -, htarget⟩ := currentTarget_eq m task
  have hcursor : (currentTarget m task).2.cursor = m.cursor := by
    rw [htarget]
    rfl
  unfold exceptionBefore exceptionInside
  split_ifs
  · rfl
  · rfl
  · generalize currentTarget m task = out at hcursor ⊢
    obtain ⟨⟨e⟩ | ⟨⟨⟩ | ⟨target⟩⟩, m'⟩ := out
    · exact hcursor
    · exact hcursor
    · cases fargs.regs with
      | none => exact hcursor
      | some regs => exact (concludeException_cursor ..).trans hcursor

lemma auditCpu_cursor (input : ExecInput) : (auditCpu cfg m cpu input).2.cursor = m.cursor := by
  have hfold : ∀ (events : List Event) (m : ModuleState),
      (events.foldl (auditPush cpu) m).cursor = m.cursor := by
    intro events
    induction events with
    | nil => exact fun _ => rfl
    | cons event events ih =>
      intro m
      have hpush : (auditPush cpu m event).cursor = m.cursor := by
        have := ringPush_consumerAfter m.ring cpu event
        unfold auditPush
        generalize ringPush m.ring cpu event = out at this ⊢
        obtain ⟨⟨e⟩ | ⟨⟩, ring⟩ := out <;> exact this
      exact (ih _).trans hpush
  unfold auditCpu
  split
  · rfl
  · exact hfold _ m

end Handlers

/-- A step of the worker leaves the cursor alone or sets it back. -/
lemma execStep_cursor {cfg : Config} {current : ℕ → KernelTask} {m m' : ModuleState}
    {input : ExecInput} {pc pc' : ExecPc} (h : execStep cfg current m input pc = some (pc', m')) :
    m'.cursor = m.cursor ∨ m'.cursor = 0 := by
  cases execStep_effect h with
  | enableTurn => exact .inl (armLiveCurrent_cursor ..)
  | ringCleared => exact .inr rfl
  | @auditTurn left status =>
    cases left with
    | nil => cases h
    | cons cpu rest =>
      simp only [execStep, ite_none_right_eq_some, some.injEq] at h
      rw [← (Prod.mk.inj h.2).2]
      exact .inl (auditCpu_cursor ..)
  | _ => exact .inl rfl

/-! ## A session -/

def NoPoll (_ : World) : Action → Prop
  | .command (.poll _ _) _ => False
  | _ => True

/-- Nothing but a poll moves the cursor forward. -/
lemma worldNext_cursor {cfg : Config} {w w' : World} {a : Action} (h : worldNext cfg w a = some w')
    (hpoll : NoPoll w a) : w'.m.cursor = w.m.cursor ∨ w'.m.cursor = 0 := by
  cases a with
  | switch cpu task env =>
    simp only [worldNext, ite_none_right_eq_some, some.injEq] at h
    obtain ⟨-, rfl⟩ := h
    exact .inl (finishBefore_cursor ..)
  | finishAfter cpu env =>
    cases h
    exact .inl (finishAfter_cursor ..)
  | exception cpu kind fargs env =>
    cases h
    exact .inl (exceptionBefore_cursor ..)
  | command command env =>
    cases h
    have heffect := controlDispatch_effect w.m env command
    generalize (controlDispatch w.m env command).2 = m' at heffect
    cases heffect with
    | polled ring => exact hpoll.elim
    | _ => exact .inl rfl
  | workerStep input =>
    simp only [worldNext, bind_eq_some_iff, map_eq_some_iff] at h
    obtain ⟨pc, -, out, hout, rfl⟩ := h
    exact execStep_cursor hout
  | _ =>
    cases worldNext_step h
    exact .inl rfl

lemma ringPopAfter_stale (ring : Ring) (after : U64) :
    (ringPopAfter ring after).1 = .error ESTALE ↔ after < ring.consumerAfter := by
  unfold ringPopAfter
  split_ifs with hstale hrange hlast
  · exact iff_of_true rfl hstale
  · exact iff_of_false (by simp [ERANGE, ESTALE]) hstale
  · exact iff_of_false (by simp [EOVERFLOW, ESTALE]) hstale
  all_goals
    refine iff_of_false ?_ hstale
    dsimp only
    split <;> simp

lemma controlPoll_zero_stale (m : ModuleState) :
    (controlPoll m 0 1).1 = .error ESTALE ↔ m.cursor ≠ 0 := by
  have hpop : (controlPoll m 0 1).1 = .error ESTALE ↔
      (ringPopAfter m.ring 0).1 = .error ESTALE := by
    show (ringPopAfter m.ring 0).1.map Reply.event = _ ↔ _
    cases (ringPopAfter m.ring 0).1 <;> simp [Except.map]
  rw [hpop, ringPopAfter_stale, BitVec.lt_def, ne_eq, ← BitVec.toNat_inj]
  exact Nat.pos_iff_ne_zero

/-- A new session can be polled from the beginning exactly if the cursor is at 0 when the bind is
given: until the first poll, whatever else happens, `poll after=0` is not answered with `-ESTALE`.
This is so in every state, and for a bind that is refused too. -/
theorem session_polls_from_zero (cfg : Config) (w : World) (command : BindCommand) :
    (∀ t, ((moduleSystem cfg).restrict NoPoll).Steps
        { w with m := (controlBind w.m command).2 } t →
      (controlPoll t.m 0 1).1 ≠ .error ESTALE) ↔ w.m.cursor = 0 := by
  have hsame : (controlBind w.m command).2.cursor = w.m.cursor := by
    have heffect := controlBind_effect w.m {} command
    generalize (controlBind w.m command).2 = m' at heffect
    cases heffect <;> rfl
  constructor
  · intro hall
    have hfirst := hall _ .refl
    rw [ne_eq, controlPoll_zero_stale, not_not] at hfirst
    exact hsame.symm.trans hfirst
  · intro hzero t ht
    have hkept : t.m.cursor = 0 := by
      refine System.Steps.invariant (I := fun t : World => t.m.cursor = 0)
        (fun u a u' hu hstep => ?_) ht (hsame.trans hzero)
      rcases worldNext_cursor hstep.2 hstep.1 with hkeep | hreset
      · exact hkeep.trans hu
      · exact hreset
    rw [ne_eq, controlPoll_zero_stale, not_not]
    exact hkept

/-- Registers with a breakpoint of somebody else. -/
def ownedRegs : Regs := { blankRegs with owner := fun _ _ => 1 }

/-- An audit finds a breakpoint of somebody else on CPU 0, and its event is polled. -/
def auditPolled : List Action :=
  [.foreign 0 ownedRegs, .command .audit {}, .workerStart, .workerStep {}, .workerStep { cpu := 0 },
    .workerStep { cpu := 1 }, .workerStep {}, .workerFinish, .command (.poll 0 1) {}]

/-- A session that cannot be polled: the events of an audit have been polled, a bind is accepted
without a CLEAR, and `poll after=0` is stale. -/
theorem session_after_audit_stale :
    (moduleSystem tinyConfig).Reachable (worldAfter auditPolled) ∧
      (controlBind (worldAfter auditPolled).m { pid := 100, mode := .pid }).1.isOk = true ∧
      (controlPoll (controlBind (worldAfter auditPolled).m { pid := 100, mode := .pid }).2 0 1).1 =
        .error ESTALE := by
  refine ⟨.of_restrict (C := fun _ _ => True) (worldAfter_reachable _ (fun _ _ _ => trivial)
    (by decide +kernel)), by decide +kernel, ?_⟩
  rw [controlPoll_zero_stale]
  decide +kernel

end Spz
