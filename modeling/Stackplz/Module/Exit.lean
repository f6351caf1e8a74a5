import Stackplz.Module.ExitInvariant

/-!
# Leaving the module

What the exit gate is for: the low bits of `active_handlers` count the handlers inside, a
`spz_module_begin_exit` that returns 0 has found the module at rest and keeps it so until
`spz_module_abort_exit`, and one that fails leaves the gate open.

All this holds as long as `spz_module_abort_exit` stores 0 in `active_handlers` only while no
handler is inside (`exit_gate`).  `spz_module_begin_exit` itself calls it when its
compare-and-exchange on that word has failed, which it does because handlers are inside.  The store
forgets them, and none of the three guarantees survives (`failed_exit_forgets_handler`).
-/

namespace Spz

open Fallible Errno Transition Threads GateState Option ExitPc

/-! ## What is guaranteed -/

/-- Nothing runs in the module, and it is at rest. -/
structure ShutDown (cfg : Config) (s : GateState) : Prop where
  handlers : s.insideCount = 0
  commands : s.commandCount = 0
  quiescent : Quiescent cfg s.m

/-- The gate is open: the next handler gets in, unless the count is full, and so does the next
command, unless one is being executed; and commands are accepted. -/
structure GateOpen (cfg : Config) (s : GateState) : Prop where
  handler : s.insideCount < 2 ^ 31 - 1 → ∀ j : ℕ, s.handlers[j]? = some .outside →
    ∃ t u, gateNext cfg s (.handlerLoad j) = some t ∧ gateNext cfg t (.handlerTry j) = some u ∧
      u.handlers[j]? = some .inside
  command : s.commandCount = 0 → ∀ j : ℕ, s.commands[j]? = some .outside →
    ∃ t, gateNext cfg s (.commandEnter j) = some t ∧ t.commands[j]? = some .inside
  accepting : s.m.acceptingCommands = true

/-- `spz_module_begin_exit`, called by thread `i`, returns in this step. -/
def Returns (cfg : Config) (i : ℕ) (result : Except Errno Unit) (s s' : GateState) : Prop :=
  ∃ quiesced, gateNext cfg s (.exitStep i quiesced) = some s' ∧
    s'.exits[i]? = some (.returned result)

/-- Nobody calls `spz_module_abort_exit`. -/
def NoAbort (s : GateState) (a : GateAction) : Prop :=
  Disciplined s a ∧ ∀ i, a ≠ .abortExit i

/-- Nobody begins or aborts an exit. -/
def NoExitCall (s : GateState) (a : GateAction) : Prop :=
  NoAbort s a ∧ ∀ i, a ≠ .beginExit i

variable {cfg : Config} {s s' : GateState} {i : ℕ}

/-- While no exit is on its way or in force, the gate lets handlers and commands in. -/
lemma GateInv.gateOpen (h : GateInv cfg s) (hrest : s.AtRest) : GateOpen cfg s := by
  have hnone : s.holders = 0 := by
    unfold holders
    rw [hrest.2, List.countP_eq_zero.mpr fun pc hpc => ?_]
    · rfl
    · obtain ⟨j, hj⟩ := List.mem_iff_getElem?.mp hpc
      have := hrest.1 j pc hj
      cases pc <;> simp [atRest, holds] at this ⊢
  refine ⟨fun hroom j hj => ?_, fun hidle j hj => ?_, h.accepting hrest⟩
  · -- the word has not changed between the load and the exchange
    have hset := getElem?_set_self hj (HandlerPc.entering s.activeHandlers)
    let t : GateState := { s with handlers := s.handlers.set j (.entering s.activeHandlers) }
    have htry : Spz.handlerTry t j s.activeHandlers =
        { t with
          activeHandlers := s.activeHandlers + 1, handlers := t.handlers.set j .inside } := by
      unfold Spz.handlerTry
      rw [if_neg (h.handlers.admits (h.opened hnone) hroom), if_pos rfl]
    refine ⟨t, Spz.handlerTry t j s.activeHandlers, if_pos hj, ?_, ?_⟩
    · simp only [gateNext, t, hset]
    · rw [htry]
      exact getElem?_set_self hset .inside
  · have hfree : s.controlBusy = 0 := by
      rcases h.control with ⟨hone, -⟩ | ⟨-, hword, -⟩
      · omega
      · rw [hword, hidle]
        rfl
    refine ⟨_, if_pos hj, ?_⟩
    rw [if_pos hfree]
    exact getElem?_set_self hj _

variable {a : GateAction} {result : Except Errno Unit}

/-- What a step does to the exit calls: nothing, or it is a step of one of them. -/
lemma gateNext_exits (h : gateNext cfg s a = some s') :
    s'.exits = s.exits ∧ s'.inForce = s.inForce ∨
      (∃ i, a = .beginExit i ∧ s'.inForce = s.inForce) ∨ (∃ i, a = .abortExit i) ∨
      ∃ i quiesced pc, a = .exitStep i quiesced ∧ s.exits[i]? = some pc ∧
        exitNext cfg s i quiesced pc = some s' := by
  cases a with simp only [gateNext, ite_none_right_eq_some, some.injEq,
    bind_eq_some_iff, map_eq_some_iff] at h
  | beginExit i =>
    obtain ⟨-, rfl⟩ := h
    exact .inr (.inl ⟨i, rfl, rfl⟩)
  | abortExit i => exact .inr (.inr (.inl ⟨i, rfl⟩))
  | exitStep i quiesced =>
    obtain ⟨pc, hpc, hnext⟩ := h
    exact .inr (.inr (.inr ⟨i, quiesced, pc, rfl, hpc, hnext⟩))
  | handlerTry i =>
    split at h
    · cases h
      unfold handlerTry
      split_ifs <;> exact .inl ⟨rfl, rfl⟩
    · cases h
  | workerFinish =>
    split at h
    · cases h
      exact .inl ⟨rfl, rfl⟩
    · cases h
  | workerStep input =>
    obtain ⟨-, -, -, -, rfl⟩ := h
    exact .inl ⟨rfl, rfl⟩
  | commandEnter i =>
    obtain ⟨-, rfl⟩ := h
    split_ifs <;> exact .inl ⟨rfl, rfl⟩
  | schedule current =>
    cases h
    exact .inl ⟨rfl, rfl⟩
  | _ =>
    obtain ⟨-, rfl⟩ := h
    exact .inl ⟨rfl, rfl⟩

lemma checkStep_atRest (cfg : Config) (s : GateState) (check : CheckPc) :
    (checkStep cfg s check).atRest = false := by
  cases check with
  | loadHandlers => rfl
  | loadControl => rfl
  | loadBinding => rfl
  | _ =>
    simp only [checkStep]
    split_ifs <;> rfl

/-- A step of an exit call moves that call alone, and only a return of 0 puts an exit in force. -/
lemma exitNext_exits {quiesced : Except Errno Unit} {pc : ExitPc}
    (h : exitNext cfg s i quiesced pc = some s') :
    ∃ pc', s'.exits = s.exits.set i pc' ∧
      (s'.inForce = s.inForce ∧ pc' ≠ .returned (.ok ()) ∨
        s'.inForce = true ∧ pc' = .returned (.ok ())) ∧
      (pc.aborting = true → pc'.atRest = false) := by
  cases pc with
  | idle => cases h
  | returned => cases h
  | check check =>
    cases h
    refine ⟨_, rfl, .inl ⟨rfl, fun hret => ?_⟩, by simp [aborting]⟩
    have := checkStep_atRest cfg s check
    simp [hret, atRest] at this
  | closeControl | closeHandlers =>
    simp only [exitNext] at h
    split_ifs at h <;> cases h <;> exact ⟨_, rfl, .inl ⟨rfl, by simp⟩, by simp [aborting]⟩
  | quiesce =>
    cases quiesced with
    | ok _ =>
      cases h
      exact ⟨_, rfl, .inr ⟨rfl, rfl⟩, by simp [aborting]⟩
    | error e =>
      cases h
      exact ⟨_, rfl, .inl ⟨rfl, by simp⟩, by simp [aborting]⟩
  | abortAccept result =>
    cases h
    exact ⟨_, rfl, .inl ⟨rfl, by cases result <;> simp⟩, by simp [aborting]⟩
  | _ =>
    cases h
    exact ⟨_, rfl, .inl ⟨rfl, by simp⟩, by simp [aborting, atRest]⟩

/-! ## The guarantees -/

lemma GateInv.returns (h : GateInv cfg s) (hret : Returns cfg i result s s') : GateInv cfg s' := by
  obtain ⟨quiesced, hnext, hplace⟩ := hret
  obtain ⟨pc, hpc, hexit⟩ := bind_eq_some_iff.mp hnext
  refine h.exitStep hpc (fun habort => ?_) hexit
  -- a call that is about to store 0 does not return yet
  obtain ⟨pc', hexits, -, hgoes⟩ := exitNext_exits hexit
  rw [hexits, getElem?_set_self hpc, some.injEq] at hplace
  have := hgoes habort
  rw [hplace] at this
  cases this

lemma Returns.inForce (h : Returns cfg i (.ok ()) s s') : s'.inForce = true := by
  obtain ⟨quiesced, hnext, hplace⟩ := h
  obtain ⟨pc, hpc, hexit⟩ := bind_eq_some_iff.mp hnext
  obtain ⟨pc', hexits, ⟨-, hne⟩ | ⟨hforce, -⟩, -⟩ := exitNext_exits hexit
  · rw [hexits, getElem?_set_self hpc, some.injEq] at hplace
    exact absurd hplace hne
  · exact hforce

/-- A call that fails, with no other on its way or in force, leaves all calls at rest. -/
lemma Returns.atRest {e : Errno} (h : Returns cfg i (.error e) s s')
    (hothers : ∀ (j : ℕ) (pc : ExitPc), j ≠ i → s.exits[j]? = some pc → pc.atRest = true)
    (hforce : s.inForce = false) : s'.AtRest := by
  obtain ⟨quiesced, hnext, hplace⟩ := h
  obtain ⟨pc, hpc, hexit⟩ := bind_eq_some_iff.mp hnext
  obtain ⟨pc', hexits, hin, -⟩ := exitNext_exits hexit
  have hret : pc' = .returned (.error e) := by
    rw [hexits, getElem?_set_self hpc, some.injEq] at hplace
    exact hplace
  subst hret
  refine ⟨fun j pc'' hj => ?_, ?_⟩
  · rw [hexits] at hj
    rcases getElem?_set_cases hj with ⟨-, rfl⟩ | ⟨hne, hj⟩
    · rfl
    · exact hothers j pc'' hne hj
  · rcases hin with ⟨hsame, -⟩ | ⟨-, hret⟩
    · exact hsame.trans hforce
    · cases hret

/-- An exit in force stays so until `spz_module_abort_exit` is called. -/
lemma inForce_of_noAbort (hstep : gateNext cfg s a = some s')
    (ha : ∀ i, a ≠ .abortExit i) (h : s.inForce = true) : s'.inForce = true := by
  rcases gateNext_exits hstep with ⟨-, hsame⟩ | ⟨i, -, hsame⟩ | ⟨i, habort⟩ |
    ⟨i, quiesced, pc, -, -, hexit⟩
  · exact hsame.trans h
  · exact hsame.trans h
  · exact absurd habort (ha i)
  · obtain ⟨pc', -, ⟨hsame, -⟩ | ⟨hforce, -⟩, -⟩ := exitNext_exits hexit
    · exact hsame.trans h
    · exact hforce

lemma atRest_of_noExitCall (hstep : gateNext cfg s a = some s')
    (ha : ∀ i, a ≠ .abortExit i) (hb : ∀ i, a ≠ .beginExit i) (h : s.AtRest) : s'.AtRest := by
  rcases gateNext_exits hstep with ⟨hexits, hsame⟩ | ⟨i, hbegin, -⟩ | ⟨i, habort⟩ |
    ⟨i, quiesced, pc, -, hpc, hexit⟩
  · exact ⟨by rw [hexits]; exact h.1, hsame.trans h.2⟩
  · exact absurd hbegin (hb i)
  · exact absurd habort (ha i)
  · have hrest := h.1 i pc hpc
    cases pc with
    | idle => cases hexit
    | returned => cases hexit
    | _ => cases hrest

/-- The exit gate.  In every run in which `spz_module_abort_exit` stores 0 in `active_handlers` only
while no handler is inside, and is called from outside only after a `spz_module_begin_exit` that
returned 0:
* the low bits of `active_handlers` are the number of handlers inside;
* when `spz_module_begin_exit` returns 0 the module is at rest, and until `spz_module_abort_exit` is
  called no handler gets in and no command is executed;
* when it fails, and no other exit is on its way or in force, the gate is open and stays so until
  the next exit call. -/
theorem exit_gate (cfg : Config) {s : GateState}
    (hs : ((gateSystem cfg).restrict Disciplined).Reachable s) :
    (s.activeHandlers &&& gateCountMask).toNat = s.insideCount ∧
    (∀ i s', Returns cfg i (.ok ()) s s' →
      ∀ t, ((gateSystem cfg).restrict NoAbort).Steps s' t → ShutDown cfg t) ∧
    (∀ i e s', Returns cfg i (.error e) s s' →
      (∀ (j : ℕ) (pc : ExitPc), j ≠ i → s.exits[j]? = some pc → pc.atRest = true) →
      s.inForce = false →
      ∀ t, ((gateSystem cfg).restrict NoExitCall).Steps s' t → GateOpen cfg t) := by
  have hinv := gateInv_of_reachable hs
  refine ⟨hinv.handlers.count, fun i s' hret t hsteps => ?_,
    fun i e s' hret hothers hforce t hsteps => ?_⟩
  · obtain ⟨ht, hforce⟩ : GateInv cfg t ∧ t.inForce = true := by
      refine System.Steps.invariant (I := fun u => GateInv cfg u ∧ u.inForce = true) ?_ hsteps
        ⟨hinv.returns hret, hret.inForce⟩
      rintro u a u' ⟨hu, hin⟩ ⟨⟨hdisc, hno⟩, hstep⟩
      exact ⟨hu.step hdisc hstep, inForce_of_noAbort hstep hno hin⟩
    obtain ⟨hclosed, hquiet⟩ := ht.force hforce
    have hpos : 0 < t.holders := by simp [holders, hforce]
    refine ⟨?_, (ht.control.no_command hpos).2.2, hquiet⟩
    by_contra hne
    exact ht.handlers.ne_gateClosed (Nat.pos_of_ne_zero hne) hclosed
  · obtain ⟨ht, hrest⟩ : GateInv cfg t ∧ t.AtRest := by
      refine System.Steps.invariant (I := fun u => GateInv cfg u ∧ u.AtRest) ?_ hsteps
        ⟨hinv.returns hret, hret.atRest hothers hforce⟩
      rintro u a u' ⟨hu, hrest⟩ ⟨⟨⟨hdisc, hno⟩, hnob⟩, hstep⟩
      exact ⟨hu.step hdisc hstep, atRest_of_noExitCall hstep hno hnob hrest⟩
    exact ht.gateOpen hrest

/-! ## Concrete runs -/

/-- The small module with two handlers, a command and an exit call. -/
def tinyGate : GateState where
  m := tinyWorld.m
  current := tinyWorld.current
  handlers := [.outside, .outside]
  commands := [.outside]
  exits := [.idle]

lemma tinyGate_init : GateInit tinyGate :=
  ⟨⟨_, rfl⟩, rfl, rfl, rfl, by decide, by decide, by simp [tinyGate], rfl⟩

def GateState.after (s : GateState) (as : List GateAction) : GateState :=
  runFrom (gateNext tinyConfig) s as

lemma GateState.reachable_after (as : List GateAction)
    (h : (run (gateNext tinyConfig) tinyGate as).isSome = true) :
    (gateSystem tinyConfig).Reachable (tinyGate.after as) :=
  .steps (.init tinyGate_init)
    (.of_restrict (runFrom_steps (C := fun _ _ => True) _ as (by simp) h))

lemma GateState.returns_after {s : GateState}
    (h : (gateNext tinyConfig s (.exitStep 0 (.ok ()))).isSome = true)
    (hret : (s.after [.exitStep 0 (.ok ())]).exits[0]? = some (.returned result)) :
    Returns tinyConfig 0 result s (s.after [.exitStep 0 (.ok ())]) := by
  refine ⟨.ok (), ?_, hret⟩
  obtain ⟨t, ht⟩ := isSome_iff_exists.mp h
  simp [after, runFrom, run, ht]

def handlerIn (i : ℕ) : List GateAction := [.handlerLoad i, .handlerTry i]

/-- `spz_module_begin_exit` makes `n` steps. -/
def exitSteps (n : ℕ) : List GateAction := .beginExit 0 :: List.replicate n (.exitStep 0 (.ok ()))

/-- A handler has come and gone, and `spz_module_begin_exit` is about to return. -/
def quietExit : GateState :=
  runFrom (guarded Disciplined (gateNext tinyConfig)) tinyGate
    (handlerIn 0 ++ [.handlerLeave 0] ++ exitSteps 13)

/-- After it has returned 0 neither a handler nor a command gets in. -/
theorem exit_gate_quiet :
    Returns tinyConfig 0 (.ok ()) quietExit (quietExit.after [.exitStep 0 (.ok ())]) ∧
    ShutDown tinyConfig ((quietExit.after [.exitStep 0 (.ok ())]).after
      (handlerIn 0 ++ [.commandEnter 0])) := by
  have hreach : ((gateSystem tinyConfig).restrict Disciplined).Reachable quietExit :=
    .steps (.init tinyGate_init) (guarded_steps _ _ (by decide +kernel))
  have hret : Returns tinyConfig 0 (.ok ()) quietExit (quietExit.after [.exitStep 0 (.ok ())]) :=
    returns_after (by decide +kernel) (by decide +kernel)
  refine ⟨hret, (exit_gate tinyConfig hreach).2.1 0 _ hret _ (runFrom_steps _ _ ?_ ?_)⟩
  · simp [handlerIn, NoAbort, Disciplined]
  · decide +kernel

/-- A handler is inside when `spz_module_begin_exit` is called, which makes `n` steps. -/
def exitMeetsHandler (n : ℕ) : List GateAction := handlerIn 0 ++ exitSteps n

/-- A failed exit forgets the handler it has met.  After its store the low bits are 0 with a
handler inside; a second call then returns 0 with that handler inside; and if instead the handler
leaves after the call has failed, the word wraps around and no handler gets in any more. -/
theorem failed_exit_forgets_handler :
    (∀ as ∈ [exitMeetsHandler 4, exitMeetsHandler 6 ++ exitSteps 13, exitMeetsHandler 5],
      (gateSystem tinyConfig).Reachable (tinyGate.after as)) ∧
    ((tinyGate.after (exitMeetsHandler 4)).activeHandlers &&& gateCountMask = 0 ∧
      (tinyGate.after (exitMeetsHandler 4)).insideCount = 1) ∧
    (∃ s', Returns tinyConfig 0 (.ok ())
        (tinyGate.after (exitMeetsHandler 6 ++ exitSteps 13)) s' ∧ s'.insideCount = 1) ∧
    (∃ s', Returns tinyConfig 0 (.error EBUSY) (tinyGate.after (exitMeetsHandler 5)) s' ∧
      (s'.after [.handlerLeave 0]).insideCount = 0 ∧
      (s'.after ([.handlerLeave 0] ++ handlerIn 1)).handlers[1]? = some .outside) := by
  have hreach := reachable_after
  refine ⟨?_, by decide +kernel, ⟨_, returns_after (by decide +kernel)
    (by decide +kernel), by decide +kernel⟩, ⟨_, returns_after (by decide +kernel)
    (by decide +kernel), by decide +kernel, by decide +kernel⟩⟩
  simp only [List.forall_mem_cons, List.not_mem_nil, false_imp_iff, implies_true, and_true]
  exact ⟨hreach _ (by decide +kernel), hreach _ (by decide +kernel), hreach _ (by decide +kernel)⟩

end Spz
