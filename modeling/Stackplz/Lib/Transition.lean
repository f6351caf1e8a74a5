import Mathlib.Tactic.Common
import Mathlib.Logic.Relation

/-!
# Transition systems and the rules for their invariants

A `System σ α` has states `σ`, initial states, and labelled steps `s —a→ s'`.  Everything proved
about whole runs in this development is an instance of one of three rules:

* `Reachable.invariant` — a property that holds initially and that every step keeps holds in
  every reachable state;
* `Steps.invariant` — the same from an arbitrary starting state, for statements of the form
  "from then on";
* `run_steps` — a system realises every action list that a partial step function of its steps
  executes, which is how a concrete run is exhibited (`runFrom_steps`, `guarded_steps`).

`System.restrict` keeps the steps that meet a condition on the state before the step and the
action taken: "in every run whose steps all meet the condition" is reachability in the
restricted system.
-/

namespace Transition

/-- A labelled transition system. -/
structure System (σ α : Type*) where
  init : σ → Prop
  step : σ → α → σ → Prop

variable {σ α : Type*}

namespace System

/-- The states that some run from an initial state passes through. -/
inductive Reachable (S : System σ α) : σ → Prop
  | init {s : σ} : S.init s → Reachable S s
  | step {s s' : σ} {a : α} : Reachable S s → S.step s a s' → Reachable S s'

/-- Some sequence of steps leads from the first state to the second. -/
inductive Steps (S : System σ α) (s : σ) : σ → Prop
  | refl : Steps S s s
  | tail {t u : σ} {a : α} : Steps S s t → S.step t a u → Steps S s u

/-- The steps of `S` that meet `C`, a condition on the state before the step and the action. -/
def restrict (S : System σ α) (C : σ → α → Prop) : System σ α where
  init := S.init
  step s a s' := C s a ∧ S.step s a s'

/-- The system of a partial step function: `none` is a disabled action. -/
def ofStep (init : σ → Prop) (next : σ → α → Option σ) : System σ α where
  init := init
  step s a s' := next s a = some s'

variable {S : System σ α}

/-! ## The invariant rules -/

variable {s t : σ}

variable {I : σ → Prop} {C : σ → α → Prop}

/-- The invariant rule.  What holds initially and is kept by every step holds in every
reachable state. -/
theorem Reachable.invariant (hinit : ∀ s, S.init s → I s)
    (hstep : ∀ s a s', I s → S.step s a s' → I s') (h : S.Reachable s) : I s := by
  induction h with
  | init hi => exact hinit _ hi
  | step _ hs ih => exact hstep _ _ _ ih hs

/-- The invariant rule from an arbitrary state. -/
theorem Steps.invariant (hstep : ∀ s a s', I s → S.step s a s' → I s')
    (h : S.Steps s t) (hs : I s) : I t := by
  induction h with
  | refl => exact hs
  | tail _ hstep' ih => exact hstep _ _ _ ih hstep'

/-- What a run from a reachable state reaches is reachable. -/
theorem Reachable.steps (hs : S.Reachable s) (h : S.Steps s t) : S.Reachable t :=
  Steps.invariant (fun _ _ _ hu hstep => .step hu hstep) h hs

/-- A run of the restricted system is a run of the system. -/
theorem Steps.of_restrict (h : (S.restrict C).Steps s t) : S.Steps s t := by
  induction h with
  | refl => exact .refl
  | tail _ hstep ih => exact .tail ih hstep.2

/-- A state reachable in the restricted system is reachable. -/
theorem Reachable.of_restrict (h : (S.restrict C).Reachable s) : S.Reachable s := by
  induction h with
  | init hi => exact .init hi
  | step _ hstep ih => exact .step ih hstep.2

end System

/-! ## Concrete runs of a step function -/

/-- Execute a list of actions; `none` as soon as one of them is disabled. -/
def run (next : σ → α → Option σ) : σ → List α → Option σ
  | s, [] => some s
  | s, a :: as => (next s a).bind fun s' => run next s' as

variable {next : σ → α → Option σ} {init : σ → Prop}

/-- Every executed action list is a run of a system that has the steps it is executed by. -/
theorem run_steps {S : System σ α} :
    ∀ (as : List α) {s t u : σ}, (∀ a ∈ as, ∀ v w, next v a = some w → S.step v a w) →
      S.Steps s t → run next t as = some u → S.Steps s u
  | [], s, t, u, _, hst, h => by
    simp only [run, Option.some.injEq] at h
    exact h ▸ hst
  | a :: as, s, t, u, hstep, hst, h => by
    simp only [run, Option.bind_eq_some_iff] at h
    obtain ⟨t', ht', hrest⟩ := h
    exact run_steps as (fun b hb => hstep b (by simp [hb])) (.tail hst (hstep a (by simp) t t' ht'))
      hrest

/-- The end of an action list executed from an initial state is reachable. -/
theorem run_reachable {s t : σ} (hs : init s)
    (as : List α) (h : run next s as = some t) : (System.ofStep init next).Reachable t :=
  System.Reachable.steps (.init hs) (run_steps as (fun _ _ _ _ hstep => hstep) .refl h)

/-- Where a list of actions leads, if all of them are enabled. -/
def runFrom (next : σ → α → Option σ) (s : σ) (as : List α) : σ := (run next s as).getD s

variable {C : σ → α → Prop}

/-- A condition on the actions alone restricts a run that takes only such actions to itself. -/
theorem runFrom_steps (s : σ)
    (as : List α) (hC : ∀ a ∈ as, ∀ u, C u a) (h : (run next s as).isSome = true) :
    ((System.ofStep init next).restrict C).Steps s (runFrom next s as) := by
  obtain ⟨t, ht⟩ := Option.isSome_iff_exists.mp h
  rw [runFrom, ht]
  exact run_steps as (fun a ha v _ hstep => ⟨hC a ha v, hstep⟩) .refl ht

/-- The step function where a condition on the state holds too. -/
def guarded (C : σ → α → Prop) [∀ s a, Decidable (C s a)] (next : σ → α → Option σ) (s : σ)
    (a : α) : Option σ :=
  if C s a then next s a else none

theorem guarded_steps [∀ s a, Decidable (C s a)] (s : σ) (as : List α)
    (h : (run (guarded C next) s as).isSome = true) :
    ((System.ofStep init next).restrict C).Steps s (runFrom (guarded C next) s as) := by
  obtain ⟨t, ht⟩ := Option.isSome_iff_exists.mp h
  rw [runFrom, ht]
  refine run_steps as (fun a _ v w hstep => ?_) .refl ht
  simpa [guarded, System.restrict, System.ofStep] using hstep

end Transition
