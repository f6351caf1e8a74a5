import Mathlib.Tactic.Common
import Mathlib.Algebra.Group.Nat.Defs

/-!
# Loops with a budget of iterations

`for (i = 0; i < n; i++)` around a body that may leave the loop.  The body is a step function: `.ok`
is the state for the next iteration, `.error` what the loop is left with.  `run step n` is `.error`
if the loop is left within `n` iterations and `.ok` if the budget is used up first.

* `run_add` — iterations compose;
* `run_eq_error_iff` — a loop that gets somewhere in `c` iterations and is left there, is left
  exactly if the budget is larger than `c`;
* `run_between` — an output that only grows is constant between two moments at which it is the same.
-/

namespace Budget

variable {σ ε : Type*} {step : σ → Except ε σ} {s t : σ} {e : ε}

/-- At most `n` iterations of the loop. -/
def run (step : σ → Except ε σ) : ℕ → σ → Except ε σ
  | 0, s => .ok s
  | n + 1, s => step s >>= run step n

@[simp] lemma run_zero : run step 0 s = .ok s := rfl

lemma run_succ (n : ℕ) : run step (n + 1) s = step s >>= run step n := rfl

lemma run_succ_ok (n : ℕ) (h : step s = .ok t) : run step (n + 1) s = run step n t := by
  rw [run_succ, h]
  rfl

lemma run_succ_error (n : ℕ) (h : step s = .error e) : run step (n + 1) s = .error e := by
  rw [run_succ, h]
  rfl

lemma run_one_eq : run step 1 s = step s := by
  rw [run_succ]
  cases step s <;> rfl

lemma run_one (h : step s = .ok t) : run step 1 s = .ok t := run_one_eq.trans h

lemma run_add (a b : ℕ) (s : σ) : run step (a + b) s = run step a s >>= run step b := by
  induction a generalizing s with
  | zero => rw [Nat.zero_add]; rfl
  | succ a ih =>
    rw [Nat.succ_add, run_succ, run_succ]
    cases step s with
    | error e => rfl
    | ok t => exact ih t

variable {a n : ℕ}

lemma run_add_of_ok (h : run step a s = .ok t) (b : ℕ) : run step (a + b) s = run step b t := by
  rw [run_add, h]
  rfl

lemma run_of_ok (h : run step a s = .ok t) (hle : a ≤ n) : run step n s = run step (n - a) t := by
  rw [← run_add_of_ok h, Nat.add_sub_cancel' hle]

lemma run_trans {b : ℕ} {u : σ} (h : run step a s = .ok t) (h' : run step b t = .ok u) :
    run step (a + b) s = .ok u := by rw [run_add_of_ok h, h']

lemma run_error_mono (h : run step a s = .error e) (hle : a ≤ n) : run step n s = .error e := by
  rw [← Nat.add_sub_cancel' hle, run_add, h]
  rfl

lemma run_error_unique {b : ℕ} {e' : ε} (h : run step a s = .error e)
    (h' : run step b s = .error e') : e = e' := by
  have hmax := run_error_mono h (Nat.le_max_left a b)
  rw [run_error_mono h' (Nat.le_max_right a b)] at hmax
  exact (Except.error.inj hmax).symm

lemma exists_run_ok (h : run step a s = .ok t) (hle : n ≤ a) : ∃ u, run step n s = .ok u := by
  cases hrun : run step n s with
  | ok u => exact ⟨u, rfl⟩
  | error e => rw [run_error_mono hrun hle] at h; exact absurd h (by simp)

/-- When a loop is left.  It gets somewhere in `c` iterations, and the next one leaves it. -/
lemma run_eq_error_iff {c : ℕ} {e' : ε} (h : run step c s = .ok t) (hstop : step t = .error e) :
    run step n s = .error e' ↔ c < n ∧ e' = e := by
  constructor
  · intro herror
    have hlt : c < n := by
      by_contra hle
      obtain ⟨u, hu⟩ := exists_run_ok h (Nat.le_of_not_lt hle)
      rw [herror] at hu
      exact absurd hu (by simp)
    obtain ⟨k, rfl⟩ := Nat.exists_eq_add_of_lt hlt
    rw [Nat.add_assoc, run_add_of_ok h, run_succ_error k hstop] at herror
    exact ⟨hlt, (Except.error.inj herror).symm⟩
  · rintro ⟨hlt, rfl⟩
    obtain ⟨k, rfl⟩ := Nat.exists_eq_add_of_lt hlt
    rw [Nat.add_assoc, run_add_of_ok h, run_succ_error k hstop]

/-! ## An output that only grows -/

section Output

variable {β : Type*} {out : σ → List β}

lemma run_grows (hstep : ∀ s t, step s = .ok t → out s <+: out t) :
    ∀ {n : ℕ} {s : σ}, run step n s = .ok t → out s <+: out t := by
  intro n
  induction n with
  | zero =>
    intro s h
    cases h
    exact List.prefix_rfl
  | succ n ih =>
    intro s h
    cases hone : step s with
    | error e => rw [run_succ_error n hone] at h; exact absurd h (by simp)
    | ok u =>
      rw [run_succ_ok n hone] at h
      exact (hstep s u hone).trans (ih h)

lemma run_between (hstep : ∀ s t, step s = .ok t → out s <+: out t) {a k c : ℕ} {u : σ}
    (h : run step a s = .ok t) (h' : run step c s = .ok u) (hout : out u = out t) (hak : a ≤ k)
    (hkc : k ≤ c) : ∃ v, run step k s = .ok v ∧ out v = out t := by
  obtain ⟨v, hv⟩ := exists_run_ok h' hkc
  have hvu : run step (c - k) v = .ok u := by rw [← run_of_ok hv hkc, h']
  refine ⟨v, hv, ?_⟩
  rw [run_of_ok h hak] at hv
  refine List.IsPrefix.eq_of_length_le ?_ (run_grows hstep hv).length_le
  rw [← hout]
  exact run_grows hstep hvu

end Output

/-! ## Two loops side by side -/

section TwoLoops

variable {σ' ε' : Type*} {step' : σ' → Except ε' σ'} {R : σ → σ' → Prop} {Q : ε → ε' → Prop}

/-- Both loops go on, in related states, or both are left, with related results. -/
def Alike (R : σ → σ' → Prop) (Q : ε → ε' → Prop) : Except ε σ → Except ε' σ' → Prop
  | .ok t, .ok t' => R t t'
  | .error e, .error e' => Q e e'
  | _, _ => False

section

variable {R' : σ → σ' → Prop} {x : Except ε σ} {y : Except ε' σ'}

lemma Alike.mono (h : Alike R Q x y) (hR : ∀ t t', x = .ok t → R t t' → R' t t') :
    Alike R' Q x y := by
  cases x with
  | error e => cases y <;> exact h
  | ok t =>
    cases y with
    | error e => exact h
    | ok t' => exact hR t t' rfl h

lemma Alike.bind {f : σ → Except ε σ} {g : σ' → Except ε' σ'} (h : Alike R Q x y)
    (hnext : ∀ t t', x = .ok t → R t t' → Alike R' Q (f t) (g t')) :
    Alike R' Q (x >>= f) (y >>= g) := by
  cases x with
  | error e =>
    cases y with
    | error e' => exact h
    | ok t' => exact h.elim
  | ok t =>
    cases y with
    | error e' => exact h.elim
    | ok t' => exact hnext t t' rfl h

end

/-- The run lemma for two loops: what single steps keep, whole runs keep.  The steps have to keep it
only where the first loop comes to. -/
lemma run_alike {start : σ} {start' : σ'} (hstart : R start start')
    (h : ∀ n s s', run step n start = .ok s → R s s' → Alike R Q (step s) (step' s')) (n : ℕ) :
    Alike R Q (run step n start) (run step' n start') := by
  induction n with
  | zero => exact hstart
  | succ n ih =>
    rw [run_add, run_add]
    refine ih.bind fun t t' ht hR => ?_
    rw [run_one_eq, run_one_eq]
    exact h n t t' ht hR

end TwoLoops

end Budget
