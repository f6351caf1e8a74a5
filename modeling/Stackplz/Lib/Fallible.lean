import Mathlib.Tactic.Common
import Mathlib.Data.Set.Insert

/-!
# Programs whose operations may fail

A `Fallible σ ε α` program reads and changes a state `σ`, and asks an oracle before each
operation whether it succeeds.  State changes made before a failure persist, which is what
distinguishes these programs from transactions: after an error the state has to be reasoned
about, not discarded.

* `Oracle ε` — the answers, in the order the operations are made; `none` is success.
* `op` — one operation: `issue` is what happens in any case (an attempt being recorded), `act`
  what happens on success.
* `wp F` — every oracle of `F` at once: the program establishes `Q` when it returns and `E`
  when it fails, whatever fails along the way.  With `F` all oracles this is the behaviour under
  arbitrary faults; with `F` the one oracle that never fails it is the faultless behaviour.

A program is specified once, for a variable `F`.  Its operations then have two obligations each
(`wp_op`), and the one for failure comes with the hypothesis `Faulty F` that some oracle of `F`
makes something fail.  A specification that keeps this hypothesis in its error cases serves both
readings: `not_faulty_faultless` removes those cases for the faultless one.
-/

namespace Fallible

/-- The answers an execution gets from its operations: `none` is success. -/
abbrev Oracle (ε : Type) := ℕ → Option ε

def Oracle.succeed {ε : Type} : Oracle ε := fun _ => none

end Fallible

/-- A program over a state `σ` that consults an oracle before each operation.  The number threaded
through is the index of the next operation. -/
def Fallible (σ ε α : Type) := Fallible.Oracle ε → ℕ → σ → Except ε α × ℕ × σ

namespace Fallible

variable {σ ε α β : Type}

/-! ## The program constructs -/

/-- Return a value. -/
protected def pure (a : α) : Fallible σ ε α := fun _ n s => (.ok a, n, s)

/-- Run the second program on the first one's value; a failure ends the program. -/
protected def bind (m : Fallible σ ε α) (f : α → Fallible σ ε β) : Fallible σ ε β := fun φ n s =>
  match m φ n s with
  | (.ok a, n', s') => f a φ n' s'
  | (.error e, n', s') => (.error e, n', s')

instance : Monad (Fallible σ ε) where
  pure := Fallible.pure
  bind := Fallible.bind

/-- End the program with an error. -/
def fail (e : ε) : Fallible σ ε α := fun _ n s => (.error e, n, s)

def get : Fallible σ ε σ := fun _ n s => (.ok s, n, s)

def modify (f : σ → σ) : Fallible σ ε Unit := fun _ n s => (.ok (), n, f s)

/-- Run a program and hand its outcome, failure included, to the caller. -/
def attempt (m : Fallible σ ε α) : Fallible σ ε (Except ε α) := fun φ n s =>
  match m φ n s with
  | (r, n', s') => (.ok r, n', s')

/-- Run a program; if it fails, run `cleanup`, ignore how that ends, and fail with `report` of the
error. -/
def onFail (m : Fallible σ ε α) (cleanup : Fallible σ ε Unit) (report : ε → ε) :
    Fallible σ ε α := fun φ n s =>
  match m φ n s with
  | (.ok a, n', s') => (.ok a, n', s')
  | (.error e, n', s') =>
    match cleanup φ n' s' with
    | (_, n'', s'') => (.error (report e), n'', s'')

/-- One operation: `issue` happens in any case, `act` only on success. -/
def op (issue : σ → σ) (act : σ → α × σ) : Fallible σ ε α := fun φ n s =>
  match φ n with
  | some e => (.error e, n + 1, issue s)
  | none => (.ok (act (issue s)).1, n + 1, (act (issue s)).2)

/-- Run a program if a condition holds, and do nothing otherwise. -/
def onlyIf (c : Prop) [Decidable c] (m : Fallible σ ε Unit) : Fallible σ ε Unit :=
  if c then m else pure ()

/-- The outcome and the final state under an oracle. -/
def exec (m : Fallible σ ε α) (φ : Oracle ε) (s : σ) : Except ε α × σ :=
  ((m φ 0 s).1, (m φ 0 s).2.2)

variable {m : Fallible σ ε α} {f : α → Fallible σ ε β} {φ : Oracle ε} {e : ε} {a : α}

variable {n n' : ℕ} {c : Prop}

lemma bind_apply_error {s s' : σ} (h : m φ n s = (.error e, n', s')) :
    (m >>= f) φ n s = (.error e, n', s') := by
  show Fallible.bind m f φ n s = _
  rw [Fallible.bind, h]

lemma bind_apply_ok {s s' : σ} (h : m φ n s = (.ok a, n', s')) : (m >>= f) φ n s = f a φ n' s' := by
  show Fallible.bind m f φ n s = _
  rw [Fallible.bind, h]

lemma op_apply_error {issue : σ → σ} {act : σ → α × σ} {s : σ} (h : φ n = some e) :
    op issue act φ n s = (.error e, n + 1, issue s) := by
  rw [op, h]

lemma op_apply_ok {issue : σ → σ} {act : σ → α × σ} {s : σ} (h : φ n = none) :
    op issue act φ n s = (.ok (act (issue s)).1, n + 1, (act (issue s)).2) := by
  rw [op, h]

lemma attempt_apply {s s' : σ} {r : Except ε α} (h : m φ n s = (r, n', s')) :
    attempt m φ n s = (.ok r, n', s') := by
  rw [attempt, h]

lemma exec_bind_pure (m : Fallible σ ε α) (f : α → β) (φ : Oracle ε) (s : σ) :
    (m >>= fun a => pure (f a)).exec φ s = ((m.exec φ s).1.map f, (m.exec φ s).2) := by
  unfold exec
  cases hr : m φ 0 s with
  | mk r rest =>
    obtain ⟨n', s'⟩ := rest
    cases r with
    | ok a =>
      rw [bind_apply_ok hr]
      rfl
    | error e =>
      rw [bind_apply_error hr]
      rfl

/-! ## Every oracle at once -/

def faultless : Set (Oracle ε) := {Oracle.succeed}

lemma succeed_mem_faultless : (Oracle.succeed : Oracle ε) ∈ faultless := rfl

/-- Some oracle of `F` makes some operation fail. -/
def Faulty (F : Set (Oracle ε)) : Prop := ∃ φ ∈ F, ∃ n, φ n ≠ none

lemma not_faulty_faultless : ¬ Faulty (faultless : Set (Oracle ε)) := by
  rintro ⟨φ, hφ, n, hn⟩
  rw [faultless, Set.mem_singleton_iff] at hφ
  exact hn (by rw [hφ]; rfl)

/-- From `s`, whatever the oracle of `F` answers: `Q` holds if the program returns, `E` if it
fails. -/
def wp (F : Set (Oracle ε)) (m : Fallible σ ε α) (Q : α → σ → Prop) (E : ε → σ → Prop) (s : σ) :
    Prop :=
  ∀ φ ∈ F, ∀ n, match m φ n s with
    | (.ok a, _, s') => Q a s'
    | (.error e, _, s') => E e s'

variable {F : Set (Oracle ε)} {Q Q' : α → σ → Prop} {E E' : ε → σ → Prop} {s : σ}

lemma wp_pure (h : Q a s) : wp F (pure a) Q E s := fun _ _ _ => h

lemma wp_fail (h : E e s) : wp F (fail e : Fallible σ ε α) Q E s := fun _ _ _ => h

lemma wp_get {Q : σ → σ → Prop} (h : Q s s) : wp F (get : Fallible σ ε σ) Q E s :=
  fun _ _ _ => h

lemma wp_modify {f : σ → σ} {Q : Unit → σ → Prop} (h : Q () (f s)) :
    wp F (modify f : Fallible σ ε Unit) Q E s := fun _ _ _ => h

lemma wp_bind {Q : β → σ → Prop}
    (h : wp F m (fun a s' => wp F (f a) Q E s') E s) : wp F (m >>= f) Q E s := by
  intro φ hφ n
  have hm := h φ hφ n
  show match Fallible.bind m f φ n s with
    | (.ok a, _, s') => Q a s'
    | (.error e, _, s') => E e s'
  unfold Fallible.bind
  rcases hr : m φ n s with ⟨e | a, n', s'⟩
  all_goals rw [hr] at hm
  · exact hm
  · exact hm φ hφ n'

/-- An operation leaves two obligations: if something can fail at all, the state as the attempt
left it with any error, and the state after the operation. -/
lemma wp_op {issue : σ → σ} {act : σ → α × σ} (herr : Faulty F → ∀ e, E e (issue s))
    (hok : Q (act (issue s)).1 (act (issue s)).2) : wp F (op issue act) Q E s := by
  intro φ hφ n
  unfold op
  cases hn : φ n with
  | some e => exact herr ⟨φ, hφ, n, by simp [hn]⟩ e
  | none => exact hok

lemma wp_attempt {Q : Except ε α → σ → Prop}
    (h : wp F m (fun a s' => Q (.ok a) s') (fun e s' => Q (.error e) s') s) :
    wp F (attempt m) Q E s := by
  intro φ hφ n
  have hm := h φ hφ n
  unfold attempt
  rcases hr : m φ n s with ⟨e | a, n', s'⟩
  all_goals
    rw [hr] at hm
    exact hm

/-- A program with a cleanup: the cleanup starts from wherever the failure left the state, and
what it leaves has to satisfy the caller's error condition whether or not it succeeded. -/
lemma wp_onFail {cleanup : Fallible σ ε Unit} {report : ε → ε}
    (h : wp F m Q
      (fun e s' => wp F cleanup (fun _ t => E (report e) t) (fun _ t => E (report e) t) s') s) :
    wp F (onFail m cleanup report) Q E s := by
  intro φ hφ n
  have hm := h φ hφ n
  unfold onFail
  rcases hr : m φ n s with ⟨e | a, n', s'⟩
  all_goals rw [hr] at hm
  · have hc := hm φ hφ n'
    simp only
    rcases hr' : cleanup φ n' s' with ⟨_ | _, _⟩
    all_goals
      rw [hr'] at hc
      exact hc
  · exact hm

lemma wp_ite [Decidable c] {m₁ m₂ : Fallible σ ε α} (h₁ : c → wp F m₁ Q E s)
    (h₂ : ¬ c → wp F m₂ Q E s) : wp F (if c then m₁ else m₂) Q E s := by
  split
  · exact h₁ ‹_›
  · exact h₂ ‹_›

lemma wp_onlyIf [Decidable c] {m : Fallible σ ε Unit} {Q : Unit → σ → Prop}
    (h₁ : c → wp F m Q E s) (h₂ : ¬ c → Q () s) : wp F (onlyIf c m) Q E s :=
  wp_ite h₁ fun h => wp_pure (h₂ h)

lemma wp_mono (h : wp F m Q E s) (hQ : ∀ a s', Q a s' → Q' a s')
    (hE : ∀ e s', E e s' → E' e s') : wp F m Q' E' s := by
  intro φ hφ n
  have hm := h φ hφ n
  rcases hr : m φ n s with ⟨e | a, n', s'⟩
  all_goals rw [hr] at hm
  · exact hE e s' hm
  · exact hQ a s' hm

lemma wp_exec_ok (h : wp F m Q E s) (hφ : φ ∈ F)
    (hr : (m.exec φ s).1 = .ok a) : Q a (m.exec φ s).2 := by
  have hm := h φ hφ 0
  unfold exec at hr ⊢
  cases hout : m φ 0 s with
  | mk r rest =>
    rw [hout] at hm hr
    cases hr
    exact hm

lemma wp_exec_error (h : wp F m Q E s) (hφ : φ ∈ F)
    (hr : (m.exec φ s).1 = .error e) : E e (m.exec φ s).2 := by
  have hm := h φ hφ 0
  unfold exec at hr ⊢
  cases hout : m φ 0 s with
  | mk r rest =>
    rw [hout] at hm hr
    cases hr
    exact hm

lemma wp_exec_returns (h : wp F m Q E s) (hφ : φ ∈ F)
    (hno : ∀ e t, ¬ E e t) : ∃ a, (m.exec φ s).1 = .ok a ∧ Q a (m.exec φ s).2 := by
  cases hr : (m.exec φ s).1 with
  | ok a => exact ⟨a, rfl, wp_exec_ok h hφ hr⟩
  | error e => exact absurd (wp_exec_error h hφ hr) (hno e _)

end Fallible
