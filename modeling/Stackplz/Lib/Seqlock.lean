import Mathlib.Algebra.Group.Nat.Defs
import Mathlib.Tactic.Common

/-!
# Sequence locks

Memory cells that are written under a sequence number and read without a lock.  A writer makes the
number odd by a compare-and-swap, runs a *section*, a program of loads and stores of single cells,
and makes the number even again.  A reader loads the number, copies the cells one after another,
loads the number again, and takes the copy if both loads showed the same even number.

Cells have names `ι` and values `V i`; the number has `w` bits.  Threads are numbered by `ℕ` and
run calls one after another, as readers or writers.  `Coherent.step` is the invariant's step;
`inside_unique` and `copied` are what it is for: one writer at a time, and a copy that is taken is
what the cells hold at that moment, with no section open.  Both are short of the wrap-around of
the number.
-/

namespace Seqlock

open Function

variable {ι : Type*} {V : ι → Type*} {R : Type*} {w : ℕ}

/-! ## Sections -/

/-- What a writer does inside: single loads and stores, and a result. -/
inductive Section (ι : Type*) (V : ι → Type*) (R : Type*)
  | load (i : ι) (next : V i → Section ι V R)
  | store (i : ι) (value : V i) (next : Section ι V R)
  | done (result : R)

namespace Section

/-- Store some cells, then go on. -/
def stores : List (Σ i, V i) → Section ι V R → Section ι V R
  | [], next => next
  | ⟨i, value⟩ :: cells, next => .store i value (stores cells next)

variable [DecidableEq ι]

/-- The section when nobody interferes. -/
def run : Section ι V R → (∀ i, V i) → R × (∀ i, V i)
  | .load i next, cells => (next (cells i)).run cells
  | .store i value next, cells => next.run (update cells i value)
  | .done result, cells => (result, cells)

/-- The cells after some stores. -/
def written (cells : ∀ i, V i) (values : List (Σ i, V i)) : ∀ i, V i :=
  values.foldl (fun cells p => update cells p.1 p.2) cells

lemma written_of_notMem {values : List (Σ i, V i)} {i : ι} (h : i ∉ values.map Sigma.fst)
    (cells : ∀ i, V i) : written cells values i = cells i := by
  induction values generalizing cells with
  | nil => rfl
  | cons p values ih =>
    rw [List.map_cons, List.mem_cons, not_or] at h
    exact (ih h.2 _).trans (update_of_ne h.1 _ _)

lemma written_of_mem {values : List (Σ i, V i)} {i : ι} {value : V i}
    (hnodup : (values.map Sigma.fst).Nodup) (h : ⟨i, value⟩ ∈ values) (cells : ∀ i, V i) :
    written cells values i = value := by
  induction values generalizing cells with
  | nil => cases h
  | cons p values ih =>
    rw [List.map_cons, List.nodup_cons] at hnodup
    rcases List.mem_cons.mp h with heq | hmem
    · subst heq
      exact (written_of_notMem hnodup.1 _).trans (update_self _ _ _)
    · exact ih hnodup.2 hmem _

lemma run_stores (values : List (Σ i, V i)) (next : Section ι V R) (cells : ∀ i, V i) :
    (stores values next).run cells = next.run (written cells values) := by
  induction values generalizing cells with
  | nil => rfl
  | cons p values ih => exact ih _

end Section

/-! ## The steps -/

/-- Where a thread stands; the name says what it does next. -/
inductive Pc (ι : Type*) (V : ι → Type*) (R : Type*) (w : ℕ)
  /-- Between two calls. -/
  | idle
  /-- The writer's load of the number. -/
  | attempt (n : ℕ) (body : Section ι V R)
  /-- The writer's compare-and-swap. -/
  | swap (n : ℕ) (expected : BitVec w) (body : Section ι V R)
  /-- The rest of the section, with the odd number. -/
  | inside (odd : BitVec w) (body : Section ι V R)
  /-- The writer has returned: what its section gave, or nothing if it never began. -/
  | wrote (result : Option R)
  /-- The reader's first load of the number. -/
  | look (n : ℕ)
  /-- The loads of the cells that are still to be copied, and the copy so far; without any left,
  the second load of the number. -/
  | copy (n : ℕ) (before : BitVec w) (rest : List ι) (copied : ∀ i, V i)
  /-- The reader has returned: the copy, or nothing after its last attempt. -/
  | read (result : Option (∀ i, V i))

/-- How a lock is used: how often writers and readers try, the order in which the cells are copied,
and what the copy holds before. -/
structure Config (ι : Type*) (V : ι → Type*) where
  writeAttempts : ℕ
  readAttempts : ℕ
  order : List ι
  blank : ∀ i, V i

/-- The number, the cells and the threads. -/
structure State (ι : Type*) (V : ι → Type*) (R : Type*) (w : ℕ) where
  sequence : BitVec w
  cells : ∀ i, V i
  threads : ℕ → Pc ι V R w

inductive Act (ι : Type*) (V : ι → Type*) (R : Type*)
  | write (t : ℕ) (body : Section ι V R)
  | read (t : ℕ)
  | step (t : ℕ)

namespace Config

variable (cfg : Config ι V)

/-- The next attempt of a writer, if it has one left. -/
def retryWrite (n : ℕ) (body : Section ι V R) : Pc ι V R w :=
  if n + 1 < cfg.writeAttempts then .attempt (n + 1) body else .wrote none

/-- The next attempt of a reader, if it has one left. -/
def retryRead (n : ℕ) : Pc ι V R w :=
  if n + 1 < cfg.readAttempts then .look (n + 1) else .read none

variable [DecidableEq ι]

/-- One step of one thread. -/
def stepOf (sequence : BitVec w) (cells : ∀ i, V i) :
    Pc ι V R w → BitVec w × (∀ i, V i) × Pc ι V R w
  | .attempt n body =>
    (sequence, cells,
      if sequence &&& 1 ≠ 0 then cfg.retryWrite n body else .swap n sequence body)
  | .swap n expected body =>
    if sequence = expected then (expected + 1, cells, .inside (expected + 1) body)
    else (sequence, cells, cfg.retryWrite n body)
  | .inside odd (.load i next) => (sequence, cells, .inside odd (next (cells i)))
  | .inside odd (.store i value next) => (sequence, update cells i value, .inside odd next)
  | .inside odd (.done result) => (odd + 1, cells, .wrote (some result))
  | .look n =>
    (sequence, cells,
      if sequence &&& 1 ≠ 0 then cfg.retryRead n else .copy n sequence cfg.order cfg.blank)
  | .copy n before (i :: rest) copied =>
    (sequence, cells, .copy n before rest (update copied i (cells i)))
  | .copy n before [] copied =>
    (sequence, cells,
      if before = sequence ∧ sequence &&& 1 = 0 then .read (some copied) else cfg.retryRead n)
  | .idle => (sequence, cells, .idle)
  | .wrote result => (sequence, cells, .wrote result)
  | .read result => (sequence, cells, .read result)

end Config

namespace Pc

/-- Between two calls. -/
def resting : Pc ι V R w → Bool
  | .idle | .wrote _ | .read _ => true
  | .attempt _ _ | .swap _ _ _ | .inside _ _ | .look _ | .copy _ _ _ _ => false

/-- What a read has returned. -/
def copy? : Pc ι V R w → Option (∀ i, V i)
  | .read result => result
  | _ => none

lemma eq_read_of_copy? {pc : Pc ι V R w} {c : ∀ i, V i} (h : pc.copy? = some c) :
    pc = .read (some c) := by
  cases pc with
  | read result => exact congrArg _ h
  | _ => cases h

/-- The thread has a section open. -/
def IsInside : Pc ι V R w → Prop
  | .inside _ _ => True
  | .idle | .wrote _ | .read _ | .attempt _ _ | .swap _ _ _ | .look _ | .copy _ _ _ _ => False

end Pc

section

variable [DecidableEq ι] (cfg : Config ι V)

def State.setThread (s : State ι V R w) (t : ℕ) (pc : Pc ι V R w) : State ι V R w :=
  { s with threads := update s.threads t pc }

def next (s : State ι V R w) : Act ι V R → Option (State ι V R w)
  | .write t body =>
    if (s.threads t).resting then
      some (s.setThread t (if 0 < cfg.writeAttempts then .attempt 0 body else .wrote none))
    else none
  | .read t =>
    if (s.threads t).resting then
      some (s.setThread t (if 0 < cfg.readAttempts then .look 0 else .read none))
    else none
  | .step t =>
    let (sequence, cells, pc) := cfg.stepOf s.sequence s.cells (s.threads t)
    some { sequence := sequence, cells := cells, threads := update s.threads t pc }

end

/-- The number is not about to wrap around. -/
def ShortOfWrap (s : State ι V R w) (_ : Act ι V R) : Prop := s.sequence.toNat + 2 < 2 ^ w

/-! ## The invariant -/

def IsEven (word : BitVec w) : Prop := word.toNat % 2 = 0

lemma one_toNat (hw : 1 < 2 ^ w) : (1 : BitVec w).toNat = 1 := by
  rw [BitVec.ofNat_eq_ofNat, BitVec.toNat_ofNat]
  exact Nat.mod_eq_of_lt hw

variable {word : BitVec w}

lemma and_one_eq_zero (hw : 0 < w) : word &&& 1 = 0 ↔ IsEven word := by
  rw [IsEven, ← BitVec.toNat_inj, BitVec.toNat_and, one_toNat (Nat.one_lt_two_pow (by omega)),
    Nat.and_one_is_mod]
  rfl

lemma toNat_add_one (word : BitVec w) (hlt : word.toNat + 1 < 2 ^ w) :
    (word + 1).toNat = word.toNat + 1 := by
  rw [BitVec.toNat_add, one_toNat (by omega), Nat.mod_eq_of_lt hlt]

lemma not_isEven_add_one (hlt : word.toNat + 1 < 2 ^ w) (h : IsEven word) :
    ¬ IsEven (word + 1) := by
  unfold IsEven at h ⊢
  rw [toNat_add_one word hlt]
  omega

/-- What a place means for the number and the cells.  A copy that was begun under the present
number shows the present cells as far as it goes. -/
def Sound (sequence : BitVec w) (cells : ∀ i, V i) : Pc ι V R w → Prop
  | .swap _ expected _ => IsEven expected
  | .inside odd _ => odd = sequence ∧ ¬ IsEven sequence
  | .copy _ before rest copied => IsEven before ∧ before.toNat ≤ sequence.toNat ∧
      (before = sequence → ∀ i, i ∉ rest → copied i = cells i)
  | .idle | .attempt _ _ | .wrote _ | .look _ | .read _ => True

/-- Another thread changes the number or a cell: it makes the number larger, and changes no cell
under an even number. -/
lemma Sound.mono {sequence sequence' : BitVec w} {cells cells' : ∀ i, V i} {pc : Pc ι V R w}
    (h : Sound sequence cells pc) (hpc : ¬ pc.IsInside) (hle : sequence.toNat ≤ sequence'.toNat)
    (hsame : IsEven sequence' → sequence = sequence' → cells' = cells) :
    Sound sequence' cells' pc := by
  cases pc with
  | inside odd body => exact absurd trivial hpc
  | copy n before rest copied =>
    obtain ⟨heven, hbefore, hcopied⟩ := h
    refine ⟨heven, Nat.le_trans hbefore hle, fun heq i hi => ?_⟩
    have hnow : sequence = sequence' := by
      apply BitVec.eq_of_toNat_eq
      rw [heq] at hbefore
      omega
    rw [hsame (heq ▸ heven) hnow]
    exact hcopied (heq.trans hnow.symm) i hi
  | swap n expected body => exact h
  | _ => trivial

/-- The invariant: every place means what it should, and one thread at most is inside. -/
structure Coherent (s : State ι V R w) : Prop where
  threads : ∀ t, Sound s.sequence s.cells (s.threads t)
  unique : ∀ t u, (s.threads t).IsInside → (s.threads u).IsInside → t = u

namespace Coherent

variable {s s' : State ι V R w}

lemma init (h : ∀ t, s.threads t = .idle) : Coherent s where
  threads t := by
    rw [h t]
    trivial
  unique t u ht := by
    rw [h t] at ht
    exact ht.elim

lemma not_inside (h : Coherent s) (heven : IsEven s.sequence) (t : ℕ) :
    ¬ (s.threads t).IsInside := by
  intro hinside
  have hsound := h.threads t
  cases hpc : s.threads t with
  | inside odd body =>
    rw [hpc] at hsound
    exact hsound.2 heven
  | _ => rw [hpc] at hinside; exact hinside

variable {pc : Pc ι V R w}

/-- A thread moves, and the number and the cells with it. -/
lemma move (h : Coherent s) (t : ℕ) {sequence : BitVec w} {cells : ∀ i, V i}
    (hpc : Sound sequence cells pc) (hothers : ∀ u, u ≠ t → Sound sequence cells (s.threads u))
    (halone : pc.IsInside → ∀ u, u ≠ t → ¬ (s.threads u).IsInside) :
    Coherent { sequence := sequence, cells := cells, threads := update s.threads t pc } := by
  refine ⟨fun u => ?_, fun u v hu hv => ?_⟩
  · by_cases hut : u = t
    · subst hut
      dsimp only
      rw [update_self]
      exact hpc
    · dsimp only
      rw [update_of_ne hut]
      exact hothers u hut
  · dsimp only at hu hv
    by_cases hut : u = t
    · by_cases hvt : v = t
      · exact hut.trans hvt.symm
      · rw [hut, update_self] at hu
        rw [update_of_ne hvt] at hv
        exact absurd hv (halone hu v hvt)
    · by_cases hvt : v = t
      · rw [hvt, update_self] at hv
        rw [update_of_ne hut] at hu
        exact absurd hu (halone hv u hut)
      · rw [update_of_ne hut] at hu
        rw [update_of_ne hvt] at hv
        exact h.unique u v hu hv

lemma move_quiet (h : Coherent s) (t : ℕ) (hpc : Sound s.sequence s.cells pc)
    (hinside : pc.IsInside → (s.threads t).IsInside) : Coherent (s.setThread t pc) :=
  h.move t hpc (fun u _ => h.threads u) fun hnew u hut hu => hut (h.unique u t hu (hinside hnew))

variable {cfg : Config ι V}

lemma retryWrite (h : Coherent s) (t n : ℕ) (body : Section ι V R) :
    Coherent (s.setThread t (cfg.retryWrite n body)) := by
  unfold Config.retryWrite
  split_ifs
  all_goals exact h.move_quiet t trivial False.elim

lemma retryRead (h : Coherent s) (t n : ℕ) : Coherent (s.setThread t (cfg.retryRead n)) := by
  unfold Config.retryRead
  split_ifs
  all_goals exact h.move_quiet t trivial False.elim

variable [DecidableEq ι]

/-- One step of one thread. -/
lemma step (h : Coherent s) (hw : 0 < w) (hcover : ∀ i, i ∈ cfg.order) (t : ℕ)
    (hshort : s.sequence.toNat + 2 < 2 ^ w) (hstep : next cfg s (.step t) = some s') :
    Coherent s' := by
  simp only [next, Option.some.injEq] at hstep
  subst hstep
  have hthread := h.threads t
  cases hpc : s.threads t with
  | attempt n body =>
    simp only [Config.stepOf]
    split_ifs with hodd
    · exact h.retryWrite t n body
    · exact h.move_quiet t ((and_one_eq_zero hw).mp (not_not.mp hodd)) False.elim
  | swap n expected body =>
    rw [hpc] at hthread
    simp only [Config.stepOf]
    split_ifs with heq
    · -- the section opens: the number becomes odd, and nobody was inside
      subst heq
      have hnot := h.not_inside hthread
      have hnum := toNat_add_one s.sequence (by omega)
      refine h.move t ⟨rfl, not_isEven_add_one (by omega) hthread⟩ (fun u _ => ?_)
        fun _ u _ => hnot u
      refine (h.threads u).mono (hnot u) (by dsimp only; omega) fun _ hsame => ?_
      have := congrArg BitVec.toNat hsame
      dsimp only at this
      omega
    · exact h.retryWrite t n body
  | inside odd body =>
    rw [hpc] at hthread
    obtain ⟨rfl, hodd⟩ := hthread
    have hinside : (s.threads t).IsInside := by
      rw [hpc]
      trivial
    have hothers : ∀ u, u ≠ t → ¬ (s.threads u).IsInside := fun u hut hu =>
      hut (h.unique u t hu hinside)
    cases body with
    | load i body => exact h.move_quiet t ⟨rfl, hodd⟩ fun _ => hinside
    | store i value body =>
      refine h.move t ⟨rfl, hodd⟩ (fun u hut => ?_) fun _ => hothers
      exact (h.threads u).mono (hothers u hut) (Nat.le_refl _) fun heven => absurd heven hodd
    | done result =>
      have hnum := toNat_add_one s.sequence (by omega)
      refine h.move t trivial (fun u hut => ?_) fun _ => hothers
      refine (h.threads u).mono (hothers u hut) (by dsimp only [Config.stepOf]; omega)
        fun _ hsame => ?_
      have := congrArg BitVec.toNat hsame
      dsimp only [Config.stepOf] at this
      omega
  | look n =>
    simp only [Config.stepOf]
    split_ifs with hodd
    · exact h.retryRead t n
    · refine h.move_quiet t ⟨(and_one_eq_zero hw).mp (not_not.mp hodd), Nat.le_refl _, ?_⟩
        False.elim
      exact fun _ i hi => absurd (hcover i) hi
  | copy n before rest copied =>
    rw [hpc] at hthread
    obtain ⟨heven, hle, hcopied⟩ := hthread
    cases rest with
    | cons i rest =>
      refine h.move_quiet t ⟨heven, hle, fun heq j hj => ?_⟩ False.elim
      by_cases hji : j = i
      · subst hji
        rw [update_self]
      · rw [update_of_ne hji]
        exact hcopied heq j (by simp [hji, hj])
    | nil =>
      simp only [Config.stepOf]
      split_ifs
      · exact h.move_quiet t trivial False.elim
      · exact h.retryRead t n
  | _ => exact h.move_quiet t trivial False.elim

/-- Every action keeps the invariant. -/
lemma act (h : Coherent s) (hw : 0 < w) (hcover : ∀ i, i ∈ cfg.order) {a : Act ι V R}
    (hshort : ShortOfWrap s a) (hstep : next cfg s a = some s') : Coherent s' := by
  cases a with
  | write t body | read t =>
    simp only [next] at hstep
    split_ifs at hstep
    all_goals
      cases hstep
      exact h.move_quiet t trivial False.elim
  | step t => exact h.step hw hcover t hshort hstep

end Coherent

/-! ## The results -/

variable [DecidableEq ι] {cfg : Config ι V} {s s' : State ι V R w}

/-- Only the second load of the number ends a read with a copy. -/
lemma stepOf_read {sequence : BitVec w} {cells copy : ∀ i, V i} {pc : Pc ι V R w}
    (hbusy : pc.resting = false) (h : (cfg.stepOf sequence cells pc).2.2 = .read (some copy)) :
    ∃ n before copied, pc = .copy n before [] copied ∧
      (before = sequence ∧ sequence &&& 1 = 0) ∧ copy = copied := by
  cases pc with
  | idle | wrote result | read result => cases hbusy
  | inside odd body =>
    cases body with
    | load i body => cases h
    | store i value body => cases h
    | done result => cases h
  | look n =>
    simp only [Config.stepOf, Config.retryRead] at h
    split_ifs at h
    cases h
  | copy n before rest copied =>
    cases rest with
    | cons i rest => cases h
    | nil =>
      simp only [Config.stepOf, Config.retryRead] at h
      split_ifs at h with htake
      · cases h
        exact ⟨n, before, copy, rfl, htake, rfl⟩
      · cases h
  | _ =>
    simp only [Config.stepOf, Config.retryWrite] at h
    split_ifs at h

/-- A copy that is taken is what the cells hold, at a moment at which nobody is inside. -/
theorem Coherent.copied (h : Coherent s) (hw : 0 < w) {t : ℕ} {copy : ∀ i, V i}
    (hbusy : (s.threads t).resting = false) (hstep : next cfg s (.step t) = some s')
    (hread : s'.threads t = .read (some copy)) :
    copy = s.cells ∧ ∀ u, ¬ (s.threads u).IsInside := by
  have hsound := h.threads t
  simp only [next, Option.some.injEq] at hstep
  subst hstep
  simp only [update_self] at hread
  obtain ⟨n, before, copied, hpc, htake, rfl⟩ := stepOf_read hbusy hread
  rw [hpc] at hsound
  refine ⟨funext fun i => hsound.2.2 htake.1 i (by simp), ?_⟩
  exact h.not_inside ((and_one_eq_zero hw).mp htake.2)

end Seqlock
