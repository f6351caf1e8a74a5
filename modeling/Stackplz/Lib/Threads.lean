import Mathlib.Data.List.Basic

/-!
# Pools of threads

Any number of threads that run the same code are a list of the places where they stand.  A step of
one thread replaces its place (`List.set`), and what a shared counter should show is how many
threads stand at places of a kind (`List.countP`).

The rules say how a step changes such a count (`countP_set_add`), that a thread is counted
(`countP_pos`), that a count of one belongs to one thread (`eq_of_countP_le_one`), and where the
threads stand after a step (`getElem?_set_cases`).
-/

namespace Threads

variable {α : Type*} {p : α → Bool} {threads : List α} {i j : ℕ} {a b c : α}

/-- A thread is counted. -/
theorem countP_pos (h : threads[i]? = some a) (hp : p a = true) : 0 < threads.countP p :=
  List.countP_pos_iff.mpr ⟨a, List.mem_of_getElem? h, hp⟩

/-- A step of one thread: the count loses its old place and gains the new one. -/
theorem countP_set_add (p : α → Bool) (h : threads[i]? = some a) (b : α) :
    (threads.set i b).countP p + (p a).toNat = threads.countP p + (p b).toNat := by
  obtain ⟨hi, ha⟩ := List.getElem?_eq_some_iff.mp h
  rw [List.countP_set hi, ha]
  cases hp : p a with
  | false => cases p b <;> simp
  | true =>
    have := countP_pos h hp
    cases p b <;> simp <;> omega

/-- A step between places of the same kind does not change the count. -/
theorem countP_set_same (h : threads[i]? = some a) (hp : p b = p a) :
    (threads.set i b).countP p = threads.countP p := by
  have := countP_set_add p h b
  rw [hp] at this
  omega

/-- Where nobody is counted a thread stands elsewhere. -/
theorem eq_false_of_countP_eq_zero (h : threads[i]? = some a) (hzero : threads.countP p = 0) :
    p a = false := by
  cases hp : p a with
  | false => rfl
  | true =>
    have := countP_pos h hp
    omega

/-- A count of one belongs to one thread. -/
theorem eq_of_countP_le_one (hone : threads.countP p ≤ 1) (hi : threads[i]? = some a)
    (hj : threads[j]? = some b) (ha : p a = true) (hb : p b = true) : i = j := by
  induction threads generalizing i j with
  | nil => simp at hi
  | cons x threads ih =>
    rw [List.countP_cons] at hone
    cases i with
    | zero =>
      obtain rfl : x = a := by simpa using hi
      cases j with
      | zero => rfl
      | succ j =>
        have := countP_pos (p := p) (i := j) (a := b) (by simpa using hj) hb
        simp only [ha, if_true] at hone
        omega
    | succ i =>
      have hi' : threads[i]? = some a := by simpa using hi
      cases j with
      | zero =>
        obtain rfl : x = b := by simpa using hj
        have := countP_pos hi' ha
        simp only [hb, if_true] at hone
        omega
      | succ j =>
        have hle : threads.countP p ≤ 1 := by omega
        exact congrArg _ (ih hle hi' (by simpa using hj))

/-- Where the threads stand after a step. -/
theorem getElem?_set_cases (h : (threads.set i b)[j]? = some c) :
    j = i ∧ c = b ∨ j ≠ i ∧ threads[j]? = some c := by
  by_cases hij : i = j
  · subst hij
    refine .inl ⟨rfl, ?_⟩
    rw [List.getElem?_set_self'] at h
    obtain ⟨-, -, rfl⟩ := Option.map_eq_some_iff.mp h
    rfl
  · rw [List.getElem?_set_ne hij] at h
    exact .inr ⟨Ne.symm hij, h⟩

/-- The thread that made the step stands at its new place. -/
theorem getElem?_set_self (h : threads[i]? = some a) (b : α) : (threads.set i b)[i]? = some b := by
  rw [List.getElem?_set_self']
  simp [h]

end Threads
