import Mathlib.Tactic.Common

/-!
# Checks

A check is passed or ends with an error, most often a message.  Checks are made one after the
other, for the elements of a list or with the value that an earlier one returned; what it means to
pass such a sequence is put together from what it means to pass each of them.
-/

abbrev Check := Except String

namespace Check

variable {ε α β : Type}

def require (c : Prop) [Decidable c] (e : ε) : Except ε Unit :=
  if c then pure () else throw e

@[simp] lemma require_eq_ok {c : Prop} [Decidable c] {e : ε} {u : Unit} :
    require c e = .ok u ↔ c := by
  by_cases h : c
  · exact iff_of_true (if_pos h) h
  · rw [require, if_neg h]
    exact iff_of_false (fun hok => by cases hok) h

variable {x : Except ε α} {f : α → Except ε β} {g : α → β} {b : β} {e : ε}

lemma bind_eq_ok : x >>= f = .ok b ↔ ∃ a, x = .ok a ∧ f a = .ok b := by
  cases x with
  | error e => exact iff_of_false (fun hok => by cases hok) fun ⟨_, hok, _⟩ => by cases hok
  | ok a =>
    constructor
    · exact fun hok => ⟨a, rfl, hok⟩
    · rintro ⟨a', heq, hok⟩
      cases heq
      exact hok

lemma bind_eq_error : x >>= f = .error e ↔ x = .error e ∨ ∃ a, x = .ok a ∧ f a = .error e := by
  cases x with
  | error e' => simp [bind, Except.bind]
  | ok a => simp [bind, Except.bind]

lemma error_of_bind (hf : ∀ a, f a ≠ .error e) (h : x >>= f = .error e) : x = .error e := by
  rcases bind_eq_error.mp h with h | ⟨a, -, h⟩
  · exact h
  · exact absurd h (hf a)

lemma map_eq_ok : x.map g = .ok b ↔ ∃ a, x = .ok a ∧ g a = b := by
  cases x with
  | error e => exact iff_of_false (fun hok => by cases hok) fun ⟨_, hok, _⟩ => by cases hok
  | ok a => simp [Except.map]

lemma exists_map_ok : (∃ b, x.map g = .ok b) ↔ ∃ a, x = .ok a := by
  constructor
  · rintro ⟨b, hb⟩
    obtain ⟨a, ha, -⟩ := map_eq_ok.mp hb
    exact ⟨a, ha⟩
  · rintro ⟨a, rfl⟩
    exact ⟨g a, rfl⟩

@[simp] lemma exists_unit {p : Unit → Prop} : (∃ u, p u) ↔ p () :=
  ⟨fun ⟨(), h⟩ => h, fun h => ⟨(), h⟩⟩

@[simp] lemma forM_eq_ok {f : α → Except ε Unit} {xs : List α} {u : Unit} :
    forM xs f = .ok u ↔ ∀ x ∈ xs, f x = .ok () := by
  induction xs with
  | nil => exact iff_of_true rfl (by simp)
  | cons x xs ih =>
    rw [List.forM_cons, bind_eq_ok, List.forall_mem_cons]
    constructor
    · rintro ⟨⟨⟩, hx, hxs⟩
      exact ⟨hx, ih.mp hxs⟩
    · rintro ⟨hx, hxs⟩
      exact ⟨(), hx, ih.mpr hxs⟩

end Check
