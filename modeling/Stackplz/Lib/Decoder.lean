import Mathlib.Data.List.Forall2

/-!
# Decoders

A decoder takes what it needs off the front of its input, or fails.  `Consumes d bytes a` says that
it takes exactly `bytes` and returns `a`, whatever comes behind.

* `Consumes.bind`, `consumes_take`, `Consumes.times` — the rules from which such facts are put
  together;
* `consumes_take_iff` — when so many items are taken exactly;
* `Consumes.eq_of_isPrefix` — a decoder that takes exactly `x` does not take exactly an input that
  starts with `x` and is longer.
-/

/-- Decoders of lists of `ι`; `none` is a failure. -/
abbrev Decoder (ι α : Type) := StateT (List ι) Option α

namespace Decoder

variable {ι α β : Type} {d : Decoder ι α} {f : α → Decoder ι β} {x y : List ι} {a a' : α} {b : β}

/-- The next `n` items. -/
def take (n : ℕ) : Decoder ι (List ι) := fun input =>
  if n ≤ input.length then some (input.take n, input.drop n) else none

/-- `n` times the same. -/
def times (d : Decoder ι α) : ℕ → Decoder ι (List α)
  | 0 => pure []
  | n + 1 => do
    let a ← d
    let rest ← times d n
    pure (a :: rest)

/-- The decoder takes exactly these items. -/
def Consumes (d : Decoder ι α) (x : List ι) (a : α) : Prop :=
  ∀ rest, d.run (x ++ rest) = some (a, rest)

lemma consumes_pure (a : α) : Consumes (pure a : Decoder ι α) [] a := fun _ => rfl

lemma consumes_pure_of_eq (h : a = a') : Consumes (pure a : Decoder ι α) [] a' :=
  h ▸ consumes_pure a

lemma Consumes.bind (h : Consumes d x a) (h' : Consumes (f a) y b) :
    Consumes (d >>= f) (x ++ y) b := by
  intro rest
  rw [StateT.run_bind, List.append_assoc, h]
  exact h' rest

lemma Consumes.bind_nil (h : Consumes d x a) (h' : Consumes (f a) [] b) :
    Consumes (d >>= f) x b := by
  have := h.bind h'
  rwa [List.append_nil] at this

lemma consumes_take (x : List ι) : Consumes (take x.length) x x := by
  intro rest
  show (if x.length ≤ (x ++ rest).length then _ else _) = _
  rw [if_pos (by simp), List.take_left, List.drop_left]

lemma consumes_take_of_length {n : ℕ} (h : x.length = n) : Consumes (take n) x x :=
  h ▸ consumes_take x

lemma take_bind_run {n : ℕ} {f : List ι → Decoder ι β} (h : x.length < n) :
    (take n >>= f).run x = none := by
  rw [StateT.run_bind]
  show (if n ≤ x.length then _ else none) >>= _ = _
  rw [if_neg (Nat.not_le.mpr h)]
  rfl

section

variable (h : Consumes d x a)
include h

lemma Consumes.run_bind (rest : List ι) : (d >>= f).run (x ++ rest) = (f a).run rest := by
  rw [StateT.run_bind, h]
  rfl

lemma Consumes.bind_iff : Consumes (d >>= f) (x ++ y) b ↔ Consumes (f a) y b := by
  refine forall_congr' fun rest => ?_
  rw [List.append_assoc, h.run_bind]

lemma Consumes.unique (h' : Consumes d x a') : a = a' :=
  congrArg Prod.fst (Option.some.inj ((h []).symm.trans (h' [])))

/-- So is what is taken: not a part of it, and not more. -/
lemma Consumes.eq_of_isPrefix (h' : Consumes d y a') (hle : x <+: y) : x = y := by
  obtain ⟨z, rfl⟩ := hle
  have hboth : some (a, z ++ []) = some (a', []) := by
    rw [← h (z ++ []), ← h' [], List.append_assoc]
  have hz : z = [] := by simpa using congrArg Prod.snd (Option.some.inj hboth)
  rw [hz, List.append_nil]

end

lemma consumes_pure_iff : Consumes (pure a : Decoder ι α) x a' ↔ x = [] ∧ a' = a := by
  constructor
  · intro h
    obtain ⟨rfl, hx⟩ := Prod.mk.inj (Option.some.inj (h []))
    exact ⟨by simpa using hx, rfl⟩
  · rintro ⟨rfl, rfl⟩
    exact consumes_pure _

lemma consumes_map_iff {g : α → β} (hg : g.Injective) :
    Consumes (do let a ← d; pure (g a)) x b ↔ ∃ a, b = g a ∧ Consumes d x a := by
  constructor
  · intro h
    have hrun : ∀ rest, ∃ a, b = g a ∧ d.run (x ++ rest) = some (a, rest) := by
      intro rest
      have := h rest
      rw [StateT.run_bind, Option.bind_eq_bind, Option.bind_eq_some_iff] at this
      obtain ⟨⟨a, input⟩, hd, hpure⟩ := this
      cases hpure
      exact ⟨a, rfl, hd⟩
    -- The result does not depend on what comes behind.
    obtain ⟨a, hb, -⟩ := hrun []
    refine ⟨a, hb, fun rest => ?_⟩
    obtain ⟨a', hb', hd⟩ := hrun rest
    rwa [hg (hb.symm.trans hb')]
  · rintro ⟨a, rfl, h⟩
    exact h.bind_nil (consumes_pure _)

lemma consumes_take_iff {n : ℕ} {g : List ι → β} :
    Consumes (do let xs ← take n; pure (g xs)) x b ↔ x.length = n ∧ b = g x := by
  constructor
  · intro h
    have hle : n ≤ x.length := by
      by_contra hlt
      have hrun := h []
      rw [List.append_nil, take_bind_run (Nat.lt_of_not_le hlt)] at hrun
      exact absurd hrun (by simp)
    have hshort : Consumes (do let xs ← take n; pure (g xs)) (x.take n) (g (x.take n)) :=
      (consumes_take_of_length (List.length_take_of_le hle)).bind_nil (consumes_pure _)
    have heq := hshort.eq_of_isPrefix h (List.take_prefix n x)
    rw [heq] at hshort
    exact ⟨heq ▸ List.length_take_of_le hle, h.unique hshort⟩
  · rintro ⟨hlength, rfl⟩
    exact (consumes_take_of_length hlength).bind_nil (consumes_pure _)

end Decoder
