import Mathlib.Data.List.Induction
import Mathlib.Data.List.Nodup

/-!
# Lists that grow only by what is new

A loop that looks through the list it has built before it appends an element keeps the first of all
elements that are the same: `firsts same xs`.  What it does from any list on is `foldl (keep same)`.

For a lawful equality the outcome from `kept` on is `kept` followed by the new ones among the firsts
(`foldl_keep_eq`), so a list matters only through its firsts, and two lists of which one's firsts
begin with the other's can be read in either order (`foldl_keep_swap`).
-/

namespace Firsts

open List

variable {α : Type*}

/-- Append an element unless the same one is kept already. -/
def keep (same : α → α → Bool) (kept : List α) (x : α) : List α :=
  if kept.any (same x) then kept else kept ++ [x]

def firsts (same : α → α → Bool) (xs : List α) : List α := xs.foldl (keep same) []

variable {same : α → α → Bool} {kept xs ys : List α} {x : α}

lemma keep_begins : kept <+: keep same kept x := by
  unfold keep
  split_ifs
  · exact prefix_rfl
  · exact prefix_append _ _

lemma foldl_keep_begins : kept <+: xs.foldl (keep same) kept := by
  induction xs generalizing kept with
  | nil => exact prefix_rfl
  | cons x xs ih => exact keep_begins.trans ih

lemma firsts_concat : firsts same (xs ++ [x]) = keep same (firsts same xs) x := by
  simp [firsts]

lemma mem_foldl_keep {y : α} (h : y ∈ xs.foldl (keep same) kept) : y ∈ kept ∨ y ∈ xs := by
  induction xs generalizing kept with
  | nil => exact .inl h
  | cons x xs ih =>
    rcases ih h with hy | hy
    · unfold keep at hy
      split_ifs at hy
      · exact .inl hy
      · rw [mem_append, mem_singleton] at hy
        rcases hy with hy | rfl
        · exact .inl hy
        · exact .inr mem_cons_self
    · exact .inr (mem_cons_of_mem _ hy)

lemma firsts_eq_self (h : xs.Pairwise fun a b => same b a = false) : firsts same xs = xs := by
  have hall : ∀ kept : List α, (∀ a ∈ kept, ∀ b ∈ xs, same b a = false) →
      xs.foldl (keep same) kept = kept ++ xs := by
    induction xs with
    | nil => simp
    | cons x xs ih =>
      intro kept hkept
      rw [pairwise_cons] at h
      have hnew : keep same kept x = kept ++ [x] := by
        refine if_neg ?_
        rw [any_eq_true]
        rintro ⟨a, ha, hsame⟩
        rw [hkept a ha x mem_cons_self] at hsame
        cases hsame
      rw [foldl_cons, hnew, ih h.2, append_assoc, singleton_append]
      intro a ha b hb
      rw [mem_append, mem_singleton] at ha
      rcases ha with ha | rfl
      · exact hkept a ha b (mem_cons_of_mem _ hb)
      · exact h.1 b hb
  rw [firsts, hall [] (by simp), nil_append]

/-! ## Equality -/

variable [BEq α] [LawfulBEq α]

lemma keep_eq : keep (· == ·) kept x = if x ∈ kept then kept else kept ++ [x] := by
  simp [keep]

lemma mem_firsts {y : α} : y ∈ firsts (· == ·) xs ↔ y ∈ xs := by
  induction xs using List.reverseRecOn generalizing y with
  | nil => simp [firsts]
  | append_singleton xs x ih =>
    rw [firsts_concat, keep_eq]
    split_ifs with hx
    · rw [ih] at hx ⊢
      grind
    · simp [ih]

lemma nodup_firsts : (firsts (· == ·) xs).Nodup := by
  induction xs using List.reverseRecOn with
  | nil => simp [firsts]
  | append_singleton xs x ih =>
    rw [firsts_concat, keep_eq]
    split_ifs with hx
    · exact ih
    · rw [← concat_eq_append]
      exact ih.concat hx

lemma foldl_keep_eq : xs.foldl (keep (· == ·)) kept =
    kept ++ (firsts (· == ·) xs).filter (· ∉ kept) := by
  induction xs using List.reverseRecOn with
  | nil => simp [firsts]
  | append_singleton xs x ih =>
    rw [foldl_append, ih, firsts_concat]
    by_cases hx : x ∈ firsts (· == ·) xs
    all_goals
      by_cases hk : x ∈ kept
      all_goals simp [keep_eq, hx, hk]

lemma firsts_eq_singleton {a : α} (hne : xs ≠ []) (h : ∀ y ∈ xs, y = a) :
    firsts (· == ·) xs = [a] := by
  cases xs with
  | nil => exact absurd rfl hne
  | cons x xs =>
    obtain rfl : x = a := h x mem_cons_self
    have hrest : (firsts (· == ·) xs).filter (· ∉ [x]) = [] := by
      refine filter_eq_nil_iff.mpr fun y hy => ?_
      simp [h y (mem_cons_of_mem _ (mem_firsts.mp hy))]
    show xs.foldl (keep (· == ·)) [x] = [x]
    rw [foldl_keep_eq, hrest, append_nil]

/-- A list whose firsts begin with those of another makes up for it on either side. -/
lemma firsts_append_of_begins (h : firsts (· == ·) xs <+: firsts (· == ·) ys) :
    firsts (· == ·) (xs ++ ys) = firsts (· == ·) ys ∧
      firsts (· == ·) (ys ++ xs) = firsts (· == ·) ys := by
  have happend : ∀ as bs : List α, firsts (· == ·) (as ++ bs) =
      firsts (· == ·) as ++ (firsts (· == ·) bs).filter (· ∉ firsts (· == ·) as) := by
    intro as bs
    rw [firsts, foldl_append, foldl_keep_eq]
    rfl
  rw [happend, happend]
  constructor
  · obtain ⟨more, hmore⟩ := h
    have hnew : ∀ y ∈ more, y ∉ firsts (· == ·) xs := by
      have hnodup : (firsts (· == ·) ys).Nodup := nodup_firsts
      rw [← hmore, nodup_append] at hnodup
      exact fun y hy hin => hnodup.2.2 y hin y hy rfl
    have hkept : more.filter (· ∉ firsts (· == ·) xs) = more :=
      filter_eq_self.mpr (by simpa using hnew)
    have hgone : (firsts (· == ·) xs).filter (· ∉ firsts (· == ·) xs) = [] := by simp
    rw [← hmore, filter_append, hkept, hgone, nil_append]
  · have hold : ∀ y ∈ firsts (· == ·) xs, y ∈ firsts (· == ·) ys := fun y hy => h.subset hy
    rw [filter_eq_nil_iff.mpr (by simpa using hold), append_nil]

lemma foldl_keep_swap
    (h : firsts (· == ·) xs <+: firsts (· == ·) ys ∨ firsts (· == ·) ys <+: firsts (· == ·) xs) :
    (xs ++ ys).foldl (keep (· == ·)) kept = (ys ++ xs).foldl (keep (· == ·)) kept := by
  rw [foldl_keep_eq, @foldl_keep_eq _ _ (ys ++ xs)]
  rcases h with h | h
  all_goals rw [(firsts_append_of_begins h).1, (firsts_append_of_begins h).2]

end Firsts
