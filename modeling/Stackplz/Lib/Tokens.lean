import Mathlib.Data.List.Basic

/-!
# Tokens and their separator

A text of tokens that are joined by one separator each, over any alphabet: where it begins and ends,
what the tokens that `List.splitOn` finds consist of, and the form in which a writer that puts the
separator before each further token produces it (`intercalate_cons_flatMap`).
-/

namespace Tokens

open List

variable {α : Type*} {sep : α}

lemma intercalate_cons_flatMap (t : List α) (ts : List (List α)) :
    [sep].intercalate (t :: ts) = t ++ ts.flatMap (sep :: ·) := by
  induction ts generalizing t with
  | nil => simp
  | cons u ts ih =>
    rw [intercalate_cons_cons, ih, flatMap_cons]
    simp

variable {ts : List (List α)}

lemma intercalate_concat (h : ts ≠ []) (t : List α) :
    [sep].intercalate (ts ++ [t]) = [sep].intercalate ts ++ sep :: t := by
  cases ts with
  | nil => exact absurd rfl h
  | cons u ts =>
    rw [cons_append, intercalate_cons_flatMap, intercalate_cons_flatMap,
      flatMap_append, append_assoc]
    simp

lemma intercalate_append_sep (h : ts ≠ []) :
    [sep].intercalate ts ++ [sep] = ts.flatMap (· ++ [sep]) := by
  induction ts with
  | nil => exact absurd rfl h
  | cons t ts ih =>
    cases ts with
    | nil => simp
    | cons u ts =>
      rw [intercalate_cons_cons, append_assoc, ih (by simp)]
      simp

variable {t xs : List α}

lemma head?_intercalate (h : t ≠ []) (ts : List (List α)) :
    ([sep].intercalate (t :: ts)).head? = t.head? := by
  cases t with
  | nil => exact absurd rfl h
  | cons b t => simp [intercalate_cons_flatMap]

lemma getLast?_intercalate (h : t ≠ []) (ts : List (List α)) :
    ([sep].intercalate (ts ++ [t])).getLast? = t.getLast? := by
  by_cases hts : ts = []
  · subst hts
    simp
  · rw [intercalate_concat hts, List.getLast?_append_cons, List.getLast?_cons_of_ne_nil h]

lemma getLast?_intercalate_nil (h : ts ≠ []) :
    ([sep].intercalate (ts ++ [[]])).getLast? = some sep := by
  rw [intercalate_concat h, List.getLast?_append_cons]
  rfl

lemma mem_intercalate {b : α} (h : b ∈ [sep].intercalate ts) : b = sep ∨ ∃ t ∈ ts, b ∈ t := by
  cases ts with
  | nil => simp at h
  | cons t ts =>
    simp only [intercalate_cons_flatMap, mem_append, mem_flatMap, mem_cons] at h
    rcases h with h | ⟨u, hu, rfl | hb⟩
    · exact .inr ⟨t, mem_cons_self, h⟩
    · exact .inl rfl
    · exact .inr ⟨u, mem_cons_of_mem _ hu, hb⟩

lemma append_sep_inj {ys us vs : List α} (hxs : sep ∉ xs) (hys : sep ∉ ys)
    (h : xs ++ sep :: us = ys ++ sep :: vs) : xs = ys ∧ us = vs := by
  induction xs generalizing ys with
  | nil =>
    cases ys with
    | nil =>
      rw [nil_append, nil_append, List.cons.injEq] at h
      exact ⟨rfl, h.2⟩
    | cons y ys =>
      rw [nil_append, cons_append, List.cons.injEq] at h
      exact absurd (h.1 ▸ mem_cons_self) hys
  | cons x xs ih =>
    cases ys with
    | nil =>
      rw [nil_append, cons_append, List.cons.injEq] at h
      exact absurd (h.1 ▸ mem_cons_self) hxs
    | cons y ys =>
      rw [cons_append, cons_append, List.cons.injEq] at h
      rw [mem_cons, not_or] at hxs hys
      obtain ⟨hrest, hvs⟩ := ih hxs.2 hys.2 h.2
      exact ⟨by rw [h.1, hrest], hvs⟩

/-- The pieces between the elements that satisfy `p` have none of them. -/
lemma mem_splitOnP {p : α → Bool} (ht : t ∈ List.splitOnP p xs) {b : α} (hb : b ∈ t) :
    b ∈ xs ∧ p b = false := by
  induction xs generalizing t with
  | nil =>
    rw [splitOnP_nil, mem_singleton] at ht
    rw [ht] at hb
    cases hb
  | cons x xs ih =>
    rw [splitOnP_cons_eq_if_modifyHead] at ht
    split_ifs at ht with hx
    · rw [mem_cons] at ht
      rcases ht with rfl | ht
      · cases hb
      · exact ⟨mem_cons_of_mem _ (ih ht hb).1, (ih ht hb).2⟩
    · cases hsplit : List.splitOnP p xs with
      | nil => exact absurd hsplit (splitOnP_ne_nil _ _)
      | cons u us =>
        rw [hsplit, modifyHead_cons, mem_cons] at ht
        rcases ht with rfl | ht
        · rw [mem_cons] at hb
          rcases hb with rfl | hb
          · exact ⟨mem_cons_self, by simpa using hx⟩
          · have := ih (hsplit ▸ mem_cons_self) hb
            exact ⟨mem_cons_of_mem _ this.1, this.2⟩
        · have := ih (hsplit ▸ mem_cons_of_mem _ ht) hb
          exact ⟨mem_cons_of_mem _ this.1, this.2⟩

variable [BEq α]

lemma length_splitOn (sep : α) (xs : List α) : (List.splitOn sep xs).length = xs.count sep + 1 := by
  induction xs with
  | nil => rfl
  | cons x xs ih =>
    rw [splitOn_cons_eq_if_modifyHead, count_cons]
    split_ifs with hx
    · rw [length_cons, ih]
    · rw [length_modifyHead, ih, Nat.add_zero]

variable [LawfulBEq α]

lemma mem_splitOn (ht : t ∈ List.splitOn sep xs) {b : α} (hb : b ∈ t) : b ∈ xs ∧ b ≠ sep := by
  rw [splitOn_eq_splitOnP] at ht
  exact (mem_splitOnP ht hb).imp_right ne_of_beq_false

end Tokens
