import Mathlib.Data.List.Basic

/-!
# Chains of rules in which the first one that applies decides

A chain is a list of rules with a verdict each, and a verdict for the case that none applies.  Rules
may apply to more than they should, because what they look a subject up in also holds entries of
others: `verdict_eq_iff` says exactly when such additional hits do not show.
-/

namespace FirstMatch

variable {α : Type*} (gives : α → Bool) (otherwise : Bool) (applies : α → Bool)

def verdict (rules : List α) : Bool := ((rules.find? applies).map gives).getD otherwise

/-- The first rule that applies gives `b`, or none applies and `b` is what is left. -/
def Decides (b : Bool) (rules : List α) : Prop :=
  (∃ pre r post, rules = pre ++ r :: post ∧ (∀ q ∈ pre, applies q = false) ∧
    applies r = true ∧ gives r = b) ∨
  (∀ q ∈ rules, applies q = false) ∧ otherwise = b

variable {gives otherwise applies} {hits : α → Bool} {Also : α → Prop} {rules : List α} {r : α}
  {b : Bool}

@[simp] lemma verdict_nil : verdict gives otherwise applies [] = otherwise := rfl

@[simp] lemma verdict_cons : verdict gives otherwise applies (r :: rules) =
    if applies r then gives r else verdict gives otherwise applies rules := by
  unfold verdict
  rw [List.find?_cons]
  cases applies r <;> rfl

/-- The verdict is that of the first rule that applies. -/
lemma decides_iff : Decides gives otherwise applies b rules ↔
    verdict gives otherwise applies rules = b := by
  unfold Decides verdict
  cases hfind : rules.find? applies with
  | none =>
    rw [List.find?_eq_none] at hfind
    refine ⟨?_, fun h => .inr ⟨fun q hq => Bool.not_eq_true _ ▸ hfind q hq, h⟩⟩
    rintro (⟨pre, r, post, rfl, -, hr, -⟩ | ⟨-, h⟩)
    · exact absurd hr (hfind r (by simp))
    · exact h
  | some first =>
    obtain ⟨hfirst, pre, post, rfl, hpre⟩ := List.find?_eq_some_iff_append.mp hfind
    refine ⟨?_, fun h => .inl
      ⟨pre, first, post, rfl, fun q hq => by simpa using hpre q hq, hfirst, h⟩⟩
    rintro (⟨pre', r, post', heq, hpre', hr, h⟩ | ⟨hnone, -⟩)
    · have hsame : (pre ++ first :: post).find? applies = some r := by
        rw [heq, List.find?_append, List.find?_eq_none.mpr fun q hq => by simp [hpre' q hq]]
        simp [hr]
      rw [hsame] at hfind
      exact Option.some.inj hfind ▸ h
    · exact absurd hfirst (by simp [hnone first (by simp)])

/-- A property of every place in a chain. -/
lemma forall_place_cons {p : List α → α → List α → Prop} :
    (∀ pre q post, r :: rules = pre ++ q :: post → p pre q post) ↔
      p [] r rules ∧ ∀ pre q post, rules = pre ++ q :: post → p (r :: pre) q post := by
  refine ⟨fun h => ⟨h [] r rules rfl, fun pre q post heq => h _ q post (by rw [heq]; rfl)⟩, ?_⟩
  rintro ⟨hfirst, hrest⟩ (_ | ⟨x, pre⟩) q post heq
  · cases heq
    exact hfirst
  · cases heq
    exact hrest pre q post rfl

/-- When additional hits do not show: the first rule hit, if that is an additional hit, applies as
well, or the rules after it decide alike. -/
lemma verdict_eq_iff (hhits : ∀ r, hits r = true ↔ applies r = true ∨ Also r) :
    verdict gives otherwise hits rules = verdict gives otherwise applies rules ↔
      ∀ pre r post, rules = pre ++ r :: post → (∀ q ∈ pre, applies q = false ∧ ¬ Also q) → Also r →
        applies r = true ∨ Decides gives otherwise applies (gives r) post := by
  induction rules with
  | nil => simp
  | cons head rest ih =>
    rw [forall_place_cons, verdict_cons, verdict_cons]
    simp only [List.forall_mem_cons, List.not_mem_nil, false_imp_iff, forall_const, decides_iff]
    by_cases happlies : applies head = true
    · simp [happlies, (hhits head).mpr (.inl happlies)]
    · by_cases halso : Also head
      · simpa [happlies, halso, (hhits head).mpr (.inr halso)] using eq_comm
      · have hmiss : hits head = false := by simp [← Bool.not_eq_true, hhits, happlies, halso]
        simp [happlies, halso, hmiss, ih, decides_iff]

end FirstMatch
