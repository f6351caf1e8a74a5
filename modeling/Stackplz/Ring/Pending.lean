import Stackplz.Ring.Contents

/-!
# What a poll finds and what it changes

For an arbitrary ring, not only for one that pushes and polls have led to: whether the ring holds
the event after a cursor (`Ring.HoldsNext`), and when a poll leaves the ring as it was
(`Ring.Quiet`). Both are said of the ring before the poll.
-/

namespace Spz

open Errno
open BitVec hiding not_or or_self

namespace CpuRing

variable {c : CpuRing} {after : U64}

/-- The slot `k` places behind the tail. -/
def slotAt (c : CpuRing) (k : ℕ) : RingSlot := c.slots ((c.tail.toNat + k) % ringCapacity)

/-- The event after the cursor is in the queue, and only events up to the cursor are before it. -/
def HoldsNext (c : CpuRing) (after : U64) : Prop :=
  ∃ k < ringCapacity, k < c.head.toNat - c.tail.toNat ∧ (c.slotAt k).commit = after + 1 ∧
    ∀ i < k, (c.slotAt i).commit ≠ 0 ∧ (c.slotAt i).commit ≤ after

/-- There is nothing at the tail that the cursor has passed, nor the event after it. -/
def Waits (c : CpuRing) (after : U64) : Prop :=
  c.head ≤ c.tail ∨ c.tailSlot.commit = 0 ∨ after + 1 < c.tailSlot.commit

lemma slotAt_zero (c : CpuRing) : c.slotAt 0 = c.tailSlot := rfl

section

variable (h : c.tail.toNat < c.head.toNat)
include h

lemma dropTail_tail_toNat : c.dropTail.tail.toNat = c.tail.toNat + 1 := by
  have hlt := c.head.isLt
  show (c.tail + 1).toNat = _
  rw [toNat_add, show (1 : U64).toNat = 1 from rfl, Nat.mod_eq_of_lt (by omega)]

lemma dropTail_slotAt {k : ℕ} (hk : k + 1 < ringCapacity) :
    c.dropTail.slotAt k = c.slotAt (k + 1) := by
  rw [slotAt, slotAt, dropTail_tail_toNat h, Nat.add_right_comm, Nat.add_assoc]
  refine Function.update_of_ne (fun heq => ?_) _ _
  rw [index, ringCapacity] at heq
  rw [ringCapacity] at hk
  omega

lemma dropTail_slotAt_last : (c.dropTail.slotAt (ringCapacity - 1)).commit = 0 := by
  have hindex : (c.tail.toNat + 1 + (ringCapacity - 1)) % ringCapacity = index c.tail := by
    rw [index, ringCapacity]
    omega
  rw [slotAt, dropTail_tail_toNat h, hindex]
  show (Function.update c.slots (index c.tail) { c.tailSlot with commit := 0 }
    (index c.tail)).commit = 0
  rw [Function.update_self]

end

/-- Dropping an event that the cursor has passed does not lose the next one. -/
lemma holdsNext_dropTail (hlt : c.tail.toNat < c.head.toNat) (hzero : c.tailSlot.commit ≠ 0)
    (hle : c.tailSlot.commit ≤ after) (hlast : after ≠ allOnes 64) :
    c.dropTail.HoldsNext after ↔ c.HoldsNext after := by
  have hnext : (after + 1).toNat = after.toNat + 1 := toNat_add_one hlast
  have htail := dropTail_tail_toNat hlt
  have hhead : c.dropTail.head = c.head := rfl
  constructor
  · rintro ⟨k, hk, hin, hcommit, hbefore⟩
    have hk' : k + 1 < ringCapacity := by
      by_contra hnot
      obtain rfl : k = ringCapacity - 1 := by omega
      rw [dropTail_slotAt_last hlt] at hcommit
      exact absurd hcommit.symm (add_one_ne_zero_of_ne hlast)
    refine ⟨k + 1, hk', ?_, ?_, fun i hi => ?_⟩
    · rw [htail, hhead] at hin
      omega
    · rw [← dropTail_slotAt hlt hk']
      exact hcommit
    · cases i with
      | zero => exact ⟨hzero, hle⟩
      | succ i =>
        rw [← dropTail_slotAt hlt (by omega)]
        exact hbefore i (by omega)
  · rintro ⟨k, hk, hin, hcommit, hbefore⟩
    cases k with
    | zero =>
      rw [slotAt_zero] at hcommit
      rw [hcommit, le_def] at hle
      omega
    | succ k =>
      refine ⟨k, by omega, ?_, ?_, fun i hi => ?_⟩
      · rw [htail, hhead]
        omega
      · rw [dropTail_slotAt hlt hk]
        exact hcommit
      · rw [dropTail_slotAt hlt (by omega)]
        exact hbefore (i + 1) (by omega)

/-- What discarding brings to the tail. -/
lemma offers_discardUpTo (hlast : after ≠ allOnes 64) {n : ℕ}
    (hn : n = c.head.toNat - c.tail.toNat) :
    ((c.discardUpTo after n).offers (after + 1)).isSome = true ↔ c.HoldsNext after := by
  induction n generalizing c with
  | zero =>
    rw [discardUpTo, offers, if_pos (le_def.mpr (by omega))]
    simp only [Option.isSome_none, Bool.false_eq_true, false_iff]
    rintro ⟨k, -, hin, -⟩
    omega
  | succ n ih =>
    have hlt : c.tail.toNat < c.head.toNat := by omega
    have hnext : (after + 1).toNat = after.toNat + 1 := toNat_add_one hlast
    rw [discardUpTo]
    split_ifs with hstop
    · rw [offers, if_neg (by rw [ge_iff_le, le_def]; omega)]
      constructor
      · intro hsome
        split_ifs at hsome with hne
        · simp at hsome
        · exact ⟨0, by decide, by omega, not_not.mp hne, by simp⟩
      · rintro ⟨k, -, -, hcommit, hbefore⟩
        cases k with
        | zero =>
          rw [slotAt_zero] at hcommit
          simp [hcommit]
        | succ k =>
          obtain ⟨hzero, hle⟩ := hbefore 0 (by omega)
          rw [slotAt_zero] at hzero hle
          rcases hstop with h | h
          · exact absurd h hzero
          · exact absurd h (BitVec.not_lt.mpr hle)
    · rw [not_or, gt_iff_lt, BitVec.not_lt] at hstop
      rw [ih (c := c.dropTail) (by
        rw [dropTail_tail_toNat hlt]
        show n = c.head.toNat - _
        omega), holdsNext_dropTail hlt hstop.1 hstop.2 hlast]

lemma offers_discardThrough (hlast : after ≠ allOnes 64) (c : CpuRing) :
    ((c.discardThrough after).offers (after + 1)).isSome = true ↔ c.HoldsNext after :=
  offers_discardUpTo hlast rfl

lemma discardUpTo_tail (after : U64) (n : ℕ) (c : CpuRing) :
    ∃ k ≤ n, (c.discardUpTo after n).tail = c.tail + BitVec.ofNat 64 k := by
  induction n generalizing c with
  | zero => exact ⟨0, Nat.le_refl 0, by simp [discardUpTo]⟩
  | succ n ih =>
    rw [discardUpTo]
    split_ifs
    · exact ⟨0, Nat.zero_le _, by simp⟩
    · obtain ⟨k, hk, htail⟩ := ih c.dropTail
      refine ⟨k + 1, by omega, ?_⟩
      rw [htail]
      show c.tail + 1 + _ = _
      rw [BitVec.add_assoc, BitVec.ofNat_add, BitVec.add_comm 1]
      rfl

/-- When nothing is discarded. -/
lemma discardThrough_eq_self (c : CpuRing) (after : U64) : c.discardThrough after = c ↔
    c.head ≤ c.tail ∨ c.tailSlot.commit = 0 ∨ c.tailSlot.commit > after := by
  unfold discardThrough
  cases hn : c.head.toNat - c.tail.toNat with
  | zero =>
    have hle : c.head ≤ c.tail := le_def.mpr (by omega)
    simp [discardUpTo, hle]
  | succ n =>
    have hlt : ¬ c.head ≤ c.tail := by
      rw [le_def]
      omega
    rw [discardUpTo]
    split_ifs with hstop
    · exact iff_of_true rfl (.inr hstop)
    · simp only [hlt, hstop, or_self, iff_false]
      intro heq
      obtain ⟨k, hk, htail⟩ := discardUpTo_tail after n c.dropTail
      rw [heq] at htail
      have hlen := c.head.isLt
      have hnat : c.tail.toNat = (c.tail.toNat + 1 + k) % 2 ^ 64 := by
        have := congrArg BitVec.toNat htail
        rw [BitVec.toNat_add, dropTail_tail_toNat (by omega), BitVec.toNat_ofNat] at this
        omega
      omega

end CpuRing

/-! ## The ring -/

namespace Ring

variable (ring : Ring) (after : U64)

/-- `spz_ring_pop_after` refuses the cursor. -/
def Refuses : Prop :=
  after < ring.consumerAfter ∨ after > ring.nextSequence ∨ after = allOnes 64

/-- Some CPU holds the event after the cursor. -/
def HoldsNext : Prop :=
  ∃ cpu < maxCpus, (ring.cpu cpu).HoldsNext after

/-- A poll with the cursor has nothing to do. -/
def Quiet : Prop :=
  ring.Refuses after ∨ after = ring.consumerAfter ∧ ∀ cpu < maxCpus, (ring.cpu cpu).Waits after

end Ring

variable {ring : Ring} {after : U64}

lemma ringPopAfter_refused (h : ring.Refuses after) :
    ∃ e, ringPopAfter ring after = (.error e, ring) := by
  unfold ringPopAfter
  by_cases hstale : after < ring.consumerAfter
  · exact ⟨_, if_pos hstale⟩
  rw [if_neg hstale]
  by_cases hrange : after > ring.nextSequence
  · exact ⟨_, if_pos hrange⟩
  rw [if_neg hrange]
  rcases h with h | h | h
  · exact absurd h hstale
  · exact absurd h hrange
  · exact ⟨_, if_pos h⟩

lemma not_refuses (h : ¬ ring.Refuses after) :
    ring.consumerAfter ≤ after ∧ after ≤ ring.nextSequence ∧ after ≠ allOnes 64 := by
  rwa [Ring.Refuses, not_or, not_or, BitVec.not_lt, gt_iff_lt, BitVec.not_lt] at h

lemma ringSelect_isSome (hlast : after ≠ allOnes 64) :
    (ringSelect (ringDiscarded ring after) (after + 1)).isSome = true ↔ ring.HoldsNext after := by
  rw [ringSelect, List.findSome?_isSome_iff]
  constructor
  · rintro ⟨cpu, hcpu, hsome⟩
    rw [List.mem_range] at hcpu
    rw [Option.isSome_map] at hsome
    simp only [ringDiscarded, if_pos hcpu] at hsome
    exact ⟨cpu, hcpu, (CpuRing.offers_discardThrough hlast _).mp hsome⟩
  · rintro ⟨cpu, hcpu, hnext⟩
    refine ⟨cpu, List.mem_range.mpr hcpu, ?_⟩
    rw [Option.isSome_map]
    simp only [ringDiscarded, if_pos hcpu]
    exact (CpuRing.offers_discardThrough hlast _).mpr hnext

/-- A ring waits if nothing is to be discarded and the next event is not there. -/
lemma CpuRing.waits_iff {c : CpuRing} (hlast : after ≠ allOnes 64) :
    c.Waits after ↔ c.discardThrough after = c ∧ ¬ c.HoldsNext after := by
  have hnext : (after + 1).toNat = after.toNat + 1 := toNat_add_one hlast
  rw [discardThrough_eq_self]
  constructor
  · intro hwaits
    refine ⟨?_, ?_⟩
    · rcases hwaits with h | h | h
      · exact .inl h
      · exact .inr (.inl h)
      · refine .inr (.inr ?_)
        rw [lt_def] at h
        rw [gt_iff_lt, lt_def]
        omega
    · rintro ⟨k, -, hin, hcommit, hbefore⟩
      -- the slot at the tail is either the event itself or one that the cursor has passed
      have htail : c.tailSlot.commit ≠ 0 ∧ c.tailSlot.commit.toNat ≤ after.toNat + 1 := by
        cases k with
        | zero =>
          rw [slotAt_zero] at hcommit
          rw [hcommit]
          exact ⟨add_one_ne_zero_of_ne hlast, by omega⟩
        | succ k =>
          obtain ⟨hzero, hle⟩ := hbefore 0 (by omega)
          rw [slotAt_zero, le_def] at hle
          exact ⟨hzero, by omega⟩
      rcases hwaits with h | h | h
      · rw [le_def] at h
        omega
      · exact htail.1 h
      · rw [lt_def] at h
        omega
  · rintro ⟨h | h | h, hnone⟩
    · exact .inl h
    · exact .inr (.inl h)
    · by_cases hle : c.head ≤ c.tail
      · exact .inl hle
      refine .inr (.inr ?_)
      have hne : c.tailSlot.commit ≠ after + 1 := fun heq => by
        rw [le_def] at hle
        exact hnone ⟨0, by decide, by omega, heq, by simp⟩
      rw [gt_iff_lt, lt_def] at h
      rw [ne_eq, ← toNat_inj] at hne
      rw [lt_def]
      omega

lemma ringDiscarded_eq_self (hge : ring.consumerAfter ≤ after) :
    ringDiscarded ring after = ring ↔ after = ring.consumerAfter ∧
      ∀ cpu < maxCpus, (ring.cpu cpu).discardThrough after = ring.cpu cpu := by
  constructor
  · intro heq
    refine ⟨?_, fun cpu hcpu => ?_⟩
    · rw [← ringDiscarded_consumerAfter hge, heq]
    · have := congrFun (congrArg Ring.cpu heq) cpu
      simp only [ringDiscarded, if_pos hcpu] at this
      exact this
  · rintro ⟨hafter, hcpus⟩
    have hcpu : (ringDiscarded ring after).cpu = ring.cpu := by
      funext cpu
      by_cases h : cpu < maxCpus
      · exact (if_pos h).trans (hcpus cpu h)
      · exact if_neg h
    have hconsumer : (ringDiscarded ring after).consumerAfter = ring.consumerAfter := by
      rw [ringDiscarded_consumerAfter hge, hafter]
    change { ring with
      cpu := (ringDiscarded ring after).cpu
      consumerAfter := (ringDiscarded ring after).consumerAfter } = ring
    rw [hcpu, hconsumer]

/-- When a poll leaves the ring as it was. -/
lemma ringPopAfter_same_iff (ring : Ring) (after : U64) :
    (ringPopAfter ring after).2 = ring ↔ ring.Quiet after := by
  by_cases hrefused : ring.Refuses after
  · obtain ⟨e, he⟩ := ringPopAfter_refused hrefused
    rw [he]
    exact iff_of_true rfl (.inl hrefused)
  obtain ⟨hge, hle, hlast⟩ := not_refuses hrefused
  rw [Ring.Quiet, or_iff_right hrefused, ringPopAfter_eq hge hle hlast]
  have hwaits : (after = ring.consumerAfter ∧ ∀ cpu < maxCpus, (ring.cpu cpu).Waits after) ↔
      ringDiscarded ring after = ring ∧ ¬ ring.HoldsNext after := by
    rw [ringDiscarded_eq_self hge]
    simp only [CpuRing.waits_iff hlast, Ring.HoldsNext]
    constructor
    · rintro ⟨hafter, h⟩
      exact ⟨⟨hafter, fun cpu hcpu => (h cpu hcpu).1⟩, fun ⟨cpu, hcpu, hn⟩ => (h cpu hcpu).2 hn⟩
    · rintro ⟨⟨hafter, h⟩, hnone⟩
      exact ⟨hafter, fun cpu hcpu => ⟨h cpu hcpu, fun hn => hnone ⟨cpu, hcpu, hn⟩⟩⟩
  rw [hwaits, ← ringSelect_isSome hlast]
  cases ringSelect (ringDiscarded ring after) (after + 1) with
  | none => simp
  | some found =>
    obtain ⟨cpu, event⟩ := found
    simp only [Option.isSome_some, not_true_eq_false, and_false, iff_false]
    intro heq
    -- the cursor has moved on
    have hmoved : after + 1 = ring.consumerAfter := congrArg Ring.consumerAfter heq
    have hnext : (after + 1).toNat = after.toNat + 1 := toNat_add_one hlast
    rw [hmoved] at hnext
    rw [le_def] at hge
    omega

end Spz
