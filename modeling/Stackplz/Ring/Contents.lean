import Mathlib.Data.List.Induction
import Mathlib.Data.List.Pairwise
import Stackplz.Lib.Circular
import Stackplz.Ring

/-!
# What a ring holds

The events a CPU has published are numbered by the ring's sequence counter, so they form a list with
increasing sequence numbers (`Entry`).  Consuming is in the order of these numbers too: whatever the
consumer has asked for, there is one number up to which everything is gone.  `Stores` says that the
slots of a CPU hold exactly the entries after it, in a circle from the tail on.

The counters are given as natural numbers, so that the same notion serves while a push or a poll is
half done and the words in memory lag behind.
-/

namespace Spz

open Errno Circular List Function CpuRing
open BitVec hiding not_or

/-- An event that has been published, with its place in the sequence. -/
structure Entry where
  sequence : ℕ
  event : Event

def Entry.slot (e : Entry) : RingSlot := ⟨BitVec.ofNat 64 e.sequence, e.event⟩

/-- An event as `spz_publish` stores it. -/
def Entry.stamped (sequence cpu : ℕ) (source : Event) : Entry :=
  ⟨sequence, stampEvent cpu (BitVec.ofNat 64 sequence) source⟩

def live (es : List Entry) (r : ℕ) : List Entry := es.filter fun e => decide (r < e.sequence)

def gone (es : List Entry) (r : ℕ) : ℕ := es.countP fun e => decide (e.sequence ≤ r)

/-- Sequence numbers increase, start at 1 and are 64-bit words. -/
structure Numbered (es : List Entry) : Prop where
  increasing : es.Pairwise fun a b => a.sequence < b.sequence
  pos : ∀ e ∈ es, 0 < e.sequence
  lt : ∀ e ∈ es, e.sequence < 2 ^ 64

/-- The slots of a CPU that has published `es`, of which those up to `r` are gone. -/
structure Stores (slots : ℕ → RingSlot) (tail head : ℕ) (es : List Entry) (r : ℕ) : Prop where
  numbered : Numbered es
  head_eq : head = es.length
  tail_eq : tail = gone es r
  slots : Holds ringCapacity (fun s : RingSlot => s.commit = 0) slots tail
    ((live es r).map Entry.slot)

/-! ## Lists of entries -/

section Entries

variable {es rest : List Entry} {e : Entry} {r r' : ℕ}

lemma gone_add_live (es : List Entry) (r : ℕ) : gone es r + (live es r).length = es.length := by
  rw [gone, live, ← countP_eq_length_filter,
    length_eq_countP_add_countP (fun e : Entry => decide (e.sequence ≤ r))]
  simp

lemma mem_live : e ∈ live es r ↔ e ∈ es ∧ r < e.sequence := by simp [live]

lemma live_append (h : r < e.sequence) : live (es ++ [e]) r = live es r ++ [e] := by
  simp [live, filter_append, h]

lemma gone_append (h : r < e.sequence) : gone (es ++ [e]) r = gone es r := by
  simp [gone, countP_append, h]

lemma live_congr (hle : r ≤ r') (h : ∀ e ∈ es, r < e.sequence → r' < e.sequence) :
    live es r' = live es r := by
  refine filter_congr fun e he => ?_
  have := h e he
  simp only [decide_eq_decide]
  omega

lemma gone_congr (h : live es r' = live es r) : gone es r' = gone es r := by
  have h1 := gone_add_live es r
  have h2 := gone_add_live es r'
  rw [h] at h2
  omega

section

variable (hn : Numbered es)
include hn

lemma live_first (h : live es r = e :: rest) : live es e.sequence = rest := by
  have he : r < e.sequence := (mem_live.mp (h ▸ mem_cons_self)).2
  have hsorted : (e :: rest).Pairwise fun a b => a.sequence < b.sequence :=
    h ▸ hn.increasing.filter _
  have hagain : live es e.sequence = (live es r).filter fun a =>
      decide (e.sequence < a.sequence) := by
    rw [live, live, filter_filter]
    refine filter_congr fun a _ => ?_
    simp only [decide_eq_decide, ← Bool.decide_and]
    omega
  rw [hagain, h, filter_cons_of_neg (by simp)]
  exact filter_eq_self.mpr fun a ha => by simpa using (pairwise_cons.mp hsorted).1 a ha

lemma gone_first (h : live es r = e :: rest) : gone es e.sequence = gone es r + 1 := by
  have h1 := gone_add_live es r
  have h2 := gone_add_live es e.sequence
  rw [live_first hn h] at h2
  rw [h, length_cons] at h1
  omega

lemma Numbered.length_le {n : ℕ} (h : ∀ e ∈ es, e.sequence ≤ n) : es.length ≤ n := by
  induction es using List.reverseRecOn generalizing n with
  | nil => exact Nat.zero_le n
  | append_singleton es e ih =>
    obtain ⟨hinc, -, hlast⟩ := pairwise_append.mp hn.increasing
    have hrest : Numbered es := ⟨hinc, fun a ha => hn.pos a (by simp [ha]),
      fun a ha => hn.lt a (by simp [ha])⟩
    have hpos := hn.pos e (by simp)
    have hle := h e (by simp)
    have := ih hrest (n := e.sequence - 1) fun a ha => by
      have := hlast a ha e (by simp)
      omega
    simp only [length_append, length_cons, length_nil]
    omega

lemma Numbered.append (hnew : ∀ a ∈ es, a.sequence < e.sequence) (hpos : 0 < e.sequence)
    (hlt : e.sequence < 2 ^ 64) : Numbered (es ++ [e]) := by
  refine ⟨pairwise_append.mpr ⟨hn.increasing, pairwise_singleton .., ?_⟩, ?_, ?_⟩
  · intro a ha b hb
    rw [mem_singleton.mp hb]
    exact hnew a ha
  · simpa [or_imp, forall_and] using ⟨hn.pos, hpos⟩
  · simpa [or_imp, forall_and] using ⟨hn.lt, hlt⟩

end

lemma Entry.commit_toNat (h : e.sequence < 2 ^ 64) : e.slot.commit.toNat = e.sequence := by
  rw [Entry.slot, toNat_ofNat, Nat.mod_eq_of_lt h]

end Entries

/-! ## The slots -/

namespace Stores

variable {slots : ℕ → RingSlot} {tail head r r' : ℕ} {es rest : List Entry} {e : Entry}
  {s : RingSlot}

variable (h : Stores slots tail head es r)
include h

lemma span : tail + (live es r).length = head := by
  rw [h.head_eq, h.tail_eq]
  exact gone_add_live es r

lemma live_le : (live es r).length ≤ ringCapacity := by
  simpa using h.slots.length_le

lemma head_lt : head < 2 ^ 64 := by
  have := h.numbered.length_le (n := 2 ^ 64 - 1) fun e he => by
    have := h.numbered.lt e he
    omega
  rw [h.head_eq]
  omega

lemma first (hlive : live es r = e :: rest) : slots (tail % ringCapacity) = e.slot := by
  have hslots := h.slots
  rw [hlive, map_cons] at hslots
  exact hslots.first

lemma commit_ne_zero (he : e ∈ es) : e.slot.commit ≠ 0 := by
  intro hzero
  have hpos := h.numbered.pos e he
  have := Entry.commit_toNat (h.numbered.lt e he)
  rw [hzero, show (0 : U64).toNat = 0 from rfl] at this
  omega

/-- The slot at the head is free exactly if there is room. -/
lemma commit_head : (slots (head % ringCapacity)).commit = 0 ↔ head < tail + ringCapacity := by
  have hspan := h.span
  have hle := h.live_le
  constructor
  · intro hfree
    by_contra hfull
    have hlen : (live es r).length = ringCapacity := by omega
    cases hlive : live es r with
    | nil =>
      rw [hlive] at hlen
      cases hlen
    | cons e rest =>
      have hhead : head % ringCapacity = tail % ringCapacity := by
        rw [← hspan, hlen, Nat.add_mod_right]
      rw [hhead, h.first hlive] at hfree
      exact h.commit_ne_zero (mem_live.mp (hlive ▸ mem_cons_self)).1 hfree
  · intro hroom
    have := h.slots.free (by rw [length_map]; omega)
    rwa [length_map, hspan] at this

lemma publish (hroom : head < tail + ringCapacity)
    (hnew : ∀ a ∈ es, a.sequence < e.sequence) (hr : r < e.sequence) (hlt : e.sequence < 2 ^ 64) :
    Stores (update slots (head % ringCapacity) e.slot) tail (head + 1) (es ++ [e]) r := by
  have hspan := h.span
  refine ⟨h.numbered.append hnew (by omega) hlt, ?_, ?_, ?_⟩
  · rw [length_append, h.head_eq]
    rfl
  · rw [gone_append hr]
    exact h.tail_eq
  · have := h.slots.push (by rw [length_map]; omega) e.slot
    rwa [length_map, hspan, ← map_singleton, ← map_append, ← live_append hr] at this

lemma remove (hlive : live es r = e :: rest) (hs : s.commit = 0) :
    Stores (update slots (tail % ringCapacity) s) (tail + 1) head es e.sequence := by
  refine ⟨h.numbered, h.head_eq, ?_, ?_⟩
  · rw [gone_first h.numbered hlive, ← h.tail_eq]
  · have hslots := h.slots
    rw [hlive, map_cons] at hslots
    rw [live_first h.numbered hlive]
    exact hslots.pop hs

lemma skip (hle : r ≤ r')
    (hnone : ∀ e ∈ es, r < e.sequence → r' < e.sequence) : Stores slots tail head es r' := by
  have hlive := live_congr hle hnone
  refine ⟨h.numbered, h.head_eq, ?_, ?_⟩
  · rw [gone_congr hlive]
    exact h.tail_eq
  · rw [hlive]
    exact h.slots

/-- What is written to the slot at the head does not matter before it is committed. -/
lemma scribble (hroom : head < tail + ringCapacity) (hs : s.commit = 0) :
    Stores (update slots (head % ringCapacity) s) tail head es r := by
  have hspan := h.span
  refine ⟨h.numbered, h.head_eq, h.tail_eq, h.slots.update_vacant (fun i hi => ?_) hs⟩
  rw [length_map] at hi
  rw [← hspan]
  exact index_ne hi (by omega)

end Stores

/-! ## The ring of one CPU -/

namespace CpuRing

/-- The ring of a CPU with nothing half done. -/
def Has (c : CpuRing) (es : List Entry) (r : ℕ) : Prop :=
  Stores c.slots c.tail.toNat c.head.toNat es r

variable {c : CpuRing} {es rest : List Entry} {e : Entry} {r : ℕ} {after : U64}

lemma has_zero (r : ℕ) : ({} : CpuRing).Has [] r :=
  ⟨⟨List.Pairwise.nil, by simp, by simp⟩, rfl, rfl,
    Holds.nil (by intro j _; rfl) 0⟩

variable (h : c.Has es r)
include h

lemma Has.used : c.used.toNat = (live es r).length := by
  have hspan := h.span
  rw [CpuRing.used, toNat_sub_of_le]
  · omega
  · rw [le_def]
    omega

lemma Has.used_ge_iff :
    c.used ≥ BitVec.ofNat 64 ringCapacity ↔ ¬ (live es r).length < ringCapacity := by
  rw [ge_iff_le, BitVec.le_def, h.used]
  simp [ringCapacity]

lemma Has.freeSlots :
    (BitVec.ofNat 64 ringCapacity - c.used).toNat = ringCapacity - (live es r).length := by
  have hle := h.live_le
  have hused := h.used
  rw [toNat_sub_of_le, hused]
  · rfl
  · rw [le_def, hused]
    exact hle

lemma Has.headSlot_commit : c.headSlot.commit = 0 ↔ (live es r).length < ringCapacity := by
  rw [headSlot, index, h.commit_head]
  have := h.span
  omega

lemma Has.append (hroom : (live es r).length < ringCapacity)
    (hnew : ∀ a ∈ es, a.sequence < e.sequence) (hr : r < e.sequence) (hlt : e.sequence < 2 ^ 64) :
    (c.append e.slot.commit e.slot.event).Has (es ++ [e]) r := by
  have hspan := h.span
  have hpub := h.publish (by omega) hnew hr hlt
  have hhead : (c.head + 1).toNat = c.head.toNat + 1 := by
    have := hpub.head_lt
    rw [toNat_add]
    exact Nat.mod_eq_of_lt this
  show Stores _ _ (c.head + 1).toNat _ _
  rw [hhead]
  exact hpub

lemma Has.tailSlot (hlive : live es r = e :: rest) : c.tailSlot = e.slot :=
  h.first hlive

lemma Has.dropTail (hlive : live es r = e :: rest) : c.dropTail.Has es e.sequence := by
  have hspan := h.span
  have htail : (c.tail + 1).toNat = c.tail.toNat + 1 := by
    have := h.head_lt
    rw [hlive, length_cons] at hspan
    rw [toNat_add]
    exact Nat.mod_eq_of_lt (by change c.tail.toNat + 1 < _; omega)
  show Stores _ (c.tail + 1).toNat _ _ _
  rw [htail]
  exact h.remove hlive rfl

lemma Has.none_before (hle : r ≤ after.toNat)
    (hfirst : ∀ e rest, live es r = e :: rest → after.toNat < e.sequence) :
    c.Has es after.toNat := by
  refine h.skip hle fun a ha hr => ?_
  have hmem := mem_live.mpr ⟨ha, hr⟩
  cases hlive : live es r with
  | nil =>
    rw [hlive] at hmem
    cases hmem
  | cons e rest =>
    have hsorted : (e :: rest).Pairwise fun a b => a.sequence < b.sequence :=
      hlive ▸ h.numbered.increasing.filter _
    have he := hfirst e rest hlive
    rw [hlive, mem_cons] at hmem
    rcases hmem with rfl | hrest
    · exact he
    · exact Nat.lt_trans he ((pairwise_cons.mp hsorted).1 a hrest)

/-- The loop of `spz_discard_through` frees the entries up to the cursor, if it has enough turns. -/
lemma Has.discardUpTo (hle : r ≤ after.toNat) (n : ℕ)
    (hn : (live es r).length ≤ n) : (discardUpTo after n c).Has es after.toNat := by
  induction n generalizing c r with
  | zero =>
    refine h.none_before hle fun e rest hlive => ?_
    rw [hlive, length_cons] at hn
    omega
  | succ n ih =>
    rw [discardUpTo]
    split_ifs with hstop
    · refine h.none_before hle fun e rest hlive => ?_
      have he := (mem_live.mp (hlive ▸ mem_cons_self : e ∈ live es r)).1
      rw [h.tailSlot hlive] at hstop
      rcases hstop with hzero | hafter
      · exact absurd hzero (h.commit_ne_zero he)
      · rwa [gt_iff_lt, lt_def, Entry.commit_toNat (h.numbered.lt e he)] at hafter
    · cases hlive : live es r with
      | nil =>
        -- with no entry left the slot at the tail is free, and the loop has stopped
        have hroom := h.headSlot_commit.mpr (by rw [hlive]; exact Nat.zero_lt_succ _)
        have hspan := h.span
        rw [hlive, length_nil, Nat.add_zero] at hspan
        rw [headSlot, index, ← hspan] at hroom
        exact absurd (.inl hroom) hstop
      | cons e rest =>
        have he := (mem_live.mp (hlive ▸ mem_cons_self : e ∈ live es r)).1
        rw [h.tailSlot hlive, not_or, gt_iff_lt, lt_def,
          Entry.commit_toNat (h.numbered.lt e he), Nat.not_lt] at hstop
        refine ih (h.dropTail hlive) hstop.2 ?_
        rw [live_first h.numbered hlive]
        rw [hlive, length_cons] at hn
        omega

lemma Has.discardThrough (hle : r ≤ after.toNat) : (c.discardThrough after).Has es after.toNat := by
  have hspan := h.span
  exact h.discardUpTo hle _ (by omega)

/-- The event at the tail is offered if it has the number after the last one gone. -/
lemma Has.offers (hr : r + 1 < 2 ^ 64) :
    c.offers (BitVec.ofNat 64 (r + 1)) =
      ((live es r).head?.filter fun e => e.sequence == r + 1).map fun e => e.slot.event := by
  have hspan := h.span
  unfold CpuRing.offers
  cases hlive : live es r with
  | nil =>
    rw [hlive, length_nil, Nat.add_zero] at hspan
    rw [if_pos (by rw [ge_iff_le, le_def]; omega)]
    rfl
  | cons e rest =>
    rw [hlive, length_cons] at hspan
    have he := (mem_live.mp (hlive ▸ mem_cons_self : e ∈ live es r)).1
    rw [if_neg (by rw [ge_iff_le, BitVec.le_def]; omega), h.tailSlot hlive]
    have hcommit : e.slot.commit = BitVec.ofNat 64 (r + 1) ↔ e.sequence = r + 1 := by
      rw [← BitVec.toNat_inj, Entry.commit_toNat (h.numbered.lt e he), BitVec.toNat_ofNat,
        Nat.mod_eq_of_lt hr]
    by_cases hseq : e.sequence = r + 1
    · rw [if_neg (not_not.mpr (hcommit.mpr hseq))]
      simp [Option.filter, hseq]
    · rw [if_pos (fun heq => hseq (hcommit.mp heq))]
      simp [Option.filter, hseq]

end CpuRing

/-! ## The whole ring -/

/-- A ring with nothing half done: each CPU holds what it has published after the consumer's
cursor, and no sequence number occurs twice. -/
structure RingHas (ring : Ring) (es : ℕ → List Entry) : Prop where
  cpu : ∀ i < maxCpus, (ring.cpu i).Has (es i) ring.consumerAfter.toNat
  le : ∀ i < maxCpus, ∀ e ∈ es i, e.sequence ≤ ring.nextSequence.toNat
  after_le : ring.consumerAfter.toNat ≤ ring.nextSequence.toNat
  unique : ∀ i < maxCpus, ∀ j < maxCpus, ∀ e ∈ es i, ∀ e' ∈ es j, e.sequence = e'.sequence → i = j

lemma ringInit_has : RingHas ringInit fun _ => [] :=
  ⟨fun _ _ => has_zero _, by simp, Nat.le_refl _, by simp⟩

variable {ring : Ring} {es : ℕ → List Entry} {cpu : ℕ} {source : Event}

lemma RingHas.updateCpu (h : RingHas ring es) {f : CpuRing → CpuRing}
    (hf : (f (ring.cpu cpu)).tail = (ring.cpu cpu).tail ∧
      (f (ring.cpu cpu)).head = (ring.cpu cpu).head ∧
      (f (ring.cpu cpu)).slots = (ring.cpu cpu).slots) : RingHas (ring.updateCpu cpu f) es := by
  obtain ⟨htail, hhead, hslots⟩ := hf
  refine ⟨fun i hi => ?_, h.le, h.after_le, h.unique⟩
  by_cases heq : i = cpu
  · subst heq
    rw [Ring.updateCpu_self, CpuRing.Has, htail, hhead, hslots]
    exact h.cpu i hi
  · rw [Ring.updateCpu_of_ne _ heq]
    exact h.cpu i hi

section

variable (ring cpu source)

/-- What `spz_publish` stores. -/
def nextEntry : Entry :=
  .stamped (ring.nextSequence.toNat + 1) cpu source

/-- The ring after `spz_publish` has succeeded. -/
def ringPublished : Ring :=
  { ring with nextSequence := ring.nextSequence + 1 }.updateCpu cpu
    (·.append (ring.nextSequence + 1) (stampEvent cpu (ring.nextSequence + 1) source))

lemma nextEntry_slot : (nextEntry ring cpu source).slot =
    ⟨ring.nextSequence + 1, stampEvent cpu (ring.nextSequence + 1) source⟩ := by
  simp only [Entry.slot, nextEntry, Entry.stamped, ofNat_toNat_add_one]

end

/-- `spz_publish` in a ring with nothing half done: `-ENOSPC` without room, `-EOVERFLOW` when
the sequence numbers are used up, and never `-EBUSY`. -/
lemma RingHas.ringPublish_eq (h : RingHas ring es) (hcpu : cpu < maxCpus) (source : Event) :
    ringPublish ring cpu source =
      if (live (es cpu) ring.consumerAfter.toNat).length < ringCapacity then
        if ring.nextSequence = allOnes 64 then (.error EOVERFLOW, ring)
        else (.ok (), ringPublished ring cpu source)
      else (.error ENOSPC, ring) := by
  have hc := h.cpu cpu hcpu
  unfold ringPublish
  by_cases hroom : (live (es cpu) ring.consumerAfter.toNat).length < ringCapacity
  · rw [if_neg (fun hfull => hc.used_ge_iff.mp hfull hroom),
      if_neg (not_not.mpr (hc.headSlot_commit.mpr hroom)), if_pos hroom, nextSequence]
    by_cases hlast : ring.nextSequence = allOnes 64
    · rw [if_pos hlast, if_pos hlast]
    · rw [if_neg hlast, if_neg hlast]
      rfl
  · rw [if_pos (hc.used_ge_iff.mpr hroom), if_neg hroom]

lemma ringPublished_nextSequence (hlast : ring.nextSequence ≠ allOnes 64) :
    (ringPublished ring cpu source).nextSequence.toNat = ring.nextSequence.toNat + 1 := by
  exact toNat_add_one hlast

/-- Publishing keeps the ring in order and adds the event. -/
lemma RingHas.published (h : RingHas ring es) (hcpu : cpu < maxCpus)
    (hroom : (live (es cpu) ring.consumerAfter.toNat).length < ringCapacity)
    (hlast : ring.nextSequence ≠ allOnes 64) (source : Event) :
    RingHas (ringPublished ring cpu source)
      (update es cpu (es cpu ++ [nextEntry ring cpu source])) := by
  have hnext : (ringPublished ring cpu source).nextSequence.toNat = _ :=
    ringPublished_nextSequence hlast
  have hlt := (ringPublished ring cpu source).nextSequence.isLt
  have hnew : ∀ i < maxCpus, ∀ e ∈ update es cpu (es cpu ++ [nextEntry ring cpu source]) i,
      e ∈ es i ∨ i = cpu ∧ e = nextEntry ring cpu source := by
    intro i _ e he
    by_cases hi : i = cpu
    · subst hi
      rw [update_self, mem_append, mem_singleton] at he
      exact he.imp_right fun he => ⟨rfl, he⟩
    · rw [update_of_ne hi] at he
      exact .inl he
  refine ⟨fun i hi => ?_, fun i hi e he => ?_, ?_, fun i hi j hj e he e' he' hsame => ?_⟩
  · by_cases heq : i = cpu
    · subst heq
      have happ := (h.cpu i hi).append (e := nextEntry ring i source) hroom
        (fun a ha => Nat.lt_succ_of_le (h.le i hi a ha)) (Nat.lt_succ_of_le h.after_le)
        (by rw [hnext] at hlt; exact hlt)
      rw [nextEntry_slot] at happ
      rw [update_self]
      show CpuRing.Has (update ring.cpu i _ i) _ _
      rw [update_self]
      exact happ
    · rw [update_of_ne heq]
      show CpuRing.Has (update ring.cpu cpu _ i) _ _
      rw [update_of_ne heq]
      exact h.cpu i hi
  · rw [hnext]
    rcases hnew i hi e he with hold | ⟨-, rfl⟩
    · exact Nat.le_succ_of_le (h.le i hi e hold)
    · exact Nat.le_refl _
  · rw [hnext]
    exact Nat.le_succ_of_le h.after_le
  · -- the new number is larger than all others
    rcases hnew i hi e he with hold | ⟨rfl, rfl⟩ <;> rcases hnew j hj e' he' with hold' | ⟨rfl, rfl⟩
    · exact h.unique i hi j hj e hold e' hold' hsame
    · have := h.le i hi e hold
      simp only [nextEntry, Entry.stamped] at hsame
      omega
    · have := h.le j hj e' hold'
      simp only [nextEntry, Entry.stamped] at hsame
      omega
    · rfl

lemma findSome?_range_unique {β : Type*} {f : ℕ → Option β} {n c : ℕ} {v : β} (hc : c < n)
    (hv : f c = some v) (hother : ∀ i < n, i ≠ c → f i = none) :
    (List.range n).findSome? f = some v := by
  induction n with
  | zero => omega
  | succ n ih =>
    rw [range_succ, List.findSome?_append]
    by_cases hlast : c = n
    · subst hlast
      rw [List.findSome?_eq_none_iff.mpr fun i hi => hother i (by
        have := mem_range.mp hi
        omega) (by have := mem_range.mp hi; omega)]
      simp [hv]
    · rw [ih (by omega) fun i hi => hother i (by omega)]
      rfl

/-- The ring after `spz_ring_pop_after` has freed everything up to the cursor. -/
def ringDiscarded (ring : Ring) (after : U64) : Ring :=
  { ring with
    cpu := fun i => if i < maxCpus then (ring.cpu i).discardThrough after else ring.cpu i
    consumerAfter := if after > ring.consumerAfter then after else ring.consumerAfter }

/-- The ring after the event at the tail of a CPU has been handed out. -/
def ringConsumed (ring : Ring) (cpu : ℕ) (sequence : U64) : Ring :=
  { ring.updateCpu cpu dropTail with consumerAfter := sequence }

variable {after : U64}

lemma ringDiscarded_consumerAfter (hge : ring.consumerAfter ≤ after) :
    (ringDiscarded ring after).consumerAfter = after := by
  show (if after > ring.consumerAfter then after else ring.consumerAfter) = after
  split_ifs with hgt
  · rfl
  · rw [gt_iff_lt, lt_def] at hgt
    rw [le_def] at hge
    rw [← toNat_inj]
    omega

lemma RingHas.discarded (h : RingHas ring es) (hge : ring.consumerAfter ≤ after)
    (hle : after ≤ ring.nextSequence) : RingHas (ringDiscarded ring after) es := by
  refine ⟨fun i hi => ?_, h.le, ?_, h.unique⟩
  · rw [ringDiscarded_consumerAfter hge]
    show CpuRing.Has (if i < maxCpus then _ else _) _ _
    rw [if_pos hi]
    exact (h.cpu i hi).discardThrough hge
  · rw [ringDiscarded_consumerAfter hge]
    exact hle

variable {e : Entry}

section

variable (h : RingHas ring es)
include h

section

variable (hcpu : cpu < maxCpus)
include hcpu

/-- The next event is consumed. -/
lemma RingHas.consumed {rest : List Entry}
    (hlive : live (es cpu) ring.consumerAfter.toNat = e :: rest)
    (hseq : e.sequence = ring.consumerAfter.toNat + 1) :
    RingHas (ringConsumed ring cpu (ring.consumerAfter + 1)) es := by
  have hmem := (mem_live.mp (hlive ▸ mem_cons_self : e ∈ live _ _)).1
  have hlt := (h.cpu cpu hcpu).numbered.lt e hmem
  have hafter : (ring.consumerAfter + 1).toNat = e.sequence := by
    rw [toNat_add, hseq]
    exact Nat.mod_eq_of_lt (by rw [hseq] at hlt; exact hlt)
  refine ⟨fun i hi => ?_, h.le, ?_, h.unique⟩
  · show CpuRing.Has (update ring.cpu cpu _ i) _ (ring.consumerAfter + 1).toNat
    rw [hafter]
    by_cases heq : i = cpu
    · subst heq
      rw [update_self]
      exact (h.cpu i hi).dropTail hlive
    · rw [update_of_ne heq]
      -- the number belongs to another CPU
      refine (h.cpu i hi).skip (by omega) fun a ha hr => ?_
      have hne : a.sequence ≠ e.sequence := fun hsame =>
        heq (h.unique i hi cpu hcpu a ha e hmem hsame)
      omega
  · show (ring.consumerAfter + 1).toNat ≤ _
    rw [hafter]
    exact h.le cpu hcpu e hmem

lemma RingHas.live_next (he : e ∈ es cpu) (hseq : e.sequence = ring.consumerAfter.toNat + 1) :
    ∃ rest, live (es cpu) ring.consumerAfter.toNat = e :: rest := by
  have hmem : e ∈ live (es cpu) ring.consumerAfter.toNat := mem_live.mpr ⟨he, by omega⟩
  have hsorted : (live (es cpu) ring.consumerAfter.toNat).Pairwise
      fun a b => a.sequence < b.sequence := (h.cpu cpu hcpu).numbered.increasing.filter _
  cases hlive : live (es cpu) ring.consumerAfter.toNat with
  | nil =>
    rw [hlive] at hmem
    cases hmem
  | cons a rest =>
    rw [hlive, mem_cons] at hmem
    rcases hmem with rfl | hrest
    · exact ⟨rest, rfl⟩
    · have ha := (mem_live.mp (hlive ▸ mem_cons_self : a ∈ live _ _)).2
      have := (pairwise_cons.mp (hlive ▸ hsorted)).1 e hrest
      omega

lemma RingHas.offers_none (hlt : ring.consumerAfter.toNat + 1 < 2 ^ 64)
    (hnone : ∀ e ∈ es cpu, e.sequence ≠ ring.consumerAfter.toNat + 1) :
    (ring.cpu cpu).offers (BitVec.ofNat 64 (ring.consumerAfter.toNat + 1)) = none := by
  rw [(h.cpu cpu hcpu).offers hlt]
  cases hlive : live (es cpu) ring.consumerAfter.toNat with
  | nil => rfl
  | cons e rest =>
    have hmem := (mem_live.mp (hlive ▸ mem_cons_self : e ∈ live _ _)).1
    simp [Option.filter, hnone e hmem]

lemma RingHas.ringSelect_some (he : e ∈ es cpu) (hseq : e.sequence = ring.consumerAfter.toNat + 1) :
    ringSelect ring (BitVec.ofNat 64 (ring.consumerAfter.toNat + 1)) =
      some (cpu, e.slot.event) := by
  have hlt : ring.consumerAfter.toNat + 1 < 2 ^ 64 := hseq ▸ (h.cpu cpu hcpu).numbered.lt e he
  obtain ⟨rest, hlive⟩ := h.live_next hcpu he hseq
  refine findSome?_range_unique hcpu ?_ fun i hi hne => ?_
  · rw [(h.cpu cpu hcpu).offers hlt, hlive]
    simp [Option.filter, hseq]
  · rw [h.offers_none hi hlt]
    · rfl
    · exact fun a ha hsame => hne (h.unique i hi cpu hcpu a ha e he (hsame.trans hseq.symm))

end

lemma RingHas.ringSelect_none (hlt : ring.consumerAfter.toNat + 1 < 2 ^ 64)
    (hnone : ∀ i < maxCpus, ∀ e ∈ es i, e.sequence ≠ ring.consumerAfter.toNat + 1) :
    ringSelect ring (BitVec.ofNat 64 (ring.consumerAfter.toNat + 1)) = none := by
  refine List.findSome?_eq_none_iff.mpr fun i hi => ?_
  have hi := mem_range.mp hi
  rw [h.offers_none hi hlt (hnone i hi)]
  rfl

end

lemma ringPopAfter_eq (hge : ring.consumerAfter ≤ after) (hle : after ≤ ring.nextSequence)
    (hlast : after ≠ allOnes 64) :
    ringPopAfter ring after =
      match ringSelect (ringDiscarded ring after) (after + 1) with
      | none => (.ok none, ringDiscarded ring after)
      | some (cpu, event) =>
        (.ok (some event), ringConsumed (ringDiscarded ring after) cpu (after + 1)) := by
  unfold ringPopAfter
  rw [if_neg (by rw [lt_def]; rw [le_def] at hge; omega),
    if_neg (by rw [gt_iff_lt, lt_def]; rw [le_def] at hle; omega), if_neg hlast]
  rfl

/-- The event with the next number is handed out. -/
lemma RingHas.pop_some (h : RingHas ring es) (hge : ring.consumerAfter ≤ after)
    (hle : after ≤ ring.nextSequence) (hcpu : cpu < maxCpus) (he : e ∈ es cpu)
    (hseq : e.sequence = after.toNat + 1) :
    ringPopAfter ring after =
        (.ok (some e.slot.event), ringConsumed (ringDiscarded ring after) cpu (after + 1)) ∧
      RingHas (ringConsumed (ringDiscarded ring after) cpu (after + 1)) es := by
  have hlast : after ≠ BitVec.allOnes 64 := fun heq => by
    have := (h.cpu cpu hcpu).numbered.lt e he
    rw [hseq, heq, toNat_allOnes] at this
    omega
  have hd := h.discarded hge hle
  have hafter := ringDiscarded_consumerAfter hge
  obtain ⟨rest, hlive⟩ := hd.live_next hcpu he (by rw [hafter, hseq])
  have hselect := hd.ringSelect_some hcpu he (by rw [hafter, hseq])
  have hconsumed := hd.consumed hcpu hlive (by rw [hafter, hseq])
  rw [hafter] at hselect hconsumed
  rw [ofNat_toNat_add_one] at hselect
  rw [ringPopAfter_eq hge hle hlast, hselect]
  exact ⟨rfl, hconsumed⟩

lemma RingHas.pop_none (h : RingHas ring es) (hge : ring.consumerAfter ≤ after)
    (hle : after ≤ ring.nextSequence) (hlast : after ≠ allOnes 64)
    (hnone : ∀ i < maxCpus, ∀ e ∈ es i, e.sequence ≠ after.toNat + 1) :
    ringPopAfter ring after = (.ok none, ringDiscarded ring after) := by
  have hd := h.discarded hge hle
  have hafter := ringDiscarded_consumerAfter hge
  have hselect := hd.ringSelect_none (by rw [hafter]; exact toNat_add_one_lt hlast)
    (by rw [hafter]; exact hnone)
  rw [hafter, ofNat_toNat_add_one] at hselect
  rw [ringPopAfter_eq hge hle hlast, hselect]

end Spz
