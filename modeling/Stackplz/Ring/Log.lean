import Stackplz.Ring.Contents

/-!
# The log of a ring

The events of all CPUs in the order in which they were published: the one at position `i` has the
number `i + 1`.  The log determines what each CPU holds (`entriesOf`); `HoldsLog` says that a ring
holds just that and that nothing is half done.
-/

namespace Spz

open Errno List

/-- A published event: one that was pushed, or the report of lost ones. -/
structure Published where
  cpu : ℕ
  source : Event
  report : Bool := false

/-- The event as the consumer receives it. -/
def Published.delivered (p : Published) (number : ℕ) : Event :=
  stampEvent p.cpu (BitVec.ofNat 64 number) p.source

def entriesOf (log : List Published) (cpu : ℕ) : List Entry :=
  (log.zipIdx 1).filterMap fun p => if p.1.cpu = cpu then some (.stamped p.2 cpu p.1.source)
    else none

lemma entriesOf_append (log : List Published) (p : Published) :
    entriesOf (log ++ [p]) = Function.update (entriesOf log) p.cpu
      (entriesOf log p.cpu ++ [.stamped (log.length + 1) p.cpu p.source]) := by
  funext cpu
  have hlast : [p].zipIdx (1 + log.length) = [(p, log.length + 1)] := by
    rw [Nat.add_comm]
    rfl
  rw [entriesOf, zipIdx_append, filterMap_append, hlast]
  by_cases hcpu : cpu = p.cpu
  · subst hcpu
    simp [entriesOf]
  · rw [Function.update_of_ne hcpu]
    simp [entriesOf, Ne.symm hcpu]

variable {log : List Published}

variable {cpu i : ℕ} {e : Entry}

lemma mem_entriesOf (h : e ∈ entriesOf log cpu) :
    ∃ p, log[e.sequence - 1]? = some p ∧ 0 < e.sequence ∧ p.cpu = cpu ∧
      e = .stamped e.sequence cpu p.source := by
  simp only [entriesOf, mem_filterMap] at h
  obtain ⟨⟨p, i⟩, hmem, hsome⟩ := h
  obtain ⟨hpos, hget⟩ := mem_zipIdx_iff_le_and_getElem?_sub.mp hmem
  dsimp only at hsome
  split_ifs at hsome with hcpu
  cases hsome
  exact ⟨p, hget, hpos, hcpu, rfl⟩

lemma entriesOf_mem {p : Published} (h : log[i]? = some p) :
    Entry.stamped (i + 1) p.cpu p.source ∈ entriesOf log p.cpu := by
  simp only [entriesOf, mem_filterMap]
  refine ⟨(p, i + 1), mem_zipIdx_iff_le_and_getElem?_sub.mpr ⟨by omega, ?_⟩, by simp⟩
  simpa using h

lemma entriesOf_le (h : e ∈ entriesOf log cpu) : e.sequence ≤ log.length := by
  obtain ⟨p, hp, hpos, -⟩ := mem_entriesOf h
  have := (List.getElem?_eq_some_iff.mp hp).1
  omega

lemma entriesOf_unique {j : ℕ} {e' : Entry} (h : e ∈ entriesOf log i)
    (h' : e' ∈ entriesOf log j) (hsame : e.sequence = e'.sequence) : i = j := by
  obtain ⟨p, hp, -, hi, -⟩ := mem_entriesOf h
  obtain ⟨p', hp', -, hj, -⟩ := mem_entriesOf h'
  rw [hsame, hp'] at hp
  cases hp
  rw [← hi, ← hj]

lemma entriesOf_numbered (h : log.length < 2 ^ 64) (cpu : ℕ) : Numbered (entriesOf log cpu) := by
  induction log using reverseRecOn with
  | nil => exact ⟨List.Pairwise.nil, by simp [entriesOf], by simp [entriesOf]⟩
  | append_singleton log p ih =>
    rw [length_append, length_singleton] at h
    rw [entriesOf_append]
    by_cases hcpu : cpu = p.cpu
    · subst hcpu
      rw [Function.update_self]
      exact (ih (by omega)).append (fun a ha => Nat.lt_succ_of_le (entriesOf_le ha))
        (Nat.zero_lt_succ _) h
    · rw [Function.update_of_ne hcpu]
      exact ih (by omega)

/-! ## A ring with nothing half done -/

/-- The ring holds what the log says. -/
structure HoldsLog (ring : Ring) (log : List Published) : Prop where
  has : RingHas ring (entriesOf log)
  next : ring.nextSequence.toNat = log.length
  cpus : ∀ p ∈ log, p.cpu < maxCpus

namespace HoldsLog

variable {ring : Ring} {source : Event} {after : U64}

lemma init : HoldsLog ringInit [] := ⟨ringInit_has, rfl, by simp⟩

variable (h : HoldsLog ring log)
include h

lemma updateCpu {f : CpuRing → CpuRing}
    (hf : (f (ring.cpu cpu)).tail = (ring.cpu cpu).tail ∧
      (f (ring.cpu cpu)).head = (ring.cpu cpu).head ∧
      (f (ring.cpu cpu)).slots = (ring.cpu cpu).slots) : HoldsLog (ring.updateCpu cpu f) log :=
  ⟨h.has.updateCpu hf, h.next, h.cpus⟩

lemma published (hcpu : cpu < maxCpus)
    (hroom : (live (entriesOf log cpu) ring.consumerAfter.toNat).length < ringCapacity)
    (hlast : ring.nextSequence ≠ BitVec.allOnes 64) (source : Event) (report : Bool) :
    HoldsLog (ringPublished ring cpu source) (log ++ [⟨cpu, source, report⟩]) := by
  have hhas := h.has.published hcpu hroom hlast source
  rw [nextEntry, h.next] at hhas
  refine ⟨?_, ?_, fun p hp => ?_⟩
  · rw [entriesOf_append]
    exact hhas
  · rw [ringPublished_nextSequence hlast, h.next, length_append]
    rfl
  · rcases mem_append.mp hp with hold | hnew
    · exact h.cpus p hold
    · rw [mem_singleton.mp hnew]
      exact hcpu

lemma pop_event (hge : ring.consumerAfter ≤ after) {p : Published}
    (hp : log[after.toNat]? = some p) :
    ringPopAfter ring after = (.ok (some (p.delivered (after.toNat + 1))),
        ringConsumed (ringDiscarded ring after) p.cpu (after + 1)) ∧
      RingHas (ringConsumed (ringDiscarded ring after) p.cpu (after + 1)) (entriesOf log) := by
  have hle : after ≤ ring.nextSequence := by
    rw [BitVec.le_def, h.next]
    exact Nat.le_of_lt (List.getElem?_eq_some_iff.mp hp).1
  exact h.has.pop_some hge hle (h.cpus p (List.mem_of_getElem? hp)) (entriesOf_mem hp) rfl

lemma pop_empty (hge : ring.consumerAfter ≤ after) (hle : after ≤ ring.nextSequence)
    (hlast : after ≠ BitVec.allOnes 64) (hnone : log[after.toNat]? = none) :
    ringPopAfter ring after = (.ok none, ringDiscarded ring after) := by
  refine h.has.pop_none hge hle hlast fun i _ e he hseq => ?_
  obtain ⟨p, hp, -⟩ := mem_entriesOf he
  rw [hseq, Nat.add_sub_cancel, hnone] at hp
  cases hp

end HoldsLog

end Spz
