import Mathlib.Algebra.GroupWithZero.Nat
import Stackplz.Lib.Transition
import Stackplz.Ring.Log

/-!
# The ring as one queue

What the ring is for: one queue for all CPUs (`Fifo`).  Events are numbered from 1 in the order in
which they are published, a consumer asks for the event after the last one it has seen, and a CPU
that has 64 events waiting loses the next ones, which it reports in a record of its own as soon as
there is room for that record and for an event.

`ring_refines_fifo` says that the ring of `core/ring.c`, called as a whole, answers as this queue
does, over every sequence of calls.
-/

namespace Spz

open Errno Transition Function CpuRing List
open BitVec hiding not_and

/-! ## The queue -/

/-- The queue.  The event at position `i` of the log has the number `i + 1`; those up to `after`
are gone.  `lost` counts the refused events of a CPU, `pending` those that are not reported yet. -/
structure Fifo where
  log : List Published := []
  after : ℕ := 0
  lost : ℕ → ℕ := fun _ => 0
  pending : ℕ → U64 := fun _ => 0

namespace Fifo

section

variable (f : Fifo)

/-- How many events of a CPU are waiting. -/
def held (cpu : ℕ) : ℕ := (live (entriesOf f.log cpu) f.after).length

/-- The report of the lost events of a CPU. -/
def reportOf (cpu : ℕ) : Published where
  cpu := cpu
  source :=
    { type := .loss
      value := f.pending cpu
      observedAddress := BitVec.ofNat 64 (f.lost cpu) }
  report := true

def publish (p : Published) : Fifo := { f with log := f.log ++ [p] }

def refuse (cpu : ℕ) : Fifo :=
  { f with
    lost := update f.lost cpu (f.lost cpu + 1)
    pending := update f.pending cpu (f.pending cpu + 1) }

/-- Publish the report of the lost events. -/
def settle (cpu : ℕ) : Fifo :=
  { f.publish (f.reportOf cpu) with pending := update f.pending cpu 0 }

/-- Report earlier losses, if there is room for the report and for an event. -/
def reportLoss (cpu : ℕ) : Fifo :=
  if f.pending cpu ≠ 0 ∧ f.held cpu + 2 ≤ ringCapacity then f.settle cpu else f

def push (cpu : ℕ) (event : Event) : Except Errno Unit × Fifo :=
  if cpu ≥ maxCpus then (.error EINVAL, f)
  else if f.held cpu ≥ ringCapacity then (.error ENOSPC, f.refuse cpu)
  else (.ok (), (f.reportLoss cpu).publish { cpu := cpu, source := event })

/-- The event after the cursor, with its number; the last 64-bit number is no cursor. -/
def pop (after : ℕ) : Except Errno (Option (ℕ × Published)) × Fifo :=
  if after < f.after then (.error ESTALE, f)
  else if after > f.log.length then (.error ERANGE, f)
  else if after + 1 = 2 ^ 64 then (.error EOVERFLOW, f)
  else
    match f.log[after]? with
    | none => (.ok none, { f with after := after })
    | some p => (.ok (some (after + 1, p)), { f with after := after + 1 })

def reported (cpu : ℕ) : ℕ :=
  ((f.log.filter fun p => p.report && p.cpu == cpu).map fun p => p.source.value.toNat).sum

end

/-- What a poll can do. -/
inductive PopEffect (f : Fifo) (after : ℕ) : Except Errno (Option (ℕ × Published)) × Fifo → Prop
  | failed (e : Errno) : after < f.after ∨ f.log.length < after ∨ after + 1 = 2 ^ 64 →
      PopEffect f after (.error e, f)
  | empty : f.after ≤ after → f.log[after]? = none →
      PopEffect f after (.ok none, { f with after := after })
  | event (p : Published) : f.after ≤ after → after + 1 ≠ 2 ^ 64 → f.log[after]? = some p →
      PopEffect f after (.ok (some (after + 1, p)), { f with after := after + 1 })

lemma pop_effect (f : Fifo) (after : ℕ) : PopEffect f after (f.pop after) := by
  unfold Fifo.pop
  split_ifs with hstale hrange hlast
  · exact .failed _ (.inl hstale)
  · exact .failed _ (.inr (.inl hrange))
  · exact .failed _ (.inr (.inr hlast))
  · split
    case h_1 hnone => exact .empty (Nat.le_of_not_lt hstale) hnone
    case h_2 p hp => exact .event p (Nat.le_of_not_lt hstale) hlast hp

end Fifo

/-! ## The ring refines the queue -/

/-- The ring stands for the queue. -/
structure Refines (ring : Ring) (f : Fifo) : Prop extends HoldsLog ring f.log where
  after : ring.consumerAfter.toNat = f.after
  lost : ∀ cpu < maxCpus, (ring.cpu cpu).lost = BitVec.ofNat 64 (f.lost cpu)
  pending : ∀ cpu < maxCpus, (ring.cpu cpu).lossPending = f.pending cpu

namespace Refines

variable {ring : Ring} {f : Fifo} {cpu : ℕ} {event : Event}

lemma init : Refines ringInit {} := ⟨.init, rfl, fun _ _ => rfl, fun _ _ => rfl⟩

section

variable (h : Refines ring f)
include h

lemma updateLoss (cpu : ℕ) {g : CpuRing → CpuRing} (lost : ℕ) (pending : U64)
    (hg : g (ring.cpu cpu) =
      { ring.cpu cpu with lost := BitVec.ofNat 64 lost, lossPending := pending }) :
    Refines (ring.updateCpu cpu g) { f with
      lost := update f.lost cpu lost
      pending := update f.pending cpu pending } := by
  refine ⟨h.toHoldsLog.updateCpu (by rw [hg]; exact ⟨rfl, rfl, rfl⟩), h.after, fun i hi => ?_,
    fun i hi => ?_⟩
  all_goals
    dsimp only
    by_cases heq : i = cpu
  · subst heq
    rw [ring.updateCpu_self, hg, update_self]
  · rw [ring.updateCpu_of_ne heq, update_of_ne heq]
    exact h.lost i hi
  · subst heq
    rw [ring.updateCpu_self, hg, update_self]
  · rw [ring.updateCpu_of_ne heq, update_of_ne heq]
    exact h.pending i hi

section

variable (hcpu : cpu < maxCpus)
include hcpu

lemma refuse : Refines (ring.updateCpu cpu countLoss) (f.refuse cpu) := by
  refine h.updateLoss _ _ _ ?_
  rw [countLoss, h.lost cpu hcpu, h.pending cpu hcpu, BitVec.ofNat_add]
  rfl

lemma publish (hroom : f.held cpu < ringCapacity)
    (hshort : f.log.length + 1 < 2 ^ 64) (source : Event) (report : Bool) :
    ringPublish ring cpu source = (.ok (), ringPublished ring cpu source) ∧
      Refines (ringPublished ring cpu source) (f.publish ⟨cpu, source, report⟩) := by
  have hroom' : (live (entriesOf f.log cpu) ring.consumerAfter.toNat).length < ringCapacity := by
    rw [h.after]
    exact hroom
  have hlast : ring.nextSequence ≠ BitVec.allOnes 64 := fun heq => by
    have := h.next
    rw [heq, BitVec.toNat_allOnes] at this
    omega
  refine ⟨?_, h.toHoldsLog.published hcpu hroom' hlast source report, h.after, fun i hi => ?_,
    fun i hi => ?_⟩
  · rw [h.has.ringPublish_eq hcpu, if_pos hroom', if_neg hlast]
  · rw [ringPublished, Ring.updateCpu_same CpuRing.lost]
    exacts [h.lost i hi, fun _ => rfl]
  · rw [ringPublished, Ring.updateCpu_same CpuRing.lossPending]
    exacts [h.pending i hi, fun _ => rfl]

lemma freeSlots :
    (BitVec.ofNat 64 ringCapacity - (ring.cpu cpu).used).toNat = ringCapacity - f.held cpu := by
  rw [(h.has.cpu cpu hcpu).freeSlots, h.after]
  rfl

/-- The report of lost events. -/
lemma settle (hroom : f.held cpu < ringCapacity) (hshort : f.log.length + 1 < 2 ^ 64) :
    ∃ ring', ringPublish ring cpu (lossEvent (ring.cpu cpu)) = (.ok (), ring') ∧
      Refines (ring'.updateCpu cpu
        fun c => { c with lossPending := c.lossPending - (ring.cpu cpu).lossPending })
        (f.settle cpu) := by
  have hreport : lossEvent (ring.cpu cpu) = (f.reportOf cpu).source := by
    rw [lossEvent, h.lost cpu hcpu, h.pending cpu hcpu]
    rfl
  obtain ⟨heq, hpub⟩ := h.publish hcpu hroom hshort (lossEvent (ring.cpu cpu)) true
  refine ⟨_, heq, ?_⟩
  have hset := hpub.updateLoss cpu
    (g := fun c => { c with lossPending := c.lossPending - (ring.cpu cpu).lossPending })
    (f.lost cpu) 0 ?_
  · dsimp only [Fifo.publish] at hset
    rw [hreport, update_eq_self] at hset
    rw [hreport]
    exact hset
  · have hlost := hpub.lost cpu hcpu
    have hpending := hpub.pending cpu hcpu
    dsimp only [Fifo.publish] at hlost hpending
    rw [hlost, hpending, h.pending cpu hcpu, BitVec.sub_self]
    rfl

end

lemma held_settle : (f.settle cpu).held cpu = f.held cpu + 1 := by
  have hle := h.has.after_le
  rw [h.next, h.after] at hle
  have hmine : entriesOf (f.settle cpu).log cpu =
      entriesOf f.log cpu ++ [.stamped (f.log.length + 1) cpu (f.reportOf cpu).source] := by
    show entriesOf (f.log ++ [f.reportOf cpu]) cpu = _
    rw [entriesOf_append]
    exact update_self ..
  show (live (entriesOf (f.settle cpu).log cpu) f.after).length = _
  rw [hmine, live_append (Nat.lt_succ_of_le hle), length_append]
  rfl

/-- The report is the queue's, and leaves room for an event. -/
lemma reportLoss (hcpu : cpu < maxCpus) (hroom : f.held cpu < ringCapacity)
    (hshort : (f.reportLoss cpu).log.length < 2 ^ 64) :
    ∃ ring', ringReportLoss ring cpu (BitVec.ofNat 64 ringCapacity - (ring.cpu cpu).used) =
        (.ok (), ring') ∧
      Refines ring' (f.reportLoss cpu) ∧ (f.reportLoss cpu).held cpu < ringCapacity := by
  have htwo : BitVec.ofNat 64 ringCapacity - (ring.cpu cpu).used ≥ 2 ↔
      f.held cpu + 2 ≤ ringCapacity := by
    rw [ge_iff_le, BitVec.le_def, h.freeSlots hcpu]
    change 2 ≤ _ ↔ _
    omega
  unfold ringReportLoss Fifo.reportLoss at *
  by_cases hreport : f.pending cpu ≠ 0 ∧ f.held cpu + 2 ≤ ringCapacity
  · rw [if_pos hreport] at hshort ⊢
    simp only [Fifo.publish, Fifo.settle, length_append, length_singleton] at hshort
    obtain ⟨ring', heq, hset⟩ := h.settle hcpu hroom hshort
    dsimp only
    rw [if_pos ⟨h.pending cpu hcpu ▸ hreport.1, htwo.mpr hreport.2⟩, heq]
    exact ⟨_, rfl, hset, by rw [h.held_settle]; omega⟩
  · rw [if_neg hreport] at hshort ⊢
    dsimp only
    rw [if_neg fun hc => hreport ⟨h.pending cpu hcpu ▸ hc.1, htwo.mp hc.2⟩]
    exact ⟨_, rfl, h, hroom⟩

/-- `spz_ring_push` is the queue's push. -/
lemma push (hshort : (f.push cpu event).2.log.length < 2 ^ 64) :
    (ringPush ring cpu event).1 = (f.push cpu event).1 ∧
      Refines (ringPush ring cpu event).2 (f.push cpu event).2 := by
  unfold ringPush Fifo.push at *
  by_cases hcpu : cpu ≥ maxCpus
  · rw [if_pos hcpu, if_pos hcpu]
    exact ⟨rfl, h⟩
  rw [if_neg hcpu] at hshort ⊢
  rw [if_neg hcpu]
  have hcpu : cpu < maxCpus := Nat.lt_of_not_le hcpu
  have hzero : BitVec.ofNat 64 ringCapacity - (ring.cpu cpu).used = 0 ↔
      f.held cpu ≥ ringCapacity := by
    rw [← BitVec.toNat_inj, h.freeSlots hcpu]
    change _ = 0 ↔ _
    omega
  dsimp only
  by_cases hfull : f.held cpu ≥ ringCapacity
  · rw [if_pos (hzero.mpr hfull), if_pos hfull]
    exact ⟨rfl, h.refuse hcpu⟩
  · rw [if_neg hfull] at hshort ⊢
    rw [if_neg (fun hz => hfull (hzero.mp hz))]
    simp only [Fifo.publish, length_append, length_singleton] at hshort
    obtain ⟨ring', heq, hreport, hroom⟩ := h.reportLoss hcpu (Nat.lt_of_not_le hfull) (by omega)
    obtain ⟨heq', hpub⟩ := hreport.publish hcpu hroom hshort event false
    simp only [heq, heq']
    exact ⟨trivial, hpub⟩

end

lemma discardUpTo_loss (after : U64) (n : ℕ) (c : CpuRing) :
    (discardUpTo after n c).lost = c.lost ∧
      (discardUpTo after n c).lossPending = c.lossPending := by
  induction n generalizing c with
  | zero => exact ⟨rfl, rfl⟩
  | succ n ih =>
    rw [discardUpTo]
    split_ifs
    · exact ⟨rfl, rfl⟩
    · exact ih c.dropTail

variable (h : Refines ring f)
include h

lemma discarded {after : U64} (hge : ring.consumerAfter ≤ after) (hle : after ≤ ring.nextSequence) :
    Refines (ringDiscarded ring after) { f with after := after.toNat } := by
  refine ⟨⟨h.has.discarded hge hle, h.next, h.cpus⟩, ?_, fun i hi => ?_, fun i hi => ?_⟩
  · rw [ringDiscarded_consumerAfter hge]
  · show (if i < maxCpus then _ else _ : CpuRing).lost = _
    rw [if_pos hi]
    exact (discardUpTo_loss after _ _).1.trans (h.lost i hi)
  · show (if i < maxCpus then _ else _ : CpuRing).lossPending = _
    rw [if_pos hi]
    exact (discardUpTo_loss after _ _).2.trans (h.pending i hi)

lemma consumed (cpu : ℕ) {sequence : U64}
    (hhas : RingHas (ringConsumed ring cpu sequence) (entriesOf f.log)) :
    Refines (ringConsumed ring cpu sequence) { f with after := sequence.toNat } := by
  refine ⟨⟨hhas, h.next, h.cpus⟩, rfl, fun i hi => ?_, fun i hi => ?_⟩
  · show ((ring.updateCpu cpu CpuRing.dropTail).cpu i).lost = _
    rw [Ring.updateCpu_same CpuRing.lost]
    exacts [h.lost i hi, fun _ => rfl]
  · show ((ring.updateCpu cpu CpuRing.dropTail).cpu i).lossPending = _
    rw [Ring.updateCpu_same lossPending]
    exacts [h.pending i hi, fun _ => rfl]

/-- `spz_ring_pop_after` is the queue's pop. -/
lemma pop (after : U64) :
    (ringPopAfter ring after).1 =
        (f.pop after.toNat).1.map (Option.map fun p => p.2.delivered p.1) ∧
      Refines (ringPopAfter ring after).2 (f.pop after.toNat).2 := by
  unfold Fifo.pop
  rw [← h.after, ← h.next]
  by_cases hstale : after < ring.consumerAfter
  · rw [ringPopAfter, if_pos hstale, if_pos (lt_def.mp hstale)]
    exact ⟨rfl, h⟩
  by_cases hrange : after > ring.nextSequence
  · rw [ringPopAfter, if_neg hstale, if_pos hrange, if_neg fun hlt => hstale (lt_def.mpr hlt),
      if_pos (lt_def.mp hrange)]
    exact ⟨rfl, h⟩
  by_cases hlast : after = allOnes 64
  · rw [ringPopAfter, if_neg hstale, if_neg hrange, if_pos hlast,
      if_neg fun hlt => hstale (lt_def.mpr hlt), if_neg fun hgt => hrange (lt_def.mpr hgt),
      if_pos (by rw [hlast, toNat_allOnes]; rfl)]
    exact ⟨rfl, h⟩
  rw [if_neg fun hlt => hstale (lt_def.mpr hlt), if_neg fun hgt => hrange (lt_def.mpr hgt),
    if_neg (Nat.ne_of_lt (toNat_add_one_lt hlast))]
  have hge : ring.consumerAfter ≤ after := BitVec.not_lt.mp hstale
  have hle : after ≤ ring.nextSequence := BitVec.not_lt.mp hrange
  have hd := h.discarded hge hle
  cases hnext : f.log[after.toNat]? with
  | none =>
    rw [h.pop_empty hge hle hlast hnext]
    exact ⟨rfl, hd⟩
  | some p =>
    obtain ⟨heq, hhas⟩ := h.pop_event hge hnext
    have hafter : (after + 1).toNat = after.toNat + 1 := by
      rw [← ofNat_toNat_add_one, toNat_ofNat, Nat.mod_eq_of_lt (toNat_add_one_lt hlast)]
    rw [heq, ← hafter]
    refine ⟨?_, hd.consumed p.cpu hhas⟩
    rw [hafter]
    rfl

lemma pop_between {after : U64} (hge : ring.consumerAfter ≤ after) (event : Event) :
    (ringPopAfter ring after).1 = .ok (some event) ↔
      ∃ p, f.log[after.toNat]? = some p ∧ event = stampEvent p.cpu (after + 1) p.source := by
  rw [(h.pop after).1]
  have heffect := f.pop_effect after.toNat
  generalize f.pop after.toNat = out at heffect ⊢
  cases heffect with
  | failed e hwhy =>
    -- only the last number is left, and no event has it
    have hlt := ring.nextSequence.isLt
    rw [le_def, h.after] at hge
    rw [h.next] at hlt
    simp only [Except.map, reduceCtorEq, false_iff, not_exists, not_and]
    intro p hp
    have := (List.getElem?_eq_some_iff.mp hp).1
    omega
  | empty _ hnone => simp [Except.map, hnone]
  | event p _ _ hp =>
    simp only [Except.map, Option.map_some, hp, Option.some.injEq, Except.ok.injEq,
      Published.delivered, ofNat_toNat_add_one, exists_eq_left']
    exact eq_comm

end Refines

/-! ## Lost events are reported -/

namespace Fifo

variable {f : Fifo} {cpu : ℕ}

lemma reported_publish (f : Fifo) (p : Published) (cpu : ℕ) :
    (f.publish p).reported cpu =
      f.reported cpu + if p.report && p.cpu == cpu then p.source.value.toNat else 0 := by
  rw [reported, publish, filter_append, map_append, sum_append]
  cases hp : p.report && p.cpu == cpu <;> simp [reported, hp]

/-- The lost events of a CPU are the reported ones and the pending ones; the pending ones are
counted in a word, which may have wrapped. -/
def Balanced (f : Fifo) (cpu : ℕ) : Prop :=
  ∃ wraps, f.lost cpu = f.reported cpu + (f.pending cpu).toNat + 2 ^ 64 * wraps

section

variable (h : f.Balanced cpu)
include h

lemma Balanced.publish (other : ℕ) (event : Event) :
    (f.publish { cpu := other, source := event }).Balanced cpu := by
  obtain ⟨wraps, h⟩ := h
  refine ⟨wraps, ?_⟩
  rw [reported_publish]
  exact h

/-- A refused event counts as lost and as pending. -/
lemma Balanced.refuse (other : ℕ) : (f.refuse other).Balanced cpu := by
  by_cases heq : cpu = other
  · subst heq
    obtain ⟨wraps, h⟩ := h
    have hlost : (f.refuse cpu).lost cpu = f.lost cpu + 1 := update_self ..
    have hpending : (f.refuse cpu).pending cpu = f.pending cpu + 1 := update_self ..
    have hlt := (f.pending cpu).isLt
    show ∃ _, (f.refuse cpu).lost cpu = f.reported cpu + ((f.refuse cpu).pending cpu).toNat + _
    rw [hlost, hpending, toNat_add]
    by_cases hwrap : (f.pending cpu).toNat + 1 = 2 ^ 64
    · refine ⟨wraps + 1, ?_⟩
      change _ = _ + ((f.pending cpu).toNat + 1) % 2 ^ 64 + _
      rw [hwrap]
      omega
    · refine ⟨wraps, ?_⟩
      change _ = _ + ((f.pending cpu).toNat + 1) % 2 ^ 64 + _
      rw [Nat.mod_eq_of_lt (by omega)]
      omega
  · have hlost : (f.refuse other).lost cpu = f.lost cpu := update_of_ne heq ..
    have hpending : (f.refuse other).pending cpu = f.pending cpu := update_of_ne heq ..
    rw [Balanced, hlost, hpending]
    exact h

lemma Balanced.settle (other : ℕ) : (f.settle other).Balanced cpu := by
  obtain ⟨wraps, h⟩ := h
  refine ⟨wraps, ?_⟩
  show f.lost cpu = (f.publish (f.reportOf other)).reported cpu +
    (update f.pending other 0 cpu).toNat + _
  rw [reported_publish]
  by_cases heq : cpu = other
  · subst heq
    rw [update_self, if_pos (by simp [reportOf]), h]
    rfl
  · rw [update_of_ne heq, if_neg (by simp [reportOf, Ne.symm heq]), h]
    rfl

lemma Balanced.push (other : ℕ) (event : Event) : (f.push other event).2.Balanced cpu := by
  unfold Fifo.push Fifo.reportLoss
  split_ifs
  · exact h
  · exact h.refuse other
  · exact (h.settle other).publish other event
  · exact h.publish other event

end

lemma push_not_busy (f : Fifo) (cpu : ℕ) (event : Event) : (f.push cpu event).1 ≠ .error EBUSY := by
  unfold Fifo.push
  split_ifs <;> simp [EINVAL, ENOSPC, EBUSY]

lemma push_lost (f : Fifo) (cpu : ℕ) (event : Event) :
    (f.push cpu event).2.lost = if (f.push cpu event).1 = .error ENOSPC then
      update f.lost cpu (f.lost cpu + 1) else f.lost := by
  unfold Fifo.push Fifo.reportLoss
  split_ifs with hcpu hfull hreport <;> first | rfl | simp_all [EINVAL, ENOSPC]

end Fifo

/-! ## Every sequence of calls -/

/-- A call on the ring. -/
inductive RingCall
  | push (cpu : ℕ) (event : Event)
  | pop (after : U64)

/-- The ring beside the queue, with the sequence numbers of the events handed out and the number of
pushes refused for want of room. -/
structure RingRun where
  ring : Ring := ringInit
  fifo : Fifo := {}
  delivered : List ℕ := []
  refused : ℕ → ℕ := fun _ => 0

def ringNext (s : RingRun) : RingCall → RingRun
  | .push cpu event =>
    let out := ringPush s.ring cpu event
    { s with
      ring := out.2
      fifo := (s.fifo.push cpu event).2
      refused := if out.1 = .error ENOSPC then
        update s.refused cpu (s.refused cpu + 1) else s.refused }
  | .pop after =>
    let out := ringPopAfter s.ring after
    { s with
      ring := out.2
      fifo := (s.fifo.pop after.toNat).2
      delivered := match out.1 with
        | .ok (some event) => s.delivered ++ [event.sequence.toNat]
        | _ => s.delivered }

/-- Every sequence of calls from an initialised ring. -/
def ringSystem : System RingRun RingCall := .ofStep (· = {}) fun s a => some (ringNext s a)

/-- The call does not use up the sequence numbers. -/
def Short (s : RingRun) : RingCall → Prop
  | .push cpu event => (s.fifo.push cpu event).2.log.length < 2 ^ 64
  | .pop _ => True

/-- What every run keeps. -/
structure InOrder (s : RingRun) : Prop where
  refines : Refines s.ring s.fifo
  balanced : ∀ cpu, s.fifo.Balanced cpu
  refused : s.refused = s.fifo.lost
  delivered : s.delivered.Pairwise (· < ·)
  delivered_le : ∀ n ∈ s.delivered, n ≤ s.fifo.after

variable {s : RingRun}

lemma InOrder.push (h : InOrder s) {cpu : ℕ} {event : Event} (hshort : Short s (.push cpu event)) :
    InOrder (ringNext s (.push cpu event)) := by
  obtain ⟨hans, href⟩ := h.refines.push hshort
  refine ⟨href, fun i => (h.balanced i).push cpu event, ?_, h.delivered, ?_⟩
  · show ite _ _ _ = (s.fifo.push cpu event).2.lost
    rw [hans, s.fifo.push_lost, h.refused]
  · have hafter : (s.fifo.push cpu event).2.after = s.fifo.after := by
      unfold Fifo.push Fifo.reportLoss
      split_ifs <;> rfl
    show ∀ n ∈ s.delivered, n ≤ (s.fifo.push cpu event).2.after
    rw [hafter]
    exact h.delivered_le

/-- A poll hands out a number above all before it, or none. -/
lemma InOrder.pop (h : InOrder s) (after : U64) : InOrder (ringNext s (.pop after)) := by
  obtain ⟨hans, href⟩ := h.refines.pop after
  have heffect := s.fifo.pop_effect after.toNat
  unfold ringNext
  dsimp only
  rw [hans]
  generalize s.fifo.pop after.toNat = out at href heffect ⊢
  cases heffect with
  | failed e _ => exact ⟨href, h.balanced, h.refused, h.delivered, h.delivered_le⟩
  | empty hafter hnone =>
    exact ⟨href, h.balanced, h.refused, h.delivered,
      fun n hn => Nat.le_trans (h.delivered_le n hn) hafter⟩
  | event p hafter hlast hp =>
    have hnumber : (p.delivered (after.toNat + 1)).sequence.toNat = after.toNat + 1 := by
      have hlt := after.isLt
      show (BitVec.ofNat 64 (after.toNat + 1)).toNat = _
      rw [BitVec.toNat_ofNat, Nat.mod_eq_of_lt (by omega)]
    have hold : ∀ n ∈ s.delivered, n < after.toNat + 1 := fun n hn =>
      Nat.lt_succ_of_le (Nat.le_trans (h.delivered_le n hn) hafter)
    show InOrder { s with
      ring := _
      fifo := _
      delivered := s.delivered ++ [(p.delivered (after.toNat + 1)).sequence.toNat] }
    rw [hnumber]
    refine ⟨href, h.balanced, h.refused, ?_, fun n hn => ?_⟩
    · exact pairwise_append.mpr ⟨h.delivered, pairwise_singleton _ _, fun n hn m hm =>
        mem_singleton.mp hm ▸ hold n hn⟩
    · rcases mem_append.mp hn with hn | hn
      · exact Nat.le_of_lt (hold n hn)
      · exact Nat.le_of_eq (mem_singleton.mp hn)

lemma inOrder_of_reachable (h : (ringSystem.restrict Short).Reachable s) : InOrder s := by
  refine h.invariant (fun s hs => ?_) fun s a s' hi hstep => ?_
  · cases hs
    exact ⟨.init, fun _ => ⟨0, rfl⟩, rfl, List.Pairwise.nil, by simp⟩
  · obtain ⟨hshort, hstep⟩ := hstep
    cases hstep
    cases a with
    | push cpu event => exact hi.push hshort
    | pop after => exact hi.pop after

/-- The ring refines one queue.  In every run that does not use up the sequence numbers the
ring stands for the queue: events are numbered in the order in which they are published, a push
answers as the queue does and never `-EBUSY`, a poll between the consumer's cursor and the last
number gives the event after it if there is one, no number is handed out twice, a CPU holds at most
64 events, and what it has lost is what it has refused: reported or still to be reported. -/
theorem ring_refines_fifo (h : (ringSystem.restrict Short).Reachable s) :
    Refines s.ring s.fifo ∧
    (∀ cpu event, Short s (.push cpu event) →
      (ringPush s.ring cpu event).1 = (s.fifo.push cpu event).1 ∧
      (ringPush s.ring cpu event).1 ≠ .error EBUSY) ∧
    (∀ after, s.ring.consumerAfter ≤ after → after ≤ s.ring.nextSequence → ∀ event,
      (ringPopAfter s.ring after).1 = .ok (some event) ↔
        ∃ p, s.fifo.log[after.toNat]? = some p ∧ event = stampEvent p.cpu (after + 1) p.source) ∧
    s.delivered.Pairwise (· < ·) ∧
    ∀ cpu < maxCpus,
      (s.ring.cpu cpu).used.toNat = s.fifo.held cpu ∧ s.fifo.held cpu ≤ ringCapacity ∧
      (s.ring.cpu cpu).lost = BitVec.ofNat 64 (s.refused cpu) ∧
      (s.ring.cpu cpu).lost =
        BitVec.ofNat 64 (s.fifo.reported cpu) + (s.ring.cpu cpu).lossPending ∧
      (s.refused cpu < 2 ^ 64 →
        s.refused cpu = s.fifo.reported cpu + (s.ring.cpu cpu).lossPending.toNat) := by
  have hi := inOrder_of_reachable h
  refine ⟨hi.refines, fun cpu event hshort => ?_, fun after hge _ event => ?_, hi.delivered,
    fun cpu hcpu => ?_⟩
  · have hans := (hi.refines.push hshort).1
    refine ⟨hans, ?_⟩
    rw [hans]
    exact s.fifo.push_not_busy cpu event
  · exact hi.refines.pop_between hge event
  · have hc := hi.refines.has.cpu cpu hcpu
    have hused := hc.used
    have hle := hc.live_le
    rw [hi.refines.after] at hused hle
    obtain ⟨wraps, hbalance⟩ := hi.balanced cpu
    have hlost := hi.refines.lost cpu hcpu
    have hpending := hi.refines.pending cpu hcpu
    rw [hi.refused, hpending]
    refine ⟨hused, hle, hlost, ?_, fun hlt => by omega⟩
    rw [hlost, ← toNat_inj, toNat_add, toNat_ofNat, toNat_ofNat]
    omega

instance (s : RingRun) : ∀ call, Decidable (Short s call)
  | .push cpu event => inferInstanceAs (Decidable ((s.fifo.push cpu event).2.log.length < 2 ^ 64))
  | .pop _ => .isTrue trivial

/-- CPU 0 loses its 65th event and reports that once two events are consumed. -/
def fullRun : List RingCall :=
  replicate 65 (.push 0 {}) ++ [.pop 0, .pop 1, .push 0 {}, .push 1 {}]

theorem ring_refines_fifo_full :
    let s := runFrom (guarded Short fun s a => some (ringNext s a)) {} fullRun
    (s.fifo.log.length = 67 ∧ s.refused 0 = 1 ∧ s.fifo.reported 0 = 1) ∧
      Refines s.ring s.fifo := by
  refine ⟨by decide +kernel, ?_⟩
  have hsteps : (ringSystem.restrict Short).Steps {} _ :=
    guarded_steps ({} : RingRun) fullRun (by decide +kernel)
  exact (ring_refines_fifo (.steps (.init rfl) hsteps)).1

end Spz
