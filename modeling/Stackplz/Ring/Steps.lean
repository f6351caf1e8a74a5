import Stackplz.Ring
import Stackplz.Ring.Copy

/-!
# The ring one access at a time

`spz_ring_push` and `spz_ring_pop_after` as sequences of single loads, stores and compare-and-swaps
on the shared ring, with the local variables in the program counter.  What a call computes between
two accesses belongs to the access before it.

`push_alone` and `pop_alone` connect the two readings of the source: a call whose steps nobody
interleaves with does what the whole call of `Stackplz.Ring` does.
-/

namespace Spz

open Errno CpuRing Spz.Ring BitVec

def CpuRing.updateSlot (c : CpuRing) (i : ℕ) (f : RingSlot → RingSlot) : CpuRing :=
  { c with slots := Function.update c.slots i (f (c.slots i)) }

/-! ## Publishing -/

/-- Where an `spz_publish` stands. -/
inductive PublishPc
  | usedHead
  | usedTail (head : U64)
  | loadHead
  | loadCommit (head : U64)
  | loadSequence (head : U64)
  | trySequence (head previous : U64)
  | copy (head sequence : U64) (k : ℕ)
  | storeCommit (head sequence : U64)
  | storeHead (head : U64)
  | returned (result : Except Errno Unit)

/-- A step of `spz_publish`. -/
def publishStep (cpu : ℕ) (source : Event) : Ring × PublishPc → Ring × PublishPc
  | (ring, .usedHead) => (ring, .usedTail (ring.cpu cpu).head)
  | (ring, .usedTail head) =>
    if head - (ring.cpu cpu).tail ≥ BitVec.ofNat 64 ringCapacity then
      (ring, .returned (.error ENOSPC))
    else (ring, .loadHead)
  | (ring, .loadHead) => (ring, .loadCommit (ring.cpu cpu).head)
  | (ring, .loadCommit head) =>
    if ((ring.cpu cpu).slots (index head)).commit ≠ 0 then
      (ring, .returned (.error EBUSY))
    else (ring, .loadSequence head)
  | (ring, .loadSequence head) => (ring, .trySequence head ring.nextSequence)
  | (ring, .trySequence head previous) =>
    if previous = allOnes 64 then (ring, .returned (.error EOVERFLOW))
    else if ring.nextSequence = previous then
      ({ ring with nextSequence := previous + 1 }, .copy head (previous + 1) 0)
    else (ring, .trySequence head ring.nextSequence)
  | (ring, .copy head sequence k) =>
    -- the event is complete in a local variable and is moved to the slot byte by byte
    (ring.updateCpu cpu (·.updateSlot (index head) fun slot =>
        { slot with event := copyPart k (stampEvent cpu sequence source) slot.event }),
      if k + 1 < eventParts.length then .copy head sequence (k + 1)
      else .storeCommit head sequence)
  | (ring, .storeCommit head sequence) =>
    (ring.updateCpu cpu (·.updateSlot (index head) fun slot =>
        { slot with commit := sequence }), .storeHead head)
  | (ring, .storeHead head) =>
    (ring.updateCpu cpu fun c => { c with head := head + 1 }, .returned (.ok ()))
  | (ring, .returned result) => (ring, .returned result)

/-- Where an `spz_ring_push` stands. -/
inductive PushPc
  | usedHead
  | usedTail (head : U64)
  | countLost
  | countPending
  | loadPending (freeSlots : U64)
  | loadLost (pending : U64)
  | report (pending : U64) (loss : Event) (pc : PublishPc)
  | subPending (pending : U64)
  | publish (pc : PublishPc)
  | returned (result : Except Errno Unit)

namespace PushPc

def start (cpu : ℕ) : PushPc := if cpu ≥ maxCpus then .returned (.error EINVAL) else .usedHead

/-- On from the `spz_publish` of the report. -/
def afterReport (pending : U64) (loss : Event) : PublishPc → PushPc
  | .returned (.ok ()) => .subPending pending
  | .returned (.error e) => .returned (.error e)
  | pc => .report pending loss pc

/-- On from the `spz_publish` of the event. -/
def afterPublish : PublishPc → PushPc
  | .returned (.ok ()) => .returned (.ok ())
  | .returned (.error e) => if e = ENOSPC then .countLost else .returned (.error e)
  | pc => .publish pc

end PushPc

/-- A step of `spz_ring_push`. -/
def pushStep (cpu : ℕ) (event : Event) : Ring × PushPc → Ring × PushPc
  | (ring, .usedHead) => (ring, .usedTail (ring.cpu cpu).head)
  | (ring, .usedTail head) =>
    let freeSlots := BitVec.ofNat 64 ringCapacity - (head - (ring.cpu cpu).tail)
    (ring, if freeSlots = 0 then .countLost else .loadPending freeSlots)
  | (ring, .countLost) =>
    (ring.updateCpu cpu fun c => { c with lost := c.lost + 1 }, .countPending)
  | (ring, .countPending) =>
    (ring.updateCpu cpu fun c => { c with lossPending := c.lossPending + 1 },
      .returned (.error ENOSPC))
  | (ring, .loadPending freeSlots) =>
    let pending := (ring.cpu cpu).lossPending
    (ring, if pending ≠ 0 ∧ freeSlots ≥ 2 then .loadLost pending else .publish .usedHead)
  | (ring, .loadLost pending) =>
    let loss : Event :=
      { type := .loss, value := pending, observedAddress := (ring.cpu cpu).lost }
    (ring, .report pending loss .usedHead)
  | (ring, .report pending loss pc) =>
    let out := publishStep cpu loss (ring, pc)
    (out.1, .afterReport pending loss out.2)
  | (ring, .subPending pending) =>
    (ring.updateCpu cpu fun c => { c with lossPending := c.lossPending - pending },
      .publish .usedHead)
  | (ring, .publish pc) =>
    let out := publishStep cpu event (ring, pc)
    (out.1, .afterPublish out.2)
  | (ring, .returned result) => (ring, .returned result)

/-! ## Consuming -/

/-- Where an `spz_ring_pop_after` stands. -/
inductive PopPc
  | loadAfter
  | loadLatest (consumerAfter : U64)
  | discardTail (consumerAfter : U64) (cpu : ℕ)
  | discardHead (consumerAfter : U64) (cpu : ℕ) (tail : U64)
  | discardCommit (consumerAfter : U64) (cpu : ℕ) (tail head : U64)
  | discardClear (consumerAfter : U64) (cpu : ℕ) (tail head : U64)
  | discardStore (consumerAfter : U64) (cpu : ℕ) (tail head : U64)
  | storeAfter
  | selectTail (cpu : ℕ)
  | selectHead (cpu : ℕ) (tail : U64)
  | selectCommit (cpu : ℕ) (tail : U64)
  | copy (cpu : ℕ) (tail : U64) (k : ℕ) (out : Event)
  | recheck (cpu : ℕ) (tail : U64) (out : Event)
  | clear (cpu : ℕ) (tail : U64) (out : Event)
  | storeTail (cpu : ℕ) (tail : U64) (out : Event)
  | storeConsumed (out : Event)
  | returned (result : Except Errno (Option Event))

namespace PopPc

/-- On to the next CPU of the loop over `spz_discard_through`. -/
def nextDiscard (after consumerAfter : U64) (cpu : ℕ) : PopPc :=
  if cpu + 1 < maxCpus then .discardTail consumerAfter (cpu + 1)
  else if after > consumerAfter then .storeAfter
  else .selectTail 0

/-- The head of the loop of `spz_discard_through`. -/
def discardLoop (after consumerAfter : U64) (cpu : ℕ) (tail head : U64) : PopPc :=
  if tail < head then .discardCommit consumerAfter cpu tail head
  else nextDiscard after consumerAfter cpu

def nextSelect (cpu : ℕ) : PopPc :=
  if cpu + 1 < maxCpus then .selectTail (cpu + 1) else .returned (.ok none)

end PopPc

/-- A step of `spz_ring_pop_after`. -/
def popStep (after : U64) : Ring × PopPc → Ring × PopPc
  | (ring, .loadAfter) =>
    (ring, if after < ring.consumerAfter then .returned (.error ESTALE)
      else .loadLatest ring.consumerAfter)
  | (ring, .loadLatest consumerAfter) =>
    (ring, if after > ring.nextSequence then .returned (.error ERANGE)
      else if after = allOnes 64 then .returned (.error EOVERFLOW)
      else .discardTail consumerAfter 0)
  | (ring, .discardTail consumerAfter cpu) =>
    (ring, .discardHead consumerAfter cpu (ring.cpu cpu).tail)
  | (ring, .discardHead consumerAfter cpu tail) =>
    (ring, .discardLoop after consumerAfter cpu tail (ring.cpu cpu).head)
  | (ring, .discardCommit consumerAfter cpu tail head) =>
    let commit := ((ring.cpu cpu).slots (index tail)).commit
    (ring, if commit = 0 ∨ commit > after then .nextDiscard after consumerAfter cpu
      else .discardClear consumerAfter cpu tail head)
  | (ring, .discardClear consumerAfter cpu tail head) =>
    (ring.updateCpu cpu (·.updateSlot (index tail) fun slot => { slot with commit := 0 }),
      .discardStore consumerAfter cpu tail head)
  | (ring, .discardStore consumerAfter cpu tail head) =>
    (ring.updateCpu cpu fun c => { c with tail := tail + 1 },
      .discardLoop after consumerAfter cpu (tail + 1) head)
  | (ring, .storeAfter) => ({ ring with consumerAfter := after }, .selectTail 0)
  | (ring, .selectTail cpu) => (ring, .selectHead cpu (ring.cpu cpu).tail)
  | (ring, .selectHead cpu tail) =>
    (ring, if tail ≥ (ring.cpu cpu).head then .nextSelect cpu else .selectCommit cpu tail)
  | (ring, .selectCommit cpu tail) =>
    (ring, if ((ring.cpu cpu).slots (index tail)).commit ≠ after + 1 then .nextSelect cpu
      else .copy cpu tail 0 {})
  | (ring, .copy cpu tail k out) =>
    let out := copyPart k ((ring.cpu cpu).slots (index tail)).event out
    (ring, if k + 1 < eventParts.length then .copy cpu tail (k + 1) out
      else .recheck cpu tail out)
  | (ring, .recheck cpu tail out) =>
    (ring, if ((ring.cpu cpu).slots (index tail)).commit ≠ after + 1 then
        .returned (.error EAGAIN)
      else .clear cpu tail out)
  | (ring, .clear cpu tail out) =>
    (ring.updateCpu cpu (·.updateSlot (index tail) fun slot => { slot with commit := 0 }),
      .storeTail cpu tail out)
  | (ring, .storeTail cpu tail out) =>
    (ring.updateCpu cpu fun c => { c with tail := tail + 1 }, .storeConsumed out)
  | (ring, .storeConsumed out) =>
    ({ ring with consumerAfter := after + 1 }, .returned (.ok (some out)))
  | (ring, .returned result) => (ring, .returned result)

/-! ## Calls nobody interleaves with -/

/-- Some number of steps leads from one state to the other. -/
def Runs {σ : Type*} (step : σ → σ) : σ → σ → Prop := Relation.ReflTransGen fun a b => step a = b

namespace Runs

variable {σ : Type*} {step : σ → σ} {a b c : σ}

lemma refl (a : σ) : Runs step a a := Relation.ReflTransGen.refl

lemma head (h : Runs step (step a) b) : Runs step a b := Relation.ReflTransGen.head rfl h

lemma trans (h : Runs step a b) (h' : Runs step b c) : Runs step a c :=
  Relation.ReflTransGen.trans h h'

lemma iterate (h : Runs step a b) : ∃ n, step^[n] a = b := by
  induction h using Relation.ReflTransGen.head_induction_on with
  | refl => exact ⟨0, rfl⟩
  | head hab _ ih =>
    obtain ⟨n, hn⟩ := ih
    exact ⟨n + 1, by rw [Function.iterate_succ_apply, hab, hn]⟩

lemma lift {τ : Type*} {outer : τ → τ} (wrap : σ → τ)
    (hstep : ∀ a, step a = a ∨ outer (wrap a) = wrap (step a)) (h : Runs step a b) :
    Runs outer (wrap a) (wrap b) := by
  induction h using Relation.ReflTransGen.head_induction_on with
  | refl => exact .refl _
  | head hab _ ih =>
    subst hab
    rcases hstep _ with hstay | hgo
    · rwa [hstay] at ih
    · exact .head (hgo ▸ ih)

end Runs

lemma Ring.updateCpu_updateCpu (ring : Ring) (cpu : ℕ) (f g : CpuRing → CpuRing) :
    (ring.updateCpu cpu f).updateCpu cpu g = ring.updateCpu cpu fun c => g (f c) := by
  simp [updateCpu]

lemma CpuRing.updateSlot_updateSlot (c : CpuRing) (i : ℕ) (f g : RingSlot → RingSlot) :
    (c.updateSlot i f).updateSlot i g = c.updateSlot i fun slot => g (f slot) := by
  simp [updateSlot]

section Publish

variable (ring : Ring) (cpu : ℕ) (source : Event)

/-- The ring when an `spz_publish` that has copied `k` bytes has gone on to its end. -/
def publishRest (head sequence : U64) (k : ℕ) : Ring :=
  ring.updateCpu cpu fun c =>
    { c.updateSlot (index head) fun slot =>
        ⟨sequence, copyRest k (stampEvent cpu sequence source) slot.event⟩ with
      head := head + 1 }

/-- The copy to the slot, from its step `k` on. -/
lemma publish_copy_runs (head sequence : U64) (m k : ℕ) (hlen : eventParts.length = k + m + 1) :
    Runs (publishStep cpu source) (ring, .copy head sequence k)
      (ring.updateCpu cpu (·.updateSlot (index head) fun slot =>
        { slot with event := copyRest k (stampEvent cpu sequence source) slot.event }),
        .storeCommit head sequence) := by
  induction m generalizing ring k with
  | zero =>
    refine .head ?_
    rw [publishStep, if_neg (by omega)]
    simp only [← copyRest_step (show k < eventParts.length by omega)]
    rw [show k + 1 = eventParts.length by omega]
    simp only [copyRest_length]
    exact .refl _
  | succ m ih =>
    refine .head ?_
    rw [publishStep, if_pos (by omega)]
    have hrest := ih (ring.updateCpu cpu (·.updateSlot (index head) fun slot =>
      { slot with event := copyPart k (stampEvent cpu sequence source) slot.event })) (k + 1)
      (by omega)
    simp only [updateCpu_updateCpu, updateSlot_updateSlot,
      copyRest_step (show k < eventParts.length by omega)] at hrest
    exact hrest

lemma publish_rest_runs (head sequence : U64) {k : ℕ} (hk : k < eventParts.length) :
    Runs (publishStep cpu source) (ring, .copy head sequence k)
      (publishRest ring cpu source head sequence k, .returned (.ok ())) := by
  refine (publish_copy_runs ring cpu source head sequence (eventParts.length - (k + 1)) k
    (by omega)).trans (.head (.head ?_))
  simp only [publishStep, updateCpu_updateCpu, updateSlot_updateSlot]
  exact .refl _

lemma publishRest_zero (sequence : U64) :
    publishRest ring cpu source (ring.cpu cpu).head sequence 0 =
      ring.updateCpu cpu (·.append sequence (stampEvent cpu sequence source)) := by
  simp only [publishRest, copyRest_zero, updateCpu]
  rfl

/-- `spz_publish` step by step is `spz_publish` as a whole. -/
lemma publish_alone : Runs (publishStep cpu source) (ring, .usedHead)
    ((ringPublish ring cpu source).2, .returned (ringPublish ring cpu source).1) := by
  refine .head (.head ?_)
  rw [publishStep, publishStep, ringPublish, used, headSlot]
  by_cases hfull : (ring.cpu cpu).head - (ring.cpu cpu).tail ≥ BitVec.ofNat 64 ringCapacity
  · rw [if_pos hfull, if_pos hfull]
    exact .refl _
  rw [if_neg hfull, if_neg hfull]
  refine .head (.head ?_)
  rw [publishStep, publishStep]
  by_cases hbusy : ((ring.cpu cpu).slots (index (ring.cpu cpu).head)).commit ≠ 0
  · rw [if_pos hbusy, if_pos hbusy]
    exact .refl _
  rw [if_neg hbusy, if_neg hbusy]
  refine .head (.head ?_)
  rw [publishStep, publishStep, nextSequence]
  by_cases hlast : ring.nextSequence = allOnes 64
  · rw [if_pos hlast, if_pos hlast]
    exact .refl _
  rw [if_neg hlast, if_neg hlast, if_pos rfl]
  have hrest := publish_rest_runs { ring with nextSequence := ring.nextSequence + 1 } cpu source
    (ring.cpu cpu).head (ring.nextSequence + 1) eventParts_pos
  rw [publishRest_zero] at hrest
  exact hrest

variable {pc pc' : PublishPc} {ring' : Ring}

section

variable (event : Event)

lemma report_runs (pending : U64) (loss : Event)
    (h : Runs (publishStep cpu loss) (ring, pc) (ring', pc')) :
    Runs (pushStep cpu event) (ring, .afterReport pending loss pc)
      (ring', .afterReport pending loss pc') := by
  refine h.lift (fun a => (a.1, PushPc.afterReport pending loss a.2)) fun a => ?_
  obtain ⟨ring, pc⟩ := a
  cases pc <;> first | exact .inl rfl | exact .inr rfl

lemma publish_runs (h : Runs (publishStep cpu event) (ring, pc) (ring', pc')) :
    Runs (pushStep cpu event) (ring, .afterPublish pc) (ring', .afterPublish pc') := by
  refine h.lift (fun a => (a.1, PushPc.afterPublish a.2)) fun a => ?_
  obtain ⟨ring, pc⟩ := a
  cases pc <;> first | exact .inl rfl | exact .inr rfl

lemma count_runs : Runs (pushStep cpu event) (ring, .countLost)
    (ring.updateCpu cpu countLoss, .returned (.error ENOSPC)) := by
  refine .head (.head ?_)
  rw [pushStep, pushStep, updateCpu_updateCpu]
  exact .refl _

/-- Where the push of an event ends once losses have been reported. -/
def pushLast : Except Errno Unit × Ring :=
  match ringPublish ring cpu event with
  | (.ok (), ring') => (.ok (), ring')
  | (.error e, ring') => (.error e, if e = ENOSPC then ring'.updateCpu cpu countLoss else ring')

lemma pushLast_alone : Runs (pushStep cpu event) (ring, .publish .usedHead)
    ((pushLast ring cpu event).2, .returned (pushLast ring cpu event).1) := by
  refine (publish_runs ring cpu event (publish_alone ring cpu event)).trans ?_
  unfold pushLast
  rcases ringPublish ring cpu event with ⟨⟨⟩ | ⟨⟩, ring'⟩
  case error e =>
      by_cases hfull : e = ENOSPC
      · subst hfull
        exact count_runs ring' cpu event
      · simp only [PushPc.afterPublish, if_neg hfull]
        exact .refl _
  case ok => exact .refl _

end

/-- `spz_ring_push` step by step is `spz_ring_push` as a whole. -/
theorem push_alone (event : Event) : Runs (pushStep cpu event) (ring, .start cpu)
    ((ringPush ring cpu event).2, .returned (ringPush ring cpu event).1) := by
  unfold PushPc.start ringPush
  by_cases hcpu : cpu ≥ maxCpus
  · rw [if_pos hcpu, if_pos hcpu]
    exact .refl _
  rw [if_neg hcpu, if_neg hcpu]
  refine .head (.head ?_)
  rw [pushStep, pushStep, used]
  by_cases hfull : BitVec.ofNat 64 ringCapacity - ((ring.cpu cpu).head - (ring.cpu cpu).tail) = 0
  · rw [if_pos hfull, if_pos hfull]
    exact count_runs ring cpu event
  rw [if_neg hfull, if_neg hfull]
  refine .head ?_
  rw [pushStep, ringReportLoss]
  split_ifs with hreport
  · -- the report first
    refine .head ?_
    show Runs _ (ring, PushPc.report (ring.cpu cpu).lossPending
      (lossEvent (ring.cpu cpu)) .usedHead) _
    refine (report_runs ring cpu event _ _ (publish_alone ring cpu _)).trans ?_
    rcases ringPublish ring cpu (lossEvent (ring.cpu cpu)) with ⟨⟨⟩ | ⟨⟩, ring'⟩
    case error e => exact .refl _
    case ok =>
        refine .head ?_
        exact pushLast_alone _ cpu event
  · exact pushLast_alone ring cpu event

end Publish

section Consume

lemma Ring.updateCpu_congr {ring : Ring} {cpu : ℕ} {f g : CpuRing → CpuRing}
    (h : f (ring.cpu cpu) = g (ring.cpu cpu)) : ring.updateCpu cpu f = ring.updateCpu cpu g := by
  rw [updateCpu, h, updateCpu]

lemma Ring.updateCpu_eq_self {ring : Ring} {cpu : ℕ} {f : CpuRing → CpuRing}
    (h : f (ring.cpu cpu) = ring.cpu cpu) : ring.updateCpu cpu f = ring := by
  rw [updateCpu, h, Function.update_eq_self]

variable (ring : Ring) (after consumerAfter : U64) (cpu : ℕ)

lemma Ring.updateCpu_dropTail :
    (ring.updateCpu cpu (·.updateSlot (index (ring.cpu cpu).tail) fun slot =>
      { slot with commit := 0 })).updateCpu cpu
        (fun c => { c with tail := (ring.cpu cpu).tail + 1 }) =
      ring.updateCpu cpu dropTail := by
  rw [updateCpu_updateCpu]
  exact updateCpu_congr rfl

/-- The loop of `spz_discard_through`. -/
lemma discard_runs (head : U64) (n : ℕ) (hn : head.toNat - (ring.cpu cpu).tail.toNat = n) :
    Runs (popStep after) (ring, .discardLoop after consumerAfter cpu (ring.cpu cpu).tail head)
      (ring.updateCpu cpu (discardUpTo after n),
        .nextDiscard after consumerAfter cpu) := by
  induction n generalizing ring with
  | zero =>
    rw [PopPc.discardLoop, if_neg (by rw [lt_def]; omega), updateCpu_eq_self rfl]
    exact .refl _
  | succ n ih =>
    have hlt : (ring.cpu cpu).tail < head := by
      rw [lt_def]
      omega
    rw [PopPc.discardLoop, if_pos hlt]
    refine .head ?_
    show Runs _ (ring, if (ring.cpu cpu).tailSlot.commit = 0 ∨
      (ring.cpu cpu).tailSlot.commit > after then _ else _) _
    split_ifs with hstop
    · rw [updateCpu_eq_self (by rw [discardUpTo, if_pos hstop])]
      exact .refl _
    · refine .head (.head ?_)
      rw [popStep, popStep, updateCpu_dropTail]
      have htail : ((ring.cpu cpu).tail + 1).toNat = (ring.cpu cpu).tail.toNat + 1 := by
        have := head.isLt
        rw [toNat_add]
        exact Nat.mod_eq_of_lt (by change _ + 1 < _; omega)
      have hrest := ih (ring.updateCpu cpu dropTail) (by
        rw [updateCpu_self]
        show head.toNat - ((ring.cpu cpu).tail + 1).toNat = n
        omega)
      rw [updateCpu_self, updateCpu_updateCpu] at hrest
      have hdrop : ring.updateCpu cpu (discardUpTo after (n + 1)) =
          ring.updateCpu cpu fun c => discardUpTo after n c.dropTail :=
        updateCpu_congr (by rw [discardUpTo, if_neg hstop])
      rw [hdrop]
      exact hrest

/-- The CPUs below `k` are done. -/
def discardedBelow (k : ℕ) : Ring :=
  { ring with cpu := fun i => if i < k then (ring.cpu i).discardThrough after else ring.cpu i }

lemma discardedBelow_zero : discardedBelow ring after 0 = ring := by
  simp [discardedBelow]

lemma discardedBelow_succ (k : ℕ) : (discardedBelow ring after k).updateCpu k
    (discardThrough after) = discardedBelow ring after (k + 1) := by
  have hcpu : Function.update (discardedBelow ring after k).cpu k
      (((discardedBelow ring after k).cpu k).discardThrough after) =
      (discardedBelow ring after (k + 1)).cpu := by
    funext i
    by_cases hi : i = k
    · subst hi
      simp [discardedBelow]
    · rw [Function.update_of_ne hi]
      have : i < k + 1 ↔ i < k := by omega
      simp only [discardedBelow, this]
  rw [updateCpu, hcpu]
  rfl

lemma discardOne_runs (k : ℕ) :
    Runs (popStep after) (discardedBelow ring after k, .discardTail consumerAfter k)
      (discardedBelow ring after (k + 1), .nextDiscard after consumerAfter k) := by
  refine .head (.head ?_)
  rw [popStep, popStep, ← discardedBelow_succ]
  exact discard_runs _ after consumerAfter k _ _ rfl

lemma discardAll_runs (m k : ℕ) (hk : k + m + 1 = maxCpus) :
    Runs (popStep after) (discardedBelow ring after k, .discardTail consumerAfter k)
      (discardedBelow ring after maxCpus,
        if after > consumerAfter then .storeAfter else .selectTail 0) := by
  refine (discardOne_runs ring after consumerAfter k).trans ?_
  induction m generalizing k with
  | zero =>
    rw [PopPc.nextDiscard, if_neg (by omega), show k + 1 = maxCpus by omega]
    exact .refl _
  | succ m ih =>
    rw [PopPc.nextDiscard, if_pos (by omega)]
    exact (discardOne_runs ring after consumerAfter (k + 1)).trans (ih (k + 1) (by omega))

lemma pop_copy_runs (tail : U64) (out : Event) (m k : ℕ) (hlen : eventParts.length = k + m + 1) :
    Runs (popStep after) (ring, .copy cpu tail k out)
      (ring, .recheck cpu tail
        (copyRest k ((ring.cpu cpu).slots (index tail)).event out)) := by
  induction m generalizing k out with
  | zero =>
    refine .head ?_
    rw [popStep, if_neg (by omega), ← copyRest_step (show k < eventParts.length by omega),
      show k + 1 = eventParts.length by omega, copyRest_length]
    exact .refl _
  | succ m ih =>
    refine .head ?_
    rw [popStep, if_pos (by omega), ← copyRest_step (show k < eventParts.length by omega)]
    exact ih _ (k + 1) (by omega)

lemma take_runs (hcommit : (ring.cpu cpu).tailSlot.commit = after + 1) :
    Runs (popStep after) (ring, .copy cpu (ring.cpu cpu).tail 0 {})
      ({ ring.updateCpu cpu dropTail with consumerAfter := after + 1 },
        .returned (.ok (some (ring.cpu cpu).tailSlot.event))) := by
  have hlen := eventParts_pos
  refine (pop_copy_runs ring after cpu _ _ (eventParts.length - 1) 0 (by omega)).trans ?_
  rw [copyRest_zero]
  refine .head ?_
  show Runs _ (ring, if (ring.cpu cpu).tailSlot.commit ≠ after + 1 then _ else _) _
  rw [if_neg (not_not.mpr hcommit)]
  refine .head (.head (.head ?_))
  rw [popStep, popStep, popStep, updateCpu_dropTail]
  exact .refl _

def selected : Option (ℕ × Event) → Ring × PopPc
  | none => (ring, .returned (.ok none))
  | some (cpu, event) =>
    ({ ring.updateCpu cpu dropTail with consumerAfter := after + 1 },
      .returned (.ok (some event)))

lemma selected_eq (found : Option (ℕ × Event)) :
    selected ring after found =
      let out : Except Errno (Option Event) × Ring := match found with
        | none => (.ok none, ring)
        | some (cpu, event) => (.ok (some event),
            { ring.updateCpu cpu dropTail with consumerAfter := after + 1 })
      (out.2, .returned out.1) := by
  cases found <;> rfl

lemma selectOne_runs (k : ℕ) : Runs (popStep after) (ring, .selectTail k)
    (match (ring.cpu k).offers (after + 1) with
      | none => (ring, .nextSelect k)
      | some event => selected ring after (some (k, event))) := by
  refine .head (.head ?_)
  rw [popStep, popStep, offers]
  by_cases hempty : (ring.cpu k).tail ≥ (ring.cpu k).head
  · rw [if_pos hempty, if_pos hempty]
    exact .refl _
  rw [if_neg hempty, if_neg hempty]
  refine .head ?_
  show Runs _ (ring, if (ring.cpu k).tailSlot.commit ≠ after + 1 then _ else _) _
  by_cases hother : (ring.cpu k).tailSlot.commit ≠ after + 1
  · rw [if_pos hother, if_pos hother]
    exact .refl _
  · rw [if_neg hother, if_neg hother]
    exact take_runs ring after k (not_not.mp hother)

/-- The search, from CPU `k` on. -/
lemma select_runs (m k : ℕ) (hk : k + m + 1 = maxCpus) :
    Runs (popStep after) (ring, .selectTail k)
      (selected ring after ((List.range' k (m + 1)).findSome? fun cpu =>
        ((ring.cpu cpu).offers (after + 1)).map fun event => (cpu, event))) := by
  have hone := selectOne_runs ring after k
  rw [List.range'_succ, List.findSome?_cons]
  cases hoffer : (ring.cpu k).offers (after + 1) with
  | some event =>
    rw [hoffer] at hone
    exact hone
  | none =>
    rw [hoffer] at hone
    refine hone.trans ?_
    cases m with
    | zero =>
      rw [PopPc.nextSelect, if_neg (by omega)]
      exact .refl _
    | succ m =>
      rw [PopPc.nextSelect, if_pos (by omega)]
      exact select_runs m (k + 1) (by omega)

/-- `spz_ring_pop_after` step by step is `spz_ring_pop_after` as a whole. -/
theorem pop_alone : Runs (popStep after) (ring, .loadAfter)
    ((ringPopAfter ring after).2, .returned (ringPopAfter ring after).1) := by
  refine .head ?_
  rw [popStep, ringPopAfter]
  by_cases hstale : after < ring.consumerAfter
  · rw [if_pos hstale, if_pos hstale]
    exact .refl _
  rw [if_neg hstale, if_neg hstale]
  refine .head ?_
  rw [popStep]
  by_cases hrange : after > ring.nextSequence
  · rw [if_pos hrange, if_pos hrange]
    exact .refl _
  rw [if_neg hrange, if_neg hrange]
  by_cases hlast : after = allOnes 64
  · rw [if_pos hlast, if_pos hlast]
    exact .refl _
  rw [if_neg hlast, if_neg hlast]
  have hdiscard := discardAll_runs ring after ring.consumerAfter (maxCpus - 1) 0 rfl
  rw [discardedBelow_zero] at hdiscard
  refine hdiscard.trans ?_
  have hstore : Runs (popStep after)
      (discardedBelow ring after maxCpus,
        if after > ring.consumerAfter then PopPc.storeAfter else .selectTail 0)
      ({ discardedBelow ring after maxCpus with
        consumerAfter := if after > ring.consumerAfter then after else ring.consumerAfter },
        .selectTail 0) := by
    split_ifs
    · exact .head (.refl _)
    · exact .refl _
  refine hstore.trans ((select_runs _ after (maxCpus - 1) 0 rfl).trans ?_)
  rw [show maxCpus - 1 + 1 = maxCpus from rfl, ← List.range_eq_range', selected_eq]
  exact .refl _

end Consume

end Spz
