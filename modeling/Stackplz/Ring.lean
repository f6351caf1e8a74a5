import Stackplz.Wire

/-!
# The event ring

`core/ring.c` with every call taken as a whole: one bounded ring of committed slots per CPU, one
sequence counter for all of them, and a consumer that asks for the event after the last one it has
seen.  A slot is free while its commit word is 0.

The counters are 64-bit words and wrap as in the source.  `spz_next_sequence` retries its
compare-and-swap until it wins; in a whole call it wins at once.  For the same reason the second
look `spz_ring_pop_after` takes at the commit word, after copying the event, has no counterpart.
-/

namespace Spz

open Errno

structure RingSlot where
  commit : U64 := 0
  event : Event := {}

/-- `struct spz_cpu_ring`; the slots in use are those below `ringCapacity`. -/
structure CpuRing where
  head : U64 := 0
  tail : U64 := 0
  lost : U64 := 0
  lossPending : U64 := 0
  slots : ℕ → RingSlot := fun _ => {}

structure Ring where
  nextSequence : U64 := 0
  consumerAfter : U64 := 0
  cpu : ℕ → CpuRing := fun _ => {}

def ringInit : Ring := {}

namespace CpuRing

/-- `spz_cpu_used`. -/
def used (c : CpuRing) : U64 := c.head - c.tail

/-- The index of the slot a counter stands at. -/
def index (counter : U64) : ℕ := counter.toNat % ringCapacity

section

variable (c : CpuRing)

/-- The slot at the head, which the next event goes to. -/
def headSlot : RingSlot := c.slots (index c.head)

/-- The slot at the tail, which is consumed next. -/
def tailSlot : RingSlot := c.slots (index c.tail)

/-- Store an event in the head slot, commit it and advance the head. -/
def append (sequence : U64) (event : Event) : CpuRing :=
  { c with slots := Function.update c.slots (index c.head) ⟨sequence, event⟩, head := c.head + 1 }

/-- Free the tail slot and advance the tail. -/
def dropTail : CpuRing :=
  { c with
    slots := Function.update c.slots (index c.tail) { c.tailSlot with commit := 0 }
    tail := c.tail + 1 }

def countLoss : CpuRing :=
  { c with lost := c.lost + 1, lossPending := c.lossPending + 1 }

end

/-- The loop of `spz_discard_through`, for at most the given number of slots. -/
def discardUpTo (after : U64) : ℕ → CpuRing → CpuRing
  | 0, c => c
  | n + 1, c =>
    if c.tailSlot.commit = 0 ∨ c.tailSlot.commit > after then c
    else discardUpTo after n c.dropTail

/-- `spz_discard_through`: free the slots from the tail on whose sequence is not after the
cursor. -/
def discardThrough (after : U64) (c : CpuRing) : CpuRing :=
  discardUpTo after (c.head.toNat - c.tail.toNat) c

/-- The event at the tail, if it has the sequence number asked for. -/
def offers (c : CpuRing) (expected : U64) : Option Event :=
  if c.tail ≥ c.head then none
  else if c.tailSlot.commit ≠ expected then none
  else some c.tailSlot.event

end CpuRing

def Ring.updateCpu (ring : Ring) (cpu : ℕ) (f : CpuRing → CpuRing) : Ring :=
  { ring with cpu := Function.update ring.cpu cpu (f (ring.cpu cpu)) }

@[simp] lemma Ring.updateCpu_self (ring : Ring) (cpu : ℕ) (f : CpuRing → CpuRing) :
    (ring.updateCpu cpu f).cpu cpu = f (ring.cpu cpu) := Function.update_self ..

lemma Ring.updateCpu_of_ne (ring : Ring) {cpu i : ℕ} (h : i ≠ cpu) (f : CpuRing → CpuRing) :
    (ring.updateCpu cpu f).cpu i = ring.cpu i := Function.update_of_ne h ..

lemma Ring.updateCpu_same {β : Type*} (view : CpuRing → β) (ring : Ring) (cpu : ℕ)
    {f : CpuRing → CpuRing} (h : ∀ c, view (f c) = view c) (i : ℕ) :
    view ((ring.updateCpu cpu f).cpu i) = view (ring.cpu i) := by
  by_cases heq : i = cpu
  · subst heq
    rw [updateCpu_self, h]
  · rw [updateCpu_of_ne ring heq]

/-! ## Publishing -/

/-- The event as it is stored: the header, the place in the sequence and the checksum are the
ring's, the rest is the caller's. -/
def stampEvent (cpu : ℕ) (sequence : U64) (source : Event) : Event :=
  let event := { source with
    magic := eventMagic
    version := abiVersion
    size := eventWireSize
    cpu := BitVec.ofNat 32 cpu
    sequence := sequence
    reserved0 := 0
    reserved1 := 0 }
  { event with crc32 := crc32Ieee event.wireHead }

def nextSequence (ring : Ring) : Except Errno U64 :=
  if ring.nextSequence = BitVec.allOnes 64 then .error EOVERFLOW else .ok (ring.nextSequence + 1)

/-- `spz_publish`. -/
def ringPublish (ring : Ring) (cpu : ℕ) (source : Event) : Except Errno Unit × Ring :=
  let c := ring.cpu cpu
  if c.used ≥ BitVec.ofNat 64 ringCapacity then (.error ENOSPC, ring)
  else if c.headSlot.commit ≠ 0 then (.error EBUSY, ring)
  else
    match nextSequence ring with
    | .error e => (.error e, ring)
    | .ok sequence =>
      (.ok (), { ring with nextSequence := sequence }.updateCpu cpu
        (·.append sequence (stampEvent cpu sequence source)))

/-- The record of the events a CPU has dropped since the last such record. -/
def lossEvent (c : CpuRing) : Event :=
  { type := .loss, value := c.lossPending, observedAddress := c.lost }

/-- The part of `spz_ring_push` that reports earlier losses, if there is room for the report and
for the event. -/
def ringReportLoss (ring : Ring) (cpu : ℕ) (freeSlots : U64) : Except Errno Unit × Ring :=
  let pending := (ring.cpu cpu).lossPending
  if pending ≠ 0 ∧ freeSlots ≥ 2 then
    match ringPublish ring cpu (lossEvent (ring.cpu cpu)) with
    | (.error e, ring') => (.error e, ring')
    | (.ok (), ring') =>
      (.ok (), ring'.updateCpu cpu fun c => { c with lossPending := c.lossPending - pending })
  else (.ok (), ring)

def ringPush (ring : Ring) (cpu : ℕ) (event : Event) : Except Errno Unit × Ring :=
  if cpu ≥ maxCpus then (.error EINVAL, ring)
  else
    let freeSlots := BitVec.ofNat 64 ringCapacity - (ring.cpu cpu).used
    if freeSlots = 0 then (.error ENOSPC, ring.updateCpu cpu CpuRing.countLoss)
    else
      match ringReportLoss ring cpu freeSlots with
      | (.error e, ring') => (.error e, ring')
      | (.ok (), ring') =>
        match ringPublish ring' cpu event with
        | (.ok (), ring'') => (.ok (), ring'')
        | (.error e, ring'') =>
          (.error e, if e = ENOSPC then ring''.updateCpu cpu CpuRing.countLoss else ring'')

/-! ## Consuming -/

/-- The first CPU whose tail is the event with the sequence number asked for. -/
def ringSelect (ring : Ring) (expected : U64) : Option (ℕ × Event) :=
  (List.range maxCpus).findSome? fun cpu =>
    ((ring.cpu cpu).offers expected).map fun event => (cpu, event)

/-- `spz_ring_pop_after`: the event after the cursor, `none` if there is none yet. -/
def ringPopAfter (ring : Ring) (after : U64) : Except Errno (Option Event) × Ring :=
  if after < ring.consumerAfter then (.error ESTALE, ring)
  else if after > ring.nextSequence then (.error ERANGE, ring)
  else if after = BitVec.allOnes 64 then (.error EOVERFLOW, ring)
  else
    let discarded : Ring := { ring with
      cpu := fun i => if i < maxCpus then (ring.cpu i).discardThrough after else ring.cpu i
      consumerAfter := if after > ring.consumerAfter then after else ring.consumerAfter }
    match ringSelect discarded (after + 1) with
    | none => (.ok none, discarded)
    | some (cpu, event) =>
      (.ok (some event),
        { discarded.updateCpu cpu CpuRing.dropTail with consumerAfter := after + 1 })

end Spz
