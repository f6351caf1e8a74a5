import Stackplz.Ring.Contents
import Stackplz.Ring.Steps

/-!
# A ring with a push half done

While an `spz_publish` is on its way the words of its CPU lag behind what it has done: its sequence
number is allocated before the slot is committed, and the slot is committed before the head moves.
The consumer frees a slot before it moves the tail.  `HalfDone` is `CpuRing.Has` with these lags,
together with what the local variables of the push say about the slot it writes.

`HalfDone.step` is the step of the producer: it keeps this, never finds the slot at the head in use,
and leaves alone what the consumer relies on (`ProducerFrame`).
-/

namespace Spz

open Errno Circular BitVec CpuRing Spz.Ring

namespace PublishPc

/-- The slot is committed and the head has not moved yet. -/
def headLag : PublishPc → ℕ
  | .storeHead _ => 1
  | _ => 0

/-- The entry whose number is allocated and whose slot is not committed yet. -/
def inflight (cpu : ℕ) (source : Event) : PublishPc → List Entry
  | .copy _ sequence _ => [.stamped sequence.toNat cpu source]
  | .storeCommit _ sequence => [.stamped sequence.toNat cpu source]
  | _ => []

/-- What the local variables of the push say.  Once there was room there is room: the consumer only
makes more of it. -/
def Sound (c : CpuRing) (room : Prop) (cpu : ℕ) (source : Event) : PublishPc → Prop
  | .usedHead => True
  | .usedTail head => head = c.head
  | .loadHead => room
  | .loadCommit head => head = c.head ∧ room
  | .loadSequence head => head = c.head ∧ room
  | .trySequence head _ => head = c.head ∧ room
  | .copy head sequence k =>
    head = c.head ∧ room ∧ k < eventParts.length ∧
      copyRest k (stampEvent cpu sequence source) (c.slots (index head)).event =
        stampEvent cpu sequence source
  | .storeCommit head sequence =>
    head = c.head ∧ room ∧
      (c.slots (index head)).event = stampEvent cpu sequence source
  | .storeHead head => head = c.head
  | .returned result => result ≠ .error EBUSY

end PublishPc

/-- The ring of a CPU with a push half done.  The CPU has been given the numbers of `mine`, and
everything up to `r` is gone; `tailLag` is 1 while the consumer has freed a slot and the tail has
not moved yet. -/
structure HalfDone (c : CpuRing) (mine : List Entry) (r tailLag cpu : ℕ) (source : Event)
    (pc : PublishPc) : Prop where
  stores : ∃ es, mine = es ++ pc.inflight cpu source ∧
    Stores c.slots (c.tail.toNat + tailLag) (c.head.toNat + pc.headLag) es r
  after : ∀ e ∈ pc.inflight cpu source, r < e.sequence
  sound : pc.Sound c (c.head.toNat < c.tail.toNat + tailLag + ringCapacity) cpu source

/-- What a step of a push leaves alone. -/
structure ProducerFrame (cpu : ℕ) (ring ring' : Ring) : Prop where
  consumerAfter : ring'.consumerAfter = ring.consumerAfter
  other : ∀ i ≠ cpu, ring'.cpu i = ring.cpu i
  tail : (ring'.cpu cpu).tail = (ring.cpu cpu).tail
  head : (ring.cpu cpu).head ≤ (ring'.cpu cpu).head
  slots : ∀ i, ((ring.cpu cpu).slots i).commit ≠ 0 →
    (ring'.cpu cpu).slots i = (ring.cpu cpu).slots i

lemma ProducerFrame.refl (cpu : ℕ) (ring : Ring) : ProducerFrame cpu ring ring :=
  ⟨rfl, fun _ _ => rfl, rfl, BitVec.le_refl _, fun _ _ => rfl⟩

lemma ProducerFrame.updateCpu (cpu : ℕ) (ring : Ring) {f : CpuRing → CpuRing}
    (h : ∀ c, (f c).tail = c.tail ∧ (f c).head = c.head ∧ (f c).slots = c.slots) :
    ProducerFrame cpu ring (ring.updateCpu cpu f) := by
  obtain ⟨htail, hhead, hslots⟩ := h (ring.cpu cpu)
  refine ⟨rfl, fun i hi => updateCpu_of_ne _ hi _, ?_, ?_, fun i _ => ?_⟩
  · rw [updateCpu_self, htail]
  · rw [updateCpu_self, hhead]
    exact BitVec.le_refl _
  · rw [updateCpu_self, hslots]

namespace HalfDone

variable {c c' : CpuRing} {mine : List Entry} {r r' tailLag cpu : ℕ} {source : Event}
  {pc pc' : PublishPc}

variable (h : HalfDone c mine r tailLag cpu source pc)
include h

lemma move {source' : Event} (hpc : pc.inflight cpu source = [] ∧ pc.headLag = 0)
    (hpc' : pc'.inflight cpu source' = [] ∧ pc'.headLag = 0)
    (hsound : pc'.Sound c (c.head.toNat < c.tail.toNat + tailLag + ringCapacity) cpu source') :
    HalfDone c mine r tailLag cpu source' pc' := by
  obtain ⟨es, hmine, hstores⟩ := h.stores
  rw [hpc.1] at hmine
  rw [hpc.2] at hstores
  refine ⟨⟨es, ?_, ?_⟩, ?_, hsound⟩
  · rw [hpc'.1]
    exact hmine
  · rw [hpc'.2]
    exact hstores
  · rw [hpc'.1]
    simp

lemma skip (hle : r ≤ r') (hnone : ∀ e ∈ mine, r < e.sequence → r' < e.sequence) :
    HalfDone c mine r' tailLag cpu source pc := by
  obtain ⟨es, hmine, hstores⟩ := h.stores
  refine ⟨⟨es, hmine, hstores.skip hle fun e he => hnone e ?_⟩, fun e he => ?_, h.sound⟩
  · rw [hmine]
    exact List.mem_append_left _ he
  · refine hnone e ?_ (h.after e he)
    rw [hmine]
    exact List.mem_append_right _ he

lemma congr (hc : c'.tail = c.tail ∧ c'.head = c.head ∧ c'.slots = c.slots) :
    HalfDone c' mine r tailLag cpu source pc := by
  obtain ⟨htail, hhead, hslots⟩ := hc
  refine ⟨?_, h.after, ?_⟩
  · rw [htail, hhead, hslots]
    exact h.stores
  · have hsound := h.sound
    cases pc <;> simp only [PublishPc.Sound, htail, hhead, hslots] at hsound ⊢ <;> exact hsound

lemma free (hlag : pc.headLag = 0) (hroom : c.head.toNat < c.tail.toNat + tailLag + ringCapacity) :
    (c.slots (index c.head)).commit = 0 := by
  obtain ⟨es, -, hstores⟩ := h.stores
  rw [hlag] at hstores
  exact hstores.commit_head.mpr hroom

end HalfDone

/-! ## The steps of `spz_publish` -/

/-- The numbers of a CPU after a step of its push: one more if the step allocated one. -/
def withAllocated (ring ring' : Ring) (cpu : ℕ) (source : Event) (mine : List Entry) : List Entry :=
  if ring'.nextSequence = ring.nextSequence then mine
  else mine ++ [.stamped (ring.nextSequence.toNat + 1) cpu source]

lemma withAllocated_updateCpu (ring : Ring) (cpu : ℕ) (f : CpuRing → CpuRing) (source : Event)
    (mine : List Entry) : withAllocated ring (ring.updateCpu cpu f) cpu source mine = mine :=
  if_pos rfl

/-- What a step of a push does, seen from its CPU and from the others. -/
structure ProducerStep (mine : List Entry) (r tailLag cpu : ℕ) (source : Event) (ring ring' : Ring)
    (pc' : PublishPc) : Prop where
  half : HalfDone (ring'.cpu cpu)
    (withAllocated ring ring' cpu source mine) r tailLag cpu source pc'
  frame : ProducerFrame cpu ring ring'
  next : ring'.nextSequence = ring.nextSequence ∨
    ring.nextSequence ≠ BitVec.allOnes 64 ∧ ring'.nextSequence = ring.nextSequence + 1

namespace HalfDone

variable {ring : Ring} {mine : List Entry} {r tailLag cpu : ℕ} {source : Event} {pc pc' : PublishPc}

lemma reads (h : HalfDone (ring.cpu cpu) mine r tailLag cpu source pc)
    (hpc : pc.inflight cpu source = [] ∧ pc.headLag = 0)
    (hpc' : pc'.inflight cpu source = [] ∧ pc'.headLag = 0)
    (hsound : pc'.Sound (ring.cpu cpu)
      ((ring.cpu cpu).head.toNat < (ring.cpu cpu).tail.toNat + tailLag + ringCapacity) cpu source) :
    ProducerStep mine r tailLag cpu source ring ring pc' := by
  refine ⟨?_, .refl cpu ring, .inl rfl⟩
  rw [withAllocated, if_pos rfl]
  exact h.move hpc hpc' hsound

variable {head sequence : U64} {f : RingSlot → RingSlot}

/-- A producer takes the next sequence number. -/
lemma allocates
    (h : HalfDone (ring.cpu cpu) mine r tailLag cpu source (.trySequence head ring.nextSequence))
    (hr : r ≤ ring.nextSequence.toNat) (hlast : ring.nextSequence ≠ BitVec.allOnes 64) :
    ProducerStep mine r tailLag cpu source ring { ring with nextSequence := ring.nextSequence + 1 }
      (.copy head (ring.nextSequence + 1) 0) := by
  obtain ⟨es, hmine, hstores⟩ := h.stores
  have hnext : (ring.nextSequence + 1).toNat = ring.nextSequence.toNat + 1 := by
    rw [toNat_add]
    exact Nat.mod_eq_of_lt (toNat_add_one_lt hlast)
  have hne : ring.nextSequence + 1 ≠ ring.nextSequence := fun heq => by
    rw [heq] at hnext
    omega
  refine ⟨⟨⟨es, ?_, hstores⟩, fun e he => ?_, ?_⟩, ⟨rfl, fun _ _ => rfl, rfl, BitVec.le_refl _,
    fun _ _ => rfl⟩, .inr ⟨hlast, rfl⟩⟩
  · rw [withAllocated, if_neg hne, hmine]
    simp only [PublishPc.inflight, List.append_nil, hnext]
  · rw [PublishPc.inflight, List.mem_singleton] at he
    subst he
    rw [hnext]
    exact Nat.lt_succ_of_le hr
  · obtain ⟨hhead, hroom⟩ := h.sound
    exact ⟨hhead, hroom, eventParts_pos, copyRest_zero ..⟩

lemma frame_of_free {i : ℕ} (hfree : ((ring.cpu cpu).slots i).commit = 0)
    : ProducerFrame cpu ring (ring.updateCpu cpu (·.updateSlot i f)) := by
  refine ⟨rfl, fun j hj => updateCpu_of_ne _ hj _, ?_, ?_, fun j hj => ?_⟩
  · rw [updateCpu_self]
    rfl
  · rw [updateCpu_self]
    exact BitVec.le_refl _
  · rw [updateCpu_self]
    refine Function.update_of_ne ?_ ..
    rintro rfl
    exact hj hfree

/-- A step that writes to the free slot at the head and does not commit it. -/
lemma scribbles (h : HalfDone (ring.cpu cpu) mine r tailLag cpu source pc) (hlag : pc.headLag = 0)
    (hroom : (ring.cpu cpu).head.toNat < (ring.cpu cpu).tail.toNat + tailLag + ringCapacity)
    (hf : ∀ slot, (f slot).commit = slot.commit)
    (hpc' : pc'.inflight cpu source = pc.inflight cpu source ∧ pc'.headLag = 0)
    (hsound : pc'.Sound ((ring.cpu cpu).updateSlot (index (ring.cpu cpu).head) f)
      ((ring.cpu cpu).head.toNat < (ring.cpu cpu).tail.toNat + tailLag + ringCapacity) cpu source) :
    ProducerStep mine r tailLag cpu source ring
      (ring.updateCpu cpu (·.updateSlot (index (ring.cpu cpu).head) f)) pc' := by
  obtain ⟨es, hmine, hstores⟩ := h.stores
  have hfree := h.free hlag hroom
  rw [hlag] at hstores
  refine ⟨?_, frame_of_free hfree, .inl rfl⟩
  rw [withAllocated_updateCpu, updateCpu_self]
  refine ⟨⟨es, ?_, ?_⟩, ?_, hsound⟩
  · rw [hpc'.1]
    exact hmine
  · rw [hpc'.2]
    exact hstores.scribble hroom ((hf _).trans hfree)
  · rw [hpc'.1]
    exact h.after

lemma copies {k : ℕ}
    (h : HalfDone (ring.cpu cpu) mine r tailLag cpu source (.copy head sequence k)) :
    ProducerStep mine r tailLag cpu source ring
      (publishStep cpu source (ring, .copy head sequence k)).1
      (publishStep cpu source (ring, .copy head sequence k)).2 := by
  obtain ⟨rfl, hroom, hk, hrest⟩ := h.sound
  rw [← copyRest_step hk] at hrest
  rw [publishStep]
  split_ifs with hmore
  · refine h.scribbles rfl hroom (fun _ => rfl) ⟨rfl, rfl⟩ ⟨rfl, hroom, hmore, ?_⟩
    simp only [updateSlot, Function.update_self]
    exact hrest
  · refine h.scribbles rfl hroom (fun _ => rfl) ⟨rfl, rfl⟩ ⟨rfl, hroom, ?_⟩
    rw [show k + 1 = eventParts.length by omega, copyRest_length] at hrest
    simp only [updateSlot, Function.update_self]
    exact hrest

/-- The commit. -/
lemma commits (hnum : Numbered mine)
    (h : HalfDone (ring.cpu cpu) mine r tailLag cpu source (.storeCommit head sequence)) :
    ProducerStep mine r tailLag cpu source ring
      (ring.updateCpu cpu (·.updateSlot (index head) fun slot =>
        { slot with commit := sequence })) (.storeHead head) := by
  obtain ⟨es, hmine, hstores⟩ := h.stores
  obtain ⟨rfl, hroom, hevent⟩ := h.sound
  have hinc := (List.pairwise_append.mp (hmine ▸ hnum.increasing)).2.2
  have hpub := hstores.publish (e := .stamped sequence.toNat cpu source) hroom
    (fun a ha => hinc a ha _ (List.mem_singleton_self _)) (h.after _ (List.mem_singleton_self _))
    sequence.isLt
  refine ⟨?_, frame_of_free (h.free rfl hroom), .inl rfl⟩
  rw [withAllocated_updateCpu, updateCpu_self]
  refine ⟨⟨mine, (List.append_nil _).symm, ?_⟩, by simp [PublishPc.inflight], rfl⟩
  rw [hmine]
  have hslot : (⟨sequence, stampEvent cpu sequence source⟩ : RingSlot) =
      (Entry.stamped sequence.toNat cpu source).slot := by
    rw [Entry.slot, Entry.stamped, ofNat_toNat, setWidth_eq]
  simp only [updateSlot, hevent, hslot]
  exact hpub

lemma advances (h : HalfDone (ring.cpu cpu) mine r tailLag cpu source (.storeHead head)) :
    ProducerStep mine r tailLag cpu source ring
      (ring.updateCpu cpu fun c => { c with head := head + 1 }) (.returned (.ok ())) := by
  obtain ⟨es, hmine, hstores⟩ := h.stores
  obtain rfl : head = (ring.cpu cpu).head := h.sound
  have hhead : ((ring.cpu cpu).head + 1).toNat = (ring.cpu cpu).head.toNat + 1 := by
    rw [toNat_add]
    exact Nat.mod_eq_of_lt hstores.head_lt
  refine ⟨?_, ⟨rfl, fun i hi => updateCpu_of_ne _ hi _, ?_, ?_, fun i _ => ?_⟩, .inl rfl⟩
  · rw [withAllocated_updateCpu, updateCpu_self]
    refine ⟨⟨es, hmine, ?_⟩, by simp [PublishPc.inflight], by simp [PublishPc.Sound]⟩
    show Stores _ _ (((ring.cpu cpu).head + 1).toNat + 0) _ _
    rw [hhead]
    exact hstores
  · rw [updateCpu_self]
  · rw [updateCpu_self, le_def, hhead]
    exact Nat.le_succ _
  · rw [updateCpu_self]

/-- Every step of `spz_publish` keeps the ring of its CPU in order. -/
lemma step (h : HalfDone (ring.cpu cpu) mine r tailLag cpu source pc) (hnum : Numbered mine)
    (hr : r ≤ ring.nextSequence.toNat) :
    ProducerStep mine r tailLag cpu source ring (publishStep cpu source (ring, pc)).1
      (publishStep cpu source (ring, pc)).2 := by
  cases pc with
  | usedHead => exact h.reads ⟨rfl, rfl⟩ ⟨rfl, rfl⟩ rfl
  | usedTail head =>
    obtain rfl : head = (ring.cpu cpu).head := h.sound
    rw [publishStep]
    split_ifs with hfull
    · exact h.reads ⟨rfl, rfl⟩ ⟨rfl, rfl⟩ (by simp [PublishPc.Sound, ENOSPC, EBUSY])
    · refine h.reads ⟨rfl, rfl⟩ ⟨rfl, rfl⟩ ?_
      -- the tail in memory is not ahead of the slots that are free
      obtain ⟨es, -, hstores⟩ := h.stores
      have hspan := hstores.span
      rw [ge_iff_le, le_def, toNat_sub_of_le] at hfull
      · show (ring.cpu cpu).head.toNat < _
        change ¬ ringCapacity ≤ _ at hfull
        omega
      · rw [le_def]
        change (ring.cpu cpu).tail.toNat + tailLag + _ = (ring.cpu cpu).head.toNat + 0 at hspan
        omega
  | loadHead => exact h.reads ⟨rfl, rfl⟩ ⟨rfl, rfl⟩ ⟨rfl, h.sound⟩
  | loadCommit head =>
    obtain ⟨rfl, hroom⟩ := h.sound
    rw [publishStep, if_neg (not_not.mpr (h.free rfl hroom))]
    exact h.reads ⟨rfl, rfl⟩ ⟨rfl, rfl⟩ ⟨rfl, hroom⟩
  | trySequence head previous =>
    rw [publishStep]
    split_ifs with hlast hsame
    · exact h.reads ⟨rfl, rfl⟩ ⟨rfl, rfl⟩ (by simp [PublishPc.Sound, EOVERFLOW, EBUSY])
    · subst hsame
      exact h.allocates hr hlast
    · exact h.reads ⟨rfl, rfl⟩ ⟨rfl, rfl⟩ h.sound
  | copy head sequence k => exact h.copies
  | storeCommit head sequence => exact h.commits hnum
  | storeHead head => exact h.advances
  | _ => exact h.reads ⟨rfl, rfl⟩ ⟨rfl, rfl⟩ h.sound

end HalfDone

/-! ## The consumer's side -/

lemma PublishPc.Sound.mono {c c' : CpuRing} {room room' : Prop} {cpu : ℕ} {source : Event}
    {pc : PublishPc} (h : pc.Sound c room cpu source) (hhead : c'.head = c.head)
    (hevent : ∀ i, (c'.slots i).event = (c.slots i).event) (hroom : room → room') :
    pc.Sound c' room' cpu source := by
  cases pc with
  | usedHead => trivial
  | usedTail head | storeHead head => exact Eq.trans h hhead.symm
  | loadHead => exact hroom h
  | copy head sequence k =>
    refine ⟨h.1.trans hhead.symm, hroom h.2.1, h.2.2.1, ?_⟩
    rw [hevent]
    exact h.2.2.2
  | storeCommit head sequence =>
    refine ⟨h.1.trans hhead.symm, hroom h.2.1, ?_⟩
    rw [hevent]
    exact h.2.2
  | returned result => exact h
  | _ => exact ⟨h.1.trans hhead.symm, hroom h.2⟩

namespace HalfDone

variable {c : CpuRing} {mine : List Entry} {r tailLag cpu : ℕ} {source : Event} {pc : PublishPc}

lemma tail_entry (h : HalfDone c mine r 0 cpu source pc) (hlt : c.tail < c.head) :
    ∃ e ∈ mine, r < e.sequence ∧ c.slots (index c.tail) = e.slot := by
  obtain ⟨es, hmine, hstores⟩ := h.stores
  rw [lt_def] at hlt
  have hspan := hstores.span
  cases hlive : live es r with
  | nil =>
    rw [hlive, List.length_nil] at hspan
    omega
  | cons e rest =>
    obtain ⟨hmem, hr⟩ := mem_live.mp (hlive ▸ List.mem_cons_self : e ∈ live es r)
    exact ⟨e, hmine ▸ List.mem_append_left _ hmem, hr, hstores.first hlive⟩

/-- The consumer frees the slot at the tail. -/
lemma frees (h : HalfDone c mine r 0 cpu source pc) (hnum : Numbered mine) {e : Entry}
    (he : e ∈ mine) (hslot : c.slots (index c.tail) = e.slot) :
    HalfDone (c.updateSlot (index c.tail) fun slot => { slot with commit := 0 }) mine
      e.sequence 1 cpu source pc := by
  obtain ⟨es, hmine, hstores⟩ := h.stores
  have hcommit : e.slot.commit ≠ 0 := fun hzero => by
    have hpos := hnum.pos e he
    have := Entry.commit_toNat (hnum.lt e he)
    rw [hzero, show (0 : U64).toNat = 0 from rfl] at this
    omega
  obtain ⟨first, rest, hlive⟩ : ∃ first rest, live es r = first :: rest := by
    cases hlive : live es r with
    | nil =>
      have hfree := hstores.slots.free (by rw [hlive]; exact Nat.zero_lt_succ _)
      rw [hlive] at hfree
      rw [← hslot] at hcommit
      exact absurd hfree hcommit
    | cons first rest => exact ⟨first, rest, rfl⟩
  have hfirst := (mem_live.mp (hlive ▸ List.mem_cons_self : first ∈ live es r)).1
  have hsame : first.sequence = e.sequence := by
    have heq : first.slot = e.slot := (hstores.first hlive).symm.trans hslot
    rw [← Entry.commit_toNat (hstores.numbered.lt first hfirst), heq,
      Entry.commit_toNat (hnum.lt e he)]
  refine ⟨⟨es, hmine, ?_⟩, fun a ha => ?_, ?_⟩
  · rw [← hsame]
    exact hstores.remove hlive rfl
  · rw [← hsame]
    exact (List.pairwise_append.mp (hmine ▸ hnum.increasing)).2.2 first hfirst a ha
  · refine h.sound.mono rfl (fun i => ?_) fun hroom => ?_
    · by_cases hi : i = index c.tail
      · subst hi
        simp [updateSlot]
      · simp [updateSlot, Function.update_of_ne hi]
    · show c.head.toNat < c.tail.toNat + 1 + ringCapacity
      omega

lemma moves (h : HalfDone c mine r 1 cpu source pc) :
    HalfDone { c with tail := c.tail + 1 } mine r 0 cpu source pc := by
  obtain ⟨es, hmine, hstores⟩ := h.stores
  have hspan := hstores.span
  have hlt := hstores.head_lt
  have htail : (c.tail + 1).toNat = c.tail.toNat + 1 := by
    rw [toNat_add]
    exact Nat.mod_eq_of_lt (by change c.tail.toNat + 1 < _; omega)
  refine ⟨⟨es, hmine, ?_⟩, h.after, h.sound.mono rfl (fun _ => rfl) fun hroom => ?_⟩
  · show Stores _ ((c.tail + 1).toNat + 0) _ _ _
    rw [htail]
    exact hstores
  · show c.head.toNat < (c.tail + 1).toNat + 0 + ringCapacity
    rw [htail]
    exact hroom

end HalfDone

end Spz
