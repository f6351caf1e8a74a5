import Stackplz.Ring.Fifo
import Stackplz.Ring.HalfDone

/-!
# The ring under concurrency

One producer per CPU and one consumer on a shared ring, interleaved at single accesses.  A producer
starts an `spz_ring_push` whenever it is idle; the consumer polls again and again with the sequence
number it has received last.  Ghost state: the `log` of the events in the order in which their
numbers are allocated, and for each CPU the pushes that have returned 0.

`Coherent` is the invariant: every CPU is `HalfDone` as far as its producer and the consumer have
got, and the consumer's local variables agree with the memory.  This file has the steps of the
producers; those of the consumer and the results are in `Stackplz.Ring.Polling`.
-/

namespace Spz

open Errno Transition Function

/-! ## The system -/

/-- The shared ring with its producers and its consumer. -/
structure RingWorld where
  ring : Ring := ringInit
  producer : ℕ → Option (Event × PushPc) := fun _ => none
  consumer : PopPc := .loadAfter
  last : U64 := 0
  received : List Event := []
  log : List Published := []
  accepted : ℕ → List Event := fun _ => []

/-- What a push publishes if its step allocates a number. -/
def PushPc.publishes (cpu : ℕ) (event : Event) : PushPc → Published
  | .report _ loss _ => { cpu := cpu, source := loss, report := true }
  | _ => { cpu := cpu, source := event }

namespace RingWorld

section

variable (s : RingWorld) (cpu : ℕ) (event : Event)

/-- A producer starts a push. -/
def begin : RingWorld :=
  { s with producer := update s.producer cpu (some (event, .start cpu)) }

def produce (pc : PushPc) : RingWorld :=
  let out := pushStep cpu event (s.ring, pc)
  { s with
    ring := out.1
    producer := update s.producer cpu (some (event, out.2))
    log := if out.1.nextSequence = s.ring.nextSequence then s.log
      else s.log ++ [pc.publishes cpu event] }

def finish (result : Except Errno Unit) : RingWorld :=
  { s with
    producer := update s.producer cpu none
    accepted := match result with
      | .ok () => update s.accepted cpu (s.accepted cpu ++ [event])
      | .error _ => s.accepted }

end

/-- The consumer takes a step; after a call it takes note of the event and polls again. -/
def consume (s : RingWorld) : RingWorld :=
  match s.consumer with
  | .returned (.ok (some event)) =>
    { s with consumer := .loadAfter, last := event.sequence, received := s.received ++ [event] }
  | .returned _ => { s with consumer := .loadAfter }
  | pc =>
    let out := popStep s.last (s.ring, pc)
    { s with ring := out.1, consumer := out.2 }

end RingWorld

inductive RingAction
  | push (cpu : ℕ) (event : Event)
  | producer (cpu : ℕ)
  | consumer

def ringWorldNext (s : RingWorld) : RingAction → Option RingWorld
  | .push cpu event =>
    if cpu < maxCpus ∧ (s.producer cpu).isNone then some (s.begin cpu event) else none
  | .producer cpu =>
    match s.producer cpu with
    | none => none
    | some (event, .returned result) => some (s.finish cpu event result)
    | some (event, pc) => some (s.produce cpu event pc)
  | .consumer => some s.consume

def ringWorldSystem : System RingWorld RingAction := .ofStep (· = {}) ringWorldNext

/-- What a step can do. -/
inductive RingWorldStep (s : RingWorld) : RingWorld → Prop
  | begin (cpu : ℕ) (event : Event) : cpu < maxCpus → s.producer cpu = none →
      RingWorldStep s (s.begin cpu event)
  | produce (cpu : ℕ) (event : Event) (pc : PushPc) : s.producer cpu = some (event, pc) →
      (∀ result, pc ≠ .returned result) → RingWorldStep s (s.produce cpu event pc)
  | finish (cpu : ℕ) (event : Event) (result : Except Errno Unit) :
      s.producer cpu = some (event, .returned result) → RingWorldStep s (s.finish cpu event result)
  | consume : RingWorldStep s s.consume

lemma ringWorldNext_cases {s s' : RingWorld} {a : RingAction} (h : ringWorldNext s a = some s') :
    RingWorldStep s s' := by
  cases a with
  | push cpu event =>
    simp only [ringWorldNext, Option.isNone_iff_eq_none] at h
    split_ifs at h with hidle
    cases h
    exact .begin cpu event hidle.1 hidle.2
  | producer cpu =>
    simp only [ringWorldNext] at h
    split at h
    case h_1 => cases h
    case h_2 event result hp =>
        cases h
        exact .finish cpu event result hp
    case h_3 event pc hrunning hp =>
        cases h
        exact .produce cpu event pc hp hrunning
  | consumer =>
    cases h
    exact .consume

/-! ## The invariant -/

/-- The `spz_publish` a push is in; outside of one it has nothing on its way. -/
def PushPc.stage (event : Event) : PushPc → Event × PublishPc
  | .report _ loss pc => (loss, pc)
  | .publish pc => (event, pc)
  | _ => (event, .usedHead)

namespace PopPc

/-- The slot is freed and the number not yet taken note of. -/
def popped : PopPc → ℕ
  | .storeTail .. => 1
  | .storeConsumed _ => 1
  | .returned (.ok (some _)) => 1
  | _ => 0

/-- The slot is freed and the tail has not moved yet. -/
def tailLag (i : ℕ) : PopPc → ℕ
  | .storeTail cpu _ _ => if i = cpu then 1 else 0
  | _ => 0

/-- The cursor in memory is ahead of the consumer's. -/
def stored : PopPc → ℕ
  | .returned (.ok (some _)) => 1
  | _ => 0

end PopPc

/-- The event after the last one received. -/
def IsNext (log : List Published) (last : U64) (event : Event) : Prop :=
  ∃ p, log[last.toNat]? = some p ∧ event = p.delivered (last.toNat + 1)

/-- The consumer looks for the event after `last` at a CPU whose tail it has read. -/
structure AtTail (ring : Ring) (last : U64) (cpu : ℕ) (tail : U64) : Prop where
  cpu_lt : cpu < maxCpus
  last_ne : last ≠ BitVec.allOnes 64
  tail_eq : tail = (ring.cpu cpu).tail

/-- It has found that event there. -/
structure Found (ring : Ring) (log : List Published) (last : U64) (cpu : ℕ) (tail : U64)
    (event : Event) : Prop extends AtTail ring last cpu tail where
  slot : (ring.cpu cpu).slots (CpuRing.index tail) = ⟨last + 1, event⟩
  mine : ∃ p, log[last.toNat]? = some p ∧ p.cpu = cpu ∧ event = p.delivered (last.toNat + 1)

/-- What the local variables of a poll say.  Whatever is not after the cursor is gone already, so
that the poll frees nothing before it has found its event. -/
def PopPc.Sound (ring : Ring) (log : List Published) (last : U64) : PopPc → Prop
  | .loadAfter => True
  | .loadLatest consumerAfter => consumerAfter = last
  | .discardTail consumerAfter cpu =>
    consumerAfter = last ∧ cpu < maxCpus ∧ last ≠ BitVec.allOnes 64
  | .discardHead consumerAfter cpu tail => consumerAfter = last ∧ AtTail ring last cpu tail
  | .discardCommit consumerAfter cpu tail _ =>
    consumerAfter = last ∧ AtTail ring last cpu tail ∧ tail < (ring.cpu cpu).head
  | .discardClear .. => False
  | .discardStore .. => False
  | .storeAfter => False
  | .selectTail cpu => cpu < maxCpus ∧ last ≠ BitVec.allOnes 64
  | .selectHead cpu tail => AtTail ring last cpu tail
  | .selectCommit cpu tail => AtTail ring last cpu tail ∧ tail < (ring.cpu cpu).head
  | .copy cpu tail k out =>
    k < eventParts.length ∧
      ∃ event, Found ring log last cpu tail event ∧ copyRest k event out = event
  | .recheck cpu tail out => Found ring log last cpu tail out
  | .clear cpu tail out => Found ring log last cpu tail out
  | .storeTail cpu tail out => AtTail ring last cpu tail ∧ IsNext log last out
  | .storeConsumed out => IsNext log last out
  | .returned (.ok none) => True
  | .returned (.ok (some out)) => IsNext log last out
  | .returned (.error e) => e = EOVERFLOW

namespace RingWorld

def stage (s : RingWorld) (i : ℕ) : Event × PublishPc :=
  match s.producer i with
  | none => ({}, .usedHead)
  | some (event, pc) => pc.stage event

/-- Everything up to here is gone. -/
def gone (s : RingWorld) : ℕ := s.last.toNat + s.consumer.popped

/-- The invariant. -/
structure Coherent (s : RingWorld) : Prop where
  next : s.ring.nextSequence.toNat = s.log.length
  cpus : ∀ p ∈ s.log, p.cpu < maxCpus
  le : s.gone ≤ s.log.length
  half : ∀ i < maxCpus, HalfDone (s.ring.cpu i) (entriesOf s.log i) s.gone (s.consumer.tailLag i) i
    (s.stage i).1 (s.stage i).2
  running : ∀ i event pc, s.producer i = some (event, pc) → i < maxCpus
  answers : ∀ i event result, s.producer i = some (event, .returned result) →
    result ≠ .error EBUSY
  consumer : s.consumer.Sound s.ring s.log s.last
  cursor : s.ring.consumerAfter.toNat = s.last.toNat + s.consumer.stored
  count : s.last.toNat = s.received.length
  received : ∀ i event, s.received[i]? = some event →
    ∃ p : Published, s.log[i]? = some p ∧ event = p.delivered (i + 1)

end RingWorld

/-! ## Producers -/

/-- What a step of a push does, seen from its CPU and from the others. -/
structure PushDone (mine : List Entry) (r tailLag cpu : ℕ) (event : Event) (source : Event)
    (ring ring' : Ring) (pc' : PushPc) : Prop where
  half : HalfDone (ring'.cpu cpu) (withAllocated ring ring' cpu source mine) r tailLag cpu
    (pc'.stage event).1 (pc'.stage event).2
  frame : ProducerFrame cpu ring ring'
  next : ring'.nextSequence = ring.nextSequence ∨
    ring.nextSequence ≠ BitVec.allOnes 64 ∧ ring'.nextSequence = ring.nextSequence + 1
  answer : ∀ result, pc' = .returned result → result ≠ .error EBUSY

section Push

variable {ring : Ring} {mine : List Entry} {r tailLag cpu : ℕ} {event source : Event}
  {pc : PublishPc} {pc' : PushPc}

lemma HalfDone.outside (h : HalfDone (ring.cpu cpu) mine r tailLag cpu source .usedHead)
    {f : CpuRing → CpuRing}
    (hf : ∀ c, (f c).tail = c.tail ∧ (f c).head = c.head ∧ (f c).slots = c.slots)
    (hpc' : (pc'.stage event).2 = .usedHead)
    (hanswer : ∀ result, pc' = .returned result → result ≠ .error EBUSY) :
    PushDone mine r tailLag cpu event source ring (ring.updateCpu cpu f) pc' := by
  refine ⟨?_, .updateCpu cpu ring hf, .inl rfl, hanswer⟩
  rw [withAllocated_updateCpu, Ring.updateCpu_self, hpc']
  exact (h.congr (hf _)).move ⟨rfl, rfl⟩ ⟨rfl, rfl⟩ trivial

lemma HalfDone.idle (h : HalfDone (ring.cpu cpu) mine r tailLag cpu source .usedHead)
    (hpc' : (pc'.stage event).2 = .usedHead)
    (hanswer : ∀ result, pc' = .returned result → result ≠ .error EBUSY) :
    PushDone mine r tailLag cpu event source ring ring pc' := by
  refine ⟨?_, .refl cpu ring, .inl rfl, hanswer⟩
  rw [withAllocated, if_pos rfl, hpc']
  exact h.move ⟨rfl, rfl⟩ ⟨rfl, rfl⟩ trivial

variable {ring' : Ring}

lemma ProducerStep.inside {source : Event} {pc : PublishPc}
    (h : ProducerStep mine r tailLag cpu source ring ring' pc)
    (hpc' : pc'.stage event = (source, pc) ∨
      (∃ result, pc = .returned result) ∧ (pc'.stage event).2 = .usedHead)
    (hanswer : ∀ result, pc' = .returned result → result ≠ .error EBUSY) :
    PushDone mine r tailLag cpu event source ring ring' pc' := by
  refine ⟨?_, h.frame, h.next, hanswer⟩
  rcases hpc' with hsame | ⟨⟨result, rfl⟩, hdone⟩
  · rw [hsame]
    exact h.half
  · rw [hdone]
    exact h.half.move ⟨rfl, rfl⟩ ⟨rfl, rfl⟩ trivial

lemma ProducerStep.afterReport {source : Event} {pc : PublishPc} (pending : U64)
    (h : ProducerStep mine r tailLag cpu source ring ring' pc) :
    PushDone mine r tailLag cpu event source ring ring' (.afterReport pending source pc) := by
  have hsound := h.half.sound
  cases pc with
  | returned result =>
    refine h.inside (.inr ⟨⟨result, rfl⟩, ?_⟩) ?_
    · cases result <;> rfl
    · cases result with
      | ok => simp [PushPc.afterReport]
      | error e =>
        rintro _ ⟨⟩
        exact hsound
  | _ => exact h.inside (.inl rfl) (by simp [PushPc.afterReport])

lemma ProducerStep.afterPublish {pc : PublishPc}
    (h : ProducerStep mine r tailLag cpu event ring ring' pc) :
    PushDone mine r tailLag cpu event event ring ring' (.afterPublish pc) := by
  have hsound := h.half.sound
  cases pc with
  | returned result =>
    cases result with
    | ok => exact h.inside (.inr ⟨⟨_, rfl⟩, rfl⟩) (by simp [PushPc.afterPublish])
    | error e =>
      refine h.inside (.inr ⟨⟨_, rfl⟩, ?_⟩) ?_
      · simp only [PushPc.afterPublish]
        split_ifs <;> rfl
      · simp only [PushPc.afterPublish]
        split_ifs
        · simp
        · rintro _ ⟨⟩
          exact hsound
  | _ => exact h.inside (.inl rfl) (by simp [PushPc.afterPublish])

/-- Every step of `spz_ring_push` keeps the ring of its CPU in order. -/
lemma HalfDone.pushStep {pc : PushPc}
    (h : HalfDone (ring.cpu cpu) mine r tailLag cpu (pc.stage event).1 (pc.stage event).2)
    (hanswer : ∀ result, pc = .returned result → result ≠ .error EBUSY) (hnum : Numbered mine)
    (hr : r ≤ ring.nextSequence.toNat) :
    PushDone mine r tailLag cpu event (pc.stage event).1 ring (Spz.pushStep cpu event (ring, pc)).1
      (Spz.pushStep cpu event (ring, pc)).2 := by
  cases pc with
  | usedHead | loadLost pending => exact h.idle rfl (by simp [Spz.pushStep])
  | countLost | subPending pending =>
    dsimp only [Spz.pushStep]
    exact h.outside (fun _ => ⟨rfl, rfl, rfl⟩) rfl (by simp)
  | countPending =>
    dsimp only [Spz.pushStep]
    refine h.outside (fun _ => ⟨rfl, rfl, rfl⟩) rfl ?_
    rintro _ ⟨⟩
    simp [ENOSPC, EBUSY]
  | report pending loss pc => exact (h.step hnum hr).afterReport pending
  | publish pc => exact (h.step hnum hr).afterPublish
  | returned result => exact h.idle rfl hanswer
  | _ =>
    dsimp only [Spz.pushStep]
    split_ifs
    all_goals exact h.idle rfl (by simp)

end Push

/-! ## What a producer leaves to the consumer -/

lemma getElem?_of_extends {α : Type*} {l l' : List α} (h : l <+: l') {i : ℕ} {a : α}
    (ha : l[i]? = some a) : l'[i]? = some a := by
  obtain ⟨t, rfl⟩ := h
  rw [List.getElem?_append_left (List.getElem?_eq_some_iff.mp ha).1, ha]

section Frame

variable {cpu : ℕ} {ring ring' : Ring} {log log' : List Published} {last : U64}

lemma ProducerFrame.tail_eq (h : ProducerFrame cpu ring ring') (i : ℕ) :
    (ring'.cpu i).tail = (ring.cpu i).tail := by
  by_cases hi : i = cpu
  · subst hi
    exact h.tail
  · rw [h.other i hi]

variable {tail : U64}

variable {i c : ℕ} {event : Event}

lemma ProducerFrame.lt_head (h : ProducerFrame cpu ring ring')
    (hlt : tail < (ring.cpu i).head) : tail < (ring'.cpu i).head := by
  by_cases hi : i = cpu
  · subst hi
    have hle := h.head
    rw [BitVec.le_def] at hle
    rw [BitVec.lt_def] at hlt ⊢
    omega
  · rw [h.other i hi]
    exact hlt

lemma ProducerFrame.slot_eq (h : ProducerFrame cpu ring ring') {j : ℕ}
    (hcommit : ((ring.cpu i).slots j).commit ≠ 0) :
    (ring'.cpu i).slots j = (ring.cpu i).slots j := by
  by_cases hi : i = cpu
  · subst hi
    exact h.slots j hcommit
  · rw [h.other i hi]

lemma AtTail.produced (h : AtTail ring last c tail)
    (hf : ProducerFrame cpu ring ring') : AtTail ring' last c tail :=
  ⟨h.cpu_lt, h.last_ne, h.tail_eq.trans (hf.tail_eq c).symm⟩

lemma Found.produced (h : Found ring log last c tail event) (hf : ProducerFrame cpu ring ring')
    (hlog : log <+: log') : Found ring' log' last c tail event := by
  refine ⟨h.toAtTail.produced hf, ?_, ?_⟩
  · rw [hf.slot_eq]
    · exact h.slot
    · rw [h.slot]
      exact add_one_ne_zero_of_ne h.last_ne
  · obtain ⟨p, hp, hrest⟩ := h.mine
    exact ⟨p, getElem?_of_extends hlog hp, hrest⟩

lemma IsNext.produced (h : IsNext log last event)
    (hlog : log <+: log') : IsNext log' last event := by
  obtain ⟨p, hp, hrest⟩ := h
  exact ⟨p, getElem?_of_extends hlog hp, hrest⟩

/-- The consumer does not notice a step of a producer. -/
lemma PopPc.Sound.produced {pc : PopPc} (h : pc.Sound ring log last)
    (hf : ProducerFrame cpu ring ring') (hlog : log <+: log') : pc.Sound ring' log' last := by
  cases pc with
  | discardHead consumerAfter c tail => exact ⟨h.1, h.2.produced hf⟩
  | discardCommit consumerAfter c tail head =>
    exact ⟨h.1, h.2.1.produced hf, hf.lt_head h.2.2⟩
  | selectHead c tail => exact AtTail.produced h hf
  | selectCommit c tail => exact ⟨h.1.produced hf, hf.lt_head h.2⟩
  | copy c tail k out =>
    obtain ⟨hk, event, hfound, hrest⟩ := h
    exact ⟨hk, event, hfound.produced hf hlog, hrest⟩
  | recheck c tail out | clear c tail out => exact Found.produced h hf hlog
  | storeTail c tail out => exact ⟨h.1.produced hf, h.2.produced hlog⟩
  | storeConsumed out => exact IsNext.produced h hlog
  | returned result =>
    match result, h with
    | .ok none, h => exact h
    | .ok (some out), h => exact IsNext.produced h hlog
    | .error e, h => exact h
  | _ => exact h

end Frame

/-! ## The steps keep the invariant -/

lemma PushPc.publishes_eq (cpu : ℕ) (event : Event) (pc : PushPc) :
    (pc.publishes cpu event).cpu = cpu ∧
      (pc.publishes cpu event).source = (pc.stage event).1 := by
  cases pc <;> exact ⟨rfl, rfl⟩

lemma entriesOf_allocated {log : List Published} {ring : Ring}
    (hnext : ring.nextSequence.toNat = log.length) (ring' : Ring) (p : Published) (i : ℕ) :
    entriesOf (if ring'.nextSequence = ring.nextSequence then log else log ++ [p]) i =
      if i = p.cpu then withAllocated ring ring' p.cpu p.source (entriesOf log i)
      else entriesOf log i := by
  unfold withAllocated
  split_ifs with hsame hi hi
  · rfl
  · rfl
  · subst hi
    rw [entriesOf_append, update_self, hnext]
  · rw [entriesOf_append, update_of_ne hi]

namespace RingWorld.Coherent

variable {s : RingWorld} {cpu : ℕ} {event : Event}

lemma log_lt (h : s.Coherent) : s.log.length < 2 ^ 64 := h.next ▸ s.ring.nextSequence.isLt

lemma numbered (h : s.Coherent) (i : ℕ) : Numbered (entriesOf s.log i) :=
  entriesOf_numbered h.log_lt i

lemma init : ({} : RingWorld).Coherent := by
  refine ⟨rfl, by simp, Nat.le_refl _,
    fun i _ => ⟨⟨[], rfl, ?_⟩, by simp [stage, PublishPc.inflight],
    trivial⟩, by simp, by simp, trivial, rfl, rfl, by simp⟩
  exact CpuRing.has_zero 0

/-- The producer of a CPU starts or ends a push. -/
lemma producer (h : s.Coherent) {p : Option (Event × PushPc)} (accepted : ℕ → List Event)
    (hcpu : cpu < maxCpus) (hstage : (s.stage cpu).2 = .usedHead)
    (hstage' : ∀ event pc, p = some (event, pc) → (pc.stage event).2 = .usedHead)
    (hanswer : ∀ event result, p ≠ some (event, .returned result)) :
    Coherent { s with producer := update s.producer cpu p, accepted := accepted } := by
  refine ⟨h.next, h.cpus, h.le, fun i hi => ?_, fun i event pc hi => ?_,
    fun i event result hi => ?_, h.consumer, h.cursor, h.count, h.received⟩
  · by_cases heq : i = cpu
    · subst heq
      have hhalf := h.half i hi
      rw [hstage] at hhalf
      cases p with
      | none =>
        simp only [stage, update_self]
        exact hhalf.move ⟨rfl, rfl⟩ ⟨rfl, rfl⟩ trivial
      | some running =>
        simp only [stage, update_self, hstage' running.1 running.2 rfl]
        exact hhalf.move ⟨rfl, rfl⟩ ⟨rfl, rfl⟩ trivial
    · simp only [stage, update_of_ne heq]
      exact h.half i hi
  · by_cases heq : i = cpu
    · rwa [heq]
    · dsimp only at hi
      rw [update_of_ne heq] at hi
      exact h.running i event pc hi
  · dsimp only at hi
    by_cases heq : i = cpu
    · subst heq
      rw [update_self] at hi
      exact absurd hi (hanswer event result)
    · rw [update_of_ne heq] at hi
      exact h.answers i event result hi

/-- A step of a producer. -/
lemma produce (h : s.Coherent) {pc : PushPc} (hp : s.producer cpu = some (event, pc)) :
    (s.produce cpu event pc).Coherent := by
  have hcpu := h.running cpu event pc hp
  have hhalf := h.half cpu hcpu
  have hstage : s.stage cpu = pc.stage event := by
    rw [stage, hp]
  rw [hstage] at hhalf
  have hdone := hhalf.pushStep (fun result heq => h.answers cpu event result (heq ▸ hp))
    (h.numbered cpu) (h.next ▸ h.le)
  obtain ⟨hpubcpu, hpubsource⟩ := pc.publishes_eq cpu event
  have hentries := entriesOf_allocated h.next (pushStep cpu event (s.ring, pc)).1
    (pc.publishes cpu event)
  rw [hpubcpu, hpubsource] at hentries
  unfold RingWorld.produce
  generalize pushStep cpu event (s.ring, pc) = out at hdone hentries ⊢
  have hextends : s.log <+: if out.1.nextSequence = s.ring.nextSequence then s.log
      else s.log ++ [pc.publishes cpu event] := by
    split_ifs
    · exact ⟨[], List.append_nil _⟩
    · exact ⟨_, rfl⟩
  refine ⟨?_, fun p hmem => ?_, Nat.le_trans h.le hextends.length_le, fun i hi => ?_,
    fun i other pc' hi => ?_, fun i other result hi => ?_, h.consumer.produced hdone.frame hextends,
    ?_, h.count, fun i received hi => ?_⟩
  · dsimp only
    rcases hdone.next with hsame | ⟨hlast, hnext⟩
    · rw [if_pos hsame, hsame, h.next]
    · have hlt := toNat_add_one_lt hlast
      have hstep : out.1.nextSequence.toNat = s.ring.nextSequence.toNat + 1 := by
        rw [hnext, ← ofNat_toNat_add_one, BitVec.toNat_ofNat, Nat.mod_eq_of_lt hlt]
      rw [if_neg (fun heq => by rw [heq] at hstep; omega), hstep, h.next, List.length_append]
      rfl
  · dsimp only at hmem
    split_ifs at hmem
    · exact h.cpus p hmem
    · rcases List.mem_append.mp hmem with hold | hnew
      · exact h.cpus p hold
      · rw [List.mem_singleton.mp hnew, hpubcpu]
        exact hcpu
  · dsimp only
    rw [hentries]
    by_cases heq : i = cpu
    · subst heq
      simp only [stage, update_self]
      exact hdone.half
    · rw [if_neg heq, hdone.frame.other i heq]
      simp only [stage, update_of_ne heq]
      exact h.half i hi
  · dsimp only at hi
    by_cases heq : i = cpu
    · rwa [heq]
    · rw [update_of_ne heq] at hi
      exact h.running i other pc' hi
  · dsimp only at hi
    by_cases heq : i = cpu
    · subst heq
      rw [update_self, Option.some.injEq, Prod.mk.injEq] at hi
      exact hdone.answer result hi.2
    · rw [update_of_ne heq] at hi
      exact h.answers i other result hi
  · dsimp only
    rw [hdone.frame.consumerAfter]
    exact h.cursor
  · obtain ⟨p, hp, hevent⟩ := h.received i received hi
    exact ⟨p, getElem?_of_extends hextends hp, hevent⟩

end RingWorld.Coherent

end Spz
