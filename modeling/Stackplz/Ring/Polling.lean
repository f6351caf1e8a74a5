import Stackplz.Ring.Concurrent

/-!
# Polling a ring that is being written

The steps of the consumer keep `RingWorld.Coherent`: a poll frees nothing before it has found the
event with the next number, that event is complete and stays in its slot while it is copied, and no
producer touches it.  With the steps of the producers this gives `concurrent_ring`.
-/

namespace Spz

open Errno Transition List Function RingWorld PopPc

/-! ## The consumer's steps keep the invariant -/

lemma PopPc.tailLag_eq_zero {pc : PopPc} (h : pc.popped = 0) (i : ℕ) : pc.tailLag i = 0 := by
  cases pc <;> first | rfl | cases h

lemma PopPc.stored_eq_zero {pc : PopPc} (h : pc.popped = 0) : pc.stored = 0 := by
  cases pc with
  | returned result =>
    match result, h with
    | .ok none, _ => rfl
    | .error e, _ => rfl
  | _ => rfl

/-- How far a poll is from its end; where `PopPc.Sound` excludes a step there is nothing to say. -/
def PopPc.rank : PopPc → ℕ
  | .loadAfter => 5001
  | .loadLatest _ => 5000
  | .discardTail _ cpu => 4003 + 10 * (maxCpus - cpu)
  | .discardHead _ cpu _ => 4002 + 10 * (maxCpus - cpu)
  | .discardCommit _ cpu _ _ => 4001 + 10 * (maxCpus - cpu)
  | .selectTail cpu => 439 + 440 * (maxCpus - cpu)
  | .selectHead cpu _ => 438 + 440 * (maxCpus - cpu)
  | .selectCommit cpu _ => 437 + 440 * (maxCpus - cpu)
  | .copy _ _ k _ => 5 + (431 - k)
  | .recheck .. => 4
  | .clear .. => 3
  | .storeTail .. => 2
  | .storeConsumed _ => 1
  | _ => 0

namespace RingWorld.Coherent

variable {s : RingWorld} {cpu : ℕ} {tail : U64} {event : Event}

lemma next_of_slot (h : s.Coherent) {e : Entry} (he : e ∈ entriesOf s.log cpu)
    (hcommit : e.slot.commit = s.last + 1) (hlast : s.last ≠ BitVec.allOnes 64) :
    ∃ p, s.log[s.last.toNat]? = some p ∧ p.cpu = cpu ∧
      e.slot = ⟨s.last + 1, p.delivered (s.last.toNat + 1)⟩ := by
  obtain ⟨p, hp, -, hmine, heq⟩ := mem_entriesOf he
  have hseq : e.sequence = s.last.toNat + 1 := by
    rw [← Entry.commit_toNat ((h.numbered cpu).lt e he), hcommit, ← ofNat_toNat_add_one,
      BitVec.toNat_ofNat, Nat.mod_eq_of_lt (toNat_add_one_lt hlast)]
  rw [hseq, Nat.add_sub_cancel] at hp
  refine ⟨p, hp, hmine, ?_⟩
  rw [heq, hseq, ← hmine]
  simp only [Entry.slot, Entry.stamped, Published.delivered, ofNat_toNat_add_one]

lemma reads (h : s.Coherent) {pc : PopPc} (hold : s.consumer.popped = 0) (hnew : pc.popped = 0)
    (hsound : pc.Sound s.ring s.log s.last) : Coherent { s with consumer := pc } := by
  have hgone : s.gone = s.last.toNat := by
    rw [gone, hold]
    rfl
  have hle := h.le
  have hcursor := h.cursor
  rw [hgone] at hle
  rw [stored_eq_zero hold] at hcursor
  refine ⟨h.next, h.cpus, ?_, fun i hi => ?_, h.running, h.answers, hsound, ?_, h.count, h.received⟩
  · show s.last.toNat + pc.popped ≤ _
    rw [hnew]
    exact hle
  · have hhalf := h.half i hi
    rw [hgone, tailLag_eq_zero hold] at hhalf
    show HalfDone _ _ (s.last.toNat + pc.popped) (pc.tailLag i) i (s.stage i).1 (s.stage i).2
    rw [hnew, tailLag_eq_zero hnew]
    exact hhalf
  · show _ = s.last.toNat + pc.stored
    rw [stored_eq_zero hnew]
    exact hcursor

lemma nextDiscard_sound (cpu : ℕ) (hlast : s.last ≠ BitVec.allOnes 64) :
    (nextDiscard s.last s.last cpu).popped = 0 ∧
      (nextDiscard s.last s.last cpu).rank < 4001 + 10 * (maxCpus - cpu) ∧
      (nextDiscard s.last s.last cpu).Sound s.ring s.log s.last := by
  unfold nextDiscard
  rw [if_neg (show ¬ s.last > s.last from BitVec.lt_irrefl _)]
  split_ifs with hmore
  · exact ⟨rfl, by simp only [rank]; omega, rfl, hmore, hlast⟩
  · exact ⟨rfl, by simp only [rank, maxCpus]; omega, Nat.zero_lt_succ _, hlast⟩

lemma nextSelect_sound (cpu : ℕ) (hlast : s.last ≠ BitVec.allOnes 64) :
    (nextSelect cpu).popped = 0 ∧
      (nextSelect cpu).rank < 437 + 440 * (maxCpus - cpu) ∧
      (nextSelect cpu).Sound s.ring s.log s.last := by
  unfold nextSelect
  split_ifs with hmore
  · exact ⟨rfl, by simp only [rank]; omega, hmore, hlast⟩
  · exact ⟨rfl, by simp only [rank]; omega, trivial⟩

lemma tail_slot (h : s.Coherent) (hold : s.consumer.popped = 0)
    (htail : AtTail s.ring s.last cpu tail) (hlt : tail < (s.ring.cpu cpu).head) :
    ∃ e ∈ entriesOf s.log cpu, s.last.toNat < e.sequence ∧
      (s.ring.cpu cpu).slots (CpuRing.index tail) = e.slot := by
  have hhalf := h.half cpu htail.cpu_lt
  rw [gone, hold, tailLag_eq_zero hold] at hhalf
  rw [htail.tail_eq] at hlt ⊢
  exact hhalf.tail_entry hlt

/-- The reading part of a poll. -/
lemma popStep_reads (h : s.Coherent) (hold : s.consumer.popped = 0)
    (hclear : ∀ cpu tail out, s.consumer ≠ .clear cpu tail out)
    (hrunning : ∀ result, s.consumer ≠ .returned result) :
    (popStep s.last (s.ring, s.consumer)).1 = s.ring ∧
      (popStep s.last (s.ring, s.consumer)).2.popped = 0 ∧
      (popStep s.last (s.ring, s.consumer)).2.rank < s.consumer.rank ∧
      (popStep s.last (s.ring, s.consumer)).2.Sound s.ring s.log s.last := by
  have hsound := h.consumer
  cases hpc : s.consumer with
  | loadAfter =>
    have hcursor : s.ring.consumerAfter = s.last := by
      have := h.cursor
      rw [hpc] at this
      exact BitVec.toNat_inj.mp this
    rw [popStep, hcursor, if_neg (BitVec.lt_irrefl _)]
    exact ⟨rfl, rfl, Nat.lt_succ_self _, rfl⟩
  | loadLatest consumerAfter =>
    rw [hpc] at hsound
    obtain rfl : consumerAfter = s.last := hsound
    have hrange : ¬ s.last > s.ring.nextSequence := by
      have := h.le
      rw [gone, hpc] at this
      rw [gt_iff_lt, BitVec.lt_def, h.next]
      exact Nat.not_lt.mpr this
    rw [popStep, if_neg hrange]
    split_ifs with hlast
    · exact ⟨rfl, rfl, Nat.zero_lt_succ _, rfl⟩
    · exact ⟨rfl, rfl, by simp only [rank, maxCpus]; omega, rfl, Nat.zero_lt_succ _, hlast⟩
  | discardTail consumerAfter cpu =>
    rw [hpc] at hsound
    exact ⟨rfl, rfl, by simp only [popStep, rank]; omega, hsound.1, hsound.2.1, hsound.2.2, rfl⟩
  | discardHead consumerAfter cpu tail =>
    rw [hpc] at hsound
    obtain ⟨rfl, htail⟩ := hsound
    dsimp only [popStep, discardLoop]
    split_ifs with hlt
    · exact ⟨rfl, rfl, by simp only [rank]; omega, rfl, htail, hlt⟩
    · obtain ⟨hnew, hrank, hsound⟩ := nextDiscard_sound cpu htail.last_ne
      exact ⟨rfl, hnew, Nat.lt_trans hrank (by simp only [rank]; omega), hsound⟩
  | discardCommit consumerAfter cpu tail head =>
    rw [hpc] at hsound
    obtain ⟨rfl, htail, hlt⟩ := hsound
    obtain ⟨e, he, hr, hslot⟩ := h.tail_slot hold htail hlt
    have hstop : e.slot.commit > s.last := by
      rw [gt_iff_lt, BitVec.lt_def, Entry.commit_toNat ((h.numbered cpu).lt e he)]
      exact hr
    dsimp only [popStep]
    rw [hslot, if_pos (.inr hstop)]
    exact ⟨rfl, nextDiscard_sound _ htail.last_ne⟩
  | selectTail cpu =>
    rw [hpc] at hsound
    exact ⟨rfl, rfl, by simp only [popStep, rank]; omega, hsound.1, hsound.2, rfl⟩
  | selectHead cpu tail =>
    rw [hpc] at hsound
    dsimp only [popStep]
    split_ifs with hempty
    · obtain ⟨hnew, hrank, hsound⟩ := nextSelect_sound cpu (AtTail.last_ne hsound)
      exact ⟨rfl, hnew, Nat.lt_trans hrank (by simp only [rank]; omega), hsound⟩
    · exact ⟨rfl, rfl, by simp only [rank]; omega, hsound, BitVec.not_le.mp hempty⟩
  | selectCommit cpu tail =>
    rw [hpc] at hsound
    obtain ⟨htail, hlt⟩ := hsound
    obtain ⟨e, he, -, hslot⟩ := h.tail_slot hold htail hlt
    dsimp only [popStep]
    split_ifs with hother
    · exact ⟨rfl, nextSelect_sound _ htail.last_ne⟩
    · rw [hslot] at hother
      obtain ⟨p, hp, hmine, hentry⟩ := h.next_of_slot he (not_not.mp hother) htail.last_ne
      exact ⟨rfl, rfl, by simp only [rank]; omega, eventParts_pos, _,
        ⟨htail, hslot.trans hentry, p, hp, hmine, rfl⟩, copyRest_zero ..⟩
  | copy cpu tail k out =>
    rw [hpc] at hsound
    obtain ⟨hk, event, hfound, hrest⟩ := hsound
    rw [← copyRest_step hk] at hrest
    have hlen := eventParts_length
    dsimp only [popStep]
    rw [hfound.slot]
    split_ifs with hmore
    · exact ⟨rfl, rfl, by simp only [rank]; omega, hmore, event, hfound, hrest⟩
    · rw [show k + 1 = eventParts.length by omega, copyRest_length] at hrest
      rw [hrest]
      exact ⟨rfl, rfl, by simp only [rank]; omega, hfound⟩
  | recheck cpu tail out =>
    rw [hpc] at hsound
    have hfound : Found s.ring s.log s.last cpu tail out := hsound
    dsimp only [popStep]
    rw [hfound.slot, if_neg (not_not.mpr rfl)]
    exact ⟨rfl, rfl, Nat.lt_succ_self _, hfound⟩
  | clear cpu tail out => exact absurd hpc (hclear cpu tail out)
  | storeTail cpu tail out | storeConsumed out =>
    rw [hpc] at hold
    cases hold
  | returned result => exact absurd hpc (hrunning result)
  | _ =>
    rw [hpc] at hsound
    exact hsound.elim

variable {out : Event}

variable (h : s.Coherent)
include h

/-- The slot is freed. -/
lemma clear (hpc : s.consumer = .clear cpu tail out) :
    Coherent { s with
      ring := s.ring.updateCpu cpu (·.updateSlot (CpuRing.index tail) fun slot =>
        { slot with commit := 0 })
      consumer := .storeTail cpu tail out } := by
  have hfound : Found s.ring s.log s.last cpu tail out := by
    have := h.consumer
    rwa [hpc] at this
  obtain ⟨p, hp, hmine, hout⟩ := hfound.mine
  have hlt := (List.getElem?_eq_some_iff.mp hp).1
  have he := entriesOf_mem hp
  rw [hmine] at he
  have hslot : (s.ring.cpu cpu).slots (CpuRing.index (s.ring.cpu cpu).tail) =
      (Entry.stamped (s.last.toNat + 1) cpu p.source).slot := by
    rw [← hfound.tail_eq, hfound.slot, hout]
    simp only [Entry.slot, Entry.stamped, Published.delivered, ofNat_toNat_add_one, hmine]
  refine ⟨h.next, h.cpus, hlt, fun i hi => ?_, h.running, h.answers,
    ⟨⟨hfound.cpu_lt, hfound.last_ne, ?_⟩,
    p, hp, hout⟩, ?_, h.count, h.received⟩
  · have hhalf := h.half i hi
    rw [gone, hpc] at hhalf
    show HalfDone _ _ (s.last.toNat + 1) (if i = cpu then 1 else 0) i (s.stage i).1 (s.stage i).2
    by_cases heq : i = cpu
    · subst heq
      rw [if_pos rfl, Ring.updateCpu_self, hfound.tail_eq]
      exact hhalf.frees (h.numbered i) he hslot
    · rw [if_neg heq, Ring.updateCpu_of_ne _ heq]
      refine hhalf.skip (Nat.le_succ _) fun a ha hr => ?_
      -- the number is of the other CPU
      have hne : a.sequence ≠ s.last.toNat + 1 := fun hsame =>
        heq (entriesOf_unique ha he hsame)
      change s.last.toNat + 0 < a.sequence at hr
      omega
  · rw [Ring.updateCpu_self]
    exact hfound.tail_eq
  · have := h.cursor
    rwa [hpc] at this

/-- The tail moves. -/
lemma storeTail (hpc : s.consumer = .storeTail cpu tail out) :
    Coherent { s with
      ring := s.ring.updateCpu cpu fun c => { c with tail := tail + 1 }
      consumer := .storeConsumed out } := by
  have hsound := h.consumer
  have hle := h.le
  have hcursor := h.cursor
  rw [gone, hpc] at hle
  rw [hpc] at hsound hcursor
  obtain ⟨htail, hnext⟩ := hsound
  refine ⟨h.next, h.cpus, hle, fun i hi => ?_, h.running, h.answers, hnext, hcursor, h.count,
    h.received⟩
  have hhalf := h.half i hi
  rw [gone, hpc] at hhalf
  show HalfDone _ _ (s.last.toNat + 1) 0 i (s.stage i).1 (s.stage i).2
  by_cases heq : i = cpu
  · subst heq
    rw [tailLag, if_pos rfl] at hhalf
    rw [Ring.updateCpu_self, htail.tail_eq]
    exact hhalf.moves
  · rw [tailLag, if_neg heq] at hhalf
    rw [Ring.updateCpu_of_ne _ heq]
    exact hhalf

lemma next_toNat (hnext : IsNext s.log s.last event) :
    (s.last + 1).toNat = s.last.toNat + 1 ∧ event.sequence = s.last + 1 := by
  obtain ⟨p, hp, rfl⟩ := hnext
  have hlt := (List.getElem?_eq_some_iff.mp hp).1
  have hlog := h.log_lt
  refine ⟨?_, ofNat_toNat_add_one _⟩
  rw [← ofNat_toNat_add_one, BitVec.toNat_ofNat, Nat.mod_eq_of_lt (by omega)]

lemma storeConsumed (hpc : s.consumer = .storeConsumed out) :
    Coherent { s with
      ring := { s.ring with consumerAfter := s.last + 1 }
      consumer := .returned (.ok (some out)) } := by
  have hsound := h.consumer
  have hle := h.le
  rw [gone, hpc] at hle
  rw [hpc] at hsound
  refine ⟨h.next, h.cpus, hle, fun i hi => ?_, h.running, h.answers, hsound,
    (h.next_toNat hsound).1, h.count, h.received⟩
  have hhalf := h.half i hi
  rw [gone, hpc] at hhalf
  exact hhalf

/-- The event is received. -/
lemma receive (hpc : s.consumer = .returned (.ok (some event))) :
    Coherent { s with
      consumer := .loadAfter
      last := event.sequence
      received := s.received ++ [event] } := by
  have hsound := h.consumer
  have hle := h.le
  have hcursor := h.cursor
  rw [gone, hpc] at hle
  rw [hpc] at hsound hcursor
  obtain ⟨hword, hseq⟩ := h.next_toNat hsound
  have hlast : event.sequence.toNat = s.last.toNat + 1 := by
    rw [hseq, hword]
  refine ⟨h.next, h.cpus, ?_, fun i hi => ?_, h.running, h.answers, trivial, ?_, ?_,
    fun i got hi => ?_⟩
  · show event.sequence.toNat + 0 ≤ _
    rw [hlast]
    exact hle
  · have hhalf := h.half i hi
    rw [gone, hpc] at hhalf
    show HalfDone _ _ (event.sequence.toNat + 0) 0 i (s.stage i).1 (s.stage i).2
    rw [hlast]
    exact hhalf
  · show _ = event.sequence.toNat + 0
    rw [hlast]
    exact hcursor
  · show event.sequence.toNat = (s.received ++ [event]).length
    rw [hlast, h.count, length_append]
    rfl
  · dsimp only at hi
    by_cases hnew : i < s.received.length
    · rw [List.getElem?_append_left hnew] at hi
      exact h.received i got hi
    · obtain ⟨hlt, -⟩ := List.getElem?_eq_some_iff.mp hi
      rw [length_append, length_singleton] at hlt
      obtain rfl : i = s.received.length := by omega
      rw [List.getElem?_append_right (Nat.le_refl _), Nat.sub_self] at hi
      cases hi
      obtain ⟨p, hp, hevent⟩ := hsound
      rw [h.count] at hp hevent
      exact ⟨p, hp, hevent⟩

/-- A step of a poll keeps the invariant and brings the poll nearer to its end. -/
lemma popStep (hrunning : ∀ result, s.consumer ≠ .returned result) :
    Coherent { s with
      ring := (Spz.popStep s.last (s.ring, s.consumer)).1
      consumer := (Spz.popStep s.last (s.ring, s.consumer)).2 } ∧
    (Spz.popStep s.last (s.ring, s.consumer)).2.rank < s.consumer.rank := by
  by_cases hold : s.consumer.popped = 0
  · by_cases hclear : ∀ cpu tail out, s.consumer ≠ .clear cpu tail out
    · obtain ⟨hring, hnew, hrank, hsound⟩ := h.popStep_reads hold hclear hrunning
      rw [hring]
      exact ⟨h.reads hold hnew hsound, hrank⟩
    · simp only [not_forall, not_not] at hclear
      obtain ⟨cpu, tail, out, hpc⟩ := hclear
      rw [hpc]
      exact ⟨h.clear hpc, Nat.lt_succ_self _⟩
  · cases hpc : s.consumer with
    | storeTail cpu tail out => exact ⟨h.storeTail hpc, Nat.lt_succ_self _⟩
    | storeConsumed out => exact ⟨h.storeConsumed hpc, Nat.lt_succ_self _⟩
    | returned result => exact absurd hpc (hrunning result)
    | _ =>
      rw [hpc] at hold
      exact absurd rfl hold

lemma consume : s.consume.Coherent := by
  cases hpc : s.consumer with
  | returned result =>
    match result, hpc with
    | .ok (some event), hpc =>
      rw [RingWorld.consume, hpc]
      exact h.receive hpc
    | .ok none, hpc =>
      rw [RingWorld.consume, hpc]
      exact h.reads (by rw [hpc]; rfl) rfl trivial
    | .error e, hpc =>
      rw [RingWorld.consume, hpc]
      exact h.reads (by rw [hpc]; rfl) rfl trivial
  | _ =>
    have hstep := (h.popStep (by simp [hpc])).1
    rw [hpc] at hstep
    rw [RingWorld.consume, hpc]
    exact hstep

end RingWorld.Coherent

/-! ## Every interleaving -/

variable {s : RingWorld}

lemma coherent_of_reachable (h : ringWorldSystem.Reachable s) : s.Coherent := by
  refine h.invariant (fun s hs => ?_) fun s a s' hi hstep => ?_
  · cases hs
    exact .init
  · cases ringWorldNext_cases hstep with
    | begin cpu event hcpu hp =>
      refine hi.producer s.accepted hcpu (by rw [stage, hp]) ?_ ?_
      · rintro _ _ ⟨⟩
        rw [PushPc.start, if_neg (Nat.not_le.mpr hcpu)]
        rfl
      · intro other result heq
        rw [PushPc.start, if_neg (Nat.not_le.mpr hcpu)] at heq
        cases heq
    | produce cpu event pc hp _ => exact hi.produce hp
    | finish cpu event result hp =>
      exact hi.producer _ (hi.running cpu event _ hp) (by rw [stage, hp]; rfl) (by simp) (by simp)
    | consume => exact hi.consume

/-! ## Which pushes are in the log -/

/-- The pushed events of a CPU, in the order of their numbers. -/
def pushedOf (log : List Published) (cpu : ℕ) : List Event :=
  (log.filter fun p => !p.report && p.cpu == cpu).map Published.source

/-- The event of a push has its number, and the push has not yet returned. -/
def PushPc.landed (event : Event) : PushPc → List Event
  | .publish (.copy ..) => [event]
  | .publish (.storeCommit ..) => [event]
  | .publish (.storeHead _) => [event]
  | .publish (.returned (.ok ())) => [event]
  | .returned (.ok ()) => [event]
  | _ => []

def RingWorld.landed (s : RingWorld) (cpu : ℕ) : List Event :=
  match s.producer cpu with
  | none => []
  | some (event, pc) => pc.landed event

lemma pushedOf_append (log : List Published) (p : Published) (cpu : ℕ) :
    pushedOf (log ++ [p]) cpu =
      pushedOf log cpu ++ if !p.report && p.cpu == cpu then [p.source] else [] := by
  rw [pushedOf, filter_append, map_append]
  cases hp : !p.report && p.cpu == cpu <;> simp [pushedOf, hp]

lemma landed_afterReport (event : Event) (pending : U64) (loss : Event) (pc : PublishPc) :
    (PushPc.afterReport pending loss pc).landed event = [] := by
  cases pc with
  | returned result => cases result <;> rfl
  | _ => rfl

lemma landed_afterPublish (event : Event) (pc : PublishPc) :
    (PushPc.afterPublish pc).landed event = (PushPc.publish pc).landed event := by
  cases pc with
  | returned result =>
    cases result with
    | ok => rfl
    | error e =>
      simp only [PushPc.afterPublish]
      split_ifs <;> rfl
  | _ => rfl

/-- The event of an `spz_publish` lands when its number is allocated. -/
lemma landed_publishStep (ring : Ring) (cpu : ℕ) (event : Event) (pc : PublishPc) :
    (publishStep cpu event (ring, pc)).1.nextSequence = ring.nextSequence ∧
      (PushPc.publish (publishStep cpu event (ring, pc)).2).landed event =
        (PushPc.publish pc).landed event ∨
    (publishStep cpu event (ring, pc)).1.nextSequence ≠ ring.nextSequence ∧
      (PushPc.publish (publishStep cpu event (ring, pc)).2).landed event = [event] ∧
      (PushPc.publish pc).landed event = [] := by
  cases pc with
  | usedTail head | loadCommit head | copy head sequence k =>
    rw [publishStep]
    split_ifs
    all_goals exact .inl ⟨rfl, rfl⟩
  | trySequence head previous =>
    rw [publishStep]
    split_ifs with hlast hsame
    · exact .inl ⟨rfl, rfl⟩
    · subst hsame
      refine .inr ⟨fun heq => ?_, rfl, rfl⟩
      have hstep := congrArg BitVec.toNat heq
      dsimp only at hstep
      rw [← ofNat_toNat_add_one, BitVec.toNat_ofNat,
        Nat.mod_eq_of_lt (toNat_add_one_lt hlast)] at hstep
      omega
    · exact .inl ⟨rfl, rfl⟩
  | _ => exact .inl ⟨rfl, rfl⟩

/-- An event lands when its number is allocated: after a step of a push the log and what has
landed agree as before. -/
lemma landed_pushStep (ring : Ring) (cpu : ℕ) (event : Event) (pc : PushPc) (log : List Published) :
    ∃ more, pushedOf (if (pushStep cpu event (ring, pc)).1.nextSequence = ring.nextSequence then log
        else log ++ [pc.publishes cpu event]) cpu = pushedOf log cpu ++ more ∧
      (pushStep cpu event (ring, pc)).2.landed event = pc.landed event ++ more ∧
      ∀ i ≠ cpu, pushedOf (if (pushStep cpu event (ring, pc)).1.nextSequence = ring.nextSequence
        then log else log ++ [pc.publishes cpu event]) i = pushedOf log i := by
  have hother : ∀ i ≠ cpu, ∀ c : Prop, [Decidable c] → pushedOf (if c then log
      else log ++ [pc.publishes cpu event]) i = pushedOf log i := by
    intro i hi c _
    split_ifs
    · rfl
    · rw [pushedOf_append, (pc.publishes_eq cpu event).1]
      simp [Ne.symm hi]
  have hstay : ∀ {c : Prop} [Decidable c], c → pushedOf (if c then log
      else log ++ [pc.publishes cpu event]) cpu = pushedOf log cpu ++ [] := by
    intro c _ hc
    rw [if_pos hc, append_nil]
  cases pc with
  | report pending loss pc =>
    refine ⟨[], ?_, landed_afterReport .., fun i hi => hother i hi _⟩
    split_ifs
    · simp
    · simp [pushedOf_append, PushPc.publishes]
  | publish pc =>
    have hland : (pushStep cpu event (ring, .publish pc)).2.landed event =
        (PushPc.publish (publishStep cpu event (ring, pc)).2).landed event :=
      landed_afterPublish ..
    rcases landed_publishStep ring cpu event pc with ⟨hnext, hsame⟩ | ⟨hnext, hnew, hold⟩
    · refine ⟨[], hstay hnext, ?_, fun i hi => hother i hi _⟩
      rw [hland, hsame, append_nil]
    · refine ⟨[event], ?_, ?_, fun i hi => hother i hi _⟩
      · rw [if_neg (show (pushStep cpu event (ring, .publish pc)).1.nextSequence ≠ _ from hnext)]
        simp [pushedOf_append, PushPc.publishes]
      · rw [hland, hnew, hold, nil_append]
  | usedTail head | loadPending freeSlots =>
    refine ⟨[], hstay rfl, ?_, fun i hi => hother i hi _⟩
    dsimp only [pushStep]
    split_ifs <;> rfl
  | _ =>
    refine ⟨[], hstay rfl, ?_, fun i hi => hother i hi _⟩
    rw [append_nil]
    rfl

/-- The log has the pushes that returned 0, and those whose event has landed. -/
lemma accounted_of_reachable (h : ringWorldSystem.Reachable s) (cpu : ℕ) :
    pushedOf s.log cpu = s.accepted cpu ++ s.landed cpu := by
  refine h.invariant (I := fun s => pushedOf s.log cpu = s.accepted cpu ++ s.landed cpu)
    (fun s hs => ?_) fun s a s' hi hstep => ?_
  · cases hs
    rfl
  · cases ringWorldNext_cases hstep with
    | begin c event hc hp =>
      rw [begin]
      by_cases heq : cpu = c
      · subst heq
        rw [landed, hp] at hi
        simp only [landed, update_self, PushPc.start, if_neg (Nat.not_le.mpr hc)]
        exact hi
      · simp only [landed, update_of_ne heq]
        exact hi
    | produce c event pc hp _ =>
      obtain ⟨more, hlog, hland, hother⟩ := landed_pushStep s.ring c event pc s.log
      rw [produce]
      by_cases heq : cpu = c
      · subst heq
        rw [landed, hp] at hi
        simp only [landed, update_self]
        rw [hlog, hland, hi, append_assoc]
      · simp only [landed, update_of_ne heq]
        rw [hother cpu heq]
        exact hi
    | finish c event result hp =>
      unfold finish
      by_cases heq : cpu = c
      · subst heq
        rw [landed, hp] at hi
        simp only [landed, update_self, append_nil]
        cases result with
        | ok =>
          show _ = update s.accepted cpu (s.accepted cpu ++ [event]) cpu
          rw [hi, update_self]
          rfl
        | error e =>
          rw [hi]
          exact append_nil _
      · simp only [landed, update_of_ne heq]
        cases result with
        | ok =>
          simp only [update_of_ne heq]
          exact hi
        | error e => exact hi
    | consume =>
      rw [consume]
      split <;> exact hi

/-! ## Everything is delivered -/

namespace RingWorld

lemma consume_frame (s : RingWorld) :
    s.consume.log = s.log ∧ s.consume.producer = s.producer ∧
      s.received <+: s.consume.received := by
  unfold consume
  split
  · exact ⟨rfl, rfl, _, rfl⟩
  all_goals exact ⟨rfl, rfl, [], append_nil _⟩

lemma iterate_frame (s : RingWorld) (n : ℕ) :
    (consume^[n] s).log = s.log ∧ (consume^[n] s).producer = s.producer ∧
      s.received <+: (consume^[n] s).received := by
  induction n with
  | zero => exact ⟨rfl, rfl, [], append_nil _⟩
  | succ n ih =>
    rw [iterate_succ_apply']
    obtain ⟨hlog, hproducer, hreceived⟩ := consume_frame (consume^[n] s)
    exact ⟨hlog.trans ih.1, hproducer.trans ih.2.1, ih.2.2.trans hreceived⟩

variable (h : s.Coherent)
include h

lemma Coherent.iterate (n : ℕ) : (RingWorld.consume^[n] s).Coherent := by
  induction n with
  | zero => exact h
  | succ n ih =>
    rw [iterate_succ_apply']
    exact ih.consume

/-- Enough steps bring the consumer to the start of a poll. -/
lemma Coherent.finishes : ∃ n, (RingWorld.consume^[n] s).consumer = .loadAfter := by
  -- induction on the rank, which every step inside of a poll lowers
  induction hrank : s.consumer.rank using Nat.strong_induction_on generalizing s with
  | _ rank ih =>
    by_cases hreturned : ∃ result, s.consumer = .returned result
    · obtain ⟨result, hpc⟩ := hreturned
      refine ⟨1, ?_⟩
      show s.consume.consumer = _
      unfold RingWorld.consume
      split
      · rfl
      · rfl
      · exact absurd hpc (by simp_all)
    · simp only [not_exists] at hreturned
      obtain ⟨hcoherent, hlt⟩ := h.popStep hreturned
      have hstep : s.consume = { s with
          ring := (Spz.popStep s.last (s.ring, s.consumer)).1
          consumer := (Spz.popStep s.last (s.ring, s.consumer)).2 } := by
        unfold RingWorld.consume
        split
        · exact absurd ‹_› (hreturned _)
        · exact absurd ‹_› (hreturned _)
        · rfl
      obtain ⟨n, hn⟩ := ih _ (hrank ▸ hlt) hcoherent rfl
      refine ⟨n + 1, ?_⟩
      rw [iterate_succ_apply, hstep]
      exact hn

variable (hidle : ∀ cpu, s.producer cpu = none)
include hidle

lemma Coherent.has (hpc : s.consumer = .loadAfter) : RingHas s.ring (entriesOf s.log) := by
  have hcursor := h.cursor
  have hle := h.le
  rw [gone, hpc] at hle
  rw [hpc] at hcursor
  refine ⟨fun i hi => ?_, fun i _ e he => h.next ▸ entriesOf_le he, ?_,
    fun i _ j _ e he e' he' => entriesOf_unique he he'⟩
  · obtain ⟨es, hmine, hstores⟩ := (h.half i hi).stores
    rw [stage, hidle] at hmine hstores
    rw [gone, hpc] at hstores
    rw [hcursor, show entriesOf s.log i = es from hmine.trans (append_nil es)]
    exact hstores
  · rw [hcursor, h.next]
    exact hle

/-- The next poll delivers the next event. -/
lemma Coherent.delivers (hpc : s.consumer = .loadAfter) (hmore : s.received.length < s.log.length) :
    ∃ n, (RingWorld.consume^[n] s).consumer = .loadAfter ∧
      (RingWorld.consume^[n] s).received.length = s.received.length + 1 := by
  have hhas := h.has hidle hpc
  have hcursor : s.ring.consumerAfter = s.last := by
    have := h.cursor
    rw [hpc] at this
    exact BitVec.toNat_inj.mp this
  have hle : s.last ≤ s.ring.nextSequence := by
    rw [BitVec.le_def, h.next, h.count]
    exact Nat.le_of_lt hmore
  rw [← h.count] at hmore
  have hp : s.log[s.last.toNat]? = some s.log[s.last.toNat] := List.getElem?_eq_getElem hmore
  obtain ⟨hanswer, -⟩ := hhas.pop_some (hcursor ▸ BitVec.le_refl _) hle
    (h.cpus _ (getElem_mem hmore)) (entriesOf_mem hp) rfl
  have hruns := pop_alone s.ring s.last
  rw [hanswer] at hruns
  -- the steps of the poll are steps of the consumer
  have hconsume : Runs RingWorld.consume { s with ring := s.ring, consumer := .loadAfter } _ :=
    hruns.lift (fun a => { s with ring := a.1, consumer := a.2 }) fun a => by
      obtain ⟨ring, pc⟩ := a
      cases pc with
      | returned result => exact .inl rfl
      | _ => exact .inr rfl
  obtain ⟨n, hn⟩ := hconsume.iterate
  rw [← hpc] at hn
  refine ⟨n + 1, ?_⟩
  rw [iterate_succ_apply']
  change RingWorld.consume^[n] s = _ at hn
  rw [hn]
  exact ⟨rfl, by simp [RingWorld.consume]⟩

/-- Repeated polling delivers everything. -/
lemma Coherent.drains : ∃ n, (RingWorld.consume^[n] s).received.length = s.log.length := by
  obtain ⟨start, hstart⟩ := h.finishes
  -- one poll after the other from here on
  have hall : ∀ m, ∃ n, (RingWorld.consume^[n] s).consumer = .loadAfter ∧
      min s.log.length m ≤ (RingWorld.consume^[n] s).received.length := by
    intro m
    induction m with
    | zero => exact ⟨start, hstart, by simp⟩
    | succ m ih =>
      obtain ⟨n, hpc, hlen⟩ := ih
      obtain ⟨hlog, hproducer, -⟩ := s.iterate_frame n
      by_cases hmore : (RingWorld.consume^[n] s).received.length < s.log.length
      · obtain ⟨k, hpc', hlen'⟩ := (h.iterate n).delivers (by rw [hproducer]; exact hidle) hpc
          (by rw [hlog]; exact hmore)
        rw [← iterate_add_apply] at hpc' hlen'
        exact ⟨k + n, hpc', by omega⟩
      · exact ⟨n, hpc, by omega⟩
  obtain ⟨n, -, hlen⟩ := hall s.log.length
  refine ⟨n, ?_⟩
  have hcoherent := h.iterate n
  have hle := hcoherent.le
  have hcount := hcoherent.count
  rw [gone, (s.iterate_frame n).1] at hle
  omega

end RingWorld

/-! ## The result -/

def deliveries (log : List Published) : List Event :=
  log.mapIdx fun i p => p.delivered (i + 1)

lemma RingWorld.Coherent.received_eq (h : s.Coherent) :
    s.received = (deliveries s.log).take s.received.length := by
  refine ext_getElem? fun i => ?_
  rw [List.getElem?_take]
  split_ifs with hi
  · obtain ⟨p, hp, hevent⟩ := h.received i _ (List.getElem?_eq_getElem hi)
    rw [List.getElem?_eq_getElem hi, hevent, deliveries, List.getElem?_mapIdx, hp]
    rfl
  · exact List.getElem?_eq_none (Nat.le_of_not_lt hi)

/-- The ring under concurrency.  In every interleaving the consumer has received the events with the
numbers 1, 2, 3, …, each complete as it was published; what is published on a CPU are the pushes
that returned 0 there (or have their number and are about to), and the reports of losses; a poll
fails only when the numbers are used up, a push never with `-EBUSY`; and once the producers are
idle, repeated polling delivers everything. -/
theorem concurrent_ring {s : RingWorld} (h : ringWorldSystem.Reachable s) :
    s.received = (deliveries s.log).take s.received.length ∧
    (∀ i event, s.received[i]? = some event → event.sequence.toNat = i + 1) ∧
    s.last.toNat = s.received.length ∧
    (∀ cpu, pushedOf s.log cpu = s.accepted cpu ++ s.landed cpu) ∧
    (∀ e, s.consumer = .returned (.error e) → e = EOVERFLOW) ∧
    (∀ cpu event result, s.producer cpu = some (event, .returned result) →
      result ≠ .error EBUSY) ∧
    ((∀ cpu, s.producer cpu = none) →
      (∀ cpu, pushedOf s.log cpu = s.accepted cpu) ∧
      ∃ n, ∀ m ≥ n, (consume^[m] s).received = deliveries s.log) := by
  have hi := coherent_of_reachable h
  have haccounted := accounted_of_reachable h
  refine ⟨hi.received_eq, fun i event hevent => ?_, hi.count, haccounted, fun e hpc => ?_,
    hi.answers, fun hidle => ⟨fun cpu => ?_, ?_⟩⟩
  · obtain ⟨p, hp, rfl⟩ := hi.received i event hevent
    have hlt := (List.getElem?_eq_some_iff.mp hp).1
    have hlog := hi.log_lt
    show (BitVec.ofNat 64 (i + 1)).toNat = _
    rw [BitVec.toNat_ofNat, Nat.mod_eq_of_lt (by omega)]
  · have hsound := hi.consumer
    rw [hpc] at hsound
    exact hsound
  · rw [haccounted, RingWorld.landed, hidle, append_nil]
  · obtain ⟨n, hn⟩ := hi.drains hidle
    refine ⟨n, fun m hm => ?_⟩
    have hgrow : (RingWorld.consume^[n] s).received <+: (RingWorld.consume^[m] s).received := by
      have := ((consume^[n] s).iterate_frame (m - n)).2.2
      rwa [← iterate_add_apply, Nat.sub_add_cancel hm] at this
    have hcoherent := hi.iterate m
    have hfull : (deliveries s.log).length ≤ (consume^[m] s).received.length := by
      rw [deliveries, length_mapIdx, ← hn]
      exact hgrow.length_le
    rw [hcoherent.received_eq, (s.iterate_frame m).1, take_of_length_le hfull]

/-- Two pushes side by side, of which one has to try for its number twice, and a poll. -/
def sideBySide : List RingAction :=
  .push 0 {} :: .push 1 { type := .task } ::
    (List.replicate 443 [.producer 1, .producer 0]).flatten ++ .producer 0 ::
      List.replicate 462 .consumer

theorem concurrent_ring_sideBySide :
    let s := runFrom ringWorldNext {} sideBySide
    (s.received.map (fun event => (event.sequence.toNat, event.cpu.toNat)) = [(1, 1)] ∧
      s.log.length = 2 ∧ s.accepted 0 = [{}]) ∧
    s.received = (deliveries s.log).take s.received.length := by
  refine ⟨by decide +kernel, ?_⟩
  have hreach : ringWorldSystem.Reachable _ :=
    .steps (.init rfl) (.of_restrict
      (runFrom_steps (C := fun _ _ => True) ({} : RingWorld) sideBySide
      (by simp) (by decide +kernel)))
  exact (concurrent_ring hreach).1

end Spz
