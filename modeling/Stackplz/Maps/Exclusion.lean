import Stackplz.Lib.Threads
import Stackplz.Lib.Transition
import Stackplz.Maps

/-!
# Readers and writers of the maps store

`spz_maps_write_begin`, `spz_maps_write_end`, `spz_maps_read_begin` and `spz_maps_read_end` of
`core/maps.c`, one access to `writer` and `readers` at a time, for any number of threads.

A writer announces itself in `writer` and then waits for `readers` to be 0; a reader announces
itself in `readers` and then looks at `writer` once more, and backs off if it is set.  Whoever
comes second sees the other.  The argument needs `readers` to count the readers, and `readers` has
32 bits: `maps_exclusion` is for fewer than `2 ^ 32` threads, and `maps_exclusion_lost` is what
happens with `2 ^ 32` readers, whose counter is 0 again.
-/

namespace Spz

open Errno Transition Threads List

/-! ## The steps -/

def mapsWriterWaitAttempts : ℕ := 100000

/-- Where a thread stands; the name says what it does next. -/
inductive MapsPc
  /-- Between two calls. -/
  | returned (result : Except Errno Unit)
  /-- The compare-and-swap of `spz_maps_write_begin`. -/
  | claim
  /-- Its loop: `attempt` loads of `readers` have shown readers. -/
  | wait (attempt : ℕ)
  /-- The store of 0 in `writer` after the last attempt. -/
  | giveUp
  /-- After an `spz_maps_write_begin` that returned 0. -/
  | writing
  /-- The first load of `writer` in `spz_maps_read_begin`. -/
  | look (snapshot : U64) (offset : U32)
  /-- The increment of `readers`. -/
  | enter (snapshot : U64) (offset : U32)
  /-- The second load of `writer`. -/
  | lookAgain (snapshot : U64) (offset : U32)
  /-- The decrement of a reader that has seen a writer. -/
  | backOff
  /-- The tests of what the store holds. -/
  | check (snapshot : U64) (offset : U32)
  /-- The decrement of a reader whose request cannot be served. -/
  | leave (snapshot : U64)
  /-- The load that decides which error it returns. -/
  | answer (snapshot : U64)
  /-- After an `spz_maps_read_begin` that returned 0. -/
  | reading
deriving DecidableEq

/-- The two words of `struct spz_maps`, the rest of it, and the threads. -/
structure MapsLock where
  writer : U32 := 0
  readers : U32 := 0
  maps : Maps := {}
  threads : List MapsPc

/-- What one thread does next, with the two words and its place afterwards.  `mapsReadBegin`
without contention is the rest of `spz_maps_read_begin`. -/
def mapsLockStep (writer readers : U32) (maps : Maps) : MapsPc → U32 × U32 × MapsPc
  | .claim =>
    if writer = 0 then (1, readers, .wait 0) else (writer, readers, .returned (.error EBUSY))
  | .wait attempt =>
    if readers = 0 then (writer, readers, .writing)
    else if attempt + 1 < mapsWriterWaitAttempts then (writer, readers, .wait (attempt + 1))
    else (writer, readers, .giveUp)
  | .giveUp => (0, readers, .returned (.error EBUSY))
  | .writing => (0, readers, .returned (.ok ()))
  | .look snapshot offset =>
    if writer ≠ 0 then (writer, readers, .returned (.error EBUSY))
    else (writer, readers, .enter snapshot offset)
  | .enter snapshot offset => (writer, readers + 1, .lookAgain snapshot offset)
  | .lookAgain snapshot offset =>
    if writer ≠ 0 then (writer, readers, .backOff) else (writer, readers, .check snapshot offset)
  | .backOff => (writer, readers - 1, .returned (.error EBUSY))
  | .check snapshot offset =>
    match mapsReadBegin maps snapshot offset false with
    | .ok _ => (writer, readers, .reading)
    | .error _ => (writer, readers, .leave snapshot)
  | .leave snapshot => (writer, readers - 1, .answer snapshot)
  | .answer snapshot =>
    (writer, readers, .returned (.error (if maps.snapshot ≠ snapshot then ESTALE else ERANGE)))
  | .reading => (writer, readers - 1, .returned (.ok ()))
  | .returned result => (writer, readers, .returned result)

/-- What can happen: a thread calls `spz_maps_write_begin` or `spz_maps_read_begin`, makes its next
step (from `writing` and `reading` that is `spz_maps_write_end` and `spz_maps_read_end`), or, while
it is the writer, changes what the store holds. -/
inductive MapsLockAct
  | startWrite (i : ℕ)
  | startRead (i : ℕ) (snapshot : U64) (offset : U32)
  | step (i : ℕ)
  | change (i : ℕ) (maps : Maps)

def mapsLockNext (s : MapsLock) : MapsLockAct → Option MapsLock
  | .startWrite i =>
    match s.threads[i]? with
    | some (.returned _) =>
      if mapsSupported s.maps then some { s with threads := s.threads.set i .claim } else none
    | _ => none
  | .startRead i snapshot offset =>
    match s.threads[i]? with
    | some (.returned _) =>
      if snapshot ≠ 0 ∧ mapsSupported s.maps then
        some { s with threads := s.threads.set i (.look snapshot offset) }
      else none
    | _ => none
  | .step i =>
    match s.threads[i]? with
    | some pc =>
      let (writer, readers, pc') := mapsLockStep s.writer s.readers s.maps pc
      some { s with writer := writer, readers := readers, threads := s.threads.set i pc' }
    | none => none
  | .change i maps =>
    match s.threads[i]? with
    | some .writing => some { s with maps := maps }
    | _ => none

/-- Any number of threads, nobody reading or writing, and any content. -/
def MapsLock.Fresh (n : ℕ) (s : MapsLock) : Prop :=
  s.writer = 0 ∧ s.readers = 0 ∧ s.threads = List.replicate n (.returned (.ok ()))

/-- `n` threads that use the store. -/
def mapsLockSystem (n : ℕ) : System MapsLock MapsLockAct :=
  .ofStep (MapsLock.Fresh n) mapsLockNext

/-! ## The invariant -/

namespace MapsPc

/-- The reader has incremented `readers` and not decremented it. -/
def counted : MapsPc → Bool
  | .lookAgain _ _ | .backOff | .check _ _ | .leave _ | .reading => true
  | .returned _ | .claim | .wait _ | .giveUp | .writing | .look _ _ | .enter _ _ | .answer _ =>
    false

/-- The reader has also seen that nobody writes. -/
def admitted : MapsPc → Bool
  | .check _ _ | .leave _ | .reading => true
  | .returned _ | .claim | .wait _ | .giveUp | .writing | .look _ _ | .enter _ _ |
      .lookAgain _ _ | .backOff | .answer _ => false

/-- The writer has set `writer`. -/
def claimed : MapsPc → Bool
  | .wait _ | .giveUp | .writing => true
  | _ => false

/-- The writer has also seen that nobody reads. -/
def exclusive : MapsPc → Bool
  | .writing => true
  | _ => false

variable {pc : MapsPc}

lemma counted_of_admitted (h : pc.admitted = true) : pc.counted = true := by
  cases pc <;> first | rfl | cases h

lemma claimed_of_exclusive (h : pc.exclusive = true) : pc.claimed = true := by
  cases pc <;> first | rfl | cases h

end MapsPc

/-- What the words mean.  `readers` counts modulo `2 ^ 32`; `writer` says whether somebody has
claimed the store, and nobody shares a claim; and nobody is admitted beside an exclusive writer. -/
structure MapsLock.Coherent (s : MapsLock) : Prop where
  readers : s.readers = BitVec.ofNat 32 (s.threads.countP MapsPc.counted)
  writer : s.writer.toNat = s.threads.countP MapsPc.claimed
  one : s.threads.countP MapsPc.claimed ≤ 1
  apart : 0 < s.threads.countP MapsPc.exclusive → s.threads.countP MapsPc.admitted = 0

namespace MapsLock.Coherent

variable {s s' : MapsLock} {i : ℕ} {pc pc' : MapsPc}

lemma init {n : ℕ} (h : s.Fresh n) : s.Coherent := by
  obtain ⟨hwriter, hreaders, hthreads⟩ := h
  have hnone : ∀ p : MapsPc → Bool, p (.returned (.ok ())) = false → s.threads.countP p = 0 := by
    intro p hp
    rw [hthreads, countP_replicate, if_neg (by simp [hp])]
  refine ⟨?_, ?_, ?_, fun _ => hnone _ rfl⟩
  · rw [hreaders, hnone _ rfl]
    rfl
  · rw [hwriter, hnone _ rfl]
    rfl
  · rw [hnone _ rfl]
    exact Nat.zero_le 1

variable (h : s.Coherent)
include h

section

variable (hi : s.threads[i]? = some pc)
include hi

lemma writer_eq_one (hpc : pc.claimed = true) : s.writer.toNat = 1 := by
  have hpos := countP_pos hi hpc
  have hone := h.one
  have hwriter := h.writer
  omega

/-- A thread changes its place.  It is enough that the words follow, and that the place is not
one of a writer beside counted readers, nor of an admitted reader beside a claim. -/
lemma set (pc' : MapsPc) {writer readers : U32}
    (hreaders : readers + BitVec.ofNat 32 pc.counted.toNat =
      s.readers + BitVec.ofNat 32 pc'.counted.toNat)
    (hwriter : writer.toNat + pc.claimed.toNat = s.writer.toNat + pc'.claimed.toNat)
    (hclaim : pc'.claimed = true → pc.claimed = true ∨ s.writer = 0)
    (hexclusive : pc'.exclusive = true →
      pc.exclusive = true ∨ s.threads.countP MapsPc.counted = 0)
    (hadmitted : pc'.admitted = true → pc.admitted = true ∨ s.writer = 0) :
    MapsLock.Coherent { s with
      writer := writer, readers := readers, threads := s.threads.set i pc' } := by
  have hcounts := countP_set_add MapsPc.counted hi pc'
  have hclaims := countP_set_add MapsPc.claimed hi pc'
  have hexclusives := countP_set_add MapsPc.exclusive hi pc'
  have hadmissions := countP_set_add MapsPc.admitted hi pc'
  have hone := h.one
  have hword := h.writer
  have hzero : s.writer = 0 → s.threads.countP MapsPc.claimed = 0 := by
    intro hfree
    rw [hfree] at hword
    exact hword.symm
  have hwriters : s.threads.countP MapsPc.exclusive ≤ s.threads.countP MapsPc.claimed :=
    countP_mono_left fun pc _ => MapsPc.claimed_of_exclusive
  have hreads : s.threads.countP MapsPc.admitted ≤ s.threads.countP MapsPc.counted :=
    countP_mono_left fun pc _ => MapsPc.counted_of_admitted
  refine ⟨?_, ?_, ?_, ?_⟩
  · have hcast := congrArg (BitVec.ofNat 32) hcounts
    rw [BitVec.ofNat_add, BitVec.ofNat_add, ← h.readers, ← hreaders] at hcast
    exact ((BitVec.add_left_inj _).mp hcast).symm
  · dsimp only
    omega
  · dsimp only
    cases hnew : pc'.claimed with
    | false =>
      rw [hnew] at hclaims
      simp only [Bool.toNat_false] at hclaims
      omega
    | true =>
      rw [hnew] at hclaims
      rcases hclaim hnew with hold | hfree
      · rw [hold] at hclaims
        omega
      · have := hzero hfree
        simp only [Bool.toNat_true] at hclaims
        omega
  · dsimp only
    intro hwriting
    cases hnew : pc'.exclusive with
    | true =>
      have hreader : pc'.admitted = false := by cases pc' <;> first | rfl | cases hnew
      rw [hreader] at hadmissions
      simp only [Bool.toNat_false] at hadmissions
      rcases hexclusive hnew with hold | hnone
      · have := h.apart (countP_pos hi hold)
        omega
      · omega
    | false =>
      rw [hnew] at hexclusives
      simp only [Bool.toNat_false] at hexclusives
      have hapart := h.apart (by omega)
      cases hadm : pc'.admitted with
      | false =>
        rw [hadm] at hadmissions
        simp only [Bool.toNat_false] at hadmissions
        omega
      | true =>
        rw [hadm] at hadmissions
        rcases hadmitted hadm with hold | hfree
        · rw [hold] at hadmissions
          omega
        · have := hzero hfree
          omega

lemma set_same (hcounted : pc'.counted = pc.counted) (hclaimed : pc'.claimed = pc.claimed)
    (hadmitted : pc'.admitted = pc.admitted) (hexclusive : pc'.exclusive = pc.exclusive) :
    MapsLock.Coherent { s with threads := s.threads.set i pc' } :=
  h.set hi pc' (by rw [hcounted]) (by rw [hclaimed]) (fun hp => .inl (hclaimed ▸ hp))
    (fun hp => .inl (hexclusive ▸ hp)) fun hp => .inl (hadmitted ▸ hp)

lemma uncount (hpc : pc.counted = true)
    (hclaimed : pc.claimed = false) (hnew : pc'.counted = false) (hfree : pc'.claimed = false) :
    MapsLock.Coherent { s with readers := s.readers - 1, threads := s.threads.set i pc' } := by
  refine h.set hi pc' ?_ ?_ ?_ ?_ ?_
  · rw [hpc, hnew]
    exact (BitVec.sub_add_cancel _ _).trans (BitVec.add_zero _).symm
  · rw [hclaimed, hfree]
  · intro hp
    rw [hfree] at hp
    cases hp
  · intro hp
    rw [MapsPc.claimed_of_exclusive hp] at hfree
    cases hfree
  · intro hp
    rw [MapsPc.counted_of_admitted hp] at hnew
    cases hnew

lemma release (hpc : pc.claimed = true) (hcounted : pc.counted = false) (result : Except Errno Unit)
    : MapsLock.Coherent { s with writer := 0, threads := s.threads.set i (.returned result) } := by
  refine h.set hi (.returned result) ?_ ?_ (by simp [MapsPc.claimed])
    (by simp [MapsPc.exclusive]) (by simp [MapsPc.admitted])
  · rw [hcounted]
    simp only [MapsPc.counted]
  · rw [hpc, h.writer_eq_one hi hpc]
    rfl

end

/-- One step of one thread.  The two steps that need the argument are the last load of a writer,
which has seen no reader, and the second load of a reader, which has seen no writer. -/
lemma lockStep (hshort : s.threads.length < 2 ^ 32) (hi : s.threads[i]? = some pc)
    {writer readers : U32}
    (hstep : mapsLockStep s.writer s.readers s.maps pc = (writer, readers, pc')) :
    MapsLock.Coherent { s with
      writer := writer, readers := readers, threads := s.threads.set i pc' } := by
  cases pc with simp only [mapsLockStep] at hstep
  | returned result | answer snapshot =>
    cases hstep
    exact h.set_same hi rfl rfl rfl rfl
  | claim =>
    split_ifs at hstep with hfree
    · cases hstep
      refine h.set hi (.wait 0) ?_ (by rw [hfree]; rfl) (fun _ => .inr hfree)
        (by simp [MapsPc.exclusive]) (by simp [MapsPc.admitted])
      simp only [MapsPc.counted]
    · cases hstep
      exact h.set_same hi rfl rfl rfl rfl
  | wait attempt =>
    split_ifs at hstep with hfree hmore
    · -- the counter shows 0, so nobody is counted: there are too few threads for it to wrap
      cases hstep
      have hle := countP_le_length (p := MapsPc.counted) (l := s.threads)
      have hreaders := congrArg BitVec.toNat h.readers
      rw [hfree, BitVec.toNat_ofNat] at hreaders
      have hnone : s.threads.countP MapsPc.counted = 0 := by
        change 0 = _ at hreaders
        omega
      refine h.set hi .writing ?_ rfl (fun _ => .inl rfl) (fun _ => .inr hnone)
        (by simp [MapsPc.admitted])
      simp only [MapsPc.counted]
    all_goals
      cases hstep
      exact h.set_same hi rfl rfl rfl rfl
  | giveUp | writing =>
    cases hstep
    exact h.release hi rfl rfl _
  | look snapshot offset =>
    split_ifs at hstep
    all_goals
      cases hstep
      exact h.set_same hi rfl rfl rfl rfl
  | enter snapshot offset =>
    cases hstep
    refine h.set hi (.lookAgain snapshot offset) ?_ rfl (by simp [MapsPc.claimed])
      (by simp [MapsPc.exclusive]) (by simp [MapsPc.admitted])
    simp [MapsPc.counted]
  | lookAgain snapshot offset =>
    split_ifs at hstep with hbusy
    · cases hstep
      exact h.set_same hi rfl rfl rfl rfl
    · cases hstep
      refine h.set hi (.check snapshot offset) ?_ rfl (by simp [MapsPc.claimed])
        (by simp [MapsPc.exclusive]) fun _ => .inr (not_not.mp hbusy)
      simp only [MapsPc.counted]
  | check snapshot offset =>
    split at hstep
    all_goals
      cases hstep
      exact h.set_same hi rfl rfl rfl rfl
  | _ =>
    cases hstep
    exact h.uncount hi rfl rfl rfl rfl

/-- Every action keeps the meaning of the words. -/
lemma step (hshort : s.threads.length < 2 ^ 32) {a : MapsLockAct}
    (hstep : mapsLockNext s a = some s') : s'.Coherent ∧ s'.threads.length = s.threads.length := by
  cases a with
  | step i =>
    simp only [mapsLockNext] at hstep
    split at hstep
    next pc hi =>
      cases hstep
      exact ⟨h.lockStep hshort hi rfl, length_set⟩
    next => cases hstep
  | change i maps =>
    simp only [mapsLockNext] at hstep
    split at hstep
    next hi =>
      cases hstep
      exact ⟨⟨h.readers, h.writer, h.one, h.apart⟩, rfl⟩
    next => cases hstep
  | _ =>
    simp only [mapsLockNext] at hstep
    split at hstep
    next hi =>
      split_ifs at hstep
      cases hstep
      exact ⟨h.set_same hi rfl rfl rfl rfl, length_set⟩
    next => cases hstep

end MapsLock.Coherent

/-! ## The result -/

lemma mapsLock_coherent {n : ℕ} (hn : n < 2 ^ 32) {s : MapsLock}
    (h : (mapsLockSystem n).Reachable s) : s.Coherent ∧ s.threads.length = n := by
  refine System.Reachable.invariant (I := fun s => s.Coherent ∧ s.threads.length = n)
    (fun s hs => ⟨.init hs, ?_⟩) (fun s a s' hI hstep => ?_) h
  · rw [hs.2.2, length_replicate]
  · obtain ⟨hc, hlen⟩ := hI
    obtain ⟨hc', hlen'⟩ := hc.step (hlen ▸ hn) hstep
    exact ⟨hc', hlen'.trans hlen⟩

/-- Readers and writers exclude each other, in every interleaving of fewer than `2 ^ 32`
threads: nobody is reading while somebody else is writing, at most one thread is writing, and
`readers` is the number of readers that have incremented and not yet decremented it. -/
theorem maps_exclusion {n : ℕ} (hn : n < 2 ^ 32) {s : MapsLock}
    (h : (mapsLockSystem n).Reachable s) :
    (∀ i j : ℕ, s.threads[i]? = some .writing → s.threads[j]? ≠ some .reading) ∧
      (∀ i j : ℕ, s.threads[i]? = some .writing → s.threads[j]? = some .writing → i = j) ∧
      s.readers.toNat = s.threads.countP MapsPc.counted := by
  obtain ⟨hc, hlen⟩ := mapsLock_coherent hn h
  refine ⟨fun i j hi hj => ?_, fun i j hi hj => ?_, ?_⟩
  · have hnone := hc.apart (countP_pos hi rfl)
    have := countP_pos (p := MapsPc.admitted) hj rfl
    omega
  · exact eq_of_countP_le_one hc.one hi hj rfl rfl
  · have hle := countP_le_length (p := MapsPc.counted) (l := s.threads)
    rw [hc.readers, BitVec.toNat_ofNat, Nat.mod_eq_of_lt (by omega)]

/-- Four threads, of which one has claimed the store and another has come too late. -/
theorem maps_exclusion_four :
    let s := runFrom mapsLockNext
      { maps := mapsInit ⟨true, 16, 8⟩, threads := List.replicate 4 (.returned (.ok ())) }
      [.startWrite 0, .startWrite 1, .step 0, .step 1, .step 0]
    (4 < 2 ^ 32 ∧ s.threads[0]? = some .writing) ∧
      (∀ i j : ℕ, s.threads[i]? = some .writing → s.threads[j]? ≠ some .reading) ∧
      (∀ i j : ℕ, s.threads[i]? = some .writing → s.threads[j]? = some .writing → i = j) ∧
      s.readers.toNat = s.threads.countP MapsPc.counted := by
  refine ⟨by decide, maps_exclusion (n := 4) (by decide) ?_⟩
  exact .steps (.init ⟨rfl, rfl, rfl⟩) (.of_restrict
    (runFrom_steps (C := fun _ _ => True) _ _ (fun _ _ _ => trivial) (by decide)))

/-! ## Too many readers -/

def oneByteMaps : Maps :=
  { backend := ⟨true, 16, 8⟩, task := some 1, data := some [0x41], taskGeneration := 1
    snapshot := 1, length := 1, crc32 := crc32Ieee [0x41], state := .ready }

/-- `k` threads are reading and the others have done nothing yet. -/
def readersIn (k m : ℕ) : MapsLock where
  readers := BitVec.ofNat 32 k
  maps := oneByteMaps
  threads := List.replicate k .reading ++ List.replicate m (.returned (.ok ()))

section

variable {s : MapsLock} {before after : List MapsPc} {pc : MapsPc}

lemma mapsLockNext_step (hs : s.threads = before ++ pc :: after) :
    mapsLockNext s (.step before.length) =
      some { s with
        writer := (mapsLockStep s.writer s.readers s.maps pc).1
        readers := (mapsLockStep s.writer s.readers s.maps pc).2.1
        threads := before ++ (mapsLockStep s.writer s.readers s.maps pc).2.2 :: after } := by
  simp [mapsLockNext, hs]

variable {result : Except Errno Unit}

lemma mapsLockNext_startRead (before : List MapsPc) (snapshot : U64) (offset : U32)
    (hs : s.threads = before ++ .returned result :: after) (hsnapshot : snapshot ≠ 0)
    (hsup : mapsSupported s.maps = true) :
    mapsLockNext s (.startRead before.length snapshot offset) =
      some { s with threads := before ++ .look snapshot offset :: after } := by
  simpa [mapsLockNext, hs, hsup] using hsnapshot

lemma mapsLockNext_startWrite (before : List MapsPc)
    (hs : s.threads = before ++ .returned result :: after) (hsup : mapsSupported s.maps = true) :
    mapsLockNext s (.startWrite before.length) =
      some { s with threads := before ++ .claim :: after } := by
  simp [mapsLockNext, hs, hsup]

end

lemma readersIn_succ {n k m : ℕ} (h : (mapsLockSystem n).Reachable (readersIn k (m + 1))) :
    (mapsLockSystem n).Reachable (readersIn (k + 1) m) := by
  have hstart := h.step (mapsLockNext_startRead (List.replicate k .reading) 1 0
    (by rw [readersIn, replicate_succ]) (by decide) rfl)
  have hlook := hstart.step (mapsLockNext_step rfl)
  have henter := hlook.step (mapsLockNext_step rfl)
  have hagain := henter.step (mapsLockNext_step rfl)
  have hcheck := hagain.step (mapsLockNext_step rfl)
  have hstate : readersIn (k + 1) m =
      { writer := 0, readers := BitVec.ofNat 32 k + 1, maps := oneByteMaps
        threads := List.replicate k .reading ++
          .reading :: List.replicate m (.returned (.ok ())) } := by
    rw [readersIn, replicate_succ', append_assoc, singleton_append, BitVec.ofNat_add]
    rfl
  rw [hstate]
  exact hcheck

lemma readersIn_reachable (k m : ℕ) : (mapsLockSystem (k + m)).Reachable (readersIn k m) := by
  induction k generalizing m with
  | zero =>
    refine .init ⟨rfl, rfl, ?_⟩
    rw [readersIn, Nat.zero_add]
    rfl
  | succ k ih =>
    have hmore := ih (m + 1)
    rw [show k + (m + 1) = k + 1 + m by omega] at hmore
    exact readersIn_succ hmore

/-- With `2 ^ 32` readers the counter shows 0, and a writer comes in beside them. -/
theorem maps_exclusion_lost :
    ∃ s, (mapsLockSystem (2 ^ 32 + 1)).Reachable s ∧ s.threads[2 ^ 32]? = some .writing ∧
      s.threads[0]? = some .reading ∧ s.readers.toNat ≠ s.threads.countP MapsPc.counted := by
  have h := readersIn_reachable (2 ^ 32) 1
  have hzero : BitVec.ofNat 32 (2 ^ 32) = 0 := by decide
  generalize hn : 2 ^ 32 = n at h hzero ⊢
  have hpos : 0 < n := by omega
  have hstart := h.step (mapsLockNext_startWrite (List.replicate n .reading) rfl rfl)
  have hclaim := hstart.step (mapsLockNext_step rfl)
  have hwait := hclaim.step (mapsLockNext_step rfl)
  simp only [mapsLockStep, readersIn, hzero, if_true] at hwait
  refine ⟨_, hwait, ?_, ?_, ?_⟩
  · simp
  · rw [List.getElem?_append_left (by simpa using hpos), List.getElem?_replicate, if_pos hpos]
  · rw [countP_append, countP_replicate]
    simp only [MapsPc.counted, countP_cons, List.replicate, countP_nil]
    change 0 ≠ _
    simp
    omega

end Spz
