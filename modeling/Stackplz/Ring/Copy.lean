import Stackplz.Abi
import Mathlib.Data.List.FinRange

/-!
# Copying an event byte by byte

`memcpy` of a `struct spz_event` between a slot of the ring and a local copy is not one step: what
another CPU sees in between has some bytes of the old event and some of the new one.  `eventParts`
is the copy as a list of steps that each move one byte, and `copied_all` says that after all of them
the event is the source.
-/

namespace Spz

/-! ## Words -/

/-- Byte `b` of the destination becomes that of the source. -/
def copyByte {w : ℕ} (b : ℕ) (src dst : BitVec w) : BitVec w :=
  (dst &&& ~~~(255#w <<< (8 * b))) ||| (src &&& (255#w <<< (8 * b)))

variable {w n : ℕ}

lemma getLsbD_copyByte (b : ℕ) (src dst : BitVec w) (i : ℕ) :
    (copyByte b src dst).getLsbD i =
      if 8 * b ≤ i ∧ i < 8 * b + 8 then src.getLsbD i else dst.getLsbD i := by
  have hmask : ∀ j, (255#w).getLsbD j = (decide (j < w) && decide (j < 8)) := by
    intro j
    rw [BitVec.getLsbD_ofNat, show 255 = 2 ^ 8 - 1 from rfl, Nat.testBit_two_pow_sub_one]
  simp only [copyByte, BitVec.getLsbD_or, BitVec.getLsbD_and, BitVec.getLsbD_not,
    BitVec.getLsbD_shiftLeft, hmask]
  by_cases hw : i < w
  · split_ifs with hb
    · simp [hw, Nat.not_lt.mpr hb.1, show i - 8 * b < 8 by omega, show i - 8 * b < w by omega]
    · by_cases hlt : i < 8 * b
      · simp [hw, hlt]
      · simp [hw, show ¬ i - 8 * b < 8 by omega]
  · have hsrc := BitVec.getLsbD_of_ge src i (Nat.le_of_not_lt hw)
    have hdst := BitVec.getLsbD_of_ge dst i (Nat.le_of_not_lt hw)
    simp [hsrc, hdst]

/-- The bytes of a word from the lowest on. -/
def copyBytes {w : ℕ} (n : ℕ) (src dst : BitVec w) : BitVec w :=
  (List.range n).foldl (fun d b => copyByte b src d) dst

lemma getLsbD_copyBytes (n : ℕ) (src dst : BitVec w) (i : ℕ) :
    (copyBytes n src dst).getLsbD i = if i < 8 * n then src.getLsbD i else dst.getLsbD i := by
  induction n with
  | zero => rfl
  | succ n ih =>
    rw [copyBytes, List.range_succ, List.foldl_append]
    show (copyByte n src (copyBytes n src dst)).getLsbD i = _
    rw [getLsbD_copyByte, ih]
    split_ifs <;> first | rfl | omega

lemma copyBytes_all (src dst : BitVec (8 * n)) : copyBytes n src dst = src := by
  refine BitVec.eq_of_getLsbD_eq fun i hi => ?_
  rw [getLsbD_copyBytes, if_pos hi]

/-! ## Fields -/

/-- A field of an event that is a word of a whole number of bytes. -/
structure EventField where
  bytes : ℕ
  get : Event → BitVec (8 * bytes)
  set : BitVec (8 * bytes) → Event → Event
  get_set : ∀ v e, get (set v e) = v := by intros; rfl
  set_set : ∀ v v' e, set v (set v' e) = set v e := by intros; rfl
  set_get : ∀ e, set (get e) e = e := by intros; rfl

namespace EventField

def parts (f : EventField) : List (Event → Event → Event) :=
  (List.range f.bytes).map fun b src dst => f.set (copyByte b (f.get src) (f.get dst)) dst

lemma foldl_parts (f : EventField) (src dst : Event) :
    f.parts.foldl (fun d part => part src d) dst = f.set (f.get src) dst := by
  have hsome : ∀ n, ((List.range n).map fun b src dst =>
      f.set (copyByte b (f.get src) (f.get dst)) dst).foldl (fun d part => part src d) dst =
      f.set (copyBytes n (f.get src) (f.get dst)) dst := by
    intro n
    induction n with
    | zero => exact (f.set_get dst).symm
    | succ n ih =>
      rw [List.range_succ, List.map_append, List.foldl_append, ih]
      show f.set (copyByte n (f.get src) (f.get (f.set _ dst))) (f.set _ dst) = _
      rw [f.get_set, f.set_set, copyBytes, copyBytes, List.range_succ, List.foldl_append]
      rfl
  rw [parts, hsome, copyBytes_all]

end EventField

/-- The fields of `struct spz_event` but its type, the task's name and the general registers. -/
def wordFields : List EventField := [
  .mk 4 (·.magic) fun v e => { e with magic := v },
  .mk 2 (·.version) fun v e => { e with version := v },
  .mk 2 (·.size) fun v e => { e with size := v },
  .mk 2 (·.flags) fun v e => { e with flags := v },
  .mk 4 (·.cpu) fun v e => { e with cpu := v },
  .mk 8 (·.sequence) fun v e => { e with sequence := v },
  .mk 8 (·.timestamp) fun v e => { e with timestamp := v },
  .mk 4 (·.bindingId) fun v e => { e with bindingId := v },
  .mk 4 (·.breakpointId) fun v e => { e with breakpointId := v },
  .mk 8 (·.generation) fun v e => { e with generation := v },
  .mk 8 (·.taskCookie) fun v e => { e with taskCookie := v },
  .mk 4 (·.pid) fun v e => { e with pid := v },
  .mk 4 (·.tgid) fun v e => { e with tgid := v },
  .mk 4 (·.uid) fun v e => { e with uid := v },
  .mk 4 (·.reserved0) fun v e => { e with reserved0 := v },
  .mk 8 (·.startTime) fun v e => { e with startTime := v },
  .mk 8 (·.startBootTime) fun v e => { e with startBootTime := v },
  .mk 4 (·.exceptionClass) fun v e => { e with exceptionClass := v },
  .mk 2 (·.slotKind) fun v e => { e with slotKind := v },
  .mk 2 (·.slotIndex) fun v e => { e with slotIndex := v },
  .mk 8 (·.requestedAddress) fun v e => { e with requestedAddress := v },
  .mk 8 (·.observedAddress) fun v e => { e with observedAddress := v },
  .mk 8 (·.value) fun v e => { e with value := v },
  .mk 4 (·.control) fun v e => { e with control := v },
  .mk 4 (·.observedControl) fun v e => { e with observedControl := v },
  .mk 8 (·.mdscr) fun v e => { e with mdscr := v },
  .mk 8 (·.sp) fun v e => { e with sp := v },
  .mk 8 (·.pc) fun v e => { e with pc := v },
  .mk 8 (·.pstate) fun v e => { e with pstate := v },
  .mk 4 (·.reserved1) fun v e => { e with reserved1 := v },
  .mk 4 (·.crc32) fun v e => { e with crc32 := v }]

/-- A byte of the task's name. -/
def commField (i : Fin 16) : EventField where
  bytes := 1
  get e := e.comm[i]
  set v e := { e with comm := e.comm.set i v }
  get_set v e := by simp
  set_set v v' e := by simp
  set_get e := by simp

def registerField (i : Fin 31) : EventField where
  bytes := 8
  get e := e.x[i]
  set v e := { e with x := e.x.set i v }
  get_set v e := by simp
  set_set v v' e := by simp
  set_get e := by simp

def eventFields : List EventField :=
  wordFields ++ (List.finRange 16).map commField ++ (List.finRange 31).map registerField

/-- The steps of a copy, given the source and the destination as it is.  The upper byte of the
type's number is 0 whatever the type, so that its lower byte stands for the type. -/
def eventParts : List (Event → Event → Event) :=
  (fun src dst => { dst with type := src.type }) :: eventFields.flatMap EventField.parts

/-! ## The whole copy -/

lemma getElem_foldl_set {α : Type*} (is : List (Fin n)) (src dst : Vector α n) (j : Fin n) :
    (is.foldl (fun v (i : Fin n) => v.set i src[i]) dst)[j] =
      if j ∈ is then src[j] else dst[j] := by
  induction is generalizing dst with
  | nil => rfl
  | cons i is ih =>
    rw [List.foldl_cons, ih]
    by_cases hj : j ∈ is
    · simp [hj]
    · by_cases hij : j = i
      · subst hij
        simp
      · have hne : (i : ℕ) ≠ j := fun h => hij (Fin.ext h.symm)
        simp [hj, hij, hne]

lemma foldl_set_all {α : Type*} (src dst : Vector α n) :
    (List.finRange n).foldl (fun v (i : Fin n) => v.set i src[i]) dst = src := by
  refine Vector.ext fun j hj => ?_
  have := getElem_foldl_set (List.finRange n) src dst ⟨j, hj⟩
  rwa [if_pos (List.mem_finRange _)] at this

lemma foldl_flatMap_parts (fs : List EventField) (src dst : Event) :
    (fs.flatMap EventField.parts).foldl (fun d part => part src d) dst =
      fs.foldl (fun d f => f.set (f.get src) d) dst := by
  induction fs generalizing dst with
  | nil => rfl
  | cons f fs ih => rw [List.flatMap_cons, List.foldl_append, f.foldl_parts, ih, List.foldl_cons]

lemma foldl_commField (is : List (Fin 16)) (src dst : Event) :
    (is.map commField).foldl (fun d f => f.set (f.get src) d) dst =
      { dst with comm := is.foldl (fun v (i : Fin 16) => v.set i src.comm[i]) dst.comm } := by
  induction is generalizing dst with
  | nil => rfl
  | cons i is ih =>
    rw [List.map_cons, List.foldl_cons, ih]
    rfl

lemma foldl_registerField (is : List (Fin 31)) (src dst : Event) :
    (is.map registerField).foldl (fun d f => f.set (f.get src) d) dst =
      { dst with x := is.foldl (fun v (i : Fin 31) => v.set i src.x[i]) dst.x } := by
  induction is generalizing dst with
  | nil => rfl
  | cons i is ih =>
    rw [List.map_cons, List.foldl_cons, ih]
    rfl

lemma foldl_eventFields (src dst : Event) :
    eventFields.foldl (fun d f => f.set (f.get src) d) dst = { src with type := dst.type } := by
  rw [eventFields, List.foldl_append, List.foldl_append, foldl_commField, foldl_registerField,
    foldl_set_all, foldl_set_all]
  rfl

/-- The destination after the first `k` steps of a copy. -/
def copied (k : ℕ) (src dst : Event) : Event :=
  (eventParts.take k).foldl (fun d part => part src d) dst

/-- Step `k` of a copy. -/
def copyPart (k : ℕ) (src dst : Event) : Event := (eventParts[k]?.getD fun _ d => d) src dst

lemma copied_all (src dst : Event) : copied eventParts.length src dst = src := by
  rw [copied, List.take_length, eventParts, List.foldl_cons, foldl_flatMap_parts, foldl_eventFields]

/-- The copy from its step `k` on. -/
def copyRest (k : ℕ) (src dst : Event) : Event :=
  (eventParts.drop k).foldl (fun d part => part src d) dst

lemma copyRest_zero (src dst : Event) : copyRest 0 src dst = src := by
  have := copied_all src dst
  rwa [copied, List.take_length] at this

lemma copyRest_step {k : ℕ} (hk : k < eventParts.length) (src dst : Event) :
    copyRest (k + 1) src (copyPart k src dst) = copyRest k src dst := by
  rw [copyRest, copyRest, List.drop_eq_getElem_cons hk, List.foldl_cons, copyPart,
    List.getElem?_eq_getElem hk]
  rfl

lemma copyRest_length (src dst : Event) : copyRest eventParts.length src dst = dst := by
  rw [copyRest, List.drop_length]
  rfl

lemma eventParts_length : eventParts.length = 431 := by decide +kernel

lemma eventParts_pos : 0 < eventParts.length := by
  rw [eventParts_length]
  exact Nat.zero_lt_succ _

end Spz
