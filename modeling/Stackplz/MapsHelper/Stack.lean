import Stackplz.MapsHelper
import Stackplz.Wire.Layout

/-!
# Unwinding by frame pointers

`GetStack` of `user/event/event_mmap2.go`.  It follows the frame records in a dump of the stack with
a reader that it sets to each of them by `Seek`.  A frame pointer that is `2^63` or more above the
stack pointer is a negative offset for `Seek`, which then fails and leaves the reader where it is:
what comes next in the dump is taken for a frame record.  `addresses_eq_chain_iff` says when this
does not show.
-/

namespace Spz.MapsHelper

/-- `UnwindBuf` of an arm64 process, with the registers that `GetStack` reads.  `GetStack` does not
read `Abi`, `StackSize` and `DynSize`: how much of the dump was filled in plays no part.  The length
of a Go slice is an `int`. -/
structure UnwindBuf where
  fp : U64
  lr : U64
  sp : U64
  pc : U64
  data : List U8
  length_lt : data.length < 2 ^ 63

variable (ubuf : UnwindBuf)

/-- The frame record at an offset of the dump: `next_fp` and `next_lr`. -/
def UnwindBuf.record (offset : ℕ) : Option (U64 × U64) :=
  if offset + 16 ≤ ubuf.data.length then
    some (leWord 64 (slice offset (offset + 8) ubuf.data),
      leWord 64 (slice (offset + 8) (offset + 16) ubuf.data))
  else none

/-- A return address is reported unless it is zero. -/
def reported (lr : U64) : List U64 := if lr ≠ 0 then [lr] else []

/-- `Seek` from the start: a negative offset leaves the reader where it is. -/
def seek (pos : ℕ) (offset : U64) : ℕ := if offset.toInt < 0 then pos else offset.toNat

/-- The loop of `GetStack`, for the rounds that are left and the reader at `pos`. -/
def UnwindBuf.unwind : (rounds : ℕ) → (fp : U64) → (pos : ℕ) → List U64
  | 0, _, _ => []
  | rounds + 1, fp, pos =>
    if fp < ubuf.sp then []
    else
      let pos := seek pos (fp - ubuf.sp)
      match ubuf.record pos with
      | none => []
      | some (nextFp, nextLr) => reported nextLr ++ unwind rounds nextFp (pos + 16)

/-- The addresses that `GetStack` reports. -/
def UnwindBuf.addresses : List U64 := ubuf.pc :: ubuf.lr :: ubuf.unwind 20 ubuf.fp 0

/-- `GetStack`; it fails if no maps of the process are cached. -/
def getStack (r : Ranging) (maps : PidMaps) (pid : U32) : Option Str :=
  (maps pid).map fun m =>
    ascii "\t" ++ (ascii "\n\t").intercalate (ubuf.addresses.map (getRegionInfo (r.order m)))

/-- The return addresses of the first frames of the chain.  It ends below the stack pointer and at a
    frame record that is not inside the dump. -/
def UnwindBuf.chain : (frames : ℕ) → (fp : U64) → List U64
  | 0, _ => []
  | frames + 1, fp =>
    if fp < ubuf.sp then []
    else
      match ubuf.record (fp - ubuf.sp).toNat with
      | none => []
      | some (nextFp, nextLr) => reported nextLr ++ chain frames nextFp

/-- The frame pointer that the chain comes to after `i` frames, and where the reader stands then:
behind the frame record before. -/
def UnwindBuf.frame : (i : ℕ) → (fp : U64) → (pos : ℕ) → Option (U64 × ℕ)
  | 0, fp, pos => some (fp, pos)
  | i + 1, fp, _ =>
    if fp < ubuf.sp then none
    else (ubuf.record (fp - ubuf.sp).toNat).bind fun next =>
      frame i next.1 ((fp - ubuf.sp).toNat + 16)

/-- No return address stands in the dump where the reader comes in so many rounds from `pos` on: the
second word there is zero, and so it goes on where the first word leads. -/
def UnwindBuf.Silent : (rounds : ℕ) → (pos : ℕ) → Prop
  | 0, _ => True
  | rounds + 1, pos => ∀ nextFp nextLr, ubuf.record pos = some (nextFp, nextLr) →
    nextLr = 0 ∧ (ubuf.sp ≤ nextFp → Silent rounds (seek (pos + 16) (nextFp - ubuf.sp)))

variable {ubuf}

lemma toInt_neg_iff {offset : U64} : offset.toInt < 0 ↔ 2 ^ 63 ≤ offset.toNat := by
  have := offset.isLt
  rw [BitVec.toInt_eq_toNat_cond]
  split_ifs <;> omega

lemma UnwindBuf.record_wild {offset : U64} (h : 2 ^ 63 ≤ offset.toNat) :
    ubuf.record offset.toNat = none := by
  have hlength := ubuf.length_lt
  exact if_neg (by omega)

lemma reported_eq_nil {lr : U64} : reported lr = [] ↔ lr = 0 := by
  simp [reported]

lemma UnwindBuf.unwind_eq_nil (rounds : ℕ) (fp : U64) (pos : ℕ) :
    ubuf.unwind rounds fp pos = [] ↔
      (ubuf.sp ≤ fp → ubuf.Silent rounds (seek pos (fp - ubuf.sp))) := by
  induction rounds generalizing fp pos with
  | zero => simp [unwind, Silent]
  | succ rounds ih =>
    rw [unwind, Silent]
    by_cases hsp : fp < ubuf.sp
    · simp [hsp]
    · cases hrecord : ubuf.record (seek pos (fp - ubuf.sp)) with
      | none => simp [hsp, hrecord]
      | some next =>
        obtain ⟨nextFp, nextLr⟩ := next
        simp [hsp, hrecord, ih, reported_eq_nil, BitVec.not_lt.mp hsp]

/-- By induction on the rounds: the loop and the chain part at the first frame pointer that `Seek`
refuses, where the chain ends. -/
lemma UnwindBuf.unwind_eq_chain_iff (rounds : ℕ) (fp : U64) (pos : ℕ) :
    ubuf.unwind rounds fp pos = ubuf.chain rounds fp ↔
      ∀ i < rounds, ∀ fp' pos', ubuf.frame i fp pos = some (fp', pos') → ubuf.sp ≤ fp' →
        2 ^ 63 ≤ (fp' - ubuf.sp).toNat → ubuf.Silent (rounds - i) pos' := by
  induction rounds generalizing fp pos with
  | zero => simp [unwind, chain]
  | succ rounds ih =>
    rw [Nat.forall_lt_succ_left]
    by_cases hsp : fp < ubuf.sp
    · simp [unwind, chain, frame, hsp]
    · have hle := BitVec.not_lt.mp hsp
      by_cases hwild : 2 ^ 63 ≤ (fp - ubuf.sp).toNat
      · have hchain : ubuf.chain (rounds + 1) fp = [] := by
          simp [chain, record_wild hwild, -BitVec.toNat_sub]
        have hseek : seek pos (fp - ubuf.sp) = pos := if_pos (toInt_neg_iff.mpr hwild)
        rw [hchain, unwind_eq_nil, hseek]
        simp [frame, record_wild hwild, hle, hwild, -BitVec.toNat_sub, -Nat.reducePow]
      · have hseek : seek pos (fp - ubuf.sp) = (fp - ubuf.sp).toNat :=
          if_neg (mt toInt_neg_iff.mp hwild)
        cases hrecord : ubuf.record (fp - ubuf.sp).toNat with
        | none =>
          simp [unwind, chain, frame, hsp, hseek, hrecord, hwild, -BitVec.toNat_sub, -Nat.reducePow]
        | some next =>
          simp [unwind, chain, frame, hsp, hseek, hrecord, hwild, ih, -BitVec.toNat_sub,
            -Nat.reducePow]

/-- `GetStack` reports the frames of the chain and nothing else exactly if no frame pointer among
the first 20 of the chain is `2^63` or more above the stack pointer, unless no return address stands
where the reader is then. -/
theorem addresses_eq_chain_iff (ubuf : UnwindBuf) :
    ubuf.addresses = ubuf.pc :: ubuf.lr :: ubuf.chain 20 ubuf.fp ↔
      ∀ i < 20, ∀ fp pos, ubuf.frame i ubuf.fp 0 = some (fp, pos) → ubuf.sp ≤ fp →
        2 ^ 63 ≤ (fp - ubuf.sp).toNat → ubuf.Silent (20 - i) pos := by
  rw [UnwindBuf.addresses, List.cons.injEq, List.cons.injEq, UnwindBuf.unwind_eq_chain_iff]
  simp

/-- A frame pointer from elsewhere, and a dump whose first words look like a frame record. -/
def wildFrame : UnwindBuf where
  fp := 0xffffff8000001000
  lr := 0x2000
  sp := 0x7000001000
  pc := 0x1000
  data := leBytes 8 (0 : U64) ++ leBytes 8 (0x1234 : U64)
  length_lt := by decide

/-- The second word of the dump is reported, although the chain is empty. -/
theorem wildFrame_reported :
    wildFrame.addresses = [0x1000, 0x2000, 0x1234] ∧ wildFrame.chain 20 wildFrame.fp = [] := by
  decide

end Spz.MapsHelper
