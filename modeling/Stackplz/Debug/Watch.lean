import Stackplz.Debug.Calls

/-!
# Which watchpoint exceptions are recognised

The hardware side of a watchpoint against the software range test of `spz_debug_handle_watch`.

* `Watched st b` — the byte at `b` is selected by the byte-address-select field of the programmed
  control register, counted from the programmed value register; for an accepted request these
  are the bytes of the request (`watched_bounds`).
* `WatchException` — an access that touches a watched byte in a direction the load/store field
  matches, together with the fault address register.  The architecture lets that register hold
  any address from the lowest one accessed up to the highest watched byte accessed, with any
  tag in its top byte.
* `watch_consumed_iff` — the handler consumes such an exception exactly if the register carries no
  tag and does not point below the request.
-/

namespace Spz

open Fallible
open BitVec hiding not_not

/-! ## The encoding of a watch request -/

/-- What acceptance of a watch request says about its numbers. -/
structure AcceptedWatch (request : DebugRequest) (enc : Encoding) : Prop where
  address_lt : request.address.toNat < 2 ^ 56
  length_mem : request.length.toNat ∈ [1, 2, 4, 8]
  in_dword : request.address.toNat % 8 + request.length.toNat ≤ 8
  value : enc.value = request.address &&& ~~~7#64
  control : enc.control = encodeControl (watchByteMask request) (watchLsc request.kind)

variable {request : DebugRequest} {i : ℕ}

/-- What the checks of a watch request leave. -/
lemma acceptedWatch {enc : Encoding} (h : debugValidateRequest request = .ok enc)
    (hkind : request.kind ≠ .execute) : AcceptedWatch request enc := by
  unfold debugValidateRequest at h
  dsimp only at h
  split_ifs at h with hid hmode haddr hwatch hlen hend
  cases h
  have haddr' : request.address.toNat < 2 ^ 56 := by
    have hshift := congrArg BitVec.toNat (not_not.mp (not_or.mp haddr).2)
    rw [BitVec.toNat_ushiftRight, Nat.shiftRight_eq_div_pow] at hshift
    simpa [Nat.div_eq_zero_iff] using hshift
  have hlen' : request.length.toNat ∈ [1, 2, 4, 8] := by
    simp only [not_and_or, not_not] at hlen
    rcases hlen with h | h | h | h <;> simp [h]
  refine ⟨haddr', hlen', ?_, rfl, rfl⟩
  -- the last byte is in the same double word, and no sum below `2 ^ 57` wraps
  have hshift := congrArg BitVec.toNat (not_not.mp (not_or.mp hend).2)
  have hlen₈ : 1 ≤ request.length.toNat ∧ request.length.toNat ≤ 8 := by
    simp only [List.mem_cons, List.not_mem_nil, or_false] at hlen'
    omega
  have hlast : (request.address + request.length.setWidth 64 - 1#64).toNat =
      request.address.toNat + request.length.toNat - 1 := by
    rw [toNat_sub, toNat_add, toNat_setWidth]
    simp
    omega
  rw [toNat_ushiftRight, toNat_ushiftRight, Nat.shiftRight_eq_div_pow,
    Nat.shiftRight_eq_div_pow] at hshift
  rw [show (1 : U64) = 1#64 from rfl, hlast] at hshift
  omega

lemma encodeControl_above : ∀ kind : BreakKind, ∀ i < 8,
    (watchLsc kind ||| debugPrivilegeEl0 ||| ctrlEnable).getLsbD (5 + i) = false
  | .invalid | .execute | .read | .write | .readWrite => by decide

lemma encodeControl_bas (bas : U8) (kind : BreakKind) (hi : i < 8) :
    (encodeControl bas (watchLsc kind)).getLsbD (5 + i) = bas.getLsbD i := by
  rw [encodeControl, BitVec.or_assoc, BitVec.or_assoc, ← BitVec.or_assoc (watchLsc kind),
    BitVec.getLsbD_or, encodeControl_above kind i hi]
  simp [show 5 + i < 32 by omega]

lemma encodeControl_lsc (bas : U8) (kind : BreakKind) (hi : i < 5) :
    (encodeControl bas (watchLsc kind)).getLsbD i =
      (watchLsc kind ||| debugPrivilegeEl0 ||| ctrlEnable).getLsbD i := by
  rw [encodeControl, BitVec.or_assoc, BitVec.or_assoc, ← BitVec.or_assoc (watchLsc kind),
    BitVec.getLsbD_or]
  simp [hi]

lemma byteMask_getLsbD : ∀ len ∈ [1, 2, 4, 8], ∀ off < 8, ∀ i < 8,
    ((((1#32 <<< len) - 1#32) <<< off).setWidth 8).getLsbD i =
      decide (off ≤ i ∧ i < off + len) := by
  decide

lemma AcceptedWatch.byteMask {enc : Encoding} (h : AcceptedWatch request enc) (hi : i < 8) :
    (watchByteMask request).getLsbD i = true ↔
      request.address.toNat % 8 ≤ i ∧ i < request.address.toNat % 8 + request.length.toNat := by
  have hoff : (request.address &&& 7#64).toNat = request.address.toNat % 8 :=
    Bits.toNat_and_lowMask (k := 3) request.address (by decide)
  rw [watchByteMask, hoff, byteMask_getLsbD _ h.length_mem _ (Nat.mod_lt _ (by decide)) i hi,
    decide_eq_true_iff]

/-! ## The exception -/

/-- The byte at `b` is watched by the programmed registers. -/
def Watched (st : CpuState) (b : ℕ) : Prop :=
  ∃ i < 8, st.programmedControl.getLsbD (5 + i) = true ∧ b = st.programmedValue.toNat + i

/-- The load/store field of a control word matches an access in the given direction. -/
def LscMatches (control : U32) (isWrite : Bool) : Prop :=
  control.getLsbD (if isWrite then 4 else 3) = true
deriving Decidable

/-- A memory access of the target: its lowest address, its size in bytes and its direction. -/
structure Access where
  address : ℕ
  size : ℕ
  isWrite : Bool

/-- A watchpoint exception the architecture allows for an access on a CPU with the record `st`:
the access touches a watched byte in a matching direction, and the fault address register reports
an address `reported` between the lowest one accessed and the highest watched byte accessed, below
an arbitrary tag. -/
structure WatchException (st : CpuState) (access : Access) (tag : U8) (reported : ℕ)
    (frame : DebugFrame) : Prop where
  size_pos : 1 ≤ access.size
  size_le : access.size ≤ 64
  matches_lsc : LscMatches st.programmedControl access.isWrite
  direction : access.isWrite = (frame.esr &&& esrWNR != 0)
  above : access.address ≤ reported
  below : ∃ b, Watched st b ∧ access.address ≤ b ∧ b < access.address + access.size ∧ reported ≤ b
  far : frame.far.toNat = tag.toNat * 2 ^ 56 + reported

/-- The slot is armed for a watch request and its registers are untouched. -/
structure WatchArmed (st : CpuState) (r : Regs) (enc : Encoding) : Prop where
  armed : st.state = .armed
  kind : st.kind = .watchpoint
  request_kind : st.request.kind ≠ .execute
  accepted : debugValidateRequest st.request = .ok enc
  value : st.programmedValue = enc.value
  control : st.programmedControl = enc.control
  untouched : ¬ Mismatch st r st.programmedControl

variable {st : CpuState} {r : Regs} {enc : Encoding}

lemma WatchArmed.watched_bounds (h : WatchArmed st r enc) {b : ℕ} (hb : Watched st b) :
    st.request.address.toNat ≤ b ∧ b < st.request.address.toNat + st.request.length.toNat := by
  obtain ⟨i, hi, hbit, rfl⟩ := hb
  have hacc := acceptedWatch h.accepted h.request_kind
  rw [h.control, hacc.control, encodeControl_bas _ _ hi, hacc.byteMask hi] at hbit
  have hvalue : st.programmedValue.toNat = st.request.address.toNat / 8 * 8 := by
    rw [h.value, hacc.value]
    exact Bits.toNat_and_not_lowMask st.request.address 3
  rw [hvalue]
  omega

lemma watchLsc_direction (kind : BreakKind) (isWrite : Bool) :
    (watchLsc kind ||| debugPrivilegeEl0 ||| ctrlEnable).getLsbD (if isWrite then 4 else 3) =
      !((kind == .read && isWrite) || (kind == .write && !isWrite)) := by
  cases kind <;> cases isWrite <;> decide

lemma WatchArmed.direction (h : WatchArmed st r enc) {isWrite : Bool}
    (hlsc : LscMatches st.programmedControl isWrite) :
    ((st.request.kind == .read && isWrite) || (st.request.kind == .write && !isWrite)) = false := by
  have hacc := acceptedWatch h.accepted h.request_kind
  rw [LscMatches, h.control, hacc.control, encodeControl_lsc _ _ (by split <;> omega),
    watchLsc_direction] at hlsc
  exact (Bool.not_eq_true' _).mp hlsc

/-- The range test: of the exceptions the architecture allows it accepts those whose fault
address carries no tag and is not below the request. -/
lemma WatchArmed.concerns_iff (h : WatchArmed st r enc) {access : Access} {tag : U8} {reported : ℕ}
    {frame : DebugFrame} (hex : WatchException st access tag reported frame) :
    watchConcerns st.request frame = true ↔ tag = 0 ∧ st.request.address.toNat ≤ reported := by
  have hacc := acceptedWatch h.accepted h.request_kind
  obtain ⟨b, hwatched, -, -, hb⟩ := hex.below
  have hbound := h.watched_bounds hwatched
  have hdir := h.direction hex.matches_lsc
  have haddr := hacc.address_lt
  have hdword := hacc.in_dword
  have hend : (st.request.address + st.request.length.setWidth 64).toNat =
      st.request.address.toNat + st.request.length.toNat := by
    rw [toNat_add, toNat_setWidth]
    omega
  rw [hex.direction] at hdir
  simp only [watchConcerns, hdir, Bool.not_false, Bool.and_true, Bool.not_eq_true',
    Bool.or_eq_false_iff, decide_eq_false_iff_not, ge_iff_le, le_def, lt_def, hend, hex.far]
  have htag : tag = 0 ↔ tag.toNat = 0 := by
    rw [← toNat_inj]
    rfl
  rw [htag]
  omega

/-- Which watchpoint hits are recognised.  For a slot armed for a watch request, with untouched
registers and for the current target, and an exception the architecture allows: the handler
consumes it exactly if the fault address carries no tag and is not below the request. -/
theorem watch_consumed_iff {st : CpuState} {r : Regs} {enc : Encoding} {current : DebugTarget}
    {access : Access} {tag : U8} {reported : ℕ} {frame : DebugFrame} (event : Event)
    (harmed : WatchArmed st r enc) (hcurrent : debugTargetMatches st.target current = true)
    (hex : WatchException st access tag reported frame) :
    (∃ out, ((debugHandleWatch current frame event).exec .succeed ⟨st, r, []⟩).1 = .ok out ∧
      out.1 = .consumed) ↔ tag = 0 ∧ st.request.address.toNat ≤ reported := by
  have hwp : wp faultless (debugHandleWatch current frame event) _ _ ⟨st, r, []⟩ :=
    wp_debugHandleWatch (writesOk_nil rfl)
  have hconcerns : WatchConcerns current frame st ↔
      tag = 0 ∧ st.request.address.toNat ≤ reported := by
    rw [← harmed.concerns_iff hex]
    exact ⟨fun h => h.1.2.2, fun h => ⟨⟨harmed.armed, harmed.kind, h⟩, hcurrent⟩⟩
  rw [← hconcerns]
  cases hr : ((debugHandleWatch current frame event).exec .succeed ⟨st, r, []⟩).1 with
  | ok out =>
    rw [← (wp_exec_ok hwp succeed_mem_faultless hr).1.consumed_iff]
    exact ⟨fun ⟨out', heq, hout⟩ => by cases heq; exact hout, fun h => ⟨out, rfl, h⟩⟩
  | error e =>
    exact absurd (wp_exec_error hwp succeed_mem_faultless hr).2.1.mismatch harmed.untouched

/-! ## Concrete exceptions -/

/-- Watch stores to the four bytes at `0x2004`. -/
def wordWatch : DebugRequest :=
  { id := 2, kind := .write, address := 0x2004, length := 4, mode := .repeat }

/-- The small CPU with that watchpoint armed for `someTarget`. -/
def watchingCpu : CpuDebug :=
  ((Call.armCurrent wordWatch someTarget).exec oneSlotOps .succeed blankCpu).2

lemma watchingCpu_armed :
    WatchArmed watchingCpu.cpu watchingCpu.regs ⟨0x2000, encodeControl 0xf0 debugLscStore, 0xf0⟩ :=
  ⟨rfl, rfl, by decide, by decide, by decide, by decide, by decide⟩

/-- The frame of a store that reports the given fault address. -/
def storeFrame (far : U64) : DebugFrame := { esr := esrWNR, far := far }

/-- A store of `size` bytes at `address` that touches the byte `0x2007` raises an exception that may
report any address from its lowest one on. -/
lemma watchingCpu_exception (address size reported : ℕ) (tag : U8) {far : U64} (hsize : size ≤ 64)
    (hlow : address ≤ reported) (hhigh : reported ≤ 0x2007) (hend : 0x2007 < address + size)
    (hfar : far.toNat = tag.toNat * 2 ^ 56 + reported) :
    WatchException watchingCpu.cpu ⟨address, size, true⟩ tag reported (storeFrame far) where
  size_pos := by dsimp only; omega
  size_le := hsize
  matches_lsc := show LscMatches watchingCpu.cpu.programmedControl true by decide
  direction := show true = (esrWNR &&& esrWNR != 0) by decide
  above := hlow
  below := ⟨0x2007, ⟨7, by decide, by decide, by decide⟩, by dsimp only; omega, hend, hhigh⟩
  far := hfar

/-- A four-byte store to the watched word is recognised. -/
theorem watch_consumed_word :
    ∃ out, ((debugHandleWatch someTarget (storeFrame 0x2004) {}).exec .succeed
      ⟨watchingCpu.cpu, watchingCpu.regs, []⟩).1 = .ok out ∧ out.1 = .consumed :=
  (watch_consumed_iff {} watchingCpu_armed (by decide)
    (watchingCpu_exception 0x2004 4 0x2004 0 (by decide) (by decide) (by decide) (by decide)
      (by decide))).mpr ⟨rfl, by decide⟩

/-- Hits that are not recognised: an eight-byte store at `0x2000` that reports its lowest
address, and a store to the watched word through a tagged pointer. -/
theorem watch_hits_missed :
    (WatchException watchingCpu.cpu ⟨0x2000, 8, true⟩ 0 0x2000 (storeFrame 0x2000) ∧
      ∃ out, ((debugHandleWatch someTarget (storeFrame 0x2000) {}).exec .succeed
        ⟨watchingCpu.cpu, watchingCpu.regs, []⟩).1 = .ok out ∧ out.1 = .notOwned) ∧
    (WatchException watchingCpu.cpu ⟨0x2004, 4, true⟩ 0xb4 0x2004
        (storeFrame 0xb400000000002004) ∧
      ∃ out, ((debugHandleWatch someTarget (storeFrame 0xb400000000002004) {}).exec .succeed
        ⟨watchingCpu.cpu, watchingCpu.regs, []⟩).1 = .ok out ∧ out.1 = .notOwned) :=
  ⟨⟨watchingCpu_exception 0x2000 8 0x2000 0 (by decide) (by decide) (by decide) (by decide)
      (by decide), _, rfl, rfl⟩,
    ⟨watchingCpu_exception 0x2004 4 0x2004 0xb4 (by decide) (by decide) (by decide) (by decide)
      (by decide), _, rfl, rfl⟩⟩

end Spz
