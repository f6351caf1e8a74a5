import Stackplz.Text
import Stackplz.Wire.Layout
import Stackplz.Ring.Polling
import Mathlib.Data.List.DropRight

/-!
# Events at the client

`DecodeEventHex` of `user/kpm/event.go`: the hex text of an event's 432 bytes is turned back into
bytes, the header and the checksum are tested, and the fields are read at their offsets.

What reaches it are the events that `spz_ring_pop_after` returns.  All of them carry the header and
the checksum of `stampEvent`, whether the calls on the ring follow each other or run side by side
(`Returned.stamped`).
-/

namespace Spz

open Errno Numerals Transition
open List hiding Vector

/-! ## Decoding -/

/-- The Go `Event`, with its `Registers`. -/
structure DecodedEvent where
  type : U16
  flags : U16
  cpu : U32
  sequence : U64
  timestamp : U64
  bindingId : U32
  breakpointId : U32
  generation : U64
  taskCookie : U64
  pid : U32
  tgid : U32
  uid : U32
  startTime : U64
  startBootTime : U64
  comm : List U8
  exceptionClass : U32
  slotKind : U16
  slotIndex : U16
  requestedAddress : U64
  observedAddress : U64
  value : U64
  control : U32
  observedControl : U32
  mdscr : U64
  x : Vector U64 31
  sp : U64
  pc : U64
  pstate : U64
deriving DecidableEq

/-- The errors: `ErrMalformedEvent` with its detail, `ErrUnsupportedVersion`, `ErrEventChecksum`. -/
inductive EventError
  | malformed (detail : String)
  | unsupportedVersion (version : U16)
  | checksum (got want : U32)
deriving DecidableEq

/-- `strings.TrimRight(s, "\x00")`. -/
def trimNul (s : List U8) : List U8 := s.rdropWhile (· == 0)

def decodeFields (raw : List U8) : DecodedEvent where
  type := leWord 16 (slice 8 10 raw)
  flags := leWord 16 (slice 10 12 raw)
  cpu := leWord 32 (slice 12 16 raw)
  sequence := leWord 64 (slice 16 24 raw)
  timestamp := leWord 64 (slice 24 32 raw)
  bindingId := leWord 32 (slice 32 36 raw)
  breakpointId := leWord 32 (slice 36 40 raw)
  generation := leWord 64 (slice 40 48 raw)
  taskCookie := leWord 64 (slice 48 56 raw)
  pid := leWord 32 (slice 56 60 raw)
  tgid := leWord 32 (slice 60 64 raw)
  uid := leWord 32 (slice 64 68 raw)
  startTime := leWord 64 (slice 72 80 raw)
  startBootTime := leWord 64 (slice 80 88 raw)
  comm := trimNul (slice 88 104 raw)
  exceptionClass := leWord 32 (slice 104 108 raw)
  slotKind := leWord 16 (slice 108 110 raw)
  slotIndex := leWord 16 (slice 110 112 raw)
  requestedAddress := leWord 64 (slice 112 120 raw)
  observedAddress := leWord 64 (slice 120 128 raw)
  value := leWord 64 (slice 128 136 raw)
  control := leWord 32 (slice 136 140 raw)
  observedControl := leWord 32 (slice 140 144 raw)
  mdscr := leWord 64 (slice 144 152 raw)
  x := Vector.ofFn fun i => leWord 64 (slice (152 + 8 * i) (160 + 8 * i) raw)
  sp := leWord 64 (slice 400 408 raw)
  pc := leWord 64 (slice 408 416 raw)
  pstate := leWord 64 (slice 416 424 raw)

def decodeEventHex (encoded : List U8) : Except EventError DecodedEvent :=
  if encoded.length ≠ 432 * 2 then .error (.malformed "encoded length")
  else
    match decodeHex encoded with
    | none => .error (.malformed "hex")
    | some raw =>
      if raw.length ≠ 432 then .error (.malformed "hex")
      else if leWord 32 (slice 0 4 raw) ≠ eventMagic then .error (.malformed "magic")
      else if leWord 16 (slice 4 6 raw) ≠ abiVersion then
        .error (.unsupportedVersion (leWord 16 (slice 4 6 raw)))
      else if leWord 16 (slice 6 8 raw) ≠ eventWireSize then .error (.malformed "declared size")
      else if crc32Ieee (slice 0 428 raw) ≠ leWord 32 (slice 428 432 raw) then
        .error (.checksum (crc32Ieee (slice 0 428 raw)) (leWord 32 (slice 428 432 raw)))
      else .ok (decodeFields raw)

/-! ## The fields of an event -/

namespace Event

/-- What the client should see of an event. -/
def decoded (e : Event) : DecodedEvent where
  type := eventTypeNumber e.type
  flags := e.flags
  cpu := e.cpu
  sequence := e.sequence
  timestamp := e.timestamp
  bindingId := e.bindingId
  breakpointId := e.breakpointId
  generation := e.generation
  taskCookie := e.taskCookie
  pid := e.pid
  tgid := e.tgid
  uid := e.uid
  startTime := e.startTime
  startBootTime := e.startBootTime
  comm := trimNul e.comm.toList
  exceptionClass := e.exceptionClass
  slotKind := e.slotKind
  slotIndex := e.slotIndex
  requestedAddress := e.requestedAddress
  observedAddress := e.observedAddress
  value := e.value
  control := e.control
  observedControl := e.observedControl
  mdscr := e.mdscr
  x := e.x
  sp := e.sp
  pc := e.pc
  pstate := e.pstate

/-! Within a group of fields a slice passes over the fields before it (`slice_append_right`) and
leaves those after it alone (`slice_append_left`). -/

section

variable (e : Event)

lemma header_fields :
    leWord 32 (slice 0 4 e.wire) = e.magic ∧ leWord 16 (slice 4 6 e.wire) = e.version ∧
    leWord 16 (slice 6 8 e.wire) = e.size ∧
    leWord 16 (slice 8 10 e.wire) = eventTypeNumber e.type ∧
    leWord 16 (slice 10 12 e.wire) = e.flags ∧ leWord 32 (slice 12 16 e.wire) = e.cpu ∧
    leWord 64 (slice 16 24 e.wire) = e.sequence ∧ leWord 64 (slice 24 32 e.wire) = e.timestamp ∧
    leWord 32 (slice 32 36 e.wire) = e.bindingId ∧
    leWord 32 (slice 36 40 e.wire) = e.breakpointId := by
  refine ⟨?_, ?_, ?_, ?_, ?_, ?_, ?_, ?_, ?_, ?_⟩ <;>
    rw [e.slice_header (by decide), wireHeader] <;>
    simp (disch := simp) only [slice_append_left, slice_append_right, slice_all, leWord_leBytes,
      length_append, leBytes_length, Nat.reduceAdd, Nat.reduceSub]

lemma task_fields :
    leWord 64 (slice 40 48 e.wire) = e.generation ∧ leWord 64 (slice 48 56 e.wire) = e.taskCookie ∧
    leWord 32 (slice 56 60 e.wire) = e.pid ∧ leWord 32 (slice 60 64 e.wire) = e.tgid ∧
    leWord 32 (slice 64 68 e.wire) = e.uid ∧ leWord 64 (slice 72 80 e.wire) = e.startTime ∧
    leWord 64 (slice 80 88 e.wire) = e.startBootTime ∧ slice 88 104 e.wire = e.comm.toList := by
  refine ⟨?_, ?_, ?_, ?_, ?_, ?_, ?_, ?_⟩ <;>
    rw [e.slice_task (by decide) (by decide), wireTask] <;>
    simp (disch := simp) only [slice_append_left, slice_append_right, slice_all, leWord_leBytes,
      length_append, leBytes_length, Nat.reduceAdd, Nat.reduceSub]

lemma slot_fields :
    leWord 32 (slice 104 108 e.wire) = e.exceptionClass ∧
    leWord 16 (slice 108 110 e.wire) = e.slotKind ∧
    leWord 16 (slice 110 112 e.wire) = e.slotIndex ∧
    leWord 64 (slice 112 120 e.wire) = e.requestedAddress ∧
    leWord 64 (slice 120 128 e.wire) = e.observedAddress ∧
    leWord 64 (slice 128 136 e.wire) = e.value ∧ leWord 32 (slice 136 140 e.wire) = e.control ∧
    leWord 32 (slice 140 144 e.wire) = e.observedControl ∧
    leWord 64 (slice 144 152 e.wire) = e.mdscr := by
  refine ⟨?_, ?_, ?_, ?_, ?_, ?_, ?_, ?_, ?_⟩ <;>
    rw [e.slice_slot (by decide) (by decide), wireSlot] <;>
    simp (disch := simp) only [slice_append_left, slice_append_right, slice_all, leWord_leBytes,
      length_append, leBytes_length, Nat.reduceAdd, Nat.reduceSub]

lemma x_length : (e.x.toList.flatMap (leBytes 8)).length = 248 := by
  simp [leBytes_length]

lemma register_fields :
    leWord 64 (slice 400 408 e.wire) = e.sp ∧ leWord 64 (slice 408 416 e.wire) = e.pc ∧
    leWord 64 (slice 416 424 e.wire) = e.pstate := by
  refine ⟨?_, ?_, ?_⟩ <;>
    rw [e.slice_registers (by decide) (by decide), wireRegisters] <;>
    simp (disch := simp [x_length]) only [slice_append_left, slice_append_right, slice_all,
      leWord_leBytes, length_append, leBytes_length, x_length, Nat.reduceAdd, Nat.reduceSub]

lemma x_fields (i : Fin 31) : leWord 64 (slice (152 + 8 * i) (160 + 8 * i) e.wire) = e.x.get i := by
  have hx := e.x_length
  have hi := i.isLt
  rw [e.slice_registers (by omega) (by omega), wireRegisters, append_assoc, append_assoc,
    slice_append_left (by omega), show 152 + 8 * (i : ℕ) - 152 = 8 * i by omega,
    show 160 + 8 * (i : ℕ) - 152 = 8 * i + 8 by omega, slice_flatMap _ (v := e.x[i]),
    leWord_leBytes (by decide)]
  · rfl
  · simp

lemma decodeFields_wire : decodeFields e.wire = e.decoded := by
  obtain ⟨-, -, -, htype, hflags, hcpu, hseq, htime, hbinding, hbreak⟩ := e.header_fields
  obtain ⟨hgen, hcookie, hpid, htgid, huid, hstart, hboot, hcomm⟩ := e.task_fields
  obtain ⟨hclass, hkind, hindex, hreq, hobs, hvalue, hcontrol, hobsc, hmdscr⟩ := e.slot_fields
  obtain ⟨hsp, hpc, hpstate⟩ := e.register_fields
  have hx : (Vector.ofFn fun i : Fin 31 => leWord 64 (slice (152 + 8 * i) (160 + 8 * i) e.wire)) =
      e.x := by
    refine Vector.ext fun i hi => ?_
    rw [Vector.getElem_ofFn]
    exact e.x_fields ⟨i, hi⟩
  rw [decodeFields, htype, hflags, hcpu, hseq, htime, hbinding, hbreak, hgen, hcookie, hpid, htgid,
    huid, hstart, hboot, hcomm, hclass, hkind, hindex, hreq, hobs, hvalue, hcontrol, hobsc, hmdscr,
    hx, hsp, hpc, hpstate, decoded]

end

/-- The header and the checksum are in order. -/
structure WellStamped (e : Event) : Prop where
  magic : e.magic = eventMagic
  version : e.version = abiVersion
  size : e.size = eventWireSize
  crc32 : e.crc32 = crc32Ieee e.wireHead

lemma WellStamped.decodes {e : Event} (h : e.WellStamped) :
    decodeEventHex (encodeHex e.wire) = .ok e.decoded := by
  have hlen : e.wire.length = 432 := e.wire_length
  obtain ⟨hmagic, hversion, hsize, -⟩ := e.header_fields
  have hcrc : leWord 32 (slice 428 432 e.wire) = e.crc32 := by
    rw [e.slice_crc, leWord_leBytes (by decide)]
  rw [decodeEventHex, if_neg (by rw [encodeHex_length, hlen]; decide), decodeHex_encodeHex]
  dsimp only
  rw [if_neg (not_not_intro hlen), hmagic, if_neg (not_not_intro h.magic), hversion,
    if_neg (not_not_intro h.version), hsize, if_neg (not_not_intro h.size), hcrc, e.slice_head,
    if_neg (not_not_intro h.crc32.symm), decodeFields_wire]

lemma checksum_of_decoded {raw : List U8} {event : DecodedEvent}
    (h : decodeEventHex (encodeHex raw) = .ok event) :
    crc32Ieee (slice 0 428 raw) = leWord 32 (slice 428 432 raw) := by
  by_contra hne
  rw [decodeEventHex, decodeHex_encodeHex] at h
  dsimp only at h
  rw [if_pos hne] at h
  split_ifs at h

/-- No single byte can be changed. -/
lemma WellStamped.detects {e : Event} (h : e.WellStamped) {i : ℕ} {b : U8} (hi : i < 432)
    (hb : e.wire[i]? ≠ some b) (event : DecodedEvent) :
    decodeEventHex (encodeHex (e.wire.set i b)) ≠ .ok event := by
  intro hok
  have hcheck := checksum_of_decoded hok
  have hhead := e.wireHead_length
  by_cases hin : i < 428
  · -- the checksum of the bytes before it changes, the one carried does not
    have hset : e.wire.set i b = e.wireHead.set i b ++ leBytes 4 e.crc32 := by
      rw [wire, set_append_left _ _ (by omega)]
    rw [hset, slice_append_left (by rw [length_set]; omega), slice_all (by rw [length_set, hhead]),
      slice_append_right (by rw [length_set]; omega), length_set, hhead,
      slice_all (leBytes_length _ _), leWord_leBytes (by decide), h.crc32] at hcheck
    refine crc32Ieee_set (by omega) ?_ hcheck
    rwa [wire, getElem?_append_left (by omega)] at hb
  · -- the checksum carried changes, the bytes before it do not
    have hset : e.wire.set i b = e.wireHead ++ (leBytes 4 e.crc32).set (i - 428) b := by
      rw [wire, set_append_right _ _ (by omega), hhead]
    rw [hset, slice_append_left (by omega), slice_all hhead, slice_append_right (by omega), hhead,
      slice_all (by rw [length_set, leBytes_length]), ← h.crc32] at hcheck
    have hsame : leBytes 4 e.crc32 = (leBytes 4 e.crc32).set (i - 428) b := by
      exact leWord_inj (w := 32) (by decide) (leBytes_length _ _)
        (by rw [length_set, leBytes_length]) ((leWord_leBytes (by decide) _).trans hcheck)
    refine hb ?_
    rw [wire, getElem?_append_right (by omega), hhead, hsame,
      getElem?_set_self (by rw [leBytes_length]; omega)]

end Event

/-! ## What the ring returns -/

def IsStamped (e : Event) : Prop := ∃ cpu sequence source, e = stampEvent cpu sequence source

lemma IsStamped.wellStamped {e : Event} (h : IsStamped e) : e.WellStamped := by
  obtain ⟨cpu, sequence, source, rfl⟩ := h
  exact ⟨rfl, rfl, rfl, rfl⟩

/-- Every committed slot holds a stamped event. -/
def CpuRing.Stamped (c : CpuRing) : Prop :=
  ∀ i, (c.slots i).commit ≠ 0 → IsStamped (c.slots i).event

namespace CpuRing.Stamped

variable {c : CpuRing}

lemma append (h : c.Stamped) {sequence : U64} {event : Event} (hevent : IsStamped event) :
    (c.append sequence event).Stamped := by
  intro i hi
  by_cases hindex : i = CpuRing.index c.head
  · subst hindex
    simpa [CpuRing.append] using hevent
  · simp only [CpuRing.append, Function.update_of_ne hindex] at hi ⊢
    exact h i hi

lemma dropTail (h : c.Stamped) : c.dropTail.Stamped := by
  intro i hi
  by_cases hindex : i = CpuRing.index c.tail
  · subst hindex
    simp [CpuRing.dropTail] at hi
  · simp only [CpuRing.dropTail, Function.update_of_ne hindex] at hi ⊢
    exact h i hi

lemma discardUpTo (h : c.Stamped) (after : U64) (n : ℕ) :
    (CpuRing.discardUpTo after n c).Stamped := by
  induction n generalizing c with
  | zero => exact h
  | succ n ih =>
    unfold CpuRing.discardUpTo
    split_ifs
    · exact h
    · exact ih h.dropTail

lemma offers (h : c.Stamped) {expected : U64} (hne : expected ≠ 0) {event : Event}
    (hoffers : c.offers expected = some event) : IsStamped event := by
  unfold CpuRing.offers at hoffers
  split_ifs at hoffers with hempty hcommit
  cases hoffers
  refine h _ ?_
  show c.tailSlot.commit ≠ 0
  rw [not_not.mp hcommit]
  exact hne

end CpuRing.Stamped

/-- The same of all CPUs. -/
def Ring.Stamped (ring : Ring) : Prop := ∀ cpu, (ring.cpu cpu).Stamped

namespace Ring.Stamped

variable {ring : Ring}

lemma init : ringInit.Stamped := fun _ _ h => absurd rfl h

variable (h : ring.Stamped)
include h

lemma updateCpu (cpu : ℕ) {f : CpuRing → CpuRing}
    (hf : ∀ c : CpuRing, c.Stamped → (f c).Stamped) : (ring.updateCpu cpu f).Stamped := by
  intro i
  by_cases hi : i = cpu
  · subst hi
    rw [Ring.updateCpu_self]
    exact hf _ (h i)
  · rw [Ring.updateCpu_of_ne _ hi]
    exact h i

lemma publish (cpu : ℕ) (source : Event) : (ringPublish ring cpu source).2.Stamped := by
  unfold ringPublish
  dsimp only
  split_ifs
  · exact h
  · exact h
  · cases Spz.nextSequence ring with
    | error e => exact h
    | ok sequence =>
      have hring : Ring.Stamped { ring with nextSequence := sequence } := h
      exact hring.updateCpu cpu fun c hc => hc.append ⟨cpu, sequence, source, rfl⟩

lemma reportLoss (cpu : ℕ) (freeSlots : U64) : (ringReportLoss ring cpu freeSlots).2.Stamped := by
  have hpublish := h.publish cpu (lossEvent (ring.cpu cpu))
  unfold ringReportLoss
  dsimp only
  split_ifs
  · split
    next heq => rwa [heq] at hpublish
    next heq =>
      rw [heq] at hpublish
      dsimp only at hpublish ⊢
      exact hpublish.updateCpu cpu fun _ hc => hc
  · exact h

lemma push (cpu : ℕ) (event : Event) : (ringPush ring cpu event).2.Stamped := by
  unfold ringPush
  dsimp only
  split_ifs
  · exact h
  · exact h.updateCpu cpu fun c hc => hc
  · have hreport := h.reportLoss cpu (BitVec.ofNat 64 ringCapacity - (ring.cpu cpu).used)
    split
    next heq => rwa [heq] at hreport
    next ring' heq =>
      rw [heq] at hreport
      have hpublish := hreport.publish cpu event
      split
      next heq' => rwa [heq'] at hpublish
      next heq' =>
        rw [heq'] at hpublish
        dsimp only
        split_ifs
        · exact hpublish.updateCpu cpu fun c hc => hc
        · exact hpublish

lemma discarded (after : U64) : (ringDiscarded ring after).Stamped := by
  intro cpu
  show CpuRing.Stamped (if cpu < maxCpus then _ else _)
  split_ifs
  · exact (h cpu).discardUpTo after _
  · exact h cpu

lemma select {expected : U64} (hne : expected ≠ 0) {cpu : ℕ} {event : Event}
    (hselect : ringSelect ring expected = some (cpu, event)) : IsStamped event := by
  obtain ⟨i, -, hi⟩ := exists_of_findSome?_eq_some hselect
  obtain ⟨found, hoffers, hpair⟩ := Option.map_eq_some_iff.mp hi
  cases hpair
  exact (h _).offers hne hoffers

/-- A poll returns a stamped event, and what it leaves is stamped. -/
lemma pop (after : U64) :
    (ringPopAfter ring after).2.Stamped ∧
      ∀ event, (ringPopAfter ring after).1 = .ok (some event) → IsStamped event := by
  unfold ringPopAfter
  by_cases hstale : after < ring.consumerAfter
  · rw [if_pos hstale]
    exact ⟨h, by simp⟩
  by_cases hrange : after > ring.nextSequence
  · rw [if_neg hstale, if_pos hrange]
    exact ⟨h, by simp⟩
  by_cases hlast : after = BitVec.allOnes 64
  · rw [if_neg hstale, if_neg hrange, if_pos hlast]
    exact ⟨h, by simp⟩
  rw [if_neg hstale, if_neg hrange, if_neg hlast]
  dsimp only
  split
  · exact ⟨h.discarded after, by simp⟩
  next cpu event hselect =>
    refine ⟨(h.discarded after).updateCpu cpu fun c hc => hc.dropTail, fun event' heq => ?_⟩
    cases heq
    exact (h.discarded after).select (add_one_ne_zero_of_ne hlast) hselect

end Ring.Stamped

/-- An event that `spz_ring_pop_after` has returned: after any sequence of calls and for any cursor,
or to the consumer of a ring whose producers run beside it. -/
inductive Returned (event : Event) : Prop
  | calls {s : RingRun} (after : U64) : ringSystem.Reachable s →
      (ringPopAfter s.ring after).1 = .ok (some event) → Returned event
  | interleaved {s : RingWorld} : ringWorldSystem.Reachable s → event ∈ s.received → Returned event

lemma Returned.stamped {event : Event} (h : Returned event) : IsStamped event := by
  cases h with
  | calls after hreach hpop =>
    have hring := by
      refine System.Reachable.invariant (I := fun s : RingRun => s.ring.Stamped) (fun s hs => ?_)
        (fun s a s' hI hstep => ?_) hreach
      · rw [show s = {} from hs]
        exact .init
      · cases hstep
        cases a with
        | push cpu event => exact hI.push cpu event
        | pop after => exact (hI.pop after).1
    exact (hring.pop after).2 event hpop
  | interleaved hreach hmem =>
    obtain ⟨i, hi⟩ := mem_iff_getElem?.mp hmem
    obtain ⟨p, -, rfl⟩ := (coherent_of_reachable hreach).received i event hi
    exact ⟨_, _, _, rfl⟩

/-! ## The round trip -/

lemma trimNul_spec (s : List U8) :
    (∃ k, s = trimNul s ++ replicate k 0) ∧ (trimNul s).getLast? ≠ some 0 := by
  constructor
  · refine ⟨(s.rtakeWhile (· == 0)).length, ?_⟩
    have hzeros : s.rtakeWhile (· == 0) = replicate (s.rtakeWhile (· == 0)).length 0 :=
      eq_replicate_of_mem fun b hb => by simpa using mem_rtakeWhile_imp hb
    rw [← hzeros]
    exact (rdropWhile_append_rtakeWhile ..).symm
  · intro hlast
    have hne : trimNul s ≠ [] := by
      intro hnil
      rw [hnil] at hlast
      cases hlast
    have hnot := rdropWhile_last_not _ _ hne
    rw [getLast?_eq_getLast_of_ne_nil hne, Option.some.injEq] at hlast
    exact hnot (by rw [show (s.rdropWhile _).getLast hne = 0 from hlast]; rfl)

/-- The event wire.  The text that `spz_text_hex` writes for an event that the ring has returned
is decoded to the fields of the event, the task name without the NULs at its end; and it is not
decoded after any single one of its 432 bytes was changed. -/
theorem event_round_trip {event : Event} (h : Returned event) :
    (event.wire.length = 432 ∧ Text.Appends (·.hex event.wire) (encodeHex event.wire) ∧
      decodeEventHex (encodeHex event.wire) = .ok event.decoded ∧
      (∃ k, event.comm.toList = event.decoded.comm ++ replicate k 0) ∧
      event.decoded.comm.getLast? ≠ some 0) ∧
    ∀ i < 432, ∀ b, event.wire[i]? ≠ some b →
      ∃ e, decodeEventHex (encodeHex (event.wire.set i b)) = .error e := by
  have hstamped := h.stamped.wellStamped
  obtain ⟨hcomm, hlast⟩ := trimNul_spec event.comm.toList
  refine ⟨⟨event.wire_length, .hex _, hstamped.decodes, hcomm, hlast⟩, fun i hi b hb => ?_⟩
  cases hresult : decodeEventHex (encodeHex (event.wire.set i b)) with
  | ok found => exact absurd hresult (hstamped.detects hi hb found)
  | error e => exact ⟨e, rfl⟩

/-- A hit of a watchpoint, with every field set that a hit has. -/
def sampleHit : Event :=
  { type := .watchpoint, flags := 2, timestamp := 99, bindingId := 7, breakpointId := 8
    generation := 3, taskCookie := 0xffffff8000001000, pid := 100, tgid := 101, uid := 10000
    startTime := 5, startBootTime := 6
    comm := ⟨#[97, 98, 99, 0, 0, 0, 0, 0, 0, 0, 0, 0, 0, 0, 0, 0], rfl⟩
    exceptionClass := 0x34, slotKind := 1, slotIndex := 2, requestedAddress := 0x7000001000
    observedAddress := 0x7000001004, value := 0x7000001000, control := 0x1e5
    observedControl := 0x1e4, mdscr := 0x8000, x := Vector.ofFn fun i => BitVec.ofNat 64 (i + 1)
    sp := 0x7fffff0000, pc := 0x7000001000, pstate := 0x60000000 }

/-- It comes out of an empty ring and is decoded, without the NULs of its task name. -/
theorem event_round_trip_hit :
    Returned (stampEvent 1 1 sampleHit) ∧ (stampEvent 1 1 sampleHit).decoded.comm = [97, 98, 99] ∧
    decodeEventHex (encodeHex (stampEvent 1 1 sampleHit).wire) =
      .ok (stampEvent 1 1 sampleHit).decoded := by
  have hpushed : ringSystem.Reachable (ringNext {} (.push 1 sampleHit)) :=
    .step (.init rfl) (a := .push 1 sampleHit) rfl
  have hreturned : Returned (stampEvent 1 1 sampleHit) := .calls 0 hpushed rfl
  exact ⟨hreturned, rfl, (event_round_trip hreturned).1.2.2.1⟩

end Spz
