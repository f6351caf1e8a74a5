import Stackplz.Abi
import Mathlib.Logic.Function.Iterate

/-!
# Wire bytes and their checksum

The 432 bytes of `struct spz_event` in the order and with the offsets `abi.h` asserts, and
`core/crc32.c`.  Everything on the wire is little endian.
-/

namespace Spz

open List

def eventMagic : U32 := 0x455a5053#32

def abiVersion : U16 := 1#16

def eventWireSize : U16 := 432#16

def eventTypeNumber : EventType → U16
  | .none => 0
  | .breakpoint => 1
  | .watchpoint => 2
  | .integrity => 3
  | .loss => 4
  | .task => 5

/-- The `n` low bytes of a word, least significant first. -/
def leBytes {w : ℕ} (n : ℕ) (v : BitVec w) : List U8 :=
  (range n).map fun i => v.extractLsb' (8 * i) 8

@[simp] lemma leBytes_length {w : ℕ} (n : ℕ) (v : BitVec w) : (leBytes n v).length = n := by
  rw [leBytes, length_map, length_range]

namespace Event

section

variable (e : Event)

/-- The fields from `magic` to `breakpoint_id`: offsets 0 to 39. -/
def wireHeader : List U8 :=
  leBytes 4 e.magic ++ leBytes 2 e.version ++ leBytes 2 e.size ++
    leBytes 2 (eventTypeNumber e.type) ++ leBytes 2 e.flags ++ leBytes 4 e.cpu ++
    leBytes 8 e.sequence ++ leBytes 8 e.timestamp ++ leBytes 4 e.bindingId ++
    leBytes 4 e.breakpointId

/-- The fields from `generation` to `comm`: offsets 40 to 103. -/
def wireTask : List U8 :=
  leBytes 8 e.generation ++ leBytes 8 e.taskCookie ++ leBytes 4 e.pid ++ leBytes 4 e.tgid ++
    leBytes 4 e.uid ++ leBytes 4 e.reserved0 ++ leBytes 8 e.startTime ++
    leBytes 8 e.startBootTime ++ e.comm.toList

/-- The fields from `exception_class` to `mdscr`: offsets 104 to 151. -/
def wireSlot : List U8 :=
  leBytes 4 e.exceptionClass ++ leBytes 2 e.slotKind ++ leBytes 2 e.slotIndex ++
    leBytes 8 e.requestedAddress ++ leBytes 8 e.observedAddress ++ leBytes 8 e.value ++
    leBytes 4 e.control ++ leBytes 4 e.observedControl ++ leBytes 8 e.mdscr

/-- `struct spz_registers`: offsets 152 to 423. -/
def wireRegisters : List U8 :=
  e.x.toList.flatMap (leBytes 8) ++ leBytes 8 e.sp ++ leBytes 8 e.pc ++ leBytes 8 e.pstate

/-- The bytes before the checksum. -/
def wireHead : List U8 :=
  e.wireHeader ++ e.wireTask ++ e.wireSlot ++ e.wireRegisters ++ leBytes 4 e.reserved1

def wire : List U8 := e.wireHead ++ leBytes 4 e.crc32

end

variable (e : Event)

lemma wireHeader_length : e.wireHeader.length = 40 := by
  simp only [wireHeader, length_append, leBytes_length, Nat.reduceAdd]

lemma wireTask_length : e.wireTask.length = 64 := by
  simp only [wireTask, length_append, leBytes_length, Vector.length_toList, Nat.reduceAdd]

lemma wireSlot_length : e.wireSlot.length = 48 := by
  simp only [wireSlot, length_append, leBytes_length, Nat.reduceAdd]

lemma wireRegisters_length : e.wireRegisters.length = 272 := by
  simp only [wireRegisters, length_append, length_flatMap, leBytes_length,
    map_const', Vector.length_toList, sum_replicate_nat, Nat.reduceAdd, Nat.reduceMul]

lemma wireHead_length : e.wireHead.length = 428 := by
  simp only [wireHead, length_append, wireHeader_length, wireTask_length, wireSlot_length,
    wireRegisters_length, leBytes_length, Nat.reduceAdd]

/-- The size `abi.h` asserts. -/
theorem wire_length : e.wire.length = eventWireSize.toNat := by
  rw [wire, length_append, wireHead_length, leBytes_length]
  rfl

end Event

/-! ## CRC-32 -/

/-- The inner loop body of `spz_crc32_ieee`. -/
def crc32Bit (crc : U32) : U32 := (crc >>> 1) ^^^ (0xedb88320#32 &&& -(crc &&& 1#32))

/-- The outer loop body of `spz_crc32_ieee`. -/
def crc32Byte (crc : U32) (byte : U8) : U32 := crc32Bit^[8] (crc ^^^ byte.setWidth 32)

def crc32Ieee (bytes : List U8) : U32 := ~~~ bytes.foldl crc32Byte 0xffffffff#32

end Spz
