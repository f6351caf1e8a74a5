import Stackplz.Wire.Layout
import Stackplz.Lib.Bits

/-!
# User memory and the argument buffer

The probe reads that `src/utils.h` uses, and the records that `src/common/buffer.h` appends to the
argument buffer of an event.

Memory is a partial function: an address that is missing from it faults.  A read of several bytes
faults if one of them does; then a destination of fixed size is filled with zeros (`probeReadWord`,
`probeReadByte`), and strings and byte arrays are not saved at all.  The buffer is the list of the
bytes below `buf_off`, which is what is sent; bytes written above `buf_off` by a save that fails are
overwritten by the next save or not sent.
-/

namespace Spz.Bpf

/-! ## Probe reads -/

/-- What is mapped, readable or not. -/
abbrev Memory := U64 → Option U8

/-- `bpf_probe_read` of `n` bytes; `none` if it faults. -/
def readBytes (mem : Memory) : U64 → ℕ → Option (List U8)
  | _, 0 => some []
  | addr, n + 1 => do
    let b ← mem addr
    let rest ← readBytes mem (addr + 1) n
    some (b :: rest)

/-- `bpf_probe_read_str` into `n` bytes: up to the first NUL, or as much as there is room for, with
a NUL in the last place. -/
def readString (mem : Memory) : U64 → ℕ → Option (List U8)
  | _, 0 => some []
  | addr, n + 1 => do
    let b ← mem addr
    if b = 0 ∨ n = 0 then some [0]
    else
      let rest ← readString mem (addr + 1) n
      some (b :: rest)

def probeReadWord (mem : Memory) (addr : U64) : U64 :=
  ((readBytes mem addr 8).map (leWord 64)).getD 0

def probeReadByte (mem : Memory) (addr : U64) : U8 := (mem addr).getD 0

/-- `& 0xffffffffffff`, which removes the memory tag of an address. -/
def untagged (addr : U64) : U64 := addr &&& 0xffffffffffff

lemma readBytes_length {mem : Memory} {n : ℕ} :
    ∀ {addr : U64} {bytes : List U8}, readBytes mem addr n = some bytes → bytes.length = n := by
  induction n with
  | zero =>
    intro addr bytes h
    cases h
    rfl
  | succ n ih =>
    intro addr bytes h
    simp only [readBytes, Option.bind_eq_bind, Option.bind_eq_some_iff] at h
    obtain ⟨b, -, rest, hrest, heq⟩ := h
    cases heq
    rw [List.length_cons, ih hrest]

lemma readString_length {mem : Memory} {n : ℕ} :
    ∀ {addr : U64} {bytes : List U8}, readString mem addr (n + 1) = some bytes →
      0 < bytes.length ∧ bytes.length ≤ n + 1 := by
  induction n with
  | zero =>
    intro addr bytes h
    simp only [readString, Option.bind_eq_bind, or_true, if_true, Option.bind_eq_some_iff] at h
    obtain ⟨b, -, heq⟩ := h
    cases heq
    exact ⟨Nat.one_pos, le_rfl⟩
  | succ n ih =>
    intro addr bytes h
    rw [readString] at h
    simp only [Option.bind_eq_bind, Option.bind_eq_some_iff] at h
    obtain ⟨b, -, h⟩ := h
    by_cases hend : b = 0 ∨ n + 1 = 0
    · rw [if_pos hend] at h
      cases h
      exact ⟨Nat.one_pos, by simp⟩
    · rw [if_neg hend, Option.bind_eq_some_iff] at h
      obtain ⟨rest, hrest, heq⟩ := h
      cases heq
      have := ih hrest
      exact ⟨Nat.succ_pos _, by rw [List.length_cons]; omega⟩

/-! ## Saving -/

def argsBufSize : ℕ := 32000

/-- `MAX_ELEMENT_SIZE`, the size of `struct sockaddr_un`. -/
def maxElementSize : ℕ := 110

def maxBytesArrSize : ℕ := 4096

def maxStringSize : ℕ := 16384

def strarrMagicLen : U32 := 0xffff0000

/-- `[index][word]`. -/
def wordRecord (index : U8) (word : U64) : List U8 := index :: leBytes 8 word

/-- `[index][size][bytes]`. -/
def sizedRecord (index : U8) (size : U32) (bytes : List U8) : List U8 :=
  index :: (leBytes 4 size ++ bytes)

@[simp] lemma wordRecord_length (index : U8) (word : U64) : (wordRecord index word).length = 9 := by
  rw [wordRecord, List.length_cons, leBytes_length]

@[simp] lemma sizedRecord_length (index : U8) (size : U32) (bytes : List U8) :
    (sizedRecord index size bytes).length = 5 + bytes.length := by
  rw [sizedRecord, List.length_cons, List.length_append, leBytes_length]
  omega

/-- `save_to_submit_buf` of a 64-bit field of the op context, which lies in the kernel. -/
def saveToSubmitBuf (args : List U8) (word : U64) (index : U8) : List U8 :=
  if args.length > argsBufSize - 1 then args
  else if args.length > argsBufSize - (maxElementSize + 1) then args
  else args ++ wordRecord index word

section

variable (mem : Memory) (args : List U8) (ptr : U64)

/-- `save_bytes_to_buf`; `none` if it returns 0.  The size is written before it is masked. -/
def saveBytesToBuf (size : U32) (index : U8) : Option (List U8) :=
  if args.length > argsBufSize - 1 then none
  else if args.length > argsBufSize - 5 then none
  else if args.length > argsBufSize - (maxBytesArrSize + 5) then none
  else if size > 0 then
    let count := if size ≠ 4096 then size &&& 4095 else size
    (readBytes mem ptr count.toNat).map fun bytes => args ++ sizedRecord index size bytes
  else some (args ++ sizedRecord index size [])

def saveStrToBuf (index : U8) : Option (List U8) :=
  if args.length > argsBufSize - 1 then none
  else if args.length > argsBufSize - (maxStringSize + 5) then none
  else (readString mem ptr maxStringSize).map fun bytes =>
    args ++ sizedRecord index (BitVec.ofNat 32 bytes.length) bytes

def saveUtf16ToBuf (index : U8) : Option (List U8) :=
  saveBytesToBuf mem args ptr 512 index

end

def RoomForWord (args : List U8) : Prop := args.length ≤ 31889
deriving Decidable

def RoomForBytes (args : List U8) : Prop := args.length ≤ 27899
deriving Decidable

def RoomForString (args : List U8) : Prop := args.length ≤ 15611
deriving Decidable

variable {mem : Memory} {args : List U8} {ptr value : U64} {size : U32} {index : U8}

lemma RoomForString.bytes (h : RoomForString args) : RoomForBytes args :=
  Nat.le_trans h (by decide)

lemma saveToSubmitBuf_of_room (h : RoomForWord args) :
    saveToSubmitBuf args value index = args ++ wordRecord index value := by
  unfold RoomForWord at h
  rw [saveToSubmitBuf, argsBufSize, maxElementSize, if_neg (by omega), if_neg (by omega)]

lemma saveToSubmitBuf_full (h : ¬ RoomForWord args) : saveToSubmitBuf args value index = args := by
  unfold RoomForWord at h
  rw [saveToSubmitBuf, argsBufSize, maxElementSize]
  split_ifs <;> first | rfl | omega

lemma saveStrToBuf_of_room (h : RoomForString args) : saveStrToBuf mem args ptr index =
    (readString mem ptr maxStringSize).map fun bytes =>
      args ++ sizedRecord index (BitVec.ofNat 32 bytes.length) bytes := by
  unfold RoomForString at h
  rw [saveStrToBuf, argsBufSize, if_neg (by omega), if_neg (by rw [maxStringSize]; omega)]

lemma saveStrToBuf_full (h : ¬ RoomForString args) : saveStrToBuf mem args ptr index = none := by
  unfold RoomForString at h
  rw [saveStrToBuf, argsBufSize, maxStringSize]
  split_ifs <;> first | rfl | omega

lemma saveBytesToBuf_full (h : ¬ RoomForBytes args) :
    saveBytesToBuf mem args ptr size index = none := by
  unfold RoomForBytes at h
  rw [saveBytesToBuf, argsBufSize, maxBytesArrSize]
  split_ifs <;> first | rfl | omega

lemma maskedSize (hsize : size.toNat ≤ maxBytesArrSize) :
    (if size ≠ 4096 then size &&& 4095 else size).toNat = size.toNat := by
  rw [maxBytesArrSize] at hsize
  split_ifs with h
  · have hne : size.toNat ≠ 4096 := fun heq => h (BitVec.eq_of_toNat_eq heq)
    have hmask := Bits.toNat_and_lowMask size (k := 12) (by decide)
    rw [show BitVec.ofNat 32 (2 ^ 12 - 1) = (4095 : U32) from rfl] at hmask
    rw [hmask, Nat.mod_eq_of_lt (by omega)]
  · rfl

lemma saveBytesToBuf_of_room (h : RoomForBytes args) : saveBytesToBuf mem args ptr size index =
    if size > 0 then
      (readBytes mem ptr (if size ≠ 4096 then size &&& 4095 else size).toNat).map fun bytes =>
        args ++ sizedRecord index size bytes
    else some (args ++ sizedRecord index size []) := by
  unfold RoomForBytes at h
  rw [saveBytesToBuf, argsBufSize, maxBytesArrSize, if_neg (by omega), if_neg (by omega),
    if_neg (by omega)]

lemma saveBytesToBuf_eq (hsize : size.toNat ≤ maxBytesArrSize) (h : RoomForBytes args) :
    saveBytesToBuf mem args ptr size index =
      (readBytes mem ptr size.toNat).map fun bytes => args ++ sizedRecord index size bytes := by
  rw [saveBytesToBuf_of_room h, maskedSize hsize]
  split_ifs with hpos
  · rfl
  · obtain rfl : size = 0 := by bv_omega
    rfl

/-- The empty record, for what cannot be read. -/
lemma saveBytesToBuf_zero (h : RoomForBytes args) :
    saveBytesToBuf mem args ptr 0 index = some (args ++ sizedRecord index 0 []) := by
  rw [saveBytesToBuf_eq (by decide) h]
  rfl

lemma saveBytesToBuf_magic (h : RoomForBytes args) :
    saveBytesToBuf mem args ptr strarrMagicLen index =
      some (args ++ sizedRecord index strarrMagicLen []) := by
  rw [saveBytesToBuf_of_room h]
  rfl

end Spz.Bpf
