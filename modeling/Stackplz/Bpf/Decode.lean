import Stackplz.Lib.Decoder
import Stackplz.Bpf.ArgType

/-!
# Decoding arguments

The parsers of `user/argtype/argtype_base.go` and `user/argtype/argtype_complex.go`, as decoders of
the bytes of an event.  A `binary.Read` that finds too few bytes panics, and so do the checks of
sizes; both are failures here.  What a parser has read is kept as `Parsed`; the texts that are made
of it at the end are left out.
-/

namespace Spz.Bpf

open Decoder

open Decoder (Consumes)

/-! ## What is recovered -/

/-- An element of an `iovec`: `Arg_Iovec_Fix_t`. -/
structure Iovec where
  len : U32
  base : U64
  bufLen : U64
  payload : List U8
deriving DecidableEq, Repr

/-- What a parser has read, before it is formatted. -/
inductive Parsed
  | address (ptr : U64)
  | number (value : ℤ)
  | pointer (ptr : U64) (value : Parsed)
  | text (ptr : U64) (payload : List U8)
  | struct (ptr : U64) (bytes : List U8)
  | array (ptr : U64) (elems : List ℤ)
  | strings (ptr : U64) (items : List (U64 × List U8))
  | iovec (ptr : U64) (elems : List Iovec)
  | msghdr (ptr : U64) (header control : List U8) (elems : List Iovec)
deriving DecidableEq, Repr

/-- `value_fix`: the part of a register that the type shows. -/
def NumKind.value : NumKind → U64 → ℤ
  | .int, v => (v.setWidth 32).toInt
  | .uint, v => (v.setWidth 32).toNat
  | .int8, v => (v.setWidth 8).toInt
  | .int16, v => (v.setWidth 16).toInt
  | .int32, v => (v.setWidth 32).toInt
  | .int64, v => v.toInt
  | .uint8, v => (v.setWidth 8).toNat
  | .uint16, v => (v.setWidth 16).toNat
  | .uint32, v => (v.setWidth 32).toNat
  | .uint64, v => v.toNat

/-- The element types that `parse_ARRAY` has a case for. -/
def NumKind.InArray : NumKind → Prop
  | .int => True
  | .uint => True
  | .int32 => True
  | .uint64 => True
  | _ => False

instance : (kind : NumKind) → Decidable kind.InArray := fun kind => by
  cases kind <;> unfold NumKind.InArray <;> infer_instance

/-! ## Parsers -/

/-- `Arg_reg`; its index is not used. -/
def argReg : Decoder U8 U64 := do
  let bytes ← take 9
  pure (leWord 64 (bytes.drop 1))

/-- `Arg_str` and `Arg_struct`; the index is not used. -/
def argStr : Decoder U8 U32 := do
  let bytes ← take 5
  pure (leWord 32 (bytes.drop 1))

/-- `panic`. -/
def panics {α : Type} : Decoder U8 α := fun _ => none

/-- `ParseArg` of buffers and `parse_STRING`. -/
def parseText (ptr : U64) : Decoder U8 Parsed := do
  let len ← argStr
  let payload ← take len.toNat
  pure (.text ptr payload)

/-- `GetStructLen`. -/
def structLen (size : U32) : Decoder U8 U32 := do
  let len ← argStr
  if len > 0 ∧ len ≠ size then panics else pure len

/-- The parsers of structures, with a size to check and a structure to read. -/
def parseStruct (size : U32) (count : ℕ) (ptr : U64) : Decoder U8 Parsed := do
  let len ← structLen size
  if len = 0 then pure (.address ptr)
  else do
    let bytes ← take count
    pure (.struct ptr bytes)

def arrayElems (elem : NumKind) (len : ℕ) (bytes : List U8) : List ℤ :=
  (List.range len).map fun i =>
    elem.value (leWord 64 ((bytes.drop (i * elem.size.toNat)).take elem.size.toNat))

def parseArray (elem : NumKind) (len : U32) (ptr : U64) : Decoder U8 Parsed := do
  let structLen ← structLen (ArgType.arraySize elem len)
  if structLen = 0 then pure (.array ptr [])
  else if elem.InArray then do
    let bytes ← take (elem.size.toNat * len.toNat)
    pure (.array ptr (arrayElems elem len.toNat bytes))
  else panics

/-- The loop of `parse_STRING_ARRAY`. -/
def parseStrings : ℕ → Decoder U8 (List (U64 × List U8))
  | 0 => pure []
  | n + 1 => do
    let addr ← argReg
    let len ← argStr
    if len = strarrMagicLen then pure []
    else do
      let payload ← take len.toNat
      if addr = 0 then pure []
      else do
        let rest ← parseStrings n
        pure ((addr, payload) :: rest)

/-- `iov_read_count`: `MAX_IOV_COUNT`, or the count as an `int` if that is smaller. -/
def iovReadCount (count : U64) : ℕ := if count.toInt < 6 then count.toInt.toNat else 6

/-- The body of the loops of `parse_IOVEC` and `parse_MSGHDR`. -/
def parseElement : Decoder U8 Iovec := do
  let head ← take 21
  let len ← argStr
  let payload ← take len.toNat
  pure ⟨leWord 32 ((head.drop 1).take 4), leWord 64 ((head.drop 5).take 8),
    leWord 64 (head.drop 13), payload⟩

def parseIovec (ptr : U64) : Decoder U8 Parsed := do
  let count ← argReg
  let elems ← parseElement.times (iovReadCount count)
  pure (.iovec ptr elems)

/-- `Iovlen` of an `Arg_Msghdr`, behind the index and the length of the record. -/
def iovlen (header : List U8) : U64 := leWord 64 ((header.drop 29).take 8)

def parseMsghdr (ptr : U64) : Decoder U8 Parsed := do
  let header ← take 61
  let len ← argStr
  let control ← take len.toNat
  let elems ← parseElement.times (iovReadCount (iovlen header))
  pure (.msghdr ptr header control elems)

/-- The value behind a pointer, if its eight bytes were saved. -/
def pointedValue (len : U32) : Decoder U8 U64 :=
  if len = 8 then do
    let bytes ← take 8
    pure (leWord 64 bytes)
  else pure 0

/-- `Parse` of a type. -/
def ArgType.parse : ArgType → Bool → U64 → Decoder U8 Parsed
  | .num kind, _, addr => pure (.number (kind.value addr))
  | .ptr, _, addr => pure (.address addr)
  | _, false, addr => pure (.address addr)
  | .pointer target, true, addr => do
    let len ← argStr
    let value ← pointedValue len
    let parsed ← target.parse true value
    pure (.pointer addr parsed)
  | .string, true, addr => parseText addr
  | .string16, true, addr => parseText addr
  | .il2cppString, true, addr => parseText addr
  | .stdString, true, addr => parseText addr
  | .buffer, true, addr => parseText addr
  | .bufferLen _, true, addr => parseText addr
  | .bufferReg _, true, addr => parseText addr
  | .stringArray, true, addr => do
    let items ← parseStrings 32
    pure (.strings addr items)
  -- The parser of a single string is registered for a structure without a size.
  | .string16Array, true, addr => parseStruct 0 0 addr
  | .struct s, true, addr => parseStruct (BitVec.ofNat 32 s.sizeof) s.parsed.binarySize addr
  | .array elem len, true, addr => parseArray elem len addr
  | .iovec, true, addr => parseIovec addr
  | .iovecReg _, true, addr => parseIovec addr
  | .msghdr, true, addr => parseMsghdr addr
  | .base, true, _ => panics

/-- An argument in the loop of `ParseContext`, `ParseEnterPoint` and `ParseExitPoint`, with the
constant of the event. -/
def PointArg.parse (arg : PointArg) (event : PointType) : Decoder U8 (U64 × Parsed) := do
  let ptr ← argReg
  let parsed ← arg.type.parse (arg.parseMore event) ptr
  pure (ptr, parsed)

def parseArgs (event : PointType) : List PointArg → Decoder U8 (List (U64 × Parsed))
  | [] => pure []
  | arg :: args => do
    let first ← arg.parse event
    let rest ← parseArgs event args
    pure (first :: rest)

/-! ## Records -/

/-- A sized record with the size of its bytes. -/
def bytesRecord (index : U8) (bytes : List U8) : List U8 :=
  sizedRecord index (BitVec.ofNat 32 bytes.length) bytes

variable {index : U8} {word ptr : U64} {size : U32} {bytes : List U8} {α : Type} {a : α}
  {f : U32 → Decoder U8 α}

lemma consumes_argReg : Consumes argReg (wordRecord index word) word :=
  (consumes_take_of_length (wordRecord_length index word)).bind_nil
    (consumes_pure_of_eq (leWord_leBytes (by norm_num) word))

lemma consumes_argStr : Consumes argStr (index :: leBytes 4 size) size := by
  have hlength : (index :: leBytes 4 size).length = 5 := by rw [List.length_cons, leBytes_length]
  exact (consumes_take_of_length hlength).bind_nil
    (consumes_pure_of_eq (leWord_leBytes (by norm_num) size))

lemma consumes_sized (h : Consumes (f size) bytes a) :
    Consumes (argStr >>= f) (sizedRecord index size bytes) a :=
  consumes_argStr.bind h

lemma toNat_length (h : bytes.length < 2 ^ 32) :
    (BitVec.ofNat 32 bytes.length : U32).toNat = bytes.length := by
  rw [BitVec.toNat_ofNat, Nat.mod_eq_of_lt h]

lemma consumes_parseText (h : bytes.length < 2 ^ 32) :
    Consumes (parseText ptr) (bytesRecord index bytes) (.text ptr bytes) := by
  refine consumes_sized ?_
  exact (consumes_take_of_length (toNat_length h).symm).bind_nil (consumes_pure _)

end Spz.Bpf
