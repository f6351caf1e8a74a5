import Stackplz.Bpf.Code

/-!
# Argument types and their operations

The operation builders of `user/argtype/op_helper.go`, the types that `PreRegister` and the
configuration register in `user/argtype/argtype_complex.go`, and the program that `GetOpList` of
`user/config/config_point_arg.go` makes of an argument.  A type carries the operations that read
more than the register; formats and flags only change how a number is printed and are left out.
-/

namespace Spz.Bpf

open OpConfig

/-! ## Builders -/

/-- An operation with another value: `NewValue`. -/
def OpConfig.newValue (op : OpConfig) (value : U64) : OpConfig := { op with value := value }

def addReadSaveReg (reg : U64) : OpConfig :=
  { code := .readReg, preCode := .setRegIndex, postCode := .saveReg, value := reg }

def addReadMoveReg (reg : U64) : OpConfig :=
  { code := .readReg, preCode := .setRegIndex, postCode := .moveRegValue, value := reg }

/-- `SaveStruct`. -/
def saveStructOp (size : U64) : OpConfig :=
  { code := .setReadLen, postCode := .saveStruct, value := size }

def buildReadRegBreakCount (reg : U64) : OpConfig :=
  { code := .readReg, preCode := .setRegIndex, postCode := .setBreakCountRegValue, value := reg }

def buildReadPtrBreakCount (offset : U64) : OpConfig :=
  { code := .readPointer, preCode := .addOffset, postCode := .setBreakCountPointerValue,
    value := offset }

def buildReadRegLen (reg : U64) : OpConfig :=
  { code := .readReg, preCode := .setRegIndex, postCode := .setReadLenRegValue, value := reg }

def buildReadPtrLen (offset : U64) : OpConfig :=
  { code := .readPointer, preCode := .addOffset, postCode := .setReadLenPointerValue,
    value := offset }

def buildReadPtrAddr (offset : U64) : OpConfig :=
  { code := .readPointer, preCode := .addOffset, postCode := .movePointerValue, value := offset }

/-- `OPC_SET_READ_LEN.NewValue`. -/
def setReadLenOp (len : U64) : OpConfig := (ofCode .setReadLen).newValue len

/-- `OPC_ADD_OFFSET.NewValue`. -/
def addOffsetOp (offset : U64) : OpConfig := (ofCode .addOffset).newValue offset

/-- `OPC_SUB_OFFSET.NewValue`. -/
def subOffsetOp (offset : U64) : OpConfig := (ofCode .subOffset).newValue offset

/-! ## Structures -/

/-- The structures with a type of their own. -/
inductive StructType
  | stackT
  | timespec
  | siginfo
  | sigaction
  | epollEvent
  | pollfd
  | dirent
  | ittmerspec
  | rusage
  | utsname
  | timeval
  | timezone
  | sysinfo
  | stat
  | statfs
  | sockaddr
deriving DecidableEq, Repr

namespace StructType

/-- The fields on arm64, as widths with repetitions: those of `config_struct.go`, and of the package
`syscall` for what it declares. -/
def fields : StructType → List (ℕ × ℕ)
  | .stackT => [(8, 1), (4, 1), (4, 1)]
  | .timespec => [(8, 2)]
  | .siginfo => [(4, 4), (8, 1)]
  | .sigaction => [(8, 5)]
  | .epollEvent => [(4, 4)]
  | .pollfd => [(4, 1), (2, 2)]
  | .dirent => [(8, 2), (2, 1), (1, 1), (1, 256), (1, 5)]
  | .ittmerspec => [(8, 4)]
  | .rusage => [(8, 18)]
  | .utsname => [(1, 390)]
  | .timeval => [(8, 2)]
  | .timezone => [(4, 2)]
  | .sysinfo => [(8, 10), (2, 2), (1, 4), (8, 2), (4, 1), (1, 4)]
  | .stat => [(8, 2), (4, 4), (8, 3), (4, 2), (8, 7), (4, 2)]
  | .statfs => [(8, 7), (4, 2), (8, 7)]
  | .sockaddr => [(2, 1), (1, 108)]

/-- What `binary.Read` reads: the fields without padding between them. -/
def binarySize (s : StructType) : ℕ := (s.fields.map fun f => f.1 * f.2).sum

/-- The end of a field that is aligned to its width. -/
def fieldEnd (offset : ℕ) (field : ℕ × ℕ) : ℕ :=
  (offset + field.1 - 1) / field.1 * field.1 + field.1 * field.2

/-- `unsafe.Sizeof`: the fields in their places, rounded up to the widest one. -/
def sizeof (s : StructType) : ℕ :=
  let align := (s.fields.map Prod.fst).foldr max 1
  (s.fields.foldl fieldEnd 0 + align - 1) / align * align

/-- The structure that the registered parser reads.  `r_DIRENT` registers `parse_POLLFD`. -/
def parsed : StructType → StructType
  | .dirent => .pollfd
  | s => s

end StructType

/-! ## Types -/

inductive NumKind
  | int
  | uint
  | int8
  | int16
  | int32
  | int64
  | uint8
  | uint16
  | uint32
  | uint64
deriving DecidableEq, Repr

def NumKind.size : NumKind → U32
  | .int => 4
  | .uint => 4
  | .int8 => 1
  | .int16 => 2
  | .int32 => 4
  | .int64 => 8
  | .uint8 => 1
  | .uint16 => 2
  | .uint32 => 4
  | .uint64 => 8

/-- The types an argument can have. -/
inductive ArgType
  | num (kind : NumKind)
  | ptr
  /-- `R_POINTER`. -/
  | pointer (target : ArgType)
  | string
  | string16
  | il2cppString
  | stdString
  | stringArray
  | string16Array
  | struct (s : StructType)
  /-- `r_ARRAY`. -/
  | array (elem : NumKind) (len : U32)
  | buffer
  /-- `R_BUFFER_LEN`. -/
  | bufferLen (len : U32)
  /-- `R_BUFFER_REG`, and `r_BUFFER_X2` for the register 2. -/
  | bufferReg (reg : U64)
  | iovec
  /-- `R_IOVEC_REG`, and `r_IOVEC_X2` for the register 2. -/
  | iovecReg (reg : U64)
  | msghdr
  /-- The base types `struct` and `array`, which have no operations. -/
  | base
deriving DecidableEq, Repr

def maxBufReadSize : U64 := 4096

/-- The operations of `r_IOVEC`: the header of an element, and what it points to. -/
def iovecOps : List OpConfig :=
  [setReadLenOp 16, .ofCode .saveStruct, setReadLenOp maxBufReadSize, buildReadPtrLen 8,
    .ofCode .readPointer, .ofCode .movePointerValue, .ofCode .saveStruct]

/-- The body of the loops over elements. -/
def iovecBody : List OpConfig :=
  .ofCode .setTmpValue :: (iovecOps ++ [.ofCode .moveTmpValue, addOffsetOp 16])

def stringsBody (save : OpCode) : List OpConfig := [.ofCode save, addOffsetOp 8]

namespace ArgType

/-- `p.GetSize() * array_len`, in 32 bits. -/
def arraySize (elem : NumKind) (len : U32) : U32 := elem.size * len

def code : ArgType → List Block
  | .num _ => []
  | .ptr => []
  | .pointer target => .op (saveStructOp 8) :: target.code
  | .string => [.op (.ofCode .saveString)]
  | .string16 => [.op (.ofCode .saveString16)]
  | .il2cppString => [.op (.ofCode .readIl2cppString), .op (.ofCode .saveString16)]
  | .stdString => [.op (.ofCode .readStdString), .op (.ofCode .saveString)]
  | .stringArray =>
    [.op ((ofCode .setBreakCount).newValue 32), .loop (stringsBody .savePtrString)]
  | .string16Array =>
    [.op ((ofCode .setBreakCount).newValue 32), .loop (stringsBody .savePtrString16)]
  | .struct s => [.op (setReadLenOp (BitVec.ofNat 64 s.sizeof)), .op (.ofCode .saveStruct)]
  | .array elem len => [.op (saveStructOp ((arraySize elem len).setWidth 64))]
  | .buffer => [.op (saveStructOp maxBufReadSize)]
  | .bufferLen len => [.op (setReadLenOp (len.setWidth 64)), .op (.ofCode .saveStruct)]
  | .bufferReg reg =>
    [.op (setReadLenOp maxBufReadSize), .op (buildReadRegLen reg), .op (.ofCode .saveStruct)]
  | .iovec => iovecOps.map .op
  | .iovecReg reg => [.op (buildReadRegBreakCount reg), .op (.ofCode .saveReg), .loop iovecBody]
  | .msghdr =>
    [.op (setReadLenOp 56), .op (.ofCode .saveStruct), .op (.ofCode .setTmpValue),
      .op (setReadLenOp maxBufReadSize), .op (buildReadPtrLen 40), .op (buildReadPtrAddr 32),
      .op (.ofCode .saveStruct), .op (.ofCode .moveTmpValue), .op (buildReadPtrBreakCount 24),
      .op (buildReadPtrAddr 16), .loop iovecBody]
  | .base => []

/-- `GetOpList` of a type. -/
def ops (type : ArgType) : List OpConfig := codeOps type.code

lemma wellPlaced_ops {ops : List OpConfig} (h : ∀ op ∈ ops, op.OutsideLoop) :
    ∀ block ∈ ops.map Block.op, block.WellPlaced := by
  intro block hblock
  obtain ⟨op, hop, rfl⟩ := List.mem_map.mp hblock
  exact h op hop

lemma outsideLoop_newValue {op : OpConfig} (h : op.OutsideLoop) (value : U64) :
    (op.newValue value).OutsideLoop := h

/-- In the operations of a type, loops begin and end where they should. -/
lemma code_wellPlaced (type : ArgType) : ∀ block ∈ type.code, block.WellPlaced := by
  induction type with
  | pointer target ih =>
    intro block hblock
    rcases List.mem_cons.mp hblock with rfl | hmem
    · exact show OpConfig.OutsideLoop _ by decide
    · exact ih block hmem
  | struct s => cases s <;> decide
  | num kind => simp [code]
  | array elem len =>
    simp only [code, List.forall_mem_cons, Block.WellPlaced]
    exact ⟨@outsideLoop_newValue (saveStructOp 0) (by decide) _, by simp⟩
  | bufferLen len =>
    simp only [code, List.forall_mem_cons, Block.WellPlaced]
    exact ⟨@outsideLoop_newValue (setReadLenOp 0) (by decide) _, by decide, by simp⟩
  | bufferReg reg =>
    simp only [code, List.forall_mem_cons, Block.WellPlaced]
    exact ⟨by decide, @outsideLoop_newValue (buildReadRegLen 0) (by decide) _, by decide, by simp⟩
  | iovecReg reg =>
    simp only [code, List.forall_mem_cons, Block.WellPlaced]
    exact ⟨@outsideLoop_newValue (buildReadRegBreakCount 0) (by decide) _, by decide,
      by decide, by simp⟩
  | _ => decide

end ArgType

/-! ## Arguments of a point -/

/-- `EBPF_PROG_NONE` to `EBPF_UPROBE_ENTER`. -/
inductive PointType
  | progNone
  | sysEnter
  | sysExit
  | sysAll
  | uprobeEnter
deriving DecidableEq, Repr

/-- `PointArg`, without its name. -/
structure PointArg where
  regIndex : U32
  type : ArgType
  extraOps : List OpConfig := []
  filters : List U32 := []
  pointType : PointType
  groupType : PointType := .progNone
deriving Repr

namespace PointArg

variable (arg : PointArg)

/-- `REG_ARM64_MAX`. -/
def regMax : U32 := 33

def readMore : Bool := arg.pointType = .sysAll ∨ arg.pointType = arg.groupType

/-- `parse_more` of `Parse`, for the constant of the event. -/
def parseMore (event : PointType) : Bool := arg.pointType = .sysAll ∨ arg.pointType = event

/-- `IsBuffer`: a type that was made from `buffer`. -/
def isBuffer : Bool :=
  match arg.type with
  | .bufferLen _ => true
  | .bufferReg _ => true
  | _ => false

/-- `TypeIndex == STRING || TypeIndex == STD_STRING`. -/
def isText : Bool := arg.type = .string ∨ arg.type = .stdString

/-- The operations that make the address. -/
def addressOps : List OpConfig :=
  if arg.extraOps.length > 0 then arg.extraOps
  else [addReadSaveReg (arg.regIndex.setWidth 64), .ofCode .moveRegValue]

/-- The filters of an argument as operations. -/
def filterOps (code : OpCode) : List OpConfig :=
  arg.filters.map fun v => (ofCode code).newValue (v.setWidth 64)

def valueFilterOps : List OpConfig :=
  if ¬ arg.isText ∧ ¬ arg.isBuffer then arg.filterOps .filterValue else []

/-- The filters on what has been read. -/
def textFilterOps : List OpConfig :=
  if arg.isText then arg.filterOps .filterString
  else if arg.isBuffer then arg.filterOps .filterBuffer
  else []

/-- `GetOpList`, with its loops. -/
def code : List Block :=
  if arg.regIndex = regMax then []
  else arg.addressOps.map .op ++ arg.valueFilterOps.map .op ++
    if arg.readMore then arg.type.code ++ arg.textFilterOps.map .op else []

def getOpList : List OpConfig := codeOps arg.code

end PointArg

end Spz.Bpf
