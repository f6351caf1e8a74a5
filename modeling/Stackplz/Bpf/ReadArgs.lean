import Stackplz.Bpf.Buffer
import Stackplz.Lib.Budget

/-!
# The interpreter of op programs

`read_args` of `src/utils.h`.  A point has a list of keys; each names an operation in the map
`op_list` with a code, a value and perhaps a fused code before or after it.  One iteration of the
loop executes either the post code that is pending or the next operation of the list, and the loop
has `MAX_OP_COUNT` iterations.  What it works on, `op_ctx_t`, is per CPU and stays from event to
event.
-/

namespace Spz.Bpf

/-! ## Operations -/

/-- The codes of `op_helper.go`; `unknown` is any value the switch of `read_args` does not name,
such as the 0 of fresh memory. -/
inductive OpCode
  | unknown
  | skip
  | resetCtx
  | setRegIndex
  | setReadLen
  | setReadLenRegValue
  | setReadLenPointerValue
  | setReadCount
  | addOffset
  | subOffset
  | moveRegValue
  | movePointerValue
  | moveTmpValue
  | setTmpValue
  | forBreak
  | setBreakCount
  | setBreakCountRegValue
  | setBreakCountPointerValue
  | saveAddr
  | addReg
  | subReg
  | readReg
  | saveReg
  | readPointer
  | savePointer
  | saveStruct
  | filterValue
  | filterBuffer
  | filterString
  | saveString
  | savePtrString
  | readStdString
  | readIl2cppString
  | saveString16
  | savePtrString16
deriving DecidableEq, Repr

/-- `op_config_t`. -/
structure OpConfig where
  code : OpCode
  preCode : OpCode := .skip
  postCode : OpCode := .skip
  value : U64 := 0
deriving DecidableEq, Repr

/-- `enum arg_filter_e`. -/
inductive FilterType
  | unknown
  | equal
  | greater
  | less
  | whitelist
  | blacklist
  | replace
deriving DecidableEq, Repr

/-- `arg_filter_t`. -/
structure ArgFilter where
  filterType : FilterType
  strVal : List U8
  strLen : U32
  numVal : U64
deriving DecidableEq, Repr

/-- `op_ctx_t`. -/
structure OpCtx where
  saveIndex : U8 := 0
  regIndex : U8 := 0
  loopCount : U8 := 0
  breakCount : U8 := 0
  applyFilter : Bool := false
  skipFlag : Bool := false
  matchWhitelist : Bool := false
  matchBlacklist : Bool := false
  loopIndex : ℕ := 0
  opKeyIndex : ℕ := 0
  opCode : OpCode := .unknown
  postCode : OpCode := .unknown
  strLen : U32 := 0
  readLen : U32 := 0
  readAddr : U64 := 0
  regValue : U64 := 0
  pointerValue : U64 := 0
  tmpValue : U64 := 0
  reg0 : U64 := 0
deriving DecidableEq, Repr

/-- `point_args_t`, with `MAX_OP_COUNT` of the program that reads it. -/
structure PointArgs where
  maxOp : ℕ
  opKeyList : List U32

/-- What `read_args` reads and does not write.  `regs` are the fields of `ctx_regs_t` as an array:
the 31 general registers, `sp` and `pc`. -/
structure Machine where
  opList : U32 → Option OpConfig
  argFilter : U64 → Option ArgFilter
  regs : ℕ → U64
  memory : Memory

/-- The variables of `read_args`: the operation in hand, the context and the argument buffer. -/
structure Scan where
  op : Option OpConfig
  ctx : OpCtx
  args : List U8

/-- Why `read_args` stops: `OP_SKIP`, a black list, or a `return` in the middle. -/
inductive Stop
  | skip
  | blacklisted
  | keysOut
  | noOp
  | badRegister
  | noFilter
deriving DecidableEq, Repr

namespace OpCtx

/-- `MAX_LOOP_COUNT`, or the value if that is smaller. -/
def clampBreakCount (value : U64) : U8 := if (32 : U64) > value then value.setWidth 8 else 32

/-- The length so far, or the value if that is smaller. -/
def clampReadLen (len : U32) (value : U64) : U32 :=
  if len.setWidth 64 > value then value.setWidth 32 else len

end OpCtx

/-- `strcmp_by_map`.  The bytes read again are looked up in a map that holds the filter's string
under its 256 bytes for the time of the call. -/
def strcmpByMap (mem : Memory) (ctx : OpCtx) (filter : ArgFilter) : Bool :=
  if ctx.strLen < filter.strLen then false
  else
    let count := min filter.strLen.toNat 256
    let read := (readBytes mem ctx.readAddr count).getD (List.replicate count 0)
    read ++ List.replicate (256 - count) 0 = filter.strVal

namespace OpCtx

/-- `OP_FILTER_VALUE`. -/
def filterValue (ctx : OpCtx) (filter : ArgFilter) : OpCtx :=
  match filter.filterType with
  | .equal => if filter.numVal ≠ ctx.regValue then { ctx with matchBlacklist := true } else ctx
  | .greater => if filter.numVal ≤ ctx.regValue then { ctx with matchBlacklist := true } else ctx
  | .less => if filter.numVal ≥ ctx.regValue then { ctx with matchBlacklist := true } else ctx
  | _ => ctx

/-- `OP_FILTER_BUFFER`. -/
def filterBuffer (mem : Memory) (ctx : OpCtx) (filter : ArgFilter) : OpCtx :=
  if filter.filterType = .whitelist then
    let word := probeReadWord mem (untagged ctx.readAddr)
    { ctx with
      applyFilter := true
      matchWhitelist := ctx.matchWhitelist ||
        filter.numVal == word &&& (BitVec.allOnes 64 >>> (filter.strLen.toNat % 64)) }
  else ctx

/-- `OP_FILTER_STRING`. -/
def filterString (mem : Memory) (ctx : OpCtx) (filter : ArgFilter) : OpCtx :=
  let isMatch := strcmpByMap mem ctx filter
  if filter.filterType = .whitelist then
    { ctx with applyFilter := true, matchWhitelist := ctx.matchWhitelist || isMatch }
  else if filter.filterType = .blacklist ∧ isMatch then { ctx with matchBlacklist := true }
  else ctx

/-- `OP_FOR_BREAK`, at either end of a loop. -/
def forBreak (ctx : OpCtx) : OpCtx :=
  let ctx := if ctx.loopCount = 0 then { ctx with loopIndex := ctx.opKeyIndex } else ctx
  if ctx.loopCount ≥ ctx.breakCount then
    { ctx with loopCount := 0, breakCount := 0, loopIndex := 0 }
  else { ctx with loopCount := ctx.loopCount + 1, opKeyIndex := ctx.loopIndex }

/-- `OP_READ_STD_STRING`: the text of a `std::string`, inside it or where its pointer says. -/
def stdStringAddr (mem : Memory) (addr : U64) : U64 :=
  let ptr := untagged addr
  if probeReadByte mem ptr &&& 1 = 0 then ptr + 1 else probeReadWord mem (ptr + 16)

end OpCtx

namespace Scan

variable (s : Scan)

/-- A record that could not be saved is replaced by an empty one, if there is room for that. -/
def saved (mem : Memory) (ctx : OpCtx) (result : Option (List U8)) : Scan :=
  { s with
    ctx := { ctx with saveIndex := ctx.saveIndex + 1 }
    args := result.getD ((saveBytesToBuf mem s.args 0 0 ctx.saveIndex).getD s.args) }

def savedWord (word : U64) : Scan :=
  { s with
    ctx := { s.ctx with saveIndex := s.ctx.saveIndex + 1 }
    args := saveToSubmitBuf s.args word s.ctx.saveIndex }

/-- `OP_SAVE_STRUCT`. -/
def saveStruct (mem : Memory) (op : OpConfig) : Scan :=
  let addr := untagged s.ctx.readAddr
  let len := if op.preCode = .setReadCount then s.ctx.readLen * op.value.setWidth 32
    else s.ctx.readLen
  let len := if len > 4096 then 4096 else len
  s.saved mem { s.ctx with readAddr := addr, readLen := len }
    (saveBytesToBuf mem s.args addr len s.ctx.saveIndex)

/-- `OP_SAVE_STRING` and `OP_SAVE_STRING16`: the length is noted if the string was saved. -/
def saveText (mem : Memory) (save : U64 → Option (List U8)) : Scan :=
  let addr := untagged s.ctx.readAddr
  let strLen := match save addr with
    | none => s.ctx.strLen
    | some args => BitVec.ofNat 32 (args.length - (s.args.length + 5))
  s.saved mem { s.ctx with readAddr := addr, strLen := strLen } (save addr)

/-- `OP_SAVE_PTR_STRING` and `OP_SAVE_PTR_STRING16`: a pointer and the string it points to.  If the
string cannot be saved, a record with the magic length takes its place and the loop ends. -/
def savePtrText (mem : Memory) (save : List U8 → U64 → U8 → Option (List U8)) : Scan :=
  let ptr := probeReadWord mem (untagged s.ctx.readAddr)
  let s := s.savedWord ptr
  match save s.args (untagged ptr) s.ctx.saveIndex with
  | some args => { s with ctx := { s.ctx with saveIndex := s.ctx.saveIndex + 1 }, args := args }
  | none =>
    { s with
      ctx := { s.ctx with loopCount := s.ctx.breakCount, saveIndex := s.ctx.saveIndex + 1 }
      args := (saveBytesToBuf mem s.args 0 strarrMagicLen s.ctx.saveIndex).getD s.args }

/-- Taking up the operation with the given key. -/
def fetched (op : OpConfig) : Scan :=
  { s with
    op := some op
    ctx := { s.ctx with
      opCode := op.code, postCode := op.postCode, opKeyIndex := s.ctx.opKeyIndex + 1 } }

/-- Taking up the pending post code. -/
def posted : Scan :=
  { s with ctx := { s.ctx with opCode := s.ctx.postCode, postCode := .skip } }

end Scan

/-- What leaves the loop: the reason and the variables at that moment. -/
abbrev Halt := Stop × Scan

namespace Machine

variable (m : Machine)

section

variable (op : OpConfig)

/-- `OP_READ_REG`. -/
def readReg (s : Scan) : Except Halt Scan :=
  let index := if op.preCode = .setRegIndex then op.value.setWidth 8 else s.ctx.regIndex
  let s := { s with ctx := { s.ctx with regIndex := index } }
  if index.toNat ≥ 33 then .error (.badRegister, s)
  else .ok { s with
    ctx := { s.ctx with regValue := if index = 0 then s.ctx.reg0 else m.regs index.toNat } }

/-- The lookup of a filter, before the three filter codes. -/
def filtered (s : Scan) (apply : OpCtx → ArgFilter → OpCtx) : Except Halt Scan :=
  match m.argFilter op.value with
  | none => .error (.noFilter, s)
  | some filter => .ok { s with ctx := apply s.ctx filter }

def perform (code : OpCode) (s : Scan) : Except Halt Scan :=
  let set (f : OpCtx → OpCtx) : Except Halt Scan := .ok { s with ctx := f s.ctx }
  match code with
  | .unknown => .ok s
  | .skip => .ok s
  | .resetCtx => set fun c =>
    { c with
      breakCount := 0, regIndex := 0, readAddr := 0, readLen := 0, regValue := 0,
      pointerValue := 0 }
  | .setRegIndex => set fun c => { c with regIndex := op.value.setWidth 8 }
  | .setReadLen => set fun c => { c with readLen := op.value.setWidth 32 }
  | .setReadLenRegValue =>
    set fun c => { c with readLen := OpCtx.clampReadLen c.readLen c.regValue }
  | .setReadLenPointerValue =>
    set fun c => { c with readLen := OpCtx.clampReadLen c.readLen c.pointerValue }
  | .setReadCount => set fun c => { c with readLen := c.readLen * op.value.setWidth 32 }
  | .addOffset => set fun c => { c with readAddr := c.readAddr + op.value }
  | .subOffset => set fun c => { c with readAddr := c.readAddr - op.value }
  | .moveRegValue => set fun c => { c with readAddr := c.regValue }
  | .movePointerValue => set fun c => { c with readAddr := c.pointerValue }
  | .moveTmpValue => set fun c => { c with readAddr := c.tmpValue }
  | .setTmpValue => set fun c => { c with tmpValue := c.readAddr }
  | .forBreak => set OpCtx.forBreak
  | .setBreakCount => set fun c => { c with breakCount := OpCtx.clampBreakCount op.value }
  | .setBreakCountRegValue => set fun c => { c with breakCount := OpCtx.clampBreakCount c.regValue }
  | .setBreakCountPointerValue =>
    set fun c => { c with breakCount := OpCtx.clampBreakCount c.pointerValue }
  | .saveAddr => .ok (s.savedWord s.ctx.readAddr)
  | .addReg => set fun c => { c with readAddr := c.readAddr + c.regValue }
  | .subReg => set fun c => { c with readAddr := c.readAddr - c.regValue }
  | .readReg => m.readReg op s
  | .saveReg => .ok (s.savedWord s.ctx.regValue)
  | .readPointer => set fun c =>
    { c with
      pointerValue := probeReadWord m.memory
        (match op.preCode with
          | .addOffset => c.readAddr + op.value
          | .subOffset => c.readAddr - op.value
          | _ => c.readAddr) }
  | .savePointer => .ok (s.savedWord s.ctx.pointerValue)
  | .saveStruct => .ok (s.saveStruct m.memory op)
  | .filterValue => m.filtered op s OpCtx.filterValue
  | .filterBuffer => m.filtered op s (OpCtx.filterBuffer m.memory)
  | .filterString => m.filtered op s (OpCtx.filterString m.memory)
  | .saveString =>
    .ok (s.saveText m.memory fun addr => saveStrToBuf m.memory s.args addr s.ctx.saveIndex)
  | .savePtrString => .ok (s.savePtrText m.memory (saveStrToBuf m.memory))
  | .saveString16 =>
    .ok (s.saveText m.memory fun addr => saveUtf16ToBuf m.memory s.args addr s.ctx.saveIndex)
  | .savePtrString16 => .ok (s.savePtrText m.memory (saveUtf16ToBuf m.memory))
  | .readStdString => set fun c => { c with readAddr := OpCtx.stdStringAddr m.memory c.readAddr }
  | .readIl2cppString => set fun c => { c with readAddr := c.readAddr + 0x14 }

/-- The body of the loop once the code is chosen. -/
def execute (code : OpCode) (s : Scan) : Except Halt Scan :=
  if code = .skip then .error (.skip, s)
  else do
    let s ← m.perform op code s
    if s.ctx.matchBlacklist then .error (.blacklisted, s) else .ok s

end

def step (p : PointArgs) (s : Scan) : Except Halt Scan :=
  match s.op with
  | some op =>
    if s.ctx.postCode ≠ .skip then m.execute op s.ctx.postCode s.posted else next
  | none => next
where
  next : Except Halt Scan :=
    if s.ctx.opKeyIndex ≥ p.maxOp then .error (.keysOut, s)
    else
      match m.opList (p.opKeyList.getD s.ctx.opKeyIndex 0) with
      | none => .error (.noOp, { s with op := none })
      | some op => m.execute op op.code (s.fetched op)

def loop (p : PointArgs) (n : ℕ) (s : Scan) : Except Halt Scan := Budget.run (m.step p) n s

end Machine

/-! ## A call -/

/-- Why a call ended; `budget` is a loop whose iterations are used up. -/
inductive Ending
  | stopped (stop : Stop)
  | budget
deriving DecidableEq, Repr

/-- The end of `read_args`, behind the loop. -/
def OpCtx.judged (ctx : OpCtx) : OpCtx :=
  if ctx.matchBlacklist then { ctx with skipFlag := true }
  else if ctx.applyFilter ∧ ¬ ctx.matchWhitelist then { ctx with skipFlag := true }
  else ctx

/-- What a call leaves behind. -/
structure Result where
  ending : Ending
  ctx : OpCtx
  args : List U8

/-- A `return` in the middle of the loop leaves the flags as they are. -/
def Result.of : Except Halt Scan → Result
  | .ok s => ⟨.budget, s.ctx.judged, s.args⟩
  | .error (.skip, s) => ⟨.stopped .skip, s.ctx.judged, s.args⟩
  | .error (.blacklisted, s) => ⟨.stopped .blacklisted, s.ctx.judged, s.args⟩
  | .error (stop, s) => ⟨.stopped stop, s.ctx, s.args⟩

def Machine.readArgs (m : Machine) (p : PointArgs) (ctx : OpCtx) (args : List U8) : Result :=
  Result.of (m.loop p p.maxOp { op := m.opList 0, ctx := ctx, args := args })

/-- What the callers do with the context of the CPU before a call: `sizeof(op_ctx)` is the size of a
pointer, so that `memset` clears the first eight bytes of the context only. -/
def OpCtx.prepared (ctx : OpCtx) (reg0 : U64) (saveIndex : U8) : OpCtx :=
  { ctx with
    saveIndex := saveIndex, regIndex := 0, loopCount := 0, breakCount := 0, applyFilter := false,
    skipFlag := false, matchWhitelist := false, matchBlacklist := false, opKeyIndex := 0,
    reg0 := reg0 }

end Spz.Bpf
