import Stackplz.Bpf.ReadOp

/-!
# Configuration files of uprobe points

`GetPointArg` of `user/config/config_file.go` and `Parse_FileConfig` of
`user/config/config_module.go`. An argument says twice whether there is more than its register: to
`GetOpList`, which compares its `PointType` with its `GroupType`, and to the decoder of the event,
which compares it with `EBPF_UPROBE_ENTER`.  `more_agrees_iff` says for which parameters of a file
the two are the same.
-/

namespace Spz.Bpf

open List
open Option hiding or_assoc

/-- `ParamConfig`, without the name that is only printed and `more` that nothing reads. -/
structure ParamConfig where
  type : List U8
  format : List U8 := []
  size : List U8 := []
  filter : List (List U8) := []
  reg : List U8 := []
  readOp : List U8 := []

structure PointConfig where
  name : List U8
  signal : List U8 := []
  params : List ParamConfig

/-- What the registries answer while a parameter is parsed; `none` is a panic.  They grow with every
parameter, and `GetArgTypeByName` goes through a map in any order, so the answers are taken as
given. -/
structure Registries where
  getArgTypeByName : List U8 → Option ArgType
  addFilter : List U8 → Option U32

/-- `UprobeArgs`, as far as the file decides it. -/
structure UprobeArgs where
  index : U32
  name : List U8
  symbol : List U8
  offset : U64
  killSignal : U32
  pointArgs : List PointArg

/-! ## Types that are numbers, or made from `array` -/

namespace ArgType

/-- `(new_p).(IArgTypeNum)`. -/
def isNum : ArgType → Bool
  | .num _ => true
  | .ptr => true
  | .pointer _ => true
  | _ => false

/-- `GetParentIndex() == ARRAY`. -/
def isArray : ArgType → Bool
  | .array _ _ => true
  | _ => false

def rBufferLen (length : U32) : Option ArgType :=
  if (length.setWidth 64 : U64) > maxBufReadSize then none else some (.bufferLen length)

end ArgType

/-! ## Parameters -/

namespace ParamConfig

variable (registries : Registries) (param : ParamConfig)

/-- `strings.HasPrefix(type_name, "*")`. -/
def toPtr : Bool := param.type.head? = some 0x2a

def typeName : List U8 := if param.toPtr then param.type.tail else param.type

/-- The names that come with a size of the array. -/
def arrayNames : List (List U8 × NumKind) :=
  [(ascii "int_arr", .int), (ascii "uint_arr", .uint), (ascii "ptr_arr", .uint64)]

def textNames : List (List U8) :=
  [ascii "str", ascii "std", ascii "str16", ascii "il2cpp_string"]

/-- The formats that `SetFlagsFormat` knows. -/
def flagFormats : List (List U8) :=
  [ascii "inotify_flags", ascii "access_flags", ascii "mmap_flags", ascii "mremap_flags",
    ascii "file_flags", ascii "prot_flags", ascii "fcntl_flags", ascii "statx_flags",
    ascii "unlink_flags", ascii "socket_flags", ascii "perm_flags", ascii "msg_flags"]

/-- The type of `buf`: a length, or a register that holds it. -/
def bufType : Option ArgType :=
  if param.size = [] then ArgType.rBufferLen 256
  else match Client.parseUintAny 32 param.size with
    | some size => ArgType.rBufferLen (BitVec.ofNat 32 size)
    | none => (getRegIndex param.size).map fun reg => .bufferReg (reg.setWidth 64)

def arrayType (elem : NumKind) : Option ArgType :=
  (Client.parseUintAny 32 param.size).map fun size => .array elem (BitVec.ofNat 32 size)

/-- The switch on `type_name`: the type, and the group that the argument is put in. -/
def setType : Option (ArgType × PointType) :=
  if param.typeName = ascii "buf" then param.bufType.map (·, .uprobeEnter)
  else if param.typeName = ascii "iovec" then
    (getRegIndex param.size).map fun reg => (.iovecReg (reg.setWidth 64), .uprobeEnter)
  else match arrayNames.lookup param.typeName with
    | some elem => (param.arrayType elem).map (·, .uprobeEnter)
    | none =>
      if param.typeName ∈ textNames then
        (registries.getArgTypeByName param.typeName).map (·, .uprobeEnter)
      else (registries.getArgTypeByName param.typeName).map (·, .progNone)

/-- `ToPointerType`, where the type begins with a star. -/
def toPointerType (typed : ArgType × PointType) : ArgType × PointType :=
  if param.toPtr then (.pointer typed.1, .uprobeEnter) else typed

/-- `SetHexFormat` and `SetFlagsFormat` copy the type, and its operations with it; what has no
number to print panics. -/
def acceptsFormat (type : ArgType) : Bool :=
  if param.format = ascii "hex" ∨ param.format = ascii "hexdump" then type.isArray || type.isNum
  else if param.format ∈ flagFormats then type.isNum
  else param.format = []

/-- The register that the argument is read from, if no `read_op` says otherwise. -/
def regIndex (argIndex : U32) : Option U32 :=
  if param.reg = [] then some argIndex else getRegIndex param.reg

/-- The operations of `read_op`. -/
def extraOpList : Option (List OpConfig) :=
  if param.readOp = [] then some [] else GetPointArg.compileReadOp param.readOp

def getPointArg (argIndex : U32) (pointType : PointType) : Option PointArg := do
  let regIndex ← param.regIndex argIndex
  guard (pointType ≠ .progNone)
  let typed ← param.setType registries
  let (type, groupType) := param.toPointerType typed
  guard (param.acceptsFormat type)
  let filters ← param.filter.mapM registries.addFilter
  let extraOps ← param.extraOpList
  some { regIndex, type, extraOps, filters, pointType, groupType }

end ParamConfig

/-! ## Points -/

/-- The table of `ParseSignal`, on arm64. -/
def signals : List (List U8 × U32) :=
  [(ascii "SIGABRT", 6), (ascii "SIGALRM", 14), (ascii "SIGBUS", 7), (ascii "SIGCHLD", 17),
    (ascii "SIGCLD", 17), (ascii "SIGCONT", 18), (ascii "SIGFPE", 8), (ascii "SIGHUP", 1),
    (ascii "SIGILL", 4), (ascii "SIGINT", 2), (ascii "SIGIO", 29), (ascii "SIGIOT", 6),
    (ascii "SIGKILL", 9), (ascii "SIGPIPE", 13), (ascii "SIGPOLL", 29), (ascii "SIGPROF", 27),
    (ascii "SIGPWR", 30), (ascii "SIGQUIT", 3), (ascii "SIGSEGV", 11), (ascii "SIGSTKFLT", 16),
    (ascii "SIGSTOP", 19), (ascii "SIGSYS", 31), (ascii "SIGTERM", 15), (ascii "SIGTRAP", 5),
    (ascii "SIGTSTP", 20), (ascii "SIGTTIN", 21), (ascii "SIGTTOU", 22), (ascii "SIGUNUSED", 31),
    (ascii "SIGURG", 23), (ascii "SIGUSR1", 10), (ascii "SIGUSR2", 12), (ascii "SIGVTALRM", 26),
    (ascii "SIGWINCH", 28), (ascii "SIGXCPU", 24), (ascii "SIGXFSZ", 25)]

def parseSignal (signal : List U8) : Option U32 :=
  if signal = [] then some 0 else signals.lookup signal

/-- The name of a point: `strstr`, `strstr+0x4` or `0xA94E8`, as a symbol and an offset. -/
def parsePointName (name : List U8) : Option (List U8 × U64) :=
  match name.splitOn 0x2b with
  | [item] =>
    if ascii "0x" <+: item then
      (Client.parseUintAny 64 item).map fun offset => ([], BitVec.ofNat 64 offset)
    else some (item, 0)
  | [symbol, item] =>
    (Client.parseUintAny 64 item).map fun offset => (symbol, BitVec.ofNat 64 offset)
  | _ => none

/-- The body of the loop over the points of a file. -/
def PointConfig.parse (registries : ℕ → Registries) (point : PointConfig) (index : ℕ) :
    Option UprobeArgs := do
  let killSignal ← parseSignal point.signal
  let (symbol, offset) ← parsePointName point.name
  let pointArgs ← point.params.zipIdx.mapM fun (param, i) =>
    param.getPointArg (registries i) (BitVec.ofNat 32 i) .uprobeEnter
  some { index := BitVec.ofNat 32 index, name := point.name, symbol, offset, killSignal, pointArgs }

/-- `Parse_FileConfig`: the points of the file behind those that are there.  `none` is an error or a
panic. -/
def parseFileConfig (registries : ℕ → ℕ → Registries) (points : List UprobeArgs)
    (config : List PointConfig) : Option (List UprobeArgs) :=
  (config.zipIdx.mapM fun (point, i) => PointConfig.parse (registries i) point i).map
    (points ++ ·)

/-- `parse_more`, in the loop of `ParseContext` of `user/event/event_uprobe.go`. -/
def UprobeEvent.parseMore (arg : PointArg) : Bool := arg.parseMore .uprobeEnter

/-! ## What a parsed parameter says -/

lemma mapM_getElem? {α β : Type} {f : α → Option β} : ∀ {l : List α} {r : List β},
    l.mapM f = some r → ∀ {i : ℕ} {x : α}, l[i]? = some x → ∃ y, r[i]? = some y ∧ f x = some y := by
  intro l
  induction l with
  | nil => simp
  | cons a l ih =>
    intro r h i x hx
    simp only [mapM_cons, Option.bind_eq_bind, Option.bind_eq_some_iff, Option.pure_def,
      Option.some.injEq] at h
    obtain ⟨b, hb, bs, hbs, rfl⟩ := h
    cases i with
    | zero =>
      obtain rfl : a = x := by simpa using hx
      exact ⟨b, by simp, hb⟩
    | succ i => exact ih hbs (by simpa using hx)

lemma mapM_length {α β : Type} {f : α → Option β} : ∀ {l : List α} {r : List β},
    l.mapM f = some r → r.length = l.length := by
  intro l
  induction l with
  | nil =>
    intro r h
    cases h
    rfl
  | cons a l ih =>
    intro r h
    simp only [mapM_cons, Option.bind_eq_bind, Option.bind_eq_some_iff, Option.pure_def,
      Option.some.injEq] at h
    obtain ⟨b, hb, bs, hbs, rfl⟩ := h
    simp [ih hbs]

namespace ParamConfig

variable {registries : Registries} {param : ParamConfig}

/-- The names of the types that `GetPointArg` wants read. -/
def readNames : List (List U8) :=
  [ascii "buf", ascii "iovec", ascii "int_arr", ascii "uint_arr", ascii "ptr_arr", ascii "str",
    ascii "std", ascii "str16", ascii "il2cpp_string"]

lemma lookup_arrayNames {name : List U8} :
    (arrayNames.lookup name).isSome ↔
      name = ascii "int_arr" ∨ name = ascii "uint_arr" ∨ name = ascii "ptr_arr" := by
  simp only [arrayNames, lookup_cons, lookup_nil]
  split <;> rename_i h1
  · simp [beq_iff_eq.mp h1]
  · split <;> rename_i h2
    · simp [beq_iff_eq.mp h2]
    · split <;> rename_i h3
      · simp [beq_iff_eq.mp h3]
      · simp_all

/-- An argument is read at the entry exactly if its type has one of these names. -/
lemma setType_group {typed : ArgType × PointType} (h : param.setType registries = some typed) :
    typed.2 = .uprobeEnter ↔ param.typeName ∈ readNames := by
  have hread : param.typeName ∈ readNames ↔ param.typeName = ascii "buf" ∨
      param.typeName = ascii "iovec" ∨ (arrayNames.lookup param.typeName).isSome ∨
      param.typeName ∈ textNames := by
    rw [lookup_arrayNames]
    simp only [readNames, textNames, mem_cons, not_mem_nil, or_false, or_assoc]
  rw [hread]
  unfold setType at h
  by_cases hbuf : param.typeName = ascii "buf"
  · rw [if_pos hbuf] at h
    obtain ⟨_, _, rfl⟩ := map_eq_some_iff.mp h
    simp [hbuf]
  rw [if_neg hbuf] at h
  by_cases hiovec : param.typeName = ascii "iovec"
  · rw [if_pos hiovec] at h
    obtain ⟨_, _, rfl⟩ := map_eq_some_iff.mp h
    simp [hiovec]
  rw [if_neg hiovec] at h
  split at h
  next elem helem =>
    obtain ⟨_, _, rfl⟩ := map_eq_some_iff.mp h
    simp [helem]
  next hnone =>
    split_ifs at h with htext
    all_goals
      obtain ⟨_, _, rfl⟩ := map_eq_some_iff.mp h
      simp [hbuf, hiovec, hnone, htext]

lemma getPointArg_spec {argIndex : U32} {pointType : PointType} {arg : PointArg}
    (h : param.getPointArg registries argIndex pointType = some arg) :
    param.regIndex argIndex = some arg.regIndex ∧ arg.pointType = pointType ∧
      (arg.groupType = .uprobeEnter ↔ param.toPtr ∨ param.typeName ∈ readNames) ∧
      param.extraOpList = some arg.extraOps := by
  simp only [getPointArg, bind_eq_bind, bind_eq_some_iff, some.injEq] at h
  obtain ⟨regIndex, hreg, -, -, typed, htyped, -, -, filters, -, extraOps, hextra, rfl⟩ := h
  refine ⟨hreg, rfl, ?_, hextra⟩
  show (param.toPointerType typed).2 = _ ↔ _
  unfold toPointerType
  split_ifs with hptr
  · simp [hptr]
  · simp [hptr, setType_group htyped]

end ParamConfig

/-! ## Operations that save what was read -/

/-- The codes that save what an address points to. -/
def OpCode.SavesMore (code : OpCode) : Prop :=
  code ∈ [OpCode.saveStruct, .saveString, .saveString16, .savePtrString, .savePtrString16]
deriving Decidable

def OpConfig.SavesMore (op : OpConfig) : Prop := op.code.SavesMore ∨ op.postCode.SavesMore
deriving Decidable

lemma OpConfig.not_savesMore_newValue {op : OpConfig} (h : ¬ op.SavesMore) (value : U64) :
    ¬ (op.newValue value).SavesMore := h

lemma ArgType.exists_savesMore (type : ArgType) (h : type.ops ≠ []) :
    ∃ op ∈ type.ops, op.SavesMore := by
  cases type with
  | num kind | ptr | base => exact absurd rfl h
  | pointer target => exact ⟨saveStructOp 8, by simp [ops, code, Block.ops], by decide⟩
  | struct s | bufferLen len | bufferReg reg =>
    exact ⟨.ofCode .saveStruct, by simp [ops, code, Block.ops], by decide⟩
  | array elem len =>
    exact ⟨saveStructOp ((arraySize elem len).setWidth 64), by simp [ops, code, Block.ops],
      show (saveStructOp 0).SavesMore by decide⟩
  | iovecReg reg =>
    exact ⟨.ofCode .saveStruct, by simp [ops, code, Block.ops, iovecBody, iovecOps], by decide⟩
  | _ => decide

variable {ops : List OpConfig} {param : ParamConfig}

lemma compile_not_savesMore {step : ReadStep} {first first' : Bool}
    (h : step.compile first = some (ops, first')) : ∀ op ∈ ops, ¬ op.SavesMore := by
  unfold ReadStep.compile at h
  split at h
  · cases h
    decide
  · split_ifs at h
    all_goals
      cases h
      exact forall_mem_singleton.mpr (OpConfig.not_savesMore_newValue (by decide) _)
  · cases h
    refine forall_mem_cons.mpr
      ⟨@OpConfig.not_savesMore_newValue (addReadMoveReg 0) (by decide) _, ?_⟩
    split_ifs <;> decide

lemma compileAll_not_savesMore : ∀ {steps : List ReadStep} {first : Bool} {ops : List OpConfig},
    ReadStep.compileAll first steps = some ops → ∀ op ∈ ops, ¬ op.SavesMore := by
  intro steps
  induction steps with
  | nil =>
    intro first ops h
    cases h
    decide
  | cons step steps ih =>
    intro first ops h
    obtain ⟨stepOps, first', rest, hcompile, hrest, rfl⟩ := ReadStep.compileAll_cons h
    exact forall_mem_append.mpr ⟨compile_not_savesMore hcompile, ih hrest⟩

lemma ParamConfig.extraOpList_not_savesMore
    (h : param.extraOpList = some ops) : ∀ op ∈ ops, ¬ op.SavesMore := by
  unfold extraOpList at h
  split_ifs at h
  · cases h
    simp
  · obtain ⟨steps, -, hops⟩ := bind_eq_some_iff.mp h
    exact compileAll_not_savesMore hops

namespace PointArg

variable {arg : PointArg}

lemma valueFilterOps_not_savesMore : ∀ op ∈ arg.valueFilterOps, ¬ op.SavesMore := by
  intro op hop
  unfold valueFilterOps filterOps at hop
  split_ifs at hop
  · obtain ⟨f, -, rfl⟩ := mem_map.mp hop
    exact OpConfig.not_savesMore_newValue (by decide) _
  · simp at hop

lemma addressOps_not_savesMore (h : ∀ op ∈ arg.extraOps, ¬ op.SavesMore) :
    ∀ op ∈ arg.addressOps, ¬ op.SavesMore := by
  unfold addressOps
  split_ifs
  · exact h
  · exact forall_mem_cons.mpr
      ⟨@OpConfig.not_savesMore_newValue (addReadSaveReg 0) (by decide) _, by decide⟩

/-- The operations of the type are in the program exactly where `ReadMore` holds and the register
is one. -/
lemma infix_getOpList (hops : arg.type.ops ≠ []) (hextra : ∀ op ∈ arg.extraOps, ¬ op.SavesMore) :
    arg.type.ops <:+: arg.getOpList ↔ arg.readMore ∧ arg.regIndex ≠ regMax := by
  by_cases hmax : arg.regIndex = regMax
  · simp [getOpList, code, hmax, hops]
  · by_cases hmore : arg.readMore = true
    · simp only [hmore, hmax, ne_eq, not_false_eq_true, and_self, iff_true, getOpList, code,
        if_false, if_true, codeOps_append, codeOps_map_op]
      exact infix_append_of_infix_right ⟨[], _, rfl⟩
    · simp only [hmore, Bool.false_eq_true, false_and, iff_false]
      intro hinfix
      obtain ⟨op, hop, hsaves⟩ := arg.type.exists_savesMore hops
      have hmem := hinfix.subset hop
      simp only [getOpList, code, hmax, hmore, if_false, codeOps_append, codeOps_map_op,
        append_nil, mem_append, Bool.false_eq_true] at hmem
      rcases hmem with hmem | hmem
      · exact addressOps_not_savesMore hextra op hmem hsaves
      · exact valueFilterOps_not_savesMore op hmem hsaves

end PointArg

/-! ## Whether the two sides agree -/

/-- The parameter is put in the group of uprobes, and its place is not taken for the missing
register: without `reg` the register is the place, and the place 33 is `REG_ARM64_MAX`. -/
def ParamConfig.ReadsMore (param : ParamConfig) (place : ℕ) : Prop :=
  (param.toPtr ∨ param.typeName ∈ readNames) ∧
    ¬ (param.reg = [] ∧ (BitVec.ofNat 32 place : U32) = PointArg.regMax)
deriving Decidable

lemma ParamConfig.regIndex_eq_regMax {argIndex reg : U32} (h : param.regIndex argIndex = some reg) :
    reg = PointArg.regMax ↔ param.reg = [] ∧ argIndex = PointArg.regMax := by
  unfold regIndex at h
  split_ifs at h with hreg
  · cases h
    simp [hreg]
  · have hlt := getRegIndex_lt h
    simp only [hreg, false_and, iff_false]
    rintro rfl
    exact absurd hlt (by decide)

/-- The two sides agree on a parameter exactly where `ReadsMore` holds: the decoder always parses
more, and the program of a type that is only looked up by its name has none of the type's
operations. -/
theorem more_agrees_iff {registries : ℕ → ℕ → Registries} {points points' : List UprobeArgs}
    {config : List PointConfig} (h : parseFileConfig registries points config = some points') :
    points'.length = points.length + config.length ∧
    ∀ (i : ℕ) (point : PointConfig), config[i]? = some point →
      ∃ hook, points'[points.length + i]? = some hook ∧
        hook.pointArgs.length = point.params.length ∧
        ∀ (j : ℕ) (param : ParamConfig), point.params[j]? = some param →
          ∃ arg, hook.pointArgs[j]? = some arg ∧
            (arg.type.ops ≠ [] →
              ((arg.type.ops <:+: arg.getOpList ↔ UprobeEvent.parseMore arg = true) ↔
                param.ReadsMore j)) := by
  obtain ⟨hooks, hhooks, rfl⟩ := map_eq_some_iff.mp h
  refine ⟨by rw [length_append, mapM_length hhooks, length_zipIdx], ?_⟩
  intro i point hpoint
  obtain ⟨hook, hhook, hparse⟩ := mapM_getElem? hhooks (i := i) (x := (point, i)) (by simp [hpoint])
  refine ⟨hook, by rw [List.getElem?_append_right (by omega), Nat.add_sub_cancel_left, hhook], ?_⟩
  simp only [PointConfig.parse, bind_eq_bind, bind_eq_some_iff, some.injEq] at hparse
  obtain ⟨killSignal, -, ⟨symbol, offset⟩, -, pointArgs, hargs, rfl⟩ := hparse
  refine ⟨by rw [mapM_length hargs, length_zipIdx], ?_⟩
  intro j param hparam
  obtain ⟨arg, harg, hget⟩ := mapM_getElem? hargs (i := j) (x := (param, j)) (by simp [hparam])
  refine ⟨arg, harg, fun hops => ?_⟩
  obtain ⟨hreg, htype, hgroup, hextra⟩ := ParamConfig.getPointArg_spec hget
  have hmore : UprobeEvent.parseMore arg = true := by
    simp [UprobeEvent.parseMore, PointArg.parseMore, htype]
  have hread : arg.readMore = true ↔ param.toPtr ∨ param.typeName ∈ ParamConfig.readNames := by
    rw [← hgroup]
    simp [PointArg.readMore, htype, eq_comm]
  rw [PointArg.infix_getOpList hops (ParamConfig.extraOpList_not_savesMore hextra), hread, ne_eq,
    ParamConfig.regIndex_eq_regMax hreg]
  simp only [hmore, iff_true, ParamConfig.ReadsMore]

/-! ## The types that are registered at the start -/

/-- The types of `init` and `PreRegister` by the names that a file can use for them. -/
def builtinTypes : List (List U8 × ArgType) :=
  [(ascii "ptr", .ptr), (ascii "int", .num .int), (ascii "uint", .num .uint),
    (ascii "int8", .num .int8), (ascii "int16", .num .int16), (ascii "int32", .num .int32),
    (ascii "int64", .num .int64), (ascii "uint8", .num .uint8), (ascii "uint16", .num .uint16),
    (ascii "uint32", .num .uint32), (ascii "uint64", .num .uint64),
    (ascii "socklen_t", .num .uint32), (ascii "size_t", .num .uint64),
    (ascii "ssize_t", .num .int64), (ascii "buffer", .buffer), (ascii "string", .string),
    (ascii "str", .string), (ascii "string16", .string16), (ascii "str16", .string16),
    (ascii "il2cpp_string", .il2cppString), (ascii "struct", .base), (ascii "array", .base),
    (ascii "array_int_1", .array .int 1), (ascii "array_int_2", .array .int 2),
    (ascii "array_uint_1", .array .uint 1), (ascii "ptr_int", .pointer (.num .int)),
    (ascii "ptr_uint", .pointer (.num .uint)), (ascii "std", .stdString),
    (ascii "string_array", .stringArray), (ascii "string16_array", .string16Array),
    (ascii "stack_t", .struct .stackT), (ascii "timespec", .struct .timespec),
    (ascii "siginfo", .struct .siginfo), (ascii "sigaction", .struct .sigaction),
    (ascii "epoll_event", .struct .epollEvent), (ascii "pollfd", .struct .pollfd),
    (ascii "dirent", .struct .dirent), (ascii "ittmerspec", .struct .ittmerspec),
    (ascii "rusage", .struct .rusage), (ascii "utsname", .struct .utsname),
    (ascii "timeval", .struct .timeval), (ascii "timezone", .struct .timezone),
    (ascii "sysinfo", .struct .sysinfo), (ascii "stat", .struct .stat),
    (ascii "statfs", .struct .statfs), (ascii "iovec", .iovec), (ascii "iovec_x2", .iovecReg 2),
    (ascii "msghdr", .msghdr), (ascii "sockaddr", .struct .sockaddr),
    (ascii "buffer_x2", .bufferReg 2)]

/-- The registries before any file has been parsed, for parameters without filters. -/
def builtinRegistries : Registries where
  getArgTypeByName name := builtinTypes.lookup name
  addFilter _ := none

def onePoint (type : List U8) : List PointConfig :=
  [{ name := ascii "strstr", params := [{ type := type }] }]

/-- A `timespec` is parsed by the decoder, and not read by the program. -/
theorem more_disagrees :
    let arg : PointArg := { regIndex := 0, type := .struct .timespec, pointType := .uprobeEnter }
    parseFileConfig (fun _ _ => builtinRegistries) [] (onePoint (ascii "timespec")) =
        some [⟨0, ascii "strstr", ascii "strstr", 0, 0, [arg]⟩] ∧
      arg.type.ops ≠ [] ∧ UprobeEvent.parseMore arg = true ∧ ¬ arg.type.ops <:+: arg.getOpList :=
  ⟨rfl, by decide, by decide, by decide⟩

/-- A `str` is read and parsed. -/
theorem more_agrees_str :
    ∃ points', parseFileConfig (fun _ _ => builtinRegistries) [] (onePoint (ascii "str")) =
        some points' ∧
      points'.length = 1 ∧ ParamConfig.ReadsMore { type := ascii "str" } 0 ∧
      ∃ hook arg, points'[0]? = some hook ∧ hook.pointArgs[0]? = some arg ∧
        (arg.type.ops <:+: arg.getOpList ↔ UprobeEvent.parseMore arg = true) := by
  obtain ⟨points', h⟩ : ∃ points', parseFileConfig (fun _ _ => builtinRegistries) []
      (onePoint (ascii "str")) = some points' := ⟨_, rfl⟩
  obtain ⟨hlength, hpoints⟩ := more_agrees_iff h
  have hreads : ParamConfig.ReadsMore { type := ascii "str" } 0 := by decide
  obtain ⟨hook, hhook, -, hparams⟩ := hpoints 0 _ rfl
  obtain ⟨arg, harg, hiff⟩ := hparams 0 _ rfl
  refine ⟨points', h, hlength, hreads, hook, arg, hhook, harg, (hiff ?_).mpr hreads⟩
  cases h
  cases hhook
  cases harg
  decide

end Spz.Bpf
