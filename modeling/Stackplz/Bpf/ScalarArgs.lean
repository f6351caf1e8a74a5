import Stackplz.Bpf.Emission
import Stackplz.Bpf.FileConfig

/-!
# Arguments of scalar types

Numbers, pointers to numbers, strings and buffers: an argument saves its register or address as a
word, and at most one more record.  `passCode_scalar` says what is in that record, `consumes_scalar`
that the parser of the type recovers it; `scalar_args_decoded_iff` puts the two together for whole
lists of arguments.
-/

namespace Spz.Bpf

open List Machine PointArg Decoder OpCtx

open Decoder (Consumes)

variable {m : Machine} {p : PointArgs} {op : OpConfig} {code : OpCode}
  {prog rest ops body : List OpConfig}
  {s : Scan} {type : ArgType} {mem : Memory} {index : U8} {addr reg0 : U64} {args : List PointArg}
  {arg : PointArg} {event : PointType}

/-! ## The register 0 of the context -/

section

variable (ctx : OpCtx) (filter : ArgFilter)

lemma OpCtx.filterValue_reg0 : (ctx.filterValue filter).reg0 = ctx.reg0 := by
  unfold filterValue
  split <;> first | rfl | (split_ifs <;> rfl)

lemma OpCtx.filterBuffer_reg0 : (ctx.filterBuffer mem filter).reg0 = ctx.reg0 := by
  unfold filterBuffer
  split_ifs <;> rfl

lemma OpCtx.filterString_reg0 : (ctx.filterString mem filter).reg0 = ctx.reg0 := by
  unfold filterString
  dsimp only
  split_ifs <;> rfl

end

lemma Machine.effect_filtered_reg0 {apply : OpCtx → ArgFilter → OpCtx}
    (happly : ∀ ctx filter, (apply ctx filter).reg0 = ctx.reg0)
    (h : m.perform op code s = m.filtered op s apply) :
    (m.effect op code s).ctx.reg0 = s.ctx.reg0 := by
  rw [effect, h, filtered]
  cases m.argFilter op.value with
  | none => rfl
  | some filter => exact happly _ _

lemma Machine.effect_reg0 : (m.effect op code s).ctx.reg0 = s.ctx.reg0 := by
  cases code with
  | readReg =>
    unfold effect perform readReg
    dsimp only
    split_ifs <;> rfl
  | filterValue => exact m.effect_filtered_reg0 filterValue_reg0 rfl
  | filterBuffer => exact m.effect_filtered_reg0 filterBuffer_reg0 rfl
  | filterString => exact m.effect_filtered_reg0 filterString_reg0 rfl
  | forBreak =>
    show s.ctx.forBreak.reg0 = _
    unfold forBreak
    dsimp only
    split_ifs <;> rfl
  | savePtrString | savePtrString16 =>
    show (s.savePtrText m.memory _).ctx.reg0 = _
    unfold Scan.savePtrText
    dsimp only
    split <;> rfl
  | _ => rfl

lemma Machine.afterOp_reg0 : (m.afterOp op s).ctx.reg0 = s.ctx.reg0 := by
  unfold afterOp
  split_ifs
  · exact m.effect_reg0
  · exact m.effect_reg0.trans m.effect_reg0

lemma Machine.after_reg0 : (m.after ops s).ctx.reg0 = s.ctx.reg0 := by
  induction ops generalizing s with
  | nil => rfl
  | cons op ops ih => exact ih.trans m.afterOp_reg0

lemma Machine.passLoop_reg0 {k : ℕ} : (m.passLoop body k s).2.ctx.reg0 = s.ctx.reg0 := by
  have hround : ∀ {s : Scan}, (m.passRound body s).ctx.reg0 = s.ctx.reg0 :=
    m.afterOp_reg0.trans m.after_reg0
  induction k generalizing s with
  | zero => exact hround
  | succ k ih =>
    unfold passLoop
    split_ifs
    · exact hround
    · exact ih.trans hround

lemma Machine.passBlock_reg0 {block : Block} : (m.passBlock block s).2.ctx.reg0 = s.ctx.reg0 := by
  cases block with
  | op op => exact m.afterOp_reg0
  | loop body => exact m.passLoop_reg0.trans m.afterOp_reg0

lemma Machine.passCode_reg0 {prog : List Block} : (m.passCode prog s).2.ctx.reg0 = s.ctx.reg0 := by
  induction prog generalizing s with
  | nil => rfl
  | cons block prog ih => exact ih.trans m.passBlock_reg0

/-! ## What the types save -/

/-- What is saved of a string at an address, with its NUL. -/
def savedString (mem : Memory) (addr : U64) : List U8 := (readString mem addr maxStringSize).getD []

lemma savedString_length_lt (addr : U64) : (savedString mem addr).length < 2 ^ 32 := by
  unfold savedString
  cases h : readString mem addr maxStringSize with
  | none => exact Nat.two_pow_pos 32
  | some bytes =>
    have := (readString_length (n := 16383) h).2
    show bytes.length < _
    omega

namespace ArgType

def Scalar : ArgType → Prop
  | .num _ => True
  | .ptr => True
  | .pointer (.num _) => True
  | .pointer .ptr => True
  | .string => True
  | .string16 => True
  | .stdString => True
  | .bufferLen _ => True
  | .bufferReg _ => True
  | _ => False

/-- What the operations of a type save of what is at the address. -/
def payload (m : Machine) (reg0 addr : U64) : ArgType → List U8
  | .pointer _ => savedBytes m.memory (untagged addr) 8
  | .string => savedString m.memory (untagged addr)
  | .string16 => savedBytes m.memory (untagged addr) 512
  | .stdString => savedString m.memory (untagged (stdStringAddr m.memory addr))
  | .bufferLen len => savedBytes m.memory (untagged addr) len
  | .bufferReg reg =>
    savedBytes m.memory (untagged addr) (clampReadLen 4096 (m.register reg0 (reg.setWidth 8)))
  | _ => []

def FitsIn (args : List U8) : ArgType → Prop
  | .num _ => True
  | .ptr => True
  | .string => RoomForString args
  | .stdString => RoomForString args
  | _ => RoomForBytes args

end ArgType

lemma Machine.afterOp_saveString_args (hroom : RoomForString s.args) :
    (m.afterOp (.ofCode .saveString) s).args =
      s.args ++ bytesRecord s.ctx.saveIndex (savedString m.memory (untagged s.ctx.readAddr)) := by
  show (saveStrToBuf m.memory s.args (untagged s.ctx.readAddr) s.ctx.saveIndex).getD
    ((saveBytesToBuf m.memory s.args 0 0 s.ctx.saveIndex).getD s.args) = _
  rw [saveStrToBuf_of_room hroom, saveBytesToBuf_zero hroom.bytes, savedString]
  cases readString m.memory (untagged s.ctx.readAddr) maxStringSize <;> rfl

lemma Machine.afterOp_saveString16_args (hroom : RoomForBytes s.args) :
    (m.afterOp (.ofCode .saveString16) s).args =
      s.args ++ bytesRecord s.ctx.saveIndex (savedBytes m.memory (untagged s.ctx.readAddr) 512) :=
  saved_bytes_args (s := s.fetched (.ofCode .saveString16)) (by decide) hroom

lemma Machine.afterOp_buildReadRegLen {reg : U64} (h : reg.toNat < 33) :
    (m.afterOp (buildReadRegLen reg) s).args = s.args ∧
      (m.afterOp (buildReadRegLen reg) s).ctx.saveIndex = s.ctx.saveIndex ∧
      (m.afterOp (buildReadRegLen reg) s).ctx.readAddr = s.ctx.readAddr ∧
      (m.afterOp (buildReadRegLen reg) s).ctx.readLen =
        clampReadLen s.ctx.readLen (m.register s.ctx.reg0 (reg.setWidth 8)) := by
  have hcalm : (buildReadRegLen reg).CalmCode .readReg :=
    ⟨rfl, lt_of_le_of_lt (by rw [BitVec.toNat_setWidth]; exact Nat.mod_le _ _) h⟩
  have hafter : m.afterOp (buildReadRegLen reg) s =
      m.effect (buildReadRegLen reg) .setReadLenRegValue
      (m.effect (buildReadRegLen reg) .readReg (s.fetched (buildReadRegLen reg))).posted := rfl
  rw [hafter, m.effect_readReg hcalm]
  exact ⟨rfl, rfl, rfl, rfl⟩

lemma cappedLen_of_le {len : U32} (h : len.toNat ≤ 4096) : cappedLen len = len := by
  rw [cappedLen, if_neg (BitVec.not_lt.mpr h)]

lemma OpCtx.clampReadLen_le (len : U32) (value : U64) :
    (clampReadLen len value).toNat ≤ len.toNat := by
  unfold clampReadLen
  split_ifs with h
  · have hlt : value.toNat < (len.setWidth 64).toNat := h
    rw [BitVec.toNat_setWidth_of_le (by decide)] at hlt
    rw [BitVec.toNat_setWidth]
    exact (Nat.mod_le _ _).trans hlt.le
  · exact le_rfl

/-- What the operations of a scalar type emit. -/
lemma passCode_scalar (htype : type.Scalar) (hregistered : type.Registered) (hops : type.ops ≠ [])
    (hfits : type.FitsIn s.args) :
    (m.passCode type.code s).2.args =
      s.args ++ bytesRecord s.ctx.saveIndex (type.payload m s.ctx.reg0 s.ctx.readAddr) := by
  cases type with
  | num kind => exact absurd rfl hops
  | ptr => exact absurd rfl hops
  | pointer target =>
    have hcode : (ArgType.pointer target).code = [saveStructOp 8].map .op := by
      cases target <;> first | rfl | exact htype.elim
    rw [hcode, passCode_ops]
    exact m.afterOp_saveStructOp_args 8 hfits
  | string =>
    rw [show ArgType.string.code = [OpConfig.ofCode .saveString].map .op from rfl, passCode_ops]
    exact m.afterOp_saveString_args hfits
  | string16 =>
    rw [show ArgType.string16.code = [OpConfig.ofCode .saveString16].map .op from rfl, passCode_ops]
    exact m.afterOp_saveString16_args hfits
  | stdString =>
    rw [show ArgType.stdString.code =
      [OpConfig.ofCode .readStdString, .ofCode .saveString].map .op from rfl, passCode_ops]
    exact m.afterOp_saveString_args (s := m.afterOp (.ofCode .readStdString) s) hfits
  | bufferLen len =>
    have hlen : ((len.setWidth 64).setWidth 32 : U32) = len := by
      rw [BitVec.setWidth_setWidth_of_le _ (by decide), BitVec.setWidth_eq]
    have h := m.afterOp_saveStruct_args (s := m.afterOp (setReadLenOp (len.setWidth 64)) s) hfits
    rw [show (m.afterOp (setReadLenOp (len.setWidth 64)) s).ctx.readLen =
      (len.setWidth 64).setWidth 32 from rfl, hlen, cappedLen_of_le hregistered] at h
    rw [show (ArgType.bufferLen len).code =
      [setReadLenOp (len.setWidth 64), .ofCode .saveStruct].map .op from rfl, passCode_ops]
    exact h
  | bufferReg reg =>
    obtain ⟨hargs, hindex, haddr, hlen⟩ :=
      m.afterOp_buildReadRegLen (s := m.afterOp (setReadLenOp maxBufReadSize) s) hregistered
    have h := m.afterOp_saveStruct_args
      (s := m.afterOp (buildReadRegLen reg) (m.afterOp (setReadLenOp maxBufReadSize) s))
      (by rw [hargs]; exact hfits)
    rw [hargs, hindex, haddr, hlen, cappedLen_of_le (clampReadLen_le _ _)] at h
    rw [show (ArgType.bufferReg reg).code =
      [setReadLenOp maxBufReadSize, buildReadRegLen reg, .ofCode .saveStruct].map .op from rfl,
      passCode_ops]
    exact h
  | _ => exact htype.elim

lemma ArgType.payload_length_lt (htype : type.Scalar) :
    (type.payload m reg0 addr).length < 2 ^ 32 := by
  have hbytes : ∀ (addr : U64) (len : U32), (savedBytes m.memory addr len).length < 2 ^ 32 :=
    fun addr len => lt_of_le_of_lt (savedBytes_length_le addr len) len.isLt
  cases type with
  | string | stdString => exact savedString_length_lt _
  | num kind => exact Nat.two_pow_pos 32
  | ptr => exact Nat.two_pow_pos 32
  | pointer target | string16 | bufferLen len | bufferReg reg => exact hbytes _ _
  | _ => exact htype.elim

/-! ## What the parsers recover -/

/-- A number or an address, if no more than that is parsed. -/
def ArgType.shown (type : ArgType) (addr : U64) : Parsed :=
  match type with
  | .num kind => .number (kind.value addr)
  | _ => .address addr

/-- What there is to recover behind the word: the number a pointer leads to, or the text. -/
def ArgType.recovered (m : Machine) (reg0 : U64) (type : ArgType) (addr : U64) : Parsed :=
  match type with
  | .num kind => .number (kind.value addr)
  | .ptr => .address addr
  | .pointer target => .pointer addr (target.shown (probeReadWord m.memory (untagged addr)))
  | _ => .text addr (type.payload m reg0 addr)

lemma leWord_savedBytes (addr : U64) :
    leWord 64 (savedBytes mem addr 8) = probeReadWord mem addr := by
  unfold savedBytes probeReadWord
  rw [show (8 : U32).toNat = 8 from rfl]
  cases readBytes mem addr 8 <;> rfl

/-- The parser of a pointer reads the word behind it. -/
lemma consumes_pointer {target : ArgType} (htype : (ArgType.pointer target).Scalar) :
    Consumes ((ArgType.pointer target).parse true addr)
      (bytesRecord index (savedBytes mem (untagged addr) 8))
      (.pointer addr (target.shown (probeReadWord mem (untagged addr)))) := by
  have htarget : ∀ word, target.parse true word = pure (target.shown word) := by
    intro word
    cases target <;> first | rfl | exact htype.elim
  rw [ArgType.parse, bytesRecord, ← leWord_savedBytes]
  have hvalue : Consumes (pointedValue (BitVec.ofNat 32 (savedBytes mem (untagged addr) 8).length))
      (savedBytes mem (untagged addr) 8) (leWord 64 (savedBytes mem (untagged addr) 8)) := by
    unfold savedBytes pointedValue
    cases h : readBytes mem (untagged addr) (8 : U32).toNat with
    | none =>
      rw [if_neg (by decide)]
      exact consumes_pure _
    | some bytes =>
      have hlength : bytes.length = 8 := readBytes_length h
      rw [Option.getD_some, hlength, if_pos (by decide)]
      exact (consumes_take_of_length hlength).bind_nil (consumes_pure _)
  refine consumes_sized (hvalue.bind_nil ?_)
  rw [htarget]
  exact (consumes_pure _).bind_nil (consumes_pure _)

lemma consumes_scalar (htype : type.Scalar) (hops : type.ops ≠ []) :
    Consumes (type.parse true addr) (bytesRecord index (type.payload m reg0 addr))
      (type.recovered m reg0 addr) := by
  have hlength : (type.payload m reg0 addr).length < 2 ^ 32 := ArgType.payload_length_lt htype
  cases type with
  | num kind => exact absurd rfl hops
  | ptr => exact absurd rfl hops
  | pointer target => exact consumes_pointer htype
  | string | string16 | stdString | bufferLen len | bufferReg reg =>
    exact consumes_parseText hlength
  | _ => exact htype.elim

lemma parse_false : type.parse false addr = pure (type.shown addr) := by
  cases type <;> rfl

lemma ArgType.Scalar.of_ops_eq_nil (htype : type.Scalar) (hops : type.ops = []) :
    (∃ kind, type = .num kind) ∨ type = .ptr := by
  cases type with
  | num kind => exact .inl ⟨kind, rfl⟩
  | ptr => exact .inr rfl
  | base => exact htype.elim
  | _ => exact absurd hops (by simp [ArgType.ops, ArgType.code, Block.ops, iovecOps])

lemma parse_of_ops_eq_nil (htype : type.Scalar) (hops : type.ops = []) (more : Bool) :
    type.parse more addr = pure (type.shown addr) := by
  rcases htype.of_ops_eq_nil hops with ⟨kind, rfl⟩ | rfl <;> cases more <;> rfl

lemma parse_run_nil (htype : type.Scalar) (hops : type.ops ≠ []) :
    (type.parse true addr).run [] = none := by
  cases type with
  | num kind => exact absurd rfl hops
  | ptr => exact absurd rfl hops
  | base => exact htype.elim
  | _ => rfl

/-! ## Addresses -/

namespace PointArg

/-- The argument is addressed by a register, or by a `read_op`. -/
structure Addressed (arg : PointArg) : Prop where
  reg : arg.regIndex ≠ regMax
  address : (arg.extraOps = [] ∧ arg.regIndex.toNat < 33) ∨
    ∃ text, compileText text = some arg.extraOps

/-- The encoder and the decoder agree on whether there is more than the word. -/
def Agrees (arg : PointArg) (event : PointType) : Prop :=
  arg.readMore = arg.parseMore event ∨ arg.type.ops = []

lemma Addressed.regExists (h : arg.Addressed) : arg.RegExists := by
  rcases h.address with ⟨-, hlt⟩ | ⟨text, htext⟩
  · refine .inr (.inr (lt_of_le_of_lt ?_ hlt))
    rw [BitVec.toNat_setWidth]
    exact Nat.mod_le _ _
  · exact .inr (.inl (compileText_spec htext).1)

lemma Addressed.configured (h : arg.Addressed) (htype : arg.type.Registered) : arg.Configured where
  address := h.address.imp_left And.left
  type := htype

end PointArg

/-- The register of an argument, or the address that its `read_op` computes. -/
def Machine.address (m : Machine) (reg0 : U64) (arg : PointArg) (s : Scan) : U64 :=
  if arg.extraOps = [] then m.register reg0 (arg.regIndex.setWidth 8)
  else (m.after arg.extraOps s).ctx.readAddr

lemma Machine.afterOp_addReadSaveReg {reg : U32} (h : reg.toNat < 33) :
    (m.afterOp (addReadSaveReg (reg.setWidth 64)) s).args =
        saveToSubmitBuf s.args (m.register s.ctx.reg0 (reg.setWidth 8)) s.ctx.saveIndex ∧
      (m.afterOp (addReadSaveReg (reg.setWidth 64)) s).ctx.regValue =
        m.register s.ctx.reg0 (reg.setWidth 8) := by
  have hreg : ((reg.setWidth 64).setWidth 8 : U8) = reg.setWidth 8 :=
    BitVec.setWidth_setWidth_of_le _ (by decide)
  have hsmall : ((reg.setWidth 64).setWidth 8 : U8).toNat < 33 := by
    rw [hreg, BitVec.toNat_setWidth]
    exact lt_of_le_of_lt (Nat.mod_le _ _) h
  set op := addReadSaveReg (reg.setWidth 64)
  have hafter : m.afterOp op s =
      m.effect op .saveReg (m.effect op .readReg (s.fetched op)).posted := rfl
  rw [hafter, m.effect_readReg (show op.CalmCode .readReg from ⟨rfl, hsmall⟩), ← hreg]
  exact ⟨rfl, rfl⟩

/-- The operations of the address save it as a word, if there is room. -/
lemma after_addressOps_saved (h : arg.Addressed) :
    (m.after arg.addressOps s).args =
        saveToSubmitBuf s.args (m.address s.ctx.reg0 arg s) s.ctx.saveIndex ∧
      (m.after arg.addressOps s).ctx.readAddr = m.address s.ctx.reg0 arg s := by
  rcases h.address with ⟨hnone, hlt⟩ | ⟨text, htext⟩
  · rw [addressOps, address, hnone, if_neg (by simp), if_pos rfl]
    exact m.afterOp_addReadSaveReg hlt
  · have hne := (compileText_spec htext).1
    obtain ⟨steps, hsteps, hcompile⟩ := Option.bind_eq_some_iff.mp htext
    obtain ⟨hvalue, hsaved, -⟩ :=
      after_compileAll (m := m) (s := s) (readSteps_valid hsteps) hcompile
    rw [addressOps, address, if_pos (length_pos_iff.mpr hne), if_neg hne, hsaved, hvalue]
    exact ⟨rfl, rfl⟩

lemma after_addressOps (h : arg.Addressed) (hroom : RoomForWord s.args) :
    (m.after arg.addressOps s).args =
        s.args ++ wordRecord s.ctx.saveIndex (m.address s.ctx.reg0 arg s) ∧
      (m.after arg.addressOps s).ctx.readAddr = m.address s.ctx.reg0 arg s := by
  rw [← saveToSubmitBuf_of_room hroom]
  exact after_addressOps_saved h

/-! ## One argument -/

/-- What `read_args` emits for an argument. -/
def Machine.emission (m : Machine) (arg : PointArg) (s : Scan) : List U8 :=
  (m.passCode arg.code s).2.args.drop s.args.length

/-- The records of an argument fit the buffer, as the functions that save them test it. -/
def Machine.Fits (m : Machine) (arg : PointArg) (s : Scan) : Prop :=
  RoomForWord s.args ∧
    (arg.readMore = true → arg.type.FitsIn (m.after arg.addressOps s).args)

def Machine.recovered (m : Machine) (reg0 : U64) (arg : PointArg) (s : Scan) : U64 × Parsed :=
  (m.address reg0 arg s,
    if arg.readMore then arg.type.recovered m reg0 (m.address reg0 arg s)
    else arg.type.shown (m.address reg0 arg s))

section OneArg

variable (htype : arg.type.Scalar) (hregistered : arg.type.Registered) (haddr : arg.Addressed)
  (hfilters : arg.filters = []) (hfits : m.Fits arg s)

include haddr hfilters in
lemma passCode_arg :
    (m.passCode arg.code s).2 =
      if arg.readMore then (m.passCode arg.type.code (m.after arg.addressOps s)).2
      else m.after arg.addressOps s := by
  have hvalue : arg.valueFilterOps = [] := by
    simp [valueFilterOps, filterOps, hfilters]
  have htext : arg.textFilterOps = [] := by
    simp [textFilterOps, filterOps, hfilters]
  rw [code, if_neg haddr.reg, hvalue, htext, map_nil, append_nil, append_nil,
    passCode_append, passCode_ops]
  split_ifs <;> rfl

include htype hregistered haddr hfilters hfits in
/-- What is emitted for an argument: the word, and the record of the type if more is read. -/
lemma emission_eq (hreg0 : s.ctx.reg0 = reg0) :
    ∃ index, (m.passCode arg.code s).2.args = s.args ++ m.emission arg s ∧
      m.emission arg s = wordRecord s.ctx.saveIndex (m.address reg0 arg s) ++
        if arg.readMore = true ∧ arg.type.ops ≠ [] then
          bytesRecord index (arg.type.payload m reg0 (m.address reg0 arg s))
        else [] := by
  obtain ⟨hargs, hread⟩ := after_addressOps (m := m) haddr hfits.1
  have hreg : (m.after arg.addressOps s).ctx.reg0 = reg0 := m.after_reg0.trans hreg0
  rw [hreg0] at hargs hread
  refine ⟨(m.after arg.addressOps s).ctx.saveIndex, ?_⟩
  suffices hall : (m.passCode arg.code s).2.args =
      s.args ++ (wordRecord s.ctx.saveIndex (m.address reg0 arg s) ++
        if arg.readMore = true ∧ arg.type.ops ≠ [] then
          bytesRecord (m.after arg.addressOps s).ctx.saveIndex
            (arg.type.payload m reg0 (m.address reg0 arg s))
        else []) by
    have hemission := hall
    rw [emission, hall, drop_left]
    exact ⟨rfl, rfl⟩
  rw [passCode_arg haddr hfilters]
  by_cases hmore : arg.readMore = true
  · rw [if_pos hmore]
    by_cases hops : arg.type.ops = []
    · have hcode : arg.type.code = [] := by
        rcases htype.of_ops_eq_nil hops with ⟨kind, htype⟩ | htype <;> rw [htype] <;> rfl
      rw [hcode, if_neg (by simp [hops]), append_nil]
      exact hargs
    · rw [passCode_scalar htype hregistered hops (hfits.2 hmore), if_pos ⟨hmore, hops⟩, hargs,
        hread, hreg, append_assoc]
  · rw [if_neg hmore, if_neg (by simp [hmore]), append_nil]
    exact hargs

include htype hregistered haddr hfilters hfits in
/-- An argument is decoded exactly if the two sides agree, and only then. -/
lemma consumes_arg_iff (hreg0 : s.ctx.reg0 = reg0) :
    Consumes (arg.parse event) (m.emission arg s) (m.recovered reg0 arg s) ↔ arg.Agrees event := by
  obtain ⟨index, -, hemission⟩ := emission_eq htype hregistered haddr hfilters hfits hreg0
  rw [hemission, parse, consumes_argReg.bind_iff, recovered, PointArg.Agrees]
  set word := m.address reg0 arg s
  by_cases hops : arg.type.ops = []
  · -- There is nothing but the word.
    have hsame :
        (if arg.readMore = true then arg.type.recovered m reg0 word else arg.type.shown word) =
        arg.type.shown word := by
      rcases htype.of_ops_eq_nil hops with ⟨kind, htype⟩ | htype <;> rw [htype] <;>
        split_ifs <;> rfl
    rw [if_neg (by simp [hops]), hsame, parse_of_ops_eq_nil htype hops]
    exact iff_of_true ((consumes_pure _).bind_nil (consumes_pure _)) (.inr hops)
  · simp only [hops, or_false, ne_eq, not_false_eq_true, and_true]
    cases hmore : arg.readMore with
    | true =>
      cases hparse : arg.parseMore event with
      | true =>
        rw [if_pos rfl, if_pos rfl]
        exact iff_of_true ((consumes_scalar htype hops).bind_nil (consumes_pure _)) rfl
      | false =>
        -- The decoder stops behind the word.
        rw [if_pos rfl, parse_false]
        refine iff_of_false (fun h => ?_) (by decide)
        have hnone := ((consumes_pure (arg.type.shown word)).bind_nil
          (consumes_pure (word, arg.type.shown word))).eq_of_isPrefix h nil_prefix
        exact absurd (congrArg List.length hnone) (by simp [bytesRecord]; omega)
    | false =>
      cases hparse : arg.parseMore event with
      | true =>
        -- The decoder wants a record that is not there.
        rw [if_neg (by decide)]
        refine iff_of_false (fun h => ?_) (by decide)
        have hrun := h []
        rw [append_nil, StateT.run_bind, parse_run_nil htype hops] at hrun
        exact absurd hrun (by simp)
      | false =>
        rw [if_neg (by decide), if_neg (by decide), parse_false]
        exact iff_of_true ((consumes_pure _).bind_nil (consumes_pure _)) rfl

end OneArg

/-! ## Lists of arguments -/

/-- The arguments, each with the state in which its operations begin. -/
def Machine.walk (m : Machine) : List PointArg → Scan → List (PointArg × Scan)
  | [], _ => []
  | arg :: args, s => (arg, s) :: walk m args (m.passCode arg.code s).2

/-- What is emitted for them, one after the other. -/
def Machine.emissions (m : Machine) (args : List PointArg) (s : Scan) : List U8 :=
  ((m.walk args s).map fun x => m.emission x.1 x.2).flatten

lemma Machine.passCode_argsCode_cons (arg : PointArg) (args : List PointArg) (s : Scan) :
    (m.passCode (argsCode (arg :: args)) s).2 =
      (m.passCode (argsCode args) (m.passCode arg.code s).2).2 := by
  rw [argsCode, flatMap_cons, passCode_append]
  rfl

/-- What an argument list must be like. -/
structure PointArg.ScalarArg (arg : PointArg) : Prop where
  scalar : arg.type.Scalar
  registered : arg.type.Registered
  addressed : arg.Addressed
  unfiltered : arg.filters = []

lemma argsCode_calm (h : ∀ arg ∈ args, arg.ScalarArg) : ∀ block ∈ argsCode args, block.Calm := by
  intro block hblock
  obtain ⟨arg, harg, hmem⟩ := mem_flatMap.mp hblock
  have hscalar := h arg harg
  have hvalue : arg.valueFilterOps = [] := by
    simp [valueFilterOps, filterOps, hscalar.unfiltered]
  have htext : arg.textFilterOps = [] := by
    simp [textFilterOps, filterOps, hscalar.unfiltered]
  rw [code, if_neg hscalar.addressed.reg, hvalue, htext, map_nil, append_nil,
    append_nil, mem_append] at hmem
  rcases hmem with hmem | hmem
  · obtain ⟨op, hop, rfl⟩ := mem_map.mp hmem
    have hcalm := addressOps_calm (hscalar.addressed.configured hscalar.registered).address
      (hscalar.addressed.regExists.resolve_left hscalar.addressed.reg) op hop
    exact forall_mem_singleton.mpr hcalm
  · split_ifs at hmem
    · exact fun op hop => calm_code _ hscalar.registered op (mem_flatMap.mpr ⟨block, hmem, hop⟩)
    · exact absurd hmem (by simp)

/-- Run lemma: the list emits what its arguments emit, and is decoded if they are. -/
lemma walk_decoded (event : PointType) :
    ∀ {args : List PointArg} {s : Scan}, (∀ arg ∈ args, arg.ScalarArg) →
    (∀ x ∈ m.walk args s, m.Fits x.1 x.2) → s.ctx.reg0 = reg0 →
    (m.passCode (argsCode args) s).2.args = s.args ++ m.emissions args s ∧
      ((∀ x ∈ m.walk args s,
        Consumes (x.1.parse event) (m.emission x.1 x.2) (m.recovered reg0 x.1 x.2)) ↔
        ∀ arg ∈ args, arg.Agrees event) ∧
      ((∀ arg ∈ args, arg.Agrees event) → Consumes (parseArgs event args) (m.emissions args s)
        ((m.walk args s).map fun x => m.recovered reg0 x.1 x.2)) := by
  intro args
  induction args with
  | nil =>
    intro s _ _ _
    exact ⟨by simp [argsCode, passCode, emissions, walk], by simp [walk], fun _ => consumes_pure _⟩
  | cons arg args ih =>
    intro s hargs hfits hreg0
    obtain ⟨harg, hrest⟩ := forall_mem_cons.mp hargs
    obtain ⟨hfit, hfitsRest⟩ := forall_mem_cons.mp hfits
    obtain ⟨-, hemits, -⟩ := emission_eq harg.scalar harg.registered harg.addressed
      harg.unfiltered hfit hreg0
    have hiff : Consumes (arg.parse event) (m.emission arg s) (m.recovered reg0 arg s) ↔
        arg.Agrees event :=
      consumes_arg_iff harg.scalar harg.registered harg.addressed harg.unfiltered hfit hreg0
    obtain ⟨hall, hdecoded, hlist⟩ := ih hrest hfitsRest (m.passCode_reg0.trans hreg0)
    refine ⟨?_, ?_, ?_⟩
    · rw [passCode_argsCode_cons, hall, hemits, append_assoc]
      rfl
    · rw [walk, forall_mem_cons, forall_mem_cons, hiff, hdecoded]
    · intro hagree
      obtain ⟨hone, hothers⟩ := forall_mem_cons.mp hagree
      exact (hiff.mpr hone).bind ((hlist hothers).bind_nil (consumes_pure _))

/-- The state in which `read_args` begins. -/
def Machine.start (m : Machine) (ctx : OpCtx) (buf : List U8) : Scan :=
  { op := m.opList 0, ctx := ctx, args := buf }

/-- Encoding and decoding agree for scalar types exactly if they agree, for each argument, on
whether there is more than its word.  For every accepted list of such arguments, all registers and
memory: if the program ends at its `OP_SKIP`, what it emits is what the arguments emit, and the
decoders recover them one by one. -/
theorem scalar_args_decoded_iff {kind : PointKind} {table : OpTable} {ctx : OpCtx} {buf : List U8}
    {saveIndex : U8} (hargs : ∀ arg ∈ args, arg.ScalarArg)
    (htable : ∀ op ∈ argsOps args, op ∈ table.ops) (hops : m.opList = table.opList)
    (hconfig : getConfig table kind.maxOpCount args = some p) (hidle : ctx.postCode = .skip)
    (hend : (m.readArgs p (ctx.prepared reg0 saveIndex) buf).ending = .stopped .skip)
    (hfits : ∀ x ∈ m.walk args (m.start (ctx.prepared reg0 saveIndex) buf), m.Fits x.1 x.2)
    (event : PointType) :
    (m.readArgs p (ctx.prepared reg0 saveIndex) buf).args =
        buf ++ m.emissions args (m.start (ctx.prepared reg0 saveIndex) buf) ∧
      ((∀ x ∈ m.walk args (m.start (ctx.prepared reg0 saveIndex) buf),
          Consumes (x.1.parse event) (m.emission x.1 x.2) (m.recovered reg0 x.1 x.2)) ↔
        ∀ arg ∈ args, arg.Agrees event) ∧
      ((∀ arg ∈ args, arg.Agrees event) → Consumes (parseArgs event args)
        (m.emissions args (m.start (ctx.prepared reg0 saveIndex) buf))
        ((m.walk args (m.start (ctx.prepared reg0 saveIndex) buf)).map
          fun x => m.recovered reg0 x.1 x.2)) := by
  have hpos : 0 < kind.maxOpCount := by cases kind <;> decide
  have hload := loaded_program hpos htable hconfig hops
  have hconfigured : ∀ arg ∈ args, arg.Configured :=
    fun arg harg => (hargs arg harg).addressed.configured (hargs arg harg).registered
  obtain ⟨hall, hdecoded⟩ := walk_decoded event hargs hfits rfl
  refine ⟨?_, hdecoded⟩
  have hat : At (argsOps args) (m.start (ctx.prepared reg0 saveIndex) buf)
      (codeOps (argsCode args) ++ []) := by
    rw [append_nil, codeOps_argsCode]
    exact At.start rfl hidle
  obtain ⟨hloop, hrest, -, -⟩ := loop_runCode hload (argsCode_wellPlaced hconfigured) hat rfl rfl
    (m.runCode_calm (argsCode_calm hargs) rfl).1
  obtain ⟨t, ht⟩ := Result.of_skip_iff.mp hend
  have hstop := ((Budget.run_eq_error_iff hloop (hrest.step_end hload)).mp ht).2
  rw [readArgs, ht, hstop]
  exact hall

/-- A machine with `x0 = 4096`, where the text `hi` lies. -/
def textMachine (args : List PointArg) : Machine :=
  argsMachine args (fun _ => none) (fun _ => 0)
    fun addr => if addr = 4096 then some 0x68 else if addr = 4097 then some 0x69 else some 0

/-- The type of `str` under its first name: a parameter of a file that says `string` is put in no
group. The program saves the register only, and the decoder panics. -/
theorem string_by_name_not_decoded :
    let arg : PointArg := { regIndex := 0, type := .string, pointType := .uprobeEnter }
    ParamConfig.getPointArg builtinRegistries { type := ascii "string" } 0 .uprobeEnter = some arg ∧
      builtinTypes.lookup (ascii "str") = some arg.type ∧
      ((textMachine [arg]).readArgs (argsPoint 64 [arg]) (freshCtx 4096) []).ending =
        .stopped .skip ∧
      ((textMachine [arg]).readArgs (argsPoint 64 [arg]) (freshCtx 4096) []).args =
        wordRecord 0 4096 ∧
      (parseArgs .uprobeEnter [arg]).run (wordRecord 0 4096) = none := by
  refine ⟨rfl, rfl, ?_, ?_, ?_⟩ <;> decide +kernel

/-- A `str` is recovered. -/
theorem scalar_args_decoded_str :
    let arg := pointedArg .string
    Consumes (parseArgs .uprobeEnter [arg])
      ((textMachine [arg]).emissions [arg] ((textMachine [arg]).start (freshCtx 4096) []))
      [(4096, .text 4096 [0x68, 0x69, 0])] := by
  intro arg
  have hconfig : getConfig (argsTable [arg]) PointKind.uprobe.maxOpCount [arg] =
      some (argsPoint 64 [arg]) := by
    rw [argsPoint, (getConfig_iff (by decide)).mpr ⟨by decide, rfl⟩]
    rfl
  have hargs : ∀ arg' ∈ [arg], arg'.ScalarArg := forall_mem_singleton.mpr
    ⟨trivial, trivial, ⟨by decide, .inl ⟨rfl, by decide⟩⟩, rfl⟩
  have hfits : ∀ x ∈ (textMachine [arg]).walk [arg] ((textMachine [arg]).start (freshCtx 4096) []),
      (textMachine [arg]).Fits x.1 x.2 := forall_mem_singleton.mpr
    ⟨by decide, fun _ => show RoomForString _ by decide +kernel⟩
  have hend : ((textMachine [arg]).readArgs (argsPoint 64 [arg])
      (({ postCode := .skip } : OpCtx).prepared 4096 0) []).ending = .stopped .skip := by
    decide +kernel
  have h := (scalar_args_decoded_iff hargs (by decide) rfl hconfig
    (by rfl) hend hfits .uprobeEnter).2.2 (forall_mem_singleton.mpr (.inl rfl))
  have hvalue : ((textMachine [arg]).walk [arg] ((textMachine [arg]).start (freshCtx 4096) [])).map
      (fun x => (textMachine [arg]).recovered 4096 x.1 x.2) =
        [(4096, .text 4096 [0x68, 0x69, 0])] := by
    decide +kernel
  rw [← hvalue]
  exact h

end Spz.Bpf
