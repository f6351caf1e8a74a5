import Stackplz.Bpf.Emission

/-!
# Structures and arrays

The types of a fixed size are read by one `OP_SAVE_STRUCT`, which saves at most 4096 bytes, or an
empty record if they cannot be read.  `fixed_size_decoded_iff` says when the parser of the type
takes exactly what was saved.
-/

namespace Spz.Bpf

open ArgType Decoder

open Decoder (Consumes)

namespace ArgType

/-- The structures, and the arrays of the elements that `parse_ARRAY` knows. -/
def FixedSize : ArgType → Prop
  | .struct _ => True
  | .array elem _ => elem.InArray
  | _ => False

/-- `GetSize` of such a type. -/
def getSize : ArgType → U32
  | .struct s => BitVec.ofNat 32 s.sizeof
  | .array elem len => arraySize elem len
  | _ => 0

end ArgType

variable {m : Machine} {p : PointArgs} {prog rest : List OpConfig} {s : Scan} {type : ArgType}
  {mem : Memory} {index : U8} {ptr : U64} {bytes : List U8} {budget : ℕ}

/-! ## What is emitted -/

/-- The bytes of a type at the address of the argument, as far as they are saved. -/
def ArgType.saved (type : ArgType) (mem : Memory) (addr : U64) : List U8 :=
  savedBytes mem (untagged addr) (cappedLen type.getSize)

/-- A type of fixed size takes two iterations and emits one record. -/
lemma passCode_fixedSize (htype : type.FixedSize) (hroom : RoomForBytes s.args) :
    (m.passCode type.code s).1 = 2 ∧
      (m.passCode type.code s).2.args =
        s.args ++ bytesRecord s.ctx.saveIndex (type.saved m.memory s.ctx.readAddr) := by
  cases type with
  | struct st =>
    have hcode : (struct st).code =
        [setReadLenOp (BitVec.ofNat 64 st.sizeof), .ofCode .saveStruct].map .op := rfl
    have hlen : (BitVec.ofNat 64 st.sizeof).setWidth 32 = (struct st).getSize :=
      BitVec.setWidth_ofNat_of_le (by decide) _
    rw [hcode, Machine.passCode_ops]
    refine ⟨rfl, ?_⟩
    rw [saved, ← hlen]
    exact m.afterOp_saveStruct_args
      (s := m.afterOp (setReadLenOp (BitVec.ofNat 64 st.sizeof)) s) hroom
  | array elem len =>
    have hcode : (array elem len).code =
        [saveStructOp ((arraySize elem len).setWidth 64)].map .op := rfl
    have hlen : ((arraySize elem len).setWidth 64).setWidth 32 =
        (array elem len).getSize := by
      rw [BitVec.setWidth_setWidth_of_le _ (by decide), BitVec.setWidth_eq]
      rfl
    rw [hcode, Machine.passCode_ops]
    refine ⟨rfl, ?_⟩
    rw [saved, ← hlen]
    exact m.afterOp_saveStructOp_args _ hroom
  | _ => exact htype.elim

section

variable (hload : Loaded m p prog) (htype : type.FixedSize) (hat : At prog s (type.ops ++ rest))
include hload htype hat

lemma loop_one_fixedSize (hblack : s.ctx.matchBlacklist = false) :
    ∃ t, m.loop p 1 s = .ok t ∧ t.args = s.args := by
  cases type with
  | struct st | array elem len => exact ⟨_, loop_one hload hat trivial hblack, rfl⟩
  | _ => exact htype.elim

lemma emittedFor_fixedSize (hcount : s.ctx.loopCount = 0) (hblack : s.ctx.matchBlacklist = false)
    (hroom : RoomForBytes s.args) :
    m.emittedFor p type budget s =
      if 2 ≤ budget then bytesRecord s.ctx.saveIndex (type.saved m.memory s.ctx.readAddr)
        else [] := by
  obtain ⟨hcost, hargs⟩ := passCode_fixedSize (m := m) htype hroom
  have hregistered : type.Registered := by cases type <;> trivial
  obtain ⟨hloop, -⟩ := loop_code hload hregistered hat hcount hblack
  rw [hcost] at hloop
  unfold Machine.emittedFor
  rw [hcost]
  split_ifs with hbudget
  · rw [Nat.min_eq_right hbudget]
    exact emitted_eq hloop hargs
  · obtain ⟨t, hone, ht⟩ := loop_one_fixedSize hload htype hat hblack
    exact emitted_between (a := 0) rfl hone (by simp) (by rw [ht, List.append_nil]) (Nat.zero_le _)
      (by omega)

end

/-! ## What is parsed -/

variable {size len : U32}

lemma consumes_structLen (h : len = 0 ∨ len = size) :
    Consumes (structLen size) (index :: leBytes 4 len) len := by
  refine consumes_argStr.bind_nil ?_
  rw [if_neg]
  · exact consumes_pure _
  · rintro ⟨hpos, hne⟩
    exact h.elim (fun h => absurd (h ▸ hpos) (by decide)) hne

lemma structLen_panics (hpos : len ≠ 0) (hne : len ≠ size) (tail : List U8) :
    (structLen size).run ((index :: leBytes 4 len) ++ tail) = none := by
  rw [structLen, consumes_argStr.run_bind, if_pos ⟨by bv_omega, hne⟩]
  rfl

lemma not_consumes_nil {α : Type} {f : U32 → Decoder U8 α} {a : α} :
    ¬ Consumes (structLen size >>= f) [] a := by
  intro h
  have hrun := h []
  rw [structLen, argStr, bind_assoc, bind_assoc, take_bind_run (by decide)] at hrun
  exact absurd hrun (by simp)

lemma consumes_record_iff {α : Type} {f : U32 → Decoder U8 α} {a : α} (h : len = 0 ∨ len = size) :
    Consumes (structLen size >>= f) (sizedRecord index len bytes) a ↔ Consumes (f len) bytes a := by
  refine forall_congr' fun tail => ?_
  have hfront : sizedRecord index len bytes ++ tail = (index :: leBytes 4 len) ++
      (bytes ++ tail) := by
    simp [sizedRecord]
  rw [hfront, (consumes_structLen h).run_bind]

/-! ## Whether the two agree -/

/-- What the parser reads is what the type's size says: `dirent` is parsed as a `pollfd`, and an
array is read as long as its length says, whatever the cap of 4096 bytes and the 32 bits of its size
left of it. -/
def ArgType.ReadInFull : ArgType → Prop
  | .struct s => s ≠ .dirent
  | .array elem len => arraySize elem len = 0 ∨ elem.size.toNat * len.toNat ≤ 4096
  | _ => False

instance : (type : ArgType) → Decidable type.ReadInFull := fun type => by
  cases type <;> unfold ArgType.ReadInFull <;> infer_instance

/-- The bytes of the type can be read where the argument points. -/
def ArgType.Readable (type : ArgType) (mem : Memory) (addr : U64) : Prop :=
  (readBytes mem (untagged addr) (cappedLen type.getSize).toNat).isSome

lemma consumes_parseStruct_empty {count : ℕ} :
    Consumes (parseStruct size count ptr) (bytesRecord index []) (.address ptr) :=
  (consumes_record_iff (.inl rfl)).mpr (consumes_pure _)

variable {read : Option (List U8)} {elem : NumKind}

/-- The parser reads a structure in full, `dirent` excepted. -/
lemma consumes_struct_iff {st : StructType}
    (hread : ∀ bytes, read = some bytes → bytes.length = st.sizeof) :
    (∃ parsed, Consumes ((struct st).parse true ptr) (bytesRecord index (read.getD [])) parsed) ↔
      read = none ∨ st ≠ .dirent := by
  cases read with
  | none => exact ⟨fun _ => .inl rfl, fun _ => ⟨_, consumes_parseStruct_empty⟩⟩
  | some bytes =>
    have hlength := hread bytes rfl
    have hpos : (BitVec.ofNat 32 st.sizeof : U32) ≠ 0 := by cases st <;> decide
    have hparsed : st.sizeof = st.parsed.binarySize ↔ st ≠ .dirent := by cases st <;> decide
    rw [Option.getD_some, bytesRecord, hlength]
    simp only [reduceCtorEq, false_or, parse, parseStruct]
    rw [← hparsed, ← hlength]
    constructor
    · rintro ⟨parsed, h⟩
      rw [consumes_record_iff (.inr (by rw [hlength])), if_neg (by rw [hlength]; exact hpos)] at h
      exact (consumes_take_iff.mp h).1
    · intro heq
      refine ⟨.struct ptr bytes, (consumes_record_iff (.inr (by rw [hlength]))).mpr ?_⟩
      rw [if_neg (by rw [hlength]; exact hpos)]
      exact consumes_take_iff.mpr ⟨heq, rfl⟩

lemma arraySize_toNat (h : elem.size.toNat * len.toNat ≤ 4096) :
    (arraySize elem len).toNat = elem.size.toNat * len.toNat := by
  rw [arraySize, BitVec.toNat_mul]
  exact Nat.mod_eq_of_lt (by omega)

/-- The parser of an array reads what `OP_SAVE_STRUCT` wrote of it unless the array is larger than
what one record holds. -/
lemma consumes_array_iff (helem : elem.InArray)
    (hread : ∀ bytes, read = some bytes →
      bytes.length = (cappedLen (arraySize elem len)).toNat) :
    (∃ parsed, Consumes ((array elem len).parse true ptr) (bytesRecord index (read.getD []))
      parsed) ↔
      read = none ∨ arraySize elem len = 0 ∨ elem.size.toNat * len.toNat ≤ 4096 := by
  have hempty : Consumes (parseArray elem len ptr) (bytesRecord index []) (.array ptr []) :=
    (consumes_record_iff (.inl rfl)).mpr (consumes_pure _)
  cases read with
  | none => exact ⟨fun _ => .inl rfl, fun _ => ⟨_, hempty⟩⟩
  | some bytes =>
    have hlength := hread bytes rfl
    simp only [Option.getD_some, reduceCtorEq, false_or, parse]
    by_cases hzero : arraySize elem len = 0
    · rw [hzero] at hlength
      obtain rfl := List.eq_nil_of_length_eq_zero hlength
      exact ⟨fun _ => .inl hzero, fun _ => ⟨_, hempty⟩⟩
    have hlen : (BitVec.ofNat 32 bytes.length : U32) = cappedLen (arraySize elem len) := by
      rw [hlength, BitVec.ofNat_toNat, BitVec.setWidth_eq]
    have hpos : (BitVec.ofNat 32 bytes.length : U32) ≠ 0 := by
      rw [hlen, cappedLen]
      split_ifs
      · decide
      · exact hzero
    rw [parseArray, bytesRecord]
    by_cases hcap : arraySize elem len > 4096
    · -- The record says 4096.
      have hbig : ¬ elem.size.toNat * len.toNat ≤ 4096 := fun hle => by
        have := arraySize_toNat hle
        have hlt : 4096 < (arraySize elem len).toNat := hcap
        omega
      simp only [hzero, hbig, or_self, iff_false, not_exists]
      intro parsed h
      have hne : (BitVec.ofNat 32 bytes.length : U32) ≠ arraySize elem len := by
        rw [hlen, cappedLen, if_pos hcap]
        exact fun heq => absurd (heq ▸ hcap) (BitVec.lt_irrefl _)
      have hrun := h []
      rw [StateT.run_bind, sizedRecord, ← List.cons_append, List.append_assoc,
        structLen_panics hpos hne] at hrun
      exact absurd hrun (by simp)
    · rw [cappedLen, if_neg hcap] at hlen hlength
      have hsize : (arraySize elem len).toNat ≤ 4096 := BitVec.not_lt.mp hcap
      have hiff : bytes.length = elem.size.toNat * len.toNat ↔
          arraySize elem len = 0 ∨ elem.size.toNat * len.toNat ≤ 4096 := by
        rw [hlength]
        refine ⟨fun heq => .inr (heq ▸ hsize), ?_⟩
        rintro (h | h)
        · exact absurd h hzero
        · exact arraySize_toNat h
      rw [← hiff]
      constructor
      · rintro ⟨parsed, h⟩
        rw [consumes_record_iff (.inr hlen), if_neg hpos, if_pos helem] at h
        exact (consumes_take_iff.mp h).1
      · intro heq
        refine ⟨.array ptr (arrayElems elem len.toNat bytes),
          (consumes_record_iff (.inr hlen)).mpr ?_⟩
        rw [if_neg hpos, if_pos helem]
        exact consumes_take_iff.mpr ⟨heq, rfl⟩

/-- Structures and arrays are decoded in full exactly if the two iterations of the type are left,
and the bytes cannot be read or the parser reads what the type's size says.  This is for every
program the type's operations stand in, every state in which they begin and every memory. -/
theorem fixed_size_decoded_iff (hload : Loaded m p prog) (htype : type.FixedSize)
    (hat : At prog s (type.ops ++ rest)) (hcount : s.ctx.loopCount = 0)
    (hblack : s.ctx.matchBlacklist = false) (hroom : RoomForBytes s.args) (ptr : U64) (budget : ℕ) :
    (∃ parsed, Consumes (type.parse true ptr) (m.emittedFor p type budget s) parsed) ↔
      2 ≤ budget ∧ (¬ type.Readable m.memory s.ctx.readAddr ∨ type.ReadInFull) := by
  rw [emittedFor_fixedSize hload htype hat hcount hblack hroom]
  split_ifs with hbudget
  · simp only [hbudget, true_and, ArgType.Readable, Bool.not_eq_true, Option.isSome_eq_false_iff,
      Option.isNone_iff_eq_none]
    cases type with
    | struct st =>
      refine consumes_struct_iff fun bytes h => ?_
      rw [readBytes_length h, getSize]
      cases st <;> decide
    | array elem len => exact consumes_array_iff htype fun bytes h => readBytes_length h
    | _ => exact htype.elim
  · simp only [hbudget, false_and, iff_false, not_exists]
    intro parsed
    cases type with
    | struct st => exact not_consumes_nil
    | array elem len => exact not_consumes_nil
    | _ => exact htype.elim

/-- The type's record of a `dirent` has 280 bytes, of which the parser reads 8: the next argument is
decoded from the other 272. -/
theorem dirent_not_decoded :
    let arg := pointedArg (.struct .dirent)
    let m := argsMachine [arg] (fun _ => none) (fun _ => 0) (fun _ => some 0)
    let emitted := (m.readArgs (argsPoint 64 [arg]) (freshCtx 4096) []).args
    emitted = wordRecord 0 4096 ++ bytesRecord 1 (List.replicate 280 0) ∧
      (arg.parse .uprobeEnter).run emitted =
        some ((4096, .struct 4096 (List.replicate 8 0)), List.replicate 272 0) := by
  decide +kernel

/-- The machine of one such argument, with memory that can be read everywhere. -/
def pointedMachine (type : ArgType) : Machine :=
  argsMachine [pointedArg type] (fun _ => none) (fun _ => 0) (fun _ => some 0)

/-- A `timespec` is decoded in full. -/
theorem timespec_decoded :
    ∃ parsed, Consumes ((struct .timespec).parse true 4096)
      ((pointedMachine (.struct .timespec)).emittedFor
        (argsPoint 64 [pointedArg (.struct .timespec)])
        (.struct .timespec) 61 (pointedScan 4096)) parsed := by
  have hload : Loaded (pointedMachine (.struct .timespec))
      (argsPoint 64 [pointedArg (.struct .timespec)]) (argsOps [pointedArg (.struct .timespec)]) :=
    loaded_args (by decide) (by decide)
  have hat : At (argsOps [pointedArg (.struct .timespec)]) (pointedScan 4096)
      ((struct .timespec).ops ++ []) := ⟨rfl, by decide, rfl⟩
  have htype : (struct .timespec).FixedSize := trivial
  exact (fixed_size_decoded_iff hload htype hat rfl rfl (by decide) 4096 61).mpr
    ⟨by decide, .inr (by decide)⟩

end Spz.Bpf
