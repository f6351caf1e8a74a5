import Stackplz.Bpf.Accepted

/-!
# Events and the context they share

The context of a CPU is reset in part before a call of `read_args`: the rest of it is what earlier
events left.  A program is insensitive to the rest if it writes every field before it reads it.

* `initialised` — this test, over the list of operations; jumps go back, where less is known to be
  written than at the jump;
* `Aligned`, `step_aligned` — two runs of such a program from different contexts go side by side;
* `argsOps_initialised` — the programs of configured arguments pass the test, if their address
  expressions begin with a register and no string is filtered that may fail to be saved;
* `events_isolated` — the conclusion about histories of events.
-/

namespace Spz.Bpf

open List OpConfig OpCtx Machine ReadStep PointArg Option

/-! ## Fields -/

/-- The fields of the context that a call starts with as they are. -/
inductive Field
  | regValue
  | readAddr
  | readLen
  | pointerValue
  | tmpValue
  | loopIndex
  | strLen
deriving DecidableEq, Repr

/-- Two contexts have the same value in a field. -/
def Field.Same (c c' : OpCtx) : Field → Prop
  | .regValue => c.regValue = c'.regValue
  | .readAddr => c.readAddr = c'.readAddr
  | .readLen => c.readLen = c'.readLen
  | .pointerValue => c.pointerValue = c'.pointerValue
  | .tmpValue => c.tmpValue = c'.tmpValue
  | .loopIndex => c.loopIndex = c'.loopIndex
  | .strLen => c.strLen = c'.strLen

namespace OpCode

/-- What a code reads.  `OP_FOR_BREAK` reads the index of the loop only in a loop, and what asks for
the end of a loop has to stand in one. -/
def reads : OpCode → List Field
  | .setReadLenRegValue => [.readLen, .regValue]
  | .setReadLenPointerValue => [.readLen, .pointerValue]
  | .setReadCount => [.readLen]
  | .addOffset => [.readAddr]
  | .subOffset => [.readAddr]
  | .moveRegValue => [.regValue]
  | .movePointerValue => [.pointerValue]
  | .moveTmpValue => [.tmpValue]
  | .setTmpValue => [.readAddr]
  | .setBreakCountRegValue => [.regValue]
  | .setBreakCountPointerValue => [.pointerValue]
  | .saveAddr => [.readAddr]
  | .addReg => [.readAddr, .regValue]
  | .subReg => [.readAddr, .regValue]
  | .saveReg => [.regValue]
  | .readPointer => [.readAddr]
  | .savePointer => [.pointerValue]
  | .saveStruct => [.readAddr, .readLen]
  | .filterValue => [.regValue]
  | .filterBuffer => [.readAddr]
  | .filterString => [.readAddr, .strLen]
  | .saveString => [.readAddr]
  | .savePtrString => [.readAddr, .loopIndex]
  | .readStdString => [.readAddr]
  | .readIl2cppString => [.readAddr]
  | .saveString16 => [.readAddr]
  | .savePtrString16 => [.readAddr, .loopIndex]
  | _ => []

/-- What a code writes; `saves` says that strings are saved, with their length. -/
def writes (saves : Bool) : OpCode → List Field
  | .resetCtx => [.readAddr, .readLen, .regValue, .pointerValue]
  | .setReadLen => [.readLen]
  | .moveRegValue => [.readAddr]
  | .movePointerValue => [.readAddr]
  | .moveTmpValue => [.readAddr]
  | .setTmpValue => [.tmpValue]
  | .forBreak => [.loopIndex]
  | .readReg => [.regValue]
  | .readPointer => [.pointerValue]
  | .saveString => if saves then [.strLen] else []
  | _ => []

end OpCode

def OpConfig.writes (saves : Bool) (op : OpConfig) : List Field :=
  op.code.writes saves ++ op.postCode.writes saves

/-- What is written before a place in the program, if `defined` is written before it. -/
def definedAt (saves : Bool) (defined : List Field) (prog : List OpConfig) (i : ℕ) : List Field :=
  defined ++ (prog.take i).flatMap (writes saves)

/-- The operation reads only what is written. -/
def OpConfig.initialised (saves : Bool) (defined : List Field) (op : OpConfig) : Bool :=
  op.code.reads ⊆ defined ∧ op.postCode.reads ⊆ defined ++ op.code.writes saves ∧
    (op.code = .forBreak → op.postCode = .skip) ∧ op.postCode ≠ .forBreak

/-- So does every operation of the program. -/
def initialised (saves : Bool) : List Field → List OpConfig → Bool
  | _, [] => true
  | defined, op :: prog =>
    op.initialised saves defined && initialised saves (defined ++ op.writes saves) prog

/-! ## Two runs side by side -/

/-- The context without the fields that a call starts with as they are, and without the code that is
being executed. -/
def OpCtx.masked (c : OpCtx) : OpCtx :=
  { c with
    regValue := 0, readAddr := 0, readLen := 0, pointerValue := 0, tmpValue := 0, loopIndex := 0,
    strLen := 0, opCode := .unknown }

/-- What two runs have in common: all but those fields, and among those the listed ones. -/
structure Related (D : List Field) (s s' : Scan) : Prop where
  op : s.op = s'.op
  args : s.args = s'.args
  masked : s.ctx.masked = s'.ctx.masked
  fields : ∀ f ∈ D, f.Same s.ctx s'.ctx
  /-- A loop that runs has its index written, and it points back. -/
  inLoop : Field.loopIndex ∈ D ∨ s.ctx.loopCount = 0
  back : Field.loopIndex ∈ D → s.ctx.loopIndex ≤ s.ctx.opKeyIndex

/-- If the code saves a string, it succeeds. -/
def Machine.Saves (m : Machine) (s : Scan) (code : OpCode) : Prop := code = .saveString →
  saveStrToBuf m.memory s.args (untagged s.ctx.readAddr) s.ctx.saveIndex ≠ none

/-- So does the code that comes next. -/
def Machine.SavesNext (m : Machine) (p : PointArgs) (s : Scan) : Prop :=
  if s.ctx.postCode ≠ .skip then m.Saves s s.ctx.postCode
  else ∀ op, m.opList (p.opKeyList.getD s.ctx.opKeyIndex 0) = some op → m.Saves s op.code

/-- What two calls that have stopped have in common. -/
structure SameHalt (halt halt' : Halt) : Prop where
  stop : halt.1 = halt'.1
  args : halt.2.args = halt'.2.args
  flags : halt.2.ctx.applyFilter = halt'.2.ctx.applyFilter ∧
    halt.2.ctx.skipFlag = halt'.2.ctx.skipFlag ∧
    halt.2.ctx.matchWhitelist = halt'.2.ctx.matchWhitelist ∧
    halt.2.ctx.matchBlacklist = halt'.2.ctx.matchBlacklist

/-- Both runs go on, or both stop. -/
abbrev Alike (R : Scan → Scan → Prop) : Except Halt Scan → Except Halt Scan → Prop :=
  Budget.Alike R SameHalt

variable {m : Machine} {p : PointArgs} {op : OpConfig} {prog ops ops' : List OpConfig}
  {code : OpCode}
  {s s' : Scan} {D D' : List Field} {b : Bool}

namespace Related

variable (h : Related D s s')
include h

lemma get {α : Type} (get : OpCtx → α)
    (hget : ∀ c : OpCtx, get c.masked = get c) : get s.ctx = get s'.ctx := by
  rw [← hget, h.masked, hget]

lemma saveIndex : s.ctx.saveIndex = s'.ctx.saveIndex :=
  h.get OpCtx.saveIndex fun _ => rfl

lemma loopCount : s.ctx.loopCount = s'.ctx.loopCount :=
  h.get OpCtx.loopCount fun _ => rfl

lemma breakCount : s.ctx.breakCount = s'.ctx.breakCount :=
  h.get OpCtx.breakCount fun _ => rfl

lemma opKeyIndex : s.ctx.opKeyIndex = s'.ctx.opKeyIndex :=
  h.get OpCtx.opKeyIndex fun _ => rfl

lemma postCode : s.ctx.postCode = s'.ctx.postCode :=
  h.get OpCtx.postCode fun _ => rfl

lemma matchBlacklist : s.ctx.matchBlacklist = s'.ctx.matchBlacklist :=
  h.get OpCtx.matchBlacklist fun _ => rfl

lemma halt (stop : Stop) : SameHalt (stop, s) (stop, s') :=
  ⟨rfl, h.args, h.get applyFilter fun _ => rfl, h.get skipFlag fun _ => rfl,
    h.get matchWhitelist fun _ => rfl, h.matchBlacklist⟩

lemma change {t t' : Scan} (hop : t.op = t'.op) (hargs : t.args = t'.args)
    (hmasked : t.ctx.masked = t'.ctx.masked) (hfields : ∀ f ∈ D', f.Same t.ctx t'.ctx)
    (hloop : Field.loopIndex ∈ D' ↔ Field.loopIndex ∈ D)
    (hsame : t.ctx.loopIndex = s.ctx.loopIndex ∧ t.ctx.opKeyIndex = s.ctx.opKeyIndex)
    (hcount : Field.loopIndex ∈ D ∨ t.ctx.loopCount = s.ctx.loopCount) : Related D' t t' where
  op := hop
  args := hargs
  masked := hmasked
  fields := hfields
  inLoop := by
    rcases hcount with hmem | heq
    · exact .inl (hloop.mpr hmem)
    · rw [hloop, heq]
      exact h.inLoop
  back := fun hmem => by
    rw [hsame.1, hsame.2]
    exact h.back (hloop.mp hmem)

end Related

variable {l D₀ : List Field} {i : ℕ} {step : ReadStep} {first' : Bool} {arg : PointArg}

lemma loopIndex_mem_append (h : Field.loopIndex ∉ l) :
    Field.loopIndex ∈ D ++ l ↔ Field.loopIndex ∈ D := by simp [h]

section

variable (h : Related D s s')
include h

/-- A pointer and the string it points to, in both runs. -/
lemma Scan.savePtrText_related {mem : Memory} {save : List U8 → U64 → U8 → Option (List U8)}
    (haddr : s.ctx.readAddr = s'.ctx.readAddr) (hmem : Field.loopIndex ∈ D) :
    Related D (s.savePtrText mem save) (s'.savePtrText mem save) := by
  have hmasked := h.masked
  unfold Scan.savePtrText
  dsimp only [Scan.savedWord]
  rw [haddr, h.args, h.saveIndex]
  cases save (saveToSubmitBuf s'.args
    (probeReadWord mem (untagged s'.ctx.readAddr)) s'.ctx.saveIndex)
      (untagged (probeReadWord mem (untagged s'.ctx.readAddr))) (s'.ctx.saveIndex + 1) with
  | none =>
    refine h.change h.op rfl ?_ (fun f hf => ?_) Iff.rfl ⟨rfl, rfl⟩ (.inl hmem)
    · exact congrArg (fun c : OpCtx => { c with
        saveIndex := s'.ctx.saveIndex + 1 + 1, loopCount := c.breakCount }) hmasked
    · have hsame := h.fields f hf
      cases f <;> first | rfl | exact hsame
  | some bytes =>
    refine h.change h.op rfl ?_ (fun f hf => ?_) Iff.rfl ⟨rfl, rfl⟩ (.inl hmem)
    · exact congrArg (fun c : OpCtx => { c with saveIndex := s'.ctx.saveIndex + 1 + 1 }) hmasked
    · have hsame := h.fields f hf
      cases f <;> first | rfl | exact hsame

/-- A filter writes no field that the runs may differ in. -/
lemma Machine.filtered_alike {apply : OpCtx → ArgFilter → OpCtx}
    (happly : ∀ filter, Related D { s with ctx := apply s.ctx filter }
      { s' with ctx := apply s'.ctx filter }) :
    Alike (Related (D ++ [])) (m.filtered op s apply) (m.filtered op s' apply) := by
  rw [append_nil]
  unfold filtered
  cases m.argFilter op.value with
  | none => exact h.halt _
  | some filter => exact happly filter

lemma Related.flags {apply white black : Bool} :
    Related D
      { s with ctx := { s.ctx with
        applyFilter := apply, matchWhitelist := white, matchBlacklist := black } }
      { s' with ctx := { s'.ctx with
        applyFilter := apply, matchWhitelist := white, matchBlacklist := black } } := by
  refine h.change h.op h.args ?_ (fun f hf => ?_) Iff.rfl ⟨rfl, rfl⟩ (.inr rfl)
  · exact congrArg (fun c : OpCtx => { c with
      applyFilter := apply, matchWhitelist := white, matchBlacklist := black }) h.masked
  · have hsame := h.fields f hf
    cases f <;> exact hsame

/-- `OP_FOR_BREAK`, in both runs: in a loop the index is the same. -/
lemma Related.forBreak :
    Related (D ++ [.loopIndex]) { s with ctx := s.ctx.forBreak }
      { s' with ctx := s'.ctx.forBreak } ∧
      s.ctx.forBreak.opKeyIndex ≤ s.ctx.opKeyIndex := by
  have hold : ∀ f, f ∈ D ++ [.loopIndex] → f ≠ .loopIndex → f.Same s.ctx s'.ctx :=
    fun f hf hne => h.fields f ((mem_append.mp hf).resolve_right (by simpa using hne))
  by_cases hexit : s.ctx.loopCount ≥ s.ctx.breakCount
  · have hexit' : s'.ctx.loopCount ≥ s'.ctx.breakCount := by
      rw [← h.loopCount, ← h.breakCount]
      exact hexit
    rw [forBreak_exit hexit, forBreak_exit hexit']
    refine ⟨⟨h.op, h.args, ?_, fun f hf => ?_, .inl (by simp), fun _ => Nat.zero_le _⟩, le_rfl⟩
    · exact congrArg (fun c : OpCtx => { c with loopCount := 0, breakCount := 0 }) h.masked
    · cases f
      case loopIndex => rfl
      all_goals exact hold _ hf (by decide)
  rw [ge_iff_le, BitVec.not_le] at hexit
  have hexit' : s'.ctx.loopCount < s'.ctx.breakCount := by
    rw [← h.loopCount, ← h.breakCount]
    exact hexit
  by_cases hzero : s.ctx.loopCount = 0
  · have hzero' : s'.ctx.loopCount = 0 := by rw [← h.loopCount]; exact hzero
    rw [forBreak_enter hexit hzero, forBreak_enter hexit' hzero']
    refine ⟨⟨h.op, h.args, ?_, fun f hf => ?_, .inl (by simp), fun _ => le_rfl⟩, le_rfl⟩
    · exact congrArg (fun c : OpCtx => { c with loopCount := c.loopCount + 1 }) h.masked
    · cases f
      case loopIndex => exact h.opKeyIndex
      all_goals exact hold _ hf (by decide)
  · have hzero' : s'.ctx.loopCount ≠ 0 := by rw [← h.loopCount]; exact hzero
    have hmem : Field.loopIndex ∈ D := h.inLoop.resolve_right hzero
    have hindex : s.ctx.loopIndex = s'.ctx.loopIndex := h.fields .loopIndex hmem
    rw [forBreak_again hexit hzero, forBreak_again hexit' hzero']
    refine ⟨⟨h.op, h.args, ?_, fun f hf => ?_, .inl (by simp), fun _ => le_rfl⟩, h.back hmem⟩
    · have := congrArg (fun c : OpCtx => { c with
        loopCount := c.loopCount + 1, opKeyIndex := s.ctx.loopIndex }) h.masked
      rw [← hindex]
      exact this
    · cases f
      case loopIndex => exact hindex
      all_goals exact hold _ hf (by decide)

/-- A code keeps two runs together, and they agree in what it writes. -/
lemma Machine.perform_alike (hreads : code.reads ⊆ D) (hsaves : b = true → m.Saves s code) :
    Alike (Related (D ++ code.writes b)) (m.perform op code s) (m.perform op code s') := by
  have hread : ∀ f, f ∈ code.reads → f.Same s.ctx s'.ctx := fun f hf => h.fields f (hreads hf)
  have hold : ∀ f, f ∈ D ++ code.writes b → f ∉ code.writes b → f.Same s.ctx s'.ctx :=
    fun f hf hne => h.fields f ((mem_append.mp hf).resolve_right hne)
  by_cases hcode : code = .forBreak
  · subst hcode
    exact h.forBreak.1
  -- The contexts differ in the masked fields only; those that the code reads agree as well.
  obtain ⟨o, ⟨saveIndex, regIndex, loopCount, breakCount, applyFilter, skipFlag, matchWhitelist,
    matchBlacklist, loopIndex, opKeyIndex, opCode, postCode, strLen, readLen, readAddr, regValue,
    pointerValue, tmpValue, reg0⟩, args⟩ := s
  obtain ⟨o', ⟨saveIndex', regIndex', loopCount', breakCount', applyFilter', skipFlag',
    matchWhitelist', matchBlacklist', loopIndex', opKeyIndex', opCode', postCode', strLen',
    readLen', readAddr', regValue', pointerValue', tmpValue', reg0'⟩, args'⟩ := s'
  obtain rfl : o = o' := h.op
  obtain rfl : args = args' := h.args
  have hmasked := h.masked
  simp only [masked, OpCtx.mk.injEq, true_and] at hmasked
  obtain ⟨rfl, rfl, rfl, rfl, rfl, rfl, rfl, rfl, rfl, rfl, rfl⟩ := hmasked
  cases code with
  | forBreak => exact absurd rfl hcode
  | unknown | skip | resetCtx | setRegIndex | setReadLen | setBreakCount | addOffset | subOffset
  | setTmpValue | saveAddr | readPointer | readStdString | readIl2cppString | moveRegValue
  | setBreakCountRegValue | saveReg | movePointerValue | setBreakCountPointerValue | savePointer
  | moveTmpValue | setReadCount | setReadLenRegValue | setReadLenPointerValue | addReg | subReg
  | saveStruct =>
    -- The new context is computed from what the code reads.
    try obtain rfl : _ = _ := hread .readAddr (of_decide_eq_true rfl)
    try obtain rfl : _ = _ := hread .readLen (of_decide_eq_true rfl)
    try obtain rfl : _ = _ := hread .regValue (of_decide_eq_true rfl)
    try obtain rfl : _ = _ := hread .pointerValue (of_decide_eq_true rfl)
    try obtain rfl : _ = _ := hread .tmpValue (of_decide_eq_true rfl)
    exact h.change rfl rfl rfl
      (fun f hf => by cases f <;> first | rfl | exact hold _ hf (of_decide_eq_true rfl))
      (loopIndex_mem_append (of_decide_eq_true rfl)) ⟨rfl, rfl⟩ (.inr rfl)
  | saveString16 =>
    obtain rfl : _ = _ := hread .readAddr (by decide)
    refine h.change rfl rfl rfl (fun f hf => ?_) (loopIndex_mem_append (of_decide_eq_true rfl))
      ⟨rfl, rfl⟩ (.inr rfl)
    cases f
    case strLen =>
      -- The length stays as it is if the string is not saved.
      obtain rfl : strLen = strLen' := hold .strLen hf (of_decide_eq_true rfl)
      rfl
    all_goals first | rfl | exact hold _ hf (of_decide_eq_true rfl)
  | saveString =>
    obtain rfl : _ = _ := hread .readAddr (by decide)
    refine h.change rfl rfl rfl (fun f hf => ?_) (loopIndex_mem_append (by cases b <;> decide))
      ⟨rfl, rfl⟩ (.inr rfl)
    cases f
    case strLen =>
      cases b with
      | false =>
        obtain rfl : strLen = strLen' := hold .strLen hf (by decide)
        rfl
      | true =>
        obtain ⟨bytes, hbytes⟩ := Option.ne_none_iff_exists'.mp (hsaves rfl rfl)
        simp only [Field.Same, Scan.saveText, Scan.saved]
        rw [hbytes]
    all_goals first | rfl | exact hold _ hf (by cases b <;> decide)
  | savePtrString | savePtrString16 =>
    show Related (D ++ []) _ _
    rw [append_nil]
    exact Scan.savePtrText_related h (hread .readAddr (by decide)) (hreads (by decide))
  | readReg =>
    simp only [perform, readReg]
    by_cases hlarge :
        (if op.preCode = .setRegIndex then op.value.setWidth 8 else regIndex).toNat ≥ 33
    · rw [if_pos hlarge, if_pos hlarge]
      exact ⟨rfl, rfl, rfl, rfl, rfl, rfl⟩
    · rw [if_neg hlarge, if_neg hlarge]
      exact h.change rfl rfl rfl
        (fun f hf => by cases f <;> first | rfl | exact hold _ hf (of_decide_eq_true rfl))
        (loopIndex_mem_append (of_decide_eq_true rfl)) ⟨rfl, rfl⟩ (.inr rfl)
  | filterValue =>
    obtain rfl : _ = _ := hread .regValue (by decide)
    refine filtered_alike h fun filter => ?_
    unfold filterValue
    cases filter.filterType
    all_goals first | exact h | (dsimp only; split_ifs <;> first | exact h | exact h.flags)
  | filterBuffer =>
    obtain rfl : _ = _ := hread .readAddr (by decide)
    refine filtered_alike h fun filter => ?_
    unfold filterBuffer
    split_ifs
    · exact h.flags
    · exact h
  | filterString =>
    obtain rfl : _ = _ := hread .readAddr (by decide)
    obtain rfl : _ = _ := hread .strLen (by decide)
    refine filtered_alike h fun filter => ?_
    unfold filterString strcmpByMap
    dsimp only
    split_ifs <;> first | exact h | exact h.flags

lemma Machine.execute_alike (hreads : code.reads ⊆ D) (hsaves : b = true → m.Saves s code) :
    Alike (Related (D ++ code.writes b)) (m.execute op code s) (m.execute op code s') := by
  unfold execute
  split_ifs
  · exact h.halt _
  · refine (m.perform_alike h hreads hsaves).bind fun t t' _ hrel => ?_
    rw [← hrel.matchBlacklist]
    split_ifs
    · exact hrel.halt _
    · exact hrel

end

/-! ## Programs that write before they read -/

lemma append_fields_mono (h : D ⊆ D') : D ++ l ⊆ D' ++ l :=
  append_subset.mpr
    ⟨List.Subset.trans h (subset_append_left _ _), subset_append_right _ _⟩

lemma definedAt_succ (h : prog[i]? = some op) :
    definedAt b D prog (i + 1) = definedAt b D prog i ++ op.writes b := by
  have hi := List.getElem?_eq_some_iff.mp h
  rw [definedAt, definedAt, ← take_append_getElem hi.1, hi.2, flatMap_append, append_assoc]
  simp

lemma definedAt_mono {j : ℕ} (h : i ≤ j) : definedAt b D prog i ⊆ definedAt b D prog j := by
  unfold definedAt
  refine append_subset.mpr ⟨subset_append_left _ _, fun f hf => ?_⟩
  obtain ⟨op, hop, hmem⟩ := mem_flatMap.mp hf
  exact mem_append_right _ (mem_flatMap.mpr
    ⟨op, take_subset_take_left _ h hop, hmem⟩)

lemma initialised_getElem? : ∀ {prog : List OpConfig} {D : List Field} {i : ℕ} {op : OpConfig},
    initialised b D prog = true → prog[i]? = some op →
      op.initialised b (definedAt b D prog i) = true := by
  intro prog
  induction prog with
  | nil => intro D i op _ h; exact absurd h (by simp)
  | cons head prog ih =>
    intro D i op h hi
    rw [initialised, Bool.and_eq_true] at h
    cases i with
    | zero =>
      obtain rfl : head = op := some.inj hi
      simpa [definedAt] using h.1
    | succ i =>
      have hnext := ih h.2 hi
      rwa [definedAt, append_assoc] at hnext

/-- Where a run stands in the program, and that the fields written up to there are among those in
which the runs agree. -/
def Place (b : Bool) (D₀ : List Field) (prog : List OpConfig) (D : List Field) (s : Scan) : Prop :=
  (s.ctx.postCode = .skip ∧ definedAt b D₀ prog s.ctx.opKeyIndex ⊆ D) ∨
    ∃ i op, prog[i]? = some op ∧ s.ctx.opKeyIndex = i + 1 ∧ s.op = some op ∧
      s.ctx.postCode = op.postCode ∧ op.postCode ≠ .skip ∧
      definedAt b D₀ prog i ++ op.code.writes b ⊆ D

/-- Two runs of a program from different contexts. -/
structure Aligned (b : Bool) (D₀ : List Field) (prog : List OpConfig) (s s' : Scan) : Prop where
  index_le : s.ctx.opKeyIndex ≤ prog.length
  related : ∃ D, Related D s s' ∧ Place b D₀ prog D s

lemma Related.fetched (h : Related D s s') (op : OpConfig) :
    Related D (s.fetched op) (s'.fetched op) := by
  refine ⟨rfl, h.args, ?_, fun f hf => ?_, h.inLoop, fun hmem => Nat.le_succ_of_le (h.back hmem)⟩
  · exact congrArg (fun c : OpCtx => { c with
      postCode := op.postCode, opKeyIndex := c.opKeyIndex + 1 }) h.masked
  · have hsame := h.fields f hf
    cases f <;> exact hsame

lemma Related.posted (h : Related D s s') : Related D s.posted s'.posted := by
  refine ⟨h.op, h.args, ?_, fun f hf => ?_, h.inLoop, h.back⟩
  · exact congrArg (fun c : OpCtx => { c with postCode := .skip }) h.masked
  · have hsame := h.fields f hf
    cases f <;> exact hsame

lemma OpConfig.initialised_iff : op.initialised b D = true ↔ op.code.reads ⊆ D ∧
    op.postCode.reads ⊆ D ++ op.code.writes b ∧ (op.code = .forBreak → op.postCode = .skip) ∧
    op.postCode ≠ .forBreak := by
  simp [initialised, imp_iff_not_or]

/-- Runs stay aligned over the operation that they fetch. -/
lemma aligned_fetch (hinit : initialised b D₀ prog = true) (hop : prog[i]? = some op)
    (hi : s.ctx.opKeyIndex = i) (h : Related D s s') (hD : definedAt b D₀ prog i ⊆ D)
    (hsaves : b = true → m.Saves s op.code) :
    Alike (Aligned b D₀ prog) (m.execute op op.code (s.fetched op))
      (m.execute op op.code (s'.fetched op)) := by
  obtain ⟨hcode, hpost, hbreak, -⟩ := initialised_iff.mp (initialised_getElem? hinit hop)
  have hlt : i < prog.length := (List.getElem?_eq_some_iff.mp hop).1
  have hstart : (s.fetched op).ctx.opKeyIndex = i + 1 := congrArg (· + 1) hi
  have hwrites : definedAt b D₀ prog i ++ op.code.writes b ⊆ D ++ op.code.writes b :=
    append_fields_mono hD
  have hnext : op.postCode = .skip → definedAt b D₀ prog (i + 1) ⊆ D ++ op.code.writes b := by
    intro hskip
    rw [definedAt_succ hop, writes, hskip]
    simpa [OpCode.writes] using hwrites
  refine (m.execute_alike (h.fetched op) (List.Subset.trans hcode hD) hsaves).mono
    fun t t' ht hrel => ?_
  by_cases hskip : op.code = .skip
  · rw [execute, if_pos hskip] at ht
    exact absurd ht (by simp)
  by_cases hjump : op.code = .forBreak
  · -- The jump goes back, where less is written.
    have hidle := hbreak hjump
    have ht' : t = { s.fetched op with ctx := (s.fetched op).ctx.forBreak } := by
      rw [hjump] at ht
      exact (Except.ok.inj ((m.execute_ok_iff (by decide)).mp ht).1).symm
    have hback := (h.fetched op).forBreak.2
    rw [hstart] at hback
    have hpc : t.ctx.postCode = .skip := by
      rw [ht']
      show (s.fetched op).ctx.forBreak.postCode = _
      rw [← hidle]
      unfold forBreak
      dsimp only
      split_ifs <;> rfl
    refine ⟨?_, D ++ op.code.writes b, hrel, .inl ⟨hpc, ?_⟩⟩
    · rw [ht']
      exact hback.trans hlt
    · rw [ht']
      exact List.Subset.trans (definedAt_mono hback) (hnext hidle)
  · have hcourse := m.execute_course ⟨hskip, hjump⟩ ht
    refine ⟨by rw [hcourse.index, hstart]; exact hlt, D ++ op.code.writes b, hrel, ?_⟩
    by_cases hidle : op.postCode = .skip
    · refine .inl ⟨hcourse.post.trans hidle, ?_⟩
      rw [hcourse.index, hstart]
      exact hnext hidle
    · exact .inr ⟨i, op, hop, hcourse.index.trans hstart, hcourse.op, hcourse.post, hidle, hwrites⟩

/-- One iteration of two runs: both stop, for the same reason and with the same output, or both go
on. -/
lemma step_aligned (hload : Loaded m p prog) (hinit : initialised b D₀ prog = true)
    (hsaves : b = true → m.SavesNext p s) (h : Aligned b D₀ prog s s') :
    Alike (Aligned b D₀ prog) (m.step p s) (m.step p s') := by
  unfold SavesNext at hsaves
  obtain ⟨hle, D, hrel, hplace⟩ := h
  rcases hplace with ⟨hidle, hD⟩ | ⟨i, op, hop, hindex, hsop, hpost, hne, hD⟩
  · have hidle' : s'.ctx.postCode = .skip := hrel.postCode.symm.trans hidle
    rcases hle.lt_or_eq with hlt | heq
    · -- An operation is fetched.
      obtain ⟨op, hop⟩ : ∃ op, prog[s.ctx.opKeyIndex]? = some op :=
        ⟨_, List.getElem?_eq_getElem hlt⟩
      have hdrop : prog.drop s.ctx.opKeyIndex = op :: prog.drop (s.ctx.opKeyIndex + 1) := by
        rw [← cons_getElem_drop_succ (h := hlt)]
        rw [(List.getElem?_eq_some_iff.mp hop).2]
      have hat : At prog s (op :: prog.drop (s.ctx.opKeyIndex + 1)) := ⟨hdrop, hle, hidle⟩
      have hat' : At prog s' (op :: prog.drop (s.ctx.opKeyIndex + 1)) := by
        refine ⟨?_, ?_, hidle'⟩
        · rw [← hrel.opKeyIndex]; exact hdrop
        · rw [← hrel.opKeyIndex]; exact hle
      rw [hat.step hload, hat'.step hload]
      rw [if_neg (not_not_intro hidle)] at hsaves
      exact aligned_fetch hinit hop rfl hrel hD fun hb => hsaves hb op (hload.fetch _ _ hop)
    · -- The end of the program.
      have hat : At prog s [] := ⟨by rw [heq, drop_length], hle, hidle⟩
      have hat' : At prog s' [] := by
        refine ⟨?_, ?_, hidle'⟩
        · rw [← hrel.opKeyIndex, heq, drop_length]
        · rw [← hrel.opKeyIndex]; exact hle
      rw [hat.step_end hload, hat'.step_end hload]
      exact (hrel.fetched _).halt _
  · -- A post code is pending.
    obtain ⟨-, hreads, -, hjump⟩ := initialised_iff.mp (initialised_getElem? hinit hop)
    have hlt : i < prog.length := (List.getElem?_eq_some_iff.mp hop).1
    have hpost' : s'.ctx.postCode = op.postCode := hrel.postCode.symm.trans hpost
    rw [step_post hsop (by rw [hpost]; exact hne), hpost,
      step_post (hrel.op.symm.trans hsop) (by rw [hpost']; exact hne), hpost']
    rw [hpost, if_pos hne] at hsaves
    refine (m.execute_alike hrel.posted (List.Subset.trans hreads hD) hsaves).mono
      fun t t' ht hrel' => ?_
    have hcourse := m.execute_course ⟨hne, hjump⟩ ht
    have htindex : t.ctx.opKeyIndex = i + 1 := hcourse.index.trans hindex
    refine ⟨by rw [htindex]; exact hlt, _, hrel', .inl ⟨hcourse.post, ?_⟩⟩
    rw [htindex, definedAt_succ hop, writes, ← append_assoc]
    exact append_fields_mono hD

/-! ## Configured programs -/

lemma OpConfig.initialised_mono (h : op.initialised b D = true) (hD : D ⊆ D') :
    op.initialised b D' = true := by
  rw [initialised_iff] at h ⊢
  exact ⟨List.Subset.trans h.1 hD, List.Subset.trans h.2.1 (append_fields_mono hD), h.2.2⟩

lemma initialised_mono : ∀ {prog : List OpConfig} {D D' : List Field}, initialised b D prog = true →
    D ⊆ D' → initialised b D' prog = true := by
  intro prog
  induction prog with
  | nil => intro D D' _ _; rfl
  | cons op prog ih =>
    intro D D' h hD
    rw [initialised, Bool.and_eq_true] at h ⊢
    exact ⟨OpConfig.initialised_mono h.1 hD, ih h.2 (append_fields_mono hD)⟩

lemma initialised_append : ∀ {ops ops' : List OpConfig} {D : List Field},
    initialised b D ops = true → initialised b (D ++ ops.flatMap (writes b)) ops' = true →
      initialised b D (ops ++ ops') = true := by
  intro ops
  induction ops with
  | nil =>
    intro ops' D _ h
    simpa using h
  | cons op ops ih =>
    intro ops' D h h'
    rw [initialised, Bool.and_eq_true] at h
    rw [flatMap_cons, ← append_assoc] at h'
    rw [cons_append, initialised, Bool.and_eq_true]
    exact ⟨h.1, ih h.2 h'⟩

lemma initialised_append_left {E : List Field} (h : initialised b D ops = true) (hE : E ⊆ D)
    (h' : initialised b E ops' = true) : initialised b D (ops ++ ops') = true :=
  initialised_append h (initialised_mono h' (List.Subset.trans hE (subset_append_left _ _)))

/-- The address expression of an argument, if it has one, begins with a register. -/
def PointArg.LeadsWithReg (arg : PointArg) : Prop :=
  arg.extraOps = [] ∨ ∃ text steps, readSteps text = some steps ∧
    compileAll false steps = some arg.extraOps ∧ steps.head?.any isReg

lemma compile_initialised (h : step.compile true = some (ops, first')) :
    initialised b [.readAddr, .regValue] ops = true := by
  cases step with
  | deref =>
    cases h
    rfl
  | term negative operand =>
    cases operand with
    | offset value | reg index =>
      cases h
      cases negative <;> rfl

lemma compile_first (h : step.compile true = some (ops, first')) : first' = true := by
  cases step with
  | deref => exact ((Prod.mk.inj (some.inj h)).2).symm
  | term negative operand =>
    cases operand <;> exact ((Prod.mk.inj (some.inj h)).2).symm

lemma compileAll_initialised : ∀ {steps : List ReadStep} {ops : List OpConfig},
    compileAll true steps = some ops →
      initialised b [.readAddr, .regValue] ops = true := by
  intro steps
  induction steps with
  | nil =>
    intro ops h
    cases h
    rfl
  | cons step steps ih =>
    intro ops h
    obtain ⟨stepOps, first', rest, hcompile, hrest, rfl⟩ := compileAll_cons h
    obtain rfl := compile_first hcompile
    exact initialised_append_left (compile_initialised hcompile) (List.Subset.refl _) (ih hrest)

/-- The address of an argument is made from nothing, and then its address and a register are
there. -/
lemma addressOps_initialised (h : arg.LeadsWithReg) :
    initialised b [] arg.addressOps = true ∧
      [.readAddr, .regValue] ⊆ arg.addressOps.flatMap (writes b) := by
  unfold addressOps
  rcases h with hnone | ⟨text, steps, -, hcompile, hlead⟩
  · rw [hnone, if_neg (by simp)]
    exact ⟨rfl, by simp [addReadSaveReg, writes, OpCode.writes, ofCode]⟩
  · cases steps with
    | nil => exact absurd hlead (by simp)
    | cons step steps =>
      cases step with
      | deref => exact absurd hlead (by simp [isReg])
      | term negative operand =>
        cases operand with
        | offset value => exact absurd hlead (by simp [isReg])
        | reg index =>
          obtain ⟨_, _, rest, hstep, hrest, hextra⟩ := compileAll_cons hcompile
          cases hstep
          rw [← hextra, if_pos (by simp)]
          have hrest := compileAll_initialised (b := b) hrest
          constructor
          · refine initialised_append rfl (initialised_mono hrest ?_)
            simp [addReadMoveReg, writes, OpCode.writes]
          · simp [addReadMoveReg, writes, OpCode.writes]

lemma type_initialised (type : ArgType) : initialised b [.readAddr] type.ops = true := by
  induction type with
  | pointer target ih =>
    exact initialised_append_left (show initialised b [.readAddr] [saveStructOp 8] = true from rfl)
      (List.Subset.refl _) ih
  | struct s => cases b <;> cases s <;> rfl
  | _ => cases b <;> rfl

lemma filters_initialised {code : OpCode} (h : code.reads ⊆ D)
    (hcode : code ≠ .forBreak) : initialised b D (arg.filterOps code) = true := by
  unfold filterOps
  induction arg.filters with
  | nil => rfl
  | cons f filters ih =>
    rw [map_cons, initialised, Bool.and_eq_true, initialised_iff]
    exact ⟨⟨h, by simp [newValue, ofCode, OpCode.reads], fun hjump => absurd hjump hcode,
      by simp [newValue, ofCode]⟩,
      initialised_mono ih (subset_append_left _ _)⟩

/-- The program of an argument writes what it reads; only a filter on a string reads the length of
the string that was saved last. -/
lemma getOpList_initialised (hlead : arg.LeadsWithReg)
    (hstr : (arg.isText = true → arg.filters = []) ∨ Field.strLen ∈ D ∨ b = true) :
    initialised b D arg.getOpList = true := by
  obtain ⟨haddr, hthere⟩ := addressOps_initialised (b := b) hlead
  have hvalue : initialised b [.readAddr, .regValue] arg.valueFilterOps = true := by
    unfold valueFilterOps
    split_ifs
    · exact filters_initialised (by decide) (by decide)
    · rfl
  have htext : initialised b (.readAddr :: D ++ arg.type.ops.flatMap (writes b))
      arg.textFilterOps = true := by
    unfold textFilterOps
    split_ifs with htext hbuffer
    · rcases hstr with hnone | hmem | rfl
      · rw [filterOps, hnone htext]
        rfl
      · exact filters_initialised (by simp [OpCode.reads, hmem]) (by decide)
      · -- The string that is filtered has just been saved.
        have hsaved : Field.strLen ∈ arg.type.ops.flatMap (writes true) := by
          rcases of_decide_eq_true htext with htype | htype <;> rw [htype] <;> decide
        exact filters_initialised (by simp [OpCode.reads, hsaved]) (by decide)
    · exact filters_initialised (by simp [OpCode.reads]) (by decide)
    · rfl
  have hmore : initialised b (.readAddr :: D)
      (codeOps (if arg.readMore then arg.type.code ++ arg.textFilterOps.map .op else [])) =
        true := by
    split_ifs
    · rw [codeOps_append, codeOps_map_op]
      exact initialised_append (initialised_mono (type_initialised arg.type) (by simp)) htext
    · rfl
  unfold PointArg.getOpList PointArg.code
  by_cases hmax : arg.regIndex = PointArg.regMax
  · rw [if_pos hmax]
    rfl
  have hthere' : [.readAddr, .regValue] ⊆ D ++ arg.addressOps.flatMap (writes b) :=
    List.Subset.trans hthere (subset_append_right _ _)
  rw [if_neg hmax, codeOps_append, codeOps_append, codeOps_map_op, codeOps_map_op]
  refine initialised_append (initialised_append (initialised_mono haddr (nil_subset _))
    (initialised_mono hvalue hthere')) (initialised_mono hmore ?_)
  rw [flatMap_append, ← append_assoc]
  refine List.Subset.trans ?_ (subset_append_left _ _)
  exact cons_subset.mpr ⟨hthere' (by simp), subset_append_left _ _⟩

lemma argsOps_initialised : ∀ {args : List PointArg} {D : List Field},
    (∀ arg ∈ args, arg.LeadsWithReg) →
    ((∀ arg ∈ args, arg.isText = true → arg.filters = []) ∨ Field.strLen ∈ D ∨ b = true) →
      initialised b D (argsOps args) = true := by
  intro args
  induction args with
  | nil => intro D _ _; rfl
  | cons arg args ih =>
    intro D hlead hstr
    obtain ⟨hhead, htail⟩ := forall_mem_cons.mp hlead
    rw [argsOps, flatMap_cons]
    refine initialised_append
      (getOpList_initialised hhead (hstr.imp_left fun h => h arg (by simp)))
      (ih htail (hstr.imp (fun h a ha => h a (by simp [ha])) fun h =>
        h.imp_left fun h => by simp [h]))

/-! ## Histories -/

/-- An event: the point that is hit, what `read_args` reads, and what was saved before it. -/
structure Event where
  machine : Machine
  point : PointArgs
  reg0 : U64
  saveIndex : U8
  args : List U8

/-- The state in which the call of `read_args` for an event begins. -/
def Event.start (e : Event) (ctx : OpCtx) : Scan :=
  { op := e.machine.opList 0, ctx := ctx.prepared e.reg0 e.saveIndex, args := e.args }

/-- The call of `read_args` for an event. -/
def Event.run (e : Event) (ctx : OpCtx) : Result :=
  e.machine.readArgs e.point (ctx.prepared e.reg0 e.saveIndex) e.args

/-- The context of a CPU after a history of events; a map of the kernel starts with zeros. -/
def contextAfter (history : List Event) : OpCtx :=
  history.foldl (fun ctx e => (e.run ctx).ctx) {}

/-- Runs that end alike have the same output and the same verdict. -/
lemma Result.of_alike (b : Bool) (D₀ : List Field) (prog : List OpConfig) {x y : Except Halt Scan}
    (h : Alike (Aligned b D₀ prog) x y) :
    (Result.of x).args = (Result.of y).args ∧
      (Result.of x).ctx.skipFlag = (Result.of y).ctx.skipFlag := by
  have hjudged : ∀ {c c' : OpCtx}, c.applyFilter = c'.applyFilter → c.skipFlag = c'.skipFlag →
      c.matchWhitelist = c'.matchWhitelist → c.matchBlacklist = c'.matchBlacklist →
      c.judged.skipFlag = c'.judged.skipFlag := by
    intro c c' ha hs hw hb
    unfold judged
    rw [ha, hw, hb]
    split_ifs <;> first | rfl | exact hs
  cases x with
  | ok t =>
    cases y with
    | error e' => exact h.elim
    | ok t' =>
      obtain ⟨-, D, hrel, -⟩ := h
      exact ⟨hrel.args, hjudged (hrel.get applyFilter fun _ => rfl)
        (hrel.get skipFlag fun _ => rfl) (hrel.get matchWhitelist fun _ => rfl)
        hrel.matchBlacklist⟩
  | error e =>
    cases y with
    | ok t' => exact h.elim
    | error e' =>
      obtain ⟨stop, t⟩ := e
      obtain ⟨stop', t'⟩ := e'
      obtain ⟨hstop, hargs, ha, hs, hw, hb⟩ := h
      obtain rfl : stop = stop' := hstop
      cases stop
      case skip => exact ⟨hargs, hjudged ha hs hw hb⟩
      case blacklisted => exact ⟨hargs, hjudged ha hs hw hb⟩
      all_goals exact ⟨hargs, hs⟩

/-- No post code is pending; the zero of fresh memory counts as none if the iteration that it costs
does not cut the event off. -/
def Event.Idle (e : Event) (ctx : OpCtx) : Prop :=
  ctx.postCode = .skip ∨ ctx.postCode = .unknown ∧ (e.run ctx).ending ≠ .budget

/-- The event then runs as one that no post code waits for. -/
lemma Event.Idle.run_eq {e : Event} {ctx : OpCtx} (h : e.Idle ctx)
    (hzero : e.machine.opList 0 = some skipOp) :
    ∃ ctx', ctx'.postCode = .skip ∧ ctx'.strLen = ctx.strLen ∧ e.run ctx = e.run ctx' ∧
      ∀ n t, e.machine.loop e.point n (e.start ctx') = .ok t →
        ∃ k, e.machine.loop e.point k (e.start ctx) = .ok t := by
  rcases h with hskip | ⟨hunknown, hending⟩
  · exact ⟨ctx, hskip, rfl, rfl, fun n t ht => ⟨n, ht⟩⟩
  set ctx' : OpCtx := { ctx with opCode := ctx.postCode, postCode := .skip } with hctx'
  have hstep : e.machine.step e.point (e.start ctx) = .ok (e.start ctx') := by
    have hpost : (e.start ctx).ctx.postCode = .unknown := hunknown
    rw [step_post hzero (by rw [hpost]; decide), hpost]
    rfl
  refine ⟨ctx', rfl, rfl, ?_, fun n t ht => ⟨1 + n, Budget.run_trans (Budget.run_one hstep) ht⟩⟩
  change (Result.of (e.machine.loop e.point e.point.maxOp (e.start ctx))).ending ≠ .budget
    at hending
  show Result.of (e.machine.loop e.point e.point.maxOp (e.start ctx)) =
    Result.of (e.machine.loop e.point e.point.maxOp (e.start ctx'))
  cases hmax : e.point.maxOp with
  | zero =>
    rw [hmax] at hending
    exact absurd rfl hending
  | succ n =>
    have hrun : e.machine.loop e.point (n + 1) (e.start ctx) = e.machine.loop e.point n _ :=
      Budget.run_succ_ok n hstep
    rw [hmax, hrun] at hending
    rw [hrun]
    cases hloop : e.machine.loop e.point n (e.start ctx') with
    | ok t =>
      rw [hloop] at hending
      exact absurd rfl hending
    | error halt => exact congrArg _ (Budget.run_error_mono hloop (Nat.le_succ n)).symm

/-- Events do not influence each other through the context of the CPU, whatever the histories before
them: if neither history leaves a post code pending, the address expressions of the point begin with
a register, and no string is filtered, the histories leave the same string length, or the event
saves its strings, then `read_args` emits the same bytes and decides alike whether the event is
skipped. -/
theorem events_isolated {kind : PointKind} {table : OpTable} {args : List PointArg} {e : Event}
    {before before' : List Event} (htable : ∀ op ∈ argsOps args, op ∈ table.ops)
    (hops : e.machine.opList = table.opList)
    (hconfig : getConfig table kind.maxOpCount args = some e.point)
    (hlead : ∀ arg ∈ args, arg.LeadsWithReg)
    (hidle : e.Idle (contextAfter before)) (hidle' : e.Idle (contextAfter before'))
    (hstr : (∀ arg ∈ args, arg.isText = true → arg.filters = []) ∨
      (contextAfter before).strLen = (contextAfter before').strLen ∨
      ∀ n s, e.machine.loop e.point n (e.start (contextAfter before)) = .ok s →
        e.machine.SavesNext e.point s) :
    (e.run (contextAfter before)).args = (e.run (contextAfter before')).args ∧
      (e.run (contextAfter before)).ctx.skipFlag = (e.run (contextAfter before')).ctx.skipFlag := by
  have hpos : 0 < kind.maxOpCount := by cases kind <;> decide
  have hload := loaded_program hpos htable hconfig hops
  obtain ⟨ctx, hskip, hlen, hrun, hreached⟩ := hidle.run_eq hload.zero
  obtain ⟨ctx', hskip', hlen', hrun', -⟩ := hidle'.run_eq hload.zero
  rw [hrun, hrun']
  -- The length of the last string is all that an initialised program may find there.
  obtain ⟨b, D₀, hinit, hfields, hloop, hsaves⟩ : ∃ b D₀, initialised b D₀ (argsOps args) = true ∧
      (∀ f ∈ D₀, f.Same ctx ctx') ∧ Field.loopIndex ∉ D₀ ∧
      (b = true → ∀ n s, e.machine.loop e.point n (e.start (contextAfter before)) = .ok s →
        e.machine.SavesNext e.point s) := by
    rcases hstr with hnone | hsame | hsaves
    · exact ⟨false, [], argsOps_initialised hlead (.inl hnone), by simp, by simp, by simp⟩
    · exact ⟨false, [.strLen], argsOps_initialised hlead (.inr (.inl (by simp))),
        forall_mem_singleton.mpr (hlen.trans (hsame.trans hlen'.symm)), by decide, by simp⟩
    · exact ⟨true, [], argsOps_initialised hlead (.inr (.inr rfl)), by simp, by simp,
        fun _ => hsaves⟩
  refine Result.of_alike b D₀ (argsOps args)
    (Budget.run_alike ?_ (fun n s s' hs => ?_) e.point.maxOp)
  · refine ⟨Nat.zero_le _, D₀, ⟨rfl, rfl, ?_, fun f hf => ?_, .inr rfl, fun h => absurd h hloop⟩,
      .inl ⟨hskip, ?_⟩⟩
    · simp only [masked, prepared, hskip, hskip']
    · have hsame := hfields f hf
      cases f <;> exact hsame
    · exact append_subset.mpr ⟨List.Subset.refl _, nil_subset _⟩
  · obtain ⟨k, hk⟩ := hreached n s hs
    exact step_aligned hload hinit fun hb => hsaves hb k s hk

/-- A hit of a point of a uprobe, with the operations of `manyArgs` loaded. -/
def hit (args : List PointArg) : Event :=
  { machine := argsMachine manyArgs (fun _ => none) (fun i => BitVec.ofNat 64 i) (fun _ => none)
    point := (getConfig (argsTable manyArgs) 64 args).getD ⟨64, []⟩
    reg0 := 0, saveIndex := 4, args := [] }

/-- The first hit of a point with 22 registers spends an iteration on the zero of fresh memory and
stops between two operations; the second one stops before a post code, which the next event then
executes for its own: it emits a record too many. -/
theorem events_interfere :
    ((hit [numberArg 1]).run (contextAfter [hit manyArgs])).args.length = 9 ∧
    ((hit [numberArg 1]).run (contextAfter [hit manyArgs, hit manyArgs])).args.length = 18 := by
  decide +kernel

/-- The first hit of a point with one register on a CPU emits what a later one does. -/
theorem events_isolated_number :
    ((hit [numberArg 1]).run (contextAfter [])).args =
        ((hit [numberArg 1]).run (contextAfter [hit [numberArg 1]])).args ∧
      ((hit [numberArg 1]).run (contextAfter [])).ctx.skipFlag =
        ((hit [numberArg 1]).run (contextAfter [hit [numberArg 1]])).ctx.skipFlag := by
  have hconfig : getConfig (argsTable manyArgs) PointKind.uprobe.maxOpCount [numberArg 1] =
      some (hit [numberArg 1]).point := by
    rw [hit, (getConfig_iff (by decide)).mpr ⟨by decide, rfl⟩]
    rfl
  exact events_isolated (by decide +kernel) rfl hconfig (forall_mem_singleton.mpr (.inl rfl))
    (.inr (by decide +kernel)) (.inl (by decide +kernel))
    (.inl (forall_mem_singleton.mpr fun h => absurd h (by decide)))

end Spz.Bpf
