import Stackplz.Client.Response
import Stackplz.Bpf.Effect
import Stackplz.Bpf.Point

/-!
# Address expressions

The `read_op` expressions of `user/config/config_module.go` and `user/config/config_file.go`: parts
between dots, each a sum of registers and offsets; at every dot the value so far is replaced by the
word it points to.

* `compileText` — the loop that both files have, text by text the same;
* `follow` — the value of an expression, left to right;
* `runOps_compile` — what the compiled operations compute (`loaded`).  A register behind the first
  one is loaded over the value so far and then added to itself, so that everything before the last
  register is lost (`loaded_split`).
-/

namespace Spz.Bpf

open List Option

/-! ## Expressions -/

/-- A token: a number, or a register. -/
inductive Operand
  | offset (value : U64)
  | reg (index : U32)
deriving DecidableEq, Repr

/-- A token with the sign before it, or a dot. -/
inductive ReadStep
  | term (negative : Bool) (operand : Operand)
  | deref
deriving DecidableEq, Repr

/-- `RegsNameMap`, in the order of the indices. -/
def regNames : List String :=
  ["x0", "x1", "x2", "x3", "x4", "x5", "x6", "x7", "x8", "x9", "x10", "x11", "x12", "x13", "x14",
    "x15", "x16", "x17", "x18", "x19", "x20", "x21", "x22", "x23", "x24", "x25", "x26", "x27",
    "x28", "x29", "lr", "sp", "pc"]

/-- `GetRegIndex`; a name that is missing panics. -/
def getRegIndex (name : List U8) : Option U32 :=
  (regNames.findIdx? fun r => ascii r = name).map (BitVec.ofNat 32)

/-- `strconv.ParseUint(token, 0, 64)`, and `GetRegIndex` if that fails. -/
def parseOperand (token : List U8) : Option Operand :=
  match Client.parseUintAny 64 token with
  | some value => some (.offset (BitVec.ofNat 64 value))
  | none => (getRegIndex token).map .reg

/-- The loop over `strings.IndexAny(v, "+-")`: the tokens with the operator before each.  An empty
token counts for nothing, but its operator does. -/
def signedTokens : Bool → List U8 → List U8 → List (Bool × List U8)
  | negative, token, [] => if token = [] then [] else [(negative, token)]
  | negative, token, b :: rest =>
    if b = 0x2b ∨ b = 0x2d then
      (if token = [] then [] else [(negative, token)]) ++ signedTokens (b = 0x2d) [] rest
    else signedTokens negative (token ++ [b]) rest

/-- A part between two dots. -/
def partSteps (part : List U8) : Option (List ReadStep) :=
  (signedTokens false [] part).mapM fun t => (parseOperand t.2).map (.term t.1)

/-- The parts of an expression, with a dot before each but the first. -/
def partsSteps : List (List U8) → Option (List ReadStep)
  | [] => some []
  | part :: parts => do
    let steps ← partSteps part
    let rest ← partsSteps parts
    some (.deref :: steps ++ rest)

def readSteps (text : List U8) : Option (List ReadStep) :=
  (partsSteps (text.splitOn 0x2e)).map List.tail

namespace ReadStep

/-- The operations of a step, once a register has been seen or not, and whether one has been seen
after it; an offset as the first operand panics. -/
def compile (hasFirstOp : Bool) : ReadStep → Option (List OpConfig × Bool)
  | .deref => some ([.ofCode .readPointer, .ofCode .movePointerValue], hasFirstOp)
  | .term negative (.offset value) =>
    if hasFirstOp then some ([if negative then subOffsetOp value else addOffsetOp value], true)
    else none
  | .term negative (.reg index) =>
    some (addReadMoveReg (index.setWidth 64) ::
      (if hasFirstOp then [.ofCode (if negative then .subReg else .addReg)] else []), true)

/-- The operations of the steps, and `OPC_SAVE_ADDR`. -/
def compileAll : Bool → List ReadStep → Option (List OpConfig)
  | _, [] => some [.ofCode .saveAddr]
  | hasFirstOp, step :: steps => do
    let (ops, hasFirstOp) ← step.compile hasFirstOp
    let rest ← compileAll hasFirstOp steps
    some (ops ++ rest)

lemma compileAll_cons {first : Bool} {step : ReadStep} {steps : List ReadStep}
    {ops : List OpConfig} (h : compileAll first (step :: steps) = some ops) :
    ∃ stepOps first' rest, step.compile first = some (stepOps, first') ∧
      compileAll first' steps = some rest ∧ stepOps ++ rest = ops := by
  simp only [compileAll, bind_eq_bind, bind_eq_some_iff, some.injEq] at h
  obtain ⟨⟨stepOps, first'⟩, hcompile, rest, hrest, heq⟩ := h
  exact ⟨stepOps, first', rest, hcompile, hrest, heq⟩

end ReadStep

/-- The loop over `read_op_str`, for a text that is not empty. -/
def compileText (text : List U8) : Option (List OpConfig) :=
  (readSteps text).bind (ReadStep.compileAll false)

/-- The loop in `ParseArgType`. -/
def ParseArgType.compileReadOp (text : List U8) : Option (List OpConfig) := compileText text

/-- The loop in `GetPointArg`. -/
def GetPointArg.compileReadOp (text : List U8) : Option (List OpConfig) := compileText text

/-! ## Values -/

section Values

variable (reg : U32 → U64) (mem : Memory)

/-- `+` and `-`. -/
def signed (negative : Bool) (v w : U64) : U64 := if negative then v - w else v + w

def Operand.value : Operand → U64
  | .offset value => value
  | .reg index => reg index

def ReadStep.apply (v : U64) : ReadStep → U64
  | .term negative operand => signed negative v (operand.value reg)
  | .deref => probeReadWord mem v

def follow (steps : List ReadStep) (v : U64) : U64 := steps.foldl (ReadStep.apply reg mem) v

/-- What the compiled operations do to the address. -/
def ReadStep.load (hasFirstOp : Bool) (v : U64) : ReadStep → U64
  | .term negative (.reg index) =>
    if hasFirstOp then signed negative (reg index) (reg index) else reg index
  | step => step.apply reg mem v

/-- What they do to the value of the register. -/
def ReadStep.loadReg (v : U64) : ReadStep → U64
  | .term _ (.reg index) => reg index
  | _ => v

def ReadStep.isReg : ReadStep → Bool
  | .term _ (.reg _) => true
  | _ => false

def loaded : Bool → List ReadStep → U64 → U64
  | _, [], v => v
  | hasFirstOp, step :: steps, v =>
    loaded (hasFirstOp || step.isReg) steps (step.load reg mem hasFirstOp v)

/-- The last register of an expression, with what is before it and behind it. -/
def splitLast : List ReadStep → Option (List ReadStep × (Bool × U32) × List ReadStep)
  | [] => none
  | step :: steps =>
    match splitLast steps with
    | some (pre, last, post) => some (step :: pre, last, post)
    | none =>
      match step with
      | .term negative (.reg index) => some ([], (negative, index), steps)
      | _ => none

variable {reg mem}

lemma follow_append (steps steps' : List ReadStep) (v : U64) :
    follow reg mem (steps ++ steps') v = follow reg mem steps' (follow reg mem steps v) :=
  foldl_append

lemma loaded_noReg {steps : List ReadStep} (h : ∀ step ∈ steps, step.isReg = false) :
    ∀ (hasFirstOp : Bool) (v : U64),
      loaded reg mem hasFirstOp steps v = follow reg mem steps v := by
  induction steps with
  | nil => intro _ _; rfl
  | cons step steps ih =>
    intro hasFirstOp v
    obtain ⟨hstep, hsteps⟩ := forall_mem_cons.mp h
    have hload : step.load reg mem hasFirstOp v = step.apply reg mem v := by
      cases step with
      | deref => rfl
      | term negative operand =>
        cases operand with
        | offset value => rfl
        | reg index => exact absurd hstep (by simp [ReadStep.isReg])
    rw [loaded, hload, ih hsteps]
    rfl

lemma splitLast_spec {steps : List ReadStep} :
    match splitLast steps with
    | none => ∀ step ∈ steps, step.isReg = false
    | some (pre, (negative, index), post) =>
      steps = pre ++ .term negative (.reg index) :: post ∧ ∀ step ∈ post, step.isReg = false := by
  induction steps with
  | nil => simp [splitLast]
  | cons step steps ih =>
    unfold splitLast
    cases hsplit : splitLast steps with
    | some found =>
      obtain ⟨pre, ⟨negative, index⟩, post⟩ := found
      rw [hsplit] at ih
      exact ⟨congrArg (step :: ·) ih.1, ih.2⟩
    | none =>
      rw [hsplit] at ih
      cases step with
      | deref => exact forall_mem_cons.mpr ⟨rfl, ih⟩
      | term negative operand =>
        cases operand with
        | offset value => exact forall_mem_cons.mpr ⟨rfl, ih⟩
        | reg index => exact ⟨rfl, ih⟩

/-- Only the last register counts.  What is before it decides no more than whether it is the
first. -/
lemma loaded_split {pre post : List ReadStep} {negative : Bool} {index : U32}
    (hpost : ∀ step ∈ post, step.isReg = false) :
    ∀ (hasFirstOp : Bool) (v : U64),
      loaded reg mem hasFirstOp (pre ++ .term negative (.reg index) :: post) v =
        follow reg mem post
          (if hasFirstOp || pre.any ReadStep.isReg then signed negative (reg index) (reg index)
            else reg index) := by
  induction pre with
  | nil =>
    intro hasFirstOp v
    rw [nil_append, loaded, loaded_noReg hpost, any_nil, Bool.or_false]
    rfl
  | cons step pre ih =>
    intro hasFirstOp v
    rw [cons_append, loaded, ih, any_cons, Bool.or_assoc]

end Values

/-! ## What the operations compute -/

/-- The value of a register for an argument. -/
def Machine.regOf (m : Machine) (reg0 : U64) (index : U32) : U64 :=
  m.register reg0 (index.setWidth 8)

def ReadStep.Valid : ReadStep → Prop
  | .term _ (.reg index) => index.toNat < 33
  | _ => True

/-- What the operations of an expression leave alone. -/
structure Kept (s s' : Scan) : Prop where
  args : s'.args = s.args
  saveIndex : s'.ctx.saveIndex = s.ctx.saveIndex
  reg0 : s'.ctx.reg0 = s.ctx.reg0
  blacklist : s'.ctx.matchBlacklist = s.ctx.matchBlacklist

lemma getRegIndex_lt {name : List U8} {index : U32} (h : getRegIndex name = some index) :
    index.toNat < 33 := by
  obtain ⟨i, hi, rfl⟩ := map_eq_some_iff.mp h
  have hlt : i < regNames.length := (List.findIdx?_eq_some_iff_getElem.mp hi).1
  rw [BitVec.toNat_ofNat]
  exact lt_of_le_of_lt (Nat.mod_le _ _) hlt

lemma parseOperand_valid {token : List U8} {operand : Operand} (negative : Bool)
    (h : parseOperand token = some operand) : (ReadStep.term negative operand).Valid := by
  unfold parseOperand at h
  split at h
  · cases h
    trivial
  · obtain ⟨index, hindex, rfl⟩ := map_eq_some_iff.mp h
    exact getRegIndex_lt hindex

lemma termSteps_valid : ∀ {terms : List (Bool × List U8)} {steps : List ReadStep},
    (terms.mapM fun t => (parseOperand t.2).map (ReadStep.term t.1)) = some steps →
      ∀ step ∈ steps, step.Valid := by
  intro terms
  induction terms with
  | nil =>
    intro steps h
    cases h
    simp
  | cons t terms ih =>
    intro steps h
    simp only [mapM_cons, Option.bind_eq_bind, Option.bind_eq_some_iff, Option.map_eq_some_iff,
      Option.pure_def, Option.some.injEq] at h
    obtain ⟨step, ⟨operand, hoperand, rfl⟩, rest, hrest, rfl⟩ := h
    exact forall_mem_cons.mpr ⟨parseOperand_valid _ hoperand, ih hrest⟩

lemma partsSteps_valid : ∀ {parts : List (List U8)} {steps : List ReadStep},
    partsSteps parts = some steps → ∀ step ∈ steps, step.Valid := by
  intro parts
  induction parts with
  | nil =>
    intro steps h
    cases h
    simp
  | cons part parts ih =>
    intro steps h
    simp only [partsSteps, bind_eq_bind, bind_eq_some_iff, Option.some.injEq] at h
    obtain ⟨first, hfirst, rest, hrest, rfl⟩ := h
    rw [cons_append]
    exact forall_mem_cons.mpr ⟨trivial, forall_mem_append.mpr ⟨termSteps_valid hfirst, ih hrest⟩⟩

variable {text : List U8} {steps : List ReadStep}

lemma readSteps_valid (h : readSteps text = some steps) : ∀ step ∈ steps, step.Valid := by
  obtain ⟨all, hall, rfl⟩ := map_eq_some_iff.mp h
  exact fun step hstep => partsSteps_valid hall step (mem_of_mem_tail hstep)

variable {m : Machine} {p : PointArgs} {prog rest ops : List OpConfig} {s s' : Scan}

variable {step : ReadStep} {first first' : Bool}

lemma compile_calm (hvalid : step.Valid)
    (h : step.compile first = some (ops, first')) : ∀ op ∈ ops, op.Calm ∧ op.OutsideLoop := by
  cases step with
  | deref =>
    cases h
    decide
  | term negative operand =>
    cases operand with
    | offset value =>
      simp only [ReadStep.compile] at h
      split_ifs at h with hfirst hneg
      all_goals
        cases h
        exact forall_mem_singleton.mpr
          ⟨⟨trivial, .inl rfl⟩, ArgType.outsideLoop_newValue (by decide) value⟩
    | reg index =>
      cases h
      refine forall_mem_cons.mpr ⟨⟨⟨⟨rfl, ?_⟩, .inr trivial⟩,
        @ArgType.outsideLoop_newValue (addReadMoveReg 0) (by decide) _⟩, ?_⟩
      · have hlt : index.toNat < 33 := hvalid
        show ((index.setWidth 64).setWidth 8 : U8).toNat < 33
        rw [BitVec.toNat_setWidth, BitVec.toNat_setWidth]
        omega
      · cases first <;> cases negative <;> decide

/-- The operations of one step compute its `load`, and only a register changes the register
value. -/
lemma after_compile (hvalid : step.Valid) (h : step.compile first = some (ops, first')) :
    first' = (first || step.isReg) ∧ Kept s (m.after ops s) ∧
      (m.after ops s).ctx.readAddr =
        step.load (m.regOf s.ctx.reg0) m.memory first s.ctx.readAddr ∧
      (m.after ops s).ctx.regValue = step.loadReg (m.regOf s.ctx.reg0) s.ctx.regValue := by
  cases step with
  | deref =>
    cases h
    exact ⟨(Bool.or_false _).symm, ⟨rfl, rfl, rfl, rfl⟩, rfl, rfl⟩
  | term negative operand =>
    cases operand with
    | offset value =>
      simp only [ReadStep.compile] at h
      split_ifs at h with hfirst hneg
      all_goals
        cases h
        subst hfirst
        refine ⟨rfl, ⟨rfl, rfl, rfl, rfl⟩, ?_, rfl⟩
        simp only [ReadStep.load, ReadStep.apply, signed, Operand.value, hneg]
        rfl
    | reg index =>
      obtain ⟨rfl, rfl⟩ := Prod.mk.inj (Option.some.inj h)
      have hread : (addReadMoveReg (index.setWidth 64)).CalmCode .readReg :=
        (forall_mem_cons.mp (compile_calm hvalid h)).1.1.1
      refine ⟨(Bool.or_true _).symm, ?_⟩
      have hindex : ((index.setWidth 64).setWidth 8 : U8) = index.setWidth 8 :=
        BitVec.setWidth_setWidth_of_le _ (by decide)
      have hregister := congrArg (m.register s.ctx.reg0) hindex
      set op := addReadMoveReg (index.setWidth 64)
      have hop : m.afterOp op s =
          m.effect op .moveRegValue (m.effect op .readReg (s.fetched op)).posted := rfl
      rw [m.effect_readReg hread] at hop
      rw [Machine.after_cons, hop]
      cases first with
      | false => exact ⟨⟨rfl, rfl, rfl, rfl⟩, hregister, hregister⟩
      | true =>
        -- The register is in the address already when it is added or subtracted.
        cases negative with
        | false =>
          exact ⟨⟨rfl, rfl, rfl, rfl⟩, congrArg (fun v => v + v) hregister, hregister⟩
        | true =>
          exact ⟨⟨rfl, rfl, rfl, rfl⟩, congrArg (fun v => v - v) hregister, hregister⟩

lemma compileAll_spec : ∀ {steps : List ReadStep} {first : Bool} {ops : List OpConfig},
    (∀ step ∈ steps, step.Valid) → ReadStep.compileAll first steps = some ops →
      ops ≠ [] ∧ ∀ op ∈ ops, op.Calm ∧ op.OutsideLoop := by
  intro steps
  induction steps with
  | nil =>
    intro first ops _ h
    cases h
    exact ⟨by simp, by decide⟩
  | cons step steps ih =>
    intro first ops hvalid h
    obtain ⟨hstep, hsteps⟩ := forall_mem_cons.mp hvalid
    obtain ⟨stepOps, first', rest, hcompile, hrest, rfl⟩ := ReadStep.compileAll_cons h
    obtain ⟨hne, hcalm⟩ := ih hsteps hrest
    exact ⟨by simp [hne], forall_mem_append.mpr ⟨compile_calm hstep hcompile, hcalm⟩⟩

lemma compileText_spec (h : compileText text = some ops) :
    ops ≠ [] ∧ ∀ op ∈ ops, op.Calm ∧ op.OutsideLoop := by
  obtain ⟨steps, hsteps, hops⟩ := bind_eq_some_iff.mp h
  exact compileAll_spec (readSteps_valid hsteps) hops

/-- The compiled operations compute `loaded` and save it. -/
lemma after_compileAll : ∀ {steps : List ReadStep} {first : Bool} {ops : List OpConfig} {s : Scan},
    (∀ step ∈ steps, step.Valid) → ReadStep.compileAll first steps = some ops →
      (m.after ops s).ctx.readAddr =
        loaded (m.regOf s.ctx.reg0) m.memory first steps s.ctx.readAddr ∧
      (m.after ops s).args = saveToSubmitBuf s.args
        (loaded (m.regOf s.ctx.reg0) m.memory first steps s.ctx.readAddr) s.ctx.saveIndex ∧
      (m.after ops s).ctx.regValue =
        steps.foldl (ReadStep.loadReg (m.regOf s.ctx.reg0)) s.ctx.regValue := by
  intro steps
  induction steps with
  | nil =>
    intro first ops s _ h
    cases h
    exact ⟨rfl, rfl, rfl⟩
  | cons step steps ih =>
    intro first ops s hvalid h
    obtain ⟨hstep, hsteps⟩ := forall_mem_cons.mp hvalid
    obtain ⟨stepOps, first', rest, hcompile, hrest, rfl⟩ := ReadStep.compileAll_cons h
    obtain ⟨rfl, hkept, haddr, hreg⟩ := after_compile (m := m) (s := s) hstep hcompile
    obtain ⟨hvalue, hsaved, hregs⟩ := ih (s := m.after stepOps s) hsteps hrest
    rw [hkept.reg0, haddr] at hvalue hsaved
    rw [hkept.args, hkept.saveIndex] at hsaved
    rw [hkept.reg0, hreg] at hregs
    rw [Machine.after_append]
    exact ⟨hvalue, hsaved, hregs⟩

/-! ## Faithfulness -/

def readOpValue (reg : U32 → U64) (mem : Memory) (text : List U8) : Option U64 :=
  (readSteps text).map fun steps => follow reg mem steps 0

/-- The operations of an argument's address compute the value and save it as a record, within the
iterations that are left. -/
def SavesAddress (m : Machine) (p : PointArgs) (prog ops rest : List OpConfig)
    (budget : ℕ) (s : Scan) (value : U64) : Prop :=
  stepsOf ops ≤ budget ∧ ∃ s', m.loop p (stepsOf ops) s = .ok s' ∧ At prog s' rest ∧
    s'.ctx.readAddr = value ∧ s'.args = s.args ++ wordRecord s.ctx.saveIndex value

/-- Nothing that counts is lost at the last register.  If it is the first one, that is so when it
has no minus and nothing stands before it; if it is not, when the value in front of it happens to be
its own value; and besides when the dots behind it lead to the same word from both addresses.  An
expression without a register starts from the address that an earlier argument or event left
behind. -/
def NothingLost (reg : U32 → U64) (mem : Memory) (stale : U64) (steps : List ReadStep) : Prop :=
  match splitLast steps with
  | none => follow reg mem steps stale = follow reg mem steps 0
  | some (pre, (negative, index), post) =>
    follow reg mem post
        (if pre.any ReadStep.isReg then signed negative (reg index) (reg index) else reg index) =
      follow reg mem post (signed negative (follow reg mem pre 0) (reg index))

lemma loaded_eq_iff {reg : U32 → U64} {mem : Memory} {stale : U64} :
    loaded reg mem false steps stale = follow reg mem steps 0 ↔
      NothingLost reg mem stale steps := by
  have hspec := @splitLast_spec steps
  unfold NothingLost
  cases hsplit : splitLast steps with
  | none =>
    rw [hsplit] at hspec
    rw [loaded_noReg hspec]
  | some found =>
    obtain ⟨pre, ⟨negative, index⟩, post⟩ := found
    rw [hsplit] at hspec
    obtain ⟨rfl, hpost⟩ := hspec
    rw [loaded_split hpost, follow_append, Bool.false_or]
    rfl

lemma loop_compileText (hload : Loaded m p prog)
    (hat : At prog s (ops ++ rest)) (hblack : s.ctx.matchBlacklist = false)
    (hsteps : readSteps text = some steps) (hops : ReadStep.compileAll false steps = some ops) :
    m.loop p (stepsOf ops) s = .ok (m.after ops s) ∧ At prog (m.after ops s) rest := by
  have hcalm := (compileAll_spec (readSteps_valid hsteps) hops).2
  exact loop_runOps hload (fun op hop => (hcalm op hop).2.1) hat
    (m.runOps_calm (fun op hop => (hcalm op hop).1) hblack).1

/-- When an expression computes what it denotes.  The operations that either compiler makes of a
text save the value of the text as the argument's address if and only if nothing is lost at its last
register, the iterations suffice and the record fits the buffer; and the compilers agree. -/
theorem read_op_denotes {text : List U8} {steps : List ReadStep} {budget : ℕ}
    (hload : Loaded m p prog) (hat : At prog s (ops ++ rest))
    (hblack : s.ctx.matchBlacklist = false) (hsteps : readSteps text = some steps)
    (hops : ParseArgType.compileReadOp text = some ops ∨
      GetPointArg.compileReadOp text = some ops) :
    (ParseArgType.compileReadOp text = GetPointArg.compileReadOp text ∧
      ∃ value, readOpValue (m.regOf s.ctx.reg0) m.memory text = some value ∧
        SavesAddress m p prog ops rest budget s value) ↔
    NothingLost (m.regOf s.ctx.reg0) m.memory s.ctx.readAddr steps ∧ stepsOf ops ≤ budget ∧
      RoomForWord s.args := by
  have hcompile : ReadStep.compileAll false steps = some ops := by
    have h : compileText text = some ops := hops.elim id id
    rw [compileText, hsteps] at h
    exact h
  obtain ⟨hloop, hend⟩ := loop_compileText hload hat hblack hsteps hcompile
  obtain ⟨hvalue, hsaved, -⟩ := after_compileAll (m := m) (s := s) (readSteps_valid hsteps) hcompile
  constructor
  · rintro ⟨-, value, hdenote, hbudget, s', hrun, -, haddr, hargs⟩
    obtain rfl : m.after ops s = s' := Except.ok.inj (hloop.symm.trans hrun)
    rw [readOpValue, hsteps] at hdenote
    cases hdenote
    refine ⟨loaded_eq_iff.mp (hvalue.symm.trans haddr), hbudget, ?_⟩
    by_contra hroom
    rw [hsaved, saveToSubmitBuf_full hroom] at hargs
    exact absurd hargs (by simp [wordRecord])
  · rintro ⟨hlost, hbudget, hroom⟩
    have hsame := loaded_eq_iff.mpr hlost
    refine ⟨rfl, _, by rw [readOpValue, hsteps]; rfl, hbudget, _, hloop, hend, ?_, ?_⟩
    · rw [hvalue, hsame]
    · rw [hsaved, hsame, saveToSubmitBuf_of_room hroom]

def addressArg (ops : List OpConfig) : PointArg :=
  { regIndex := 0, type := .ptr, extraOps := ops, pointType := .uprobeEnter }

/-- A context at the start of a call. -/
def freshCtx (reg0 : U64) : OpCtx := ({ postCode := .skip } : OpCtx).prepared reg0 0

/-- `x0+x1`. -/
def sumOps : List OpConfig :=
  [addReadMoveReg 0, addReadMoveReg 1, .ofCode .addReg, .ofCode .saveAddr]

/-- For `x0 = 1` and `x1 = 5` the value of `x0+x1` is 6; what is saved is 10. -/
theorem read_op_sum_lost :
    ParseArgType.compileReadOp (ascii "x0+x1") = some sumOps ∧
    GetPointArg.compileReadOp (ascii "x0+x1") = some sumOps ∧
    let m := argsMachine [addressArg sumOps] (fun _ => none) (fun _ => 5) (fun _ => some 0)
    readOpValue (m.regOf 1) m.memory (ascii "x0+x1") = some 6 ∧
    (m.readArgs (argsPoint 64 [addressArg sumOps]) (freshCtx 1) []).args = wordRecord 0 10 := by
  decide +kernel

/-- `sp+0x20-0x8.+8`. -/
def stackOps : List OpConfig :=
  [addReadMoveReg 31, addOffsetOp 0x20, subOffsetOp 0x8, .ofCode .readPointer,
    .ofCode .movePointerValue, addOffsetOp 8, .ofCode .saveAddr]

def stackSteps : List ReadStep :=
  [.term false (.reg 31), .term false (.offset 0x20), .term true (.offset 0x8), .deref,
    .term false (.offset 8)]

/-- A machine whose registers are all `0x7000` and whose memory holds ones. -/
def stackMachine : Machine :=
  argsMachine [addressArg stackOps] (fun _ => none) (fun _ => 0x7000) (fun _ => some 1)

/-- An expression with one register, at its start, is computed faithfully. -/
theorem read_op_denotes_stack :
    ParseArgType.compileReadOp (ascii "sp+0x20-0x8.+8") =
        GetPointArg.compileReadOp (ascii "sp+0x20-0x8.+8") ∧
      ∃ value, readOpValue (stackMachine.regOf 0) stackMachine.memory
        (ascii "sp+0x20-0x8.+8") = some value ∧
        SavesAddress stackMachine (argsPoint 64 [addressArg stackOps]) stackOps stackOps [] 64
          ⟨none, freshCtx 0, []⟩ value := by
  have hload : Loaded stackMachine (argsPoint 64 [addressArg stackOps]) stackOps :=
    @loaded_args 64 [addressArg stackOps] _ _ _ (by decide) (by decide)
  have hat : At stackOps ⟨none, freshCtx 0, []⟩ (stackOps ++ []) := At.start rfl rfl
  have hsteps : readSteps (ascii "sp+0x20-0x8.+8") = some stackSteps := by decide +kernel
  have hops : ParseArgType.compileReadOp (ascii "sp+0x20-0x8.+8") = some stackOps := by
    decide +kernel
  exact (read_op_denotes hload hat rfl hsteps (.inl hops)).mpr ⟨rfl, by decide, by decide⟩

end Spz.Bpf
