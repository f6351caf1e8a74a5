import Stackplz.Bpf.ReadOp

/-!
# Accepted programs and the iterations they take

`AddPointArg` counts the entries of a point's program, `read_args` counts iterations: a fused post
code is one more, and a loop has as many rounds as a register or a word in memory says.
`accepted_program_ends` says for every accepted point when `read_args` reaches the `OP_SKIP` behind
the program: the registers of the arguments exist, and the iterations of the program, run as
`passCode` runs it, are fewer than `MAX_OP_COUNT`.
-/

namespace Spz.Bpf

open List Check Machine

/-! ## Configured arguments -/

/-- The types that can be registered: `R_BUFFER_LEN` panics above 4096, and the registers of
`R_BUFFER_REG` and `R_IOVEC_REG` come from `GetRegIndex`. -/
def ArgType.Registered : ArgType → Prop
  | .pointer target => target.Registered
  | .bufferLen len => len.toNat ≤ 4096
  | .bufferReg reg => reg.toNat < 33
  | .iovecReg reg => reg.toNat < 33
  | _ => True

/-- The arguments that `ParseArgType` and `GetPointArg` build. -/
structure PointArg.Configured (arg : PointArg) : Prop where
  address : arg.extraOps = [] ∨ ∃ text, compileText text = some arg.extraOps
  type : arg.type.Registered

/-- The register of the argument exists, as far as it is read: the interpreter keeps 8 bits of
it. -/
def PointArg.RegExists (arg : PointArg) : Prop :=
  arg.regIndex = PointArg.regMax ∨ arg.extraOps ≠ [] ∨ (arg.regIndex.setWidth 8).toNat < 33
deriving Decidable

/-- The operation can end the loop through a black list only. -/
def Machine.SafeCode (m : Machine) (op : OpConfig) (code : OpCode) : Prop :=
  op.CalmCode code ∨
    ((code = .filterValue ∨ code = .filterBuffer ∨ code = .filterString) ∧
      (m.argFilter op.value).isSome)

def Machine.Safe (m : Machine) (op : OpConfig) : Prop :=
  m.SafeCode op op.code ∧ (op.postCode = .skip ∨ m.SafeCode op op.postCode)

variable {m : Machine} {p : PointArgs} {op : OpConfig} {ops body prog : List OpConfig}
  {code : OpCode}
  {s s' : Scan} {halt : Halt} {arg : PointArg} {args : List PointArg}

lemma OpConfig.Calm.safe (h : op.Calm) : m.Safe op := ⟨.inl h.1, h.2.imp_right .inl⟩

lemma Machine.execute_safe (h : m.SafeCode op code) (herror : m.execute op code s = .error halt) :
    halt.1 = .blacklisted := by
  have hskip : code ≠ .skip := by
    rintro rfl
    rcases h with h | ⟨h | h | h, -⟩
    · exact h
    all_goals exact absurd h (by decide)
  have hperform : ∃ t, m.perform op code s = .ok t := by
    rcases h with h | ⟨h, hfilter⟩
    · exact ⟨_, (m.perform_calm h).1⟩
    · obtain ⟨filter, hfilter⟩ := Option.isSome_iff_exists.mp hfilter
      rcases h with rfl | rfl | rfl
      all_goals
        simp only [perform, filtered, hfilter]
        exact ⟨_, rfl⟩
  obtain ⟨t, ht⟩ := hperform
  rw [execute, if_neg hskip, ht] at herror
  simp only [bind, Except.bind] at herror
  split_ifs at herror
  rw [← Except.error.inj herror]

/-- The codes of an operation end the loop for such reasons only. -/
def Machine.EndsFor (m : Machine) (Q : Stop → Prop) (op : OpConfig) : Prop :=
  ∀ code, (code = op.code ∨ code = op.postCode ∧ code ≠ .skip) →
    ∀ {s : Scan} {halt : Halt}, m.execute op code s = .error halt → Q halt.1

lemma Machine.Safe.endsFor (h : m.Safe op) : m.EndsFor (· = .blacklisted) op := by
  rintro code (rfl | ⟨rfl, hskip⟩) s halt herror
  · exact m.execute_safe h.1 herror
  · exact m.execute_safe (h.2.resolve_left hskip) herror

/-- No code but `OP_SKIP` itself ends the loop for `OP_SKIP`. -/
lemma Machine.endsFor_of_plain (h : op.code ≠ .skip) : m.EndsFor (· ≠ .skip) op := by
  intro code hcode s halt herror
  have hskip : code ≠ .skip := by
    rcases hcode with rfl | ⟨-, hne⟩
    · exact h
    · exact hne
  rw [execute, if_neg hskip, bind_eq_error] at herror
  rcases herror with herror | ⟨t, -, herror⟩
  · cases code with
    | readReg =>
      simp only [perform, readReg] at herror
      split_ifs at herror
      all_goals
        rw [← Except.error.inj herror]
        simp
    | filterValue | filterBuffer | filterString =>
      simp only [perform, filtered] at herror
      split at herror
      · rw [← Except.error.inj herror]
        simp
      · exact absurd herror (by simp)
    | _ => exact absurd herror (by simp [perform])
  · split_ifs at herror
    rw [← Except.error.inj herror]
    simp

section Ends

variable {Q : Stop → Prop}

lemma Machine.runOp_ends (h : m.EndsFor Q op) (herror : m.runOp op s = .error halt) : Q halt.1 := by
  rw [runOp, bind_eq_error] at herror
  rcases herror with herror | ⟨t, -, herror⟩
  · exact h _ (.inl rfl) herror
  · split_ifs at herror with hskip
    exact h _ (.inr ⟨rfl, hskip⟩) herror

lemma Machine.runOps_ends (h : ∀ op ∈ ops, m.EndsFor Q op)
    (herror : m.runOps ops s = .error halt) : Q halt.1 := by
  induction ops generalizing s with
  | nil => exact absurd herror (by simp)
  | cons op ops ih =>
    obtain ⟨hop, hops⟩ := forall_mem_cons.mp h
    rw [runOps_cons, bind_eq_error] at herror
    rcases herror with herror | ⟨t, -, herror⟩
    · exact m.runOp_ends hop herror
    · exact ih hops herror

lemma Machine.runRound_ends (h : ∀ op ∈ body ++ [forBreakOp], m.EndsFor Q op)
    (herror : m.runRound body s = .error halt) : Q halt.1 := by
  obtain ⟨hbody, hbreak⟩ := forall_mem_append.mp h
  rw [runRound, bind_eq_error] at herror
  rcases herror with herror | ⟨t, -, herror⟩
  · exact m.runOps_ends hbody herror
  · exact m.runOp_ends (hbreak _ (by simp)) herror

lemma Machine.runLoop_ends (h : ∀ op ∈ body ++ [forBreakOp], m.EndsFor Q op) :
    ∀ {k : ℕ} {s : Scan}, m.runLoop body k s = .error halt → Q halt.1 := by
  intro k
  induction k with
  | zero =>
    intro s herror
    exact m.runRound_ends h (error_of_bind (by simp) herror)
  | succ k ih =>
    intro s herror
    rw [runLoop, bind_eq_error] at herror
    rcases herror with herror | ⟨t, -, herror⟩
    · exact m.runRound_ends h herror
    · split_ifs at herror
      exact ih (error_of_bind (by simp) herror)

/-- Why a program ends in its middle: for a reason that one of its operations has. -/
lemma Machine.runCode_ends {code : List Block} (h : ∀ op ∈ codeOps code, m.EndsFor Q op) :
    ∀ {s : Scan}, m.runCode code s = .error halt → Q halt.1 := by
  induction code with
  | nil => intro s herror; exact absurd herror (by simp [runCode])
  | cons block code ih =>
    intro s herror
    rw [codeOps_cons, forall_mem_append] at h
    rw [runCode, bind_eq_error] at herror
    rcases herror with herror | ⟨t, -, herror⟩
    · cases block with
      | op op =>
        exact m.runOp_ends (h.1 op (by simp [Block.ops])) (error_of_bind (by simp) herror)
      | loop body =>
        obtain ⟨hbreak, hbody⟩ := forall_mem_cons.mp h.1
        rw [runBlock, bind_eq_error] at herror
        rcases herror with herror | ⟨u, -, herror⟩
        · exact m.runOp_ends hbreak herror
        · exact m.runLoop_ends hbody (error_of_bind (by simp) herror)
    · exact ih h.2 (error_of_bind (by simp) herror)

end Ends

/-! ## The operations of configured arguments -/

lemma calm_code (type : ArgType) (h : type.Registered) : ∀ op ∈ codeOps type.code, op.Calm := by
  induction type with
  | pointer target ih =>
    exact forall_mem_append.mpr ⟨by decide, ih h⟩
  | struct s => cases s <;> decide
  | num kind => simp [ArgType.code]
  | array elem len =>
    exact forall_mem_singleton.mpr ⟨trivial, .inr trivial⟩
  | bufferLen len =>
    exact forall_mem_cons.mpr ⟨⟨trivial, .inl rfl⟩, by decide⟩
  | bufferReg reg =>
    refine forall_mem_cons.mpr ⟨by decide,
      forall_mem_cons.mpr ⟨⟨⟨rfl, ?_⟩, .inr trivial⟩, by decide⟩⟩
    exact lt_of_le_of_lt (by rw [BitVec.toNat_setWidth]; exact Nat.mod_le _ _) h
  | iovecReg reg =>
    refine forall_mem_cons.mpr ⟨⟨⟨rfl, ?_⟩, .inr trivial⟩, by decide⟩
    exact lt_of_le_of_lt (by rw [BitVec.toNat_setWidth]; exact Nat.mod_le _ _) h
  | _ => decide

/-- The filters of the arguments are in the map. -/
def FiltersLoaded (m : Machine) (args : List PointArg) : Prop :=
  ∀ arg ∈ args, ∀ f ∈ arg.filters, (m.argFilter (f.setWidth 64)).isSome

namespace PointArg

section

variable (haddress : arg.extraOps = [] ∨ ∃ text, compileText text = some arg.extraOps)
include haddress

lemma addressOps_outsideLoop : ∀ op ∈ arg.addressOps, op.OutsideLoop := by
  unfold addressOps
  rcases haddress with hnone | ⟨text, htext⟩
  · rw [hnone, if_neg (by simp)]
    exact forall_mem_cons.mpr
      ⟨@ArgType.outsideLoop_newValue (addReadSaveReg 0) (by decide) _, by decide⟩
  · obtain ⟨hne, hcalm⟩ := compileText_spec htext
    rw [if_pos (length_pos_iff.mpr hne)]
    exact fun op hop => (hcalm op hop).2

lemma addressOps_calm (hreg : arg.extraOps ≠ [] ∨ (arg.regIndex.setWidth 8 : U8).toNat < 33) :
    ∀ op ∈ arg.addressOps, op.Calm := by
  unfold addressOps
  rcases haddress with hnone | ⟨text, htext⟩
  · have hlt := hreg.resolve_left (not_not_intro hnone)
    rw [hnone, if_neg (by simp)]
    refine forall_mem_cons.mpr ⟨⟨⟨rfl, ?_⟩, .inr trivial⟩, by decide⟩
    show ((arg.regIndex.setWidth 64).setWidth 8 : U8).toNat < 33
    rw [BitVec.toNat_setWidth] at hlt ⊢
    rw [BitVec.toNat_setWidth]
    omega
  · obtain ⟨hne, hcalm⟩ := compileText_spec htext
    rw [if_pos (length_pos_iff.mpr hne)]
    exact fun op hop => (hcalm op hop).1

end

lemma mem_filterOps {code : OpCode} (h : op ∈ arg.filterOps code) :
    ∃ f ∈ arg.filters, op = (OpConfig.ofCode code).newValue (f.setWidth 64) := by
  obtain ⟨f, hf, rfl⟩ := mem_map.mp h
  exact ⟨f, hf, rfl⟩

lemma mem_filters (h : op ∈ arg.valueFilterOps ∨ op ∈ arg.textFilterOps) :
    ∃ code, (code = .filterValue ∨ code = .filterBuffer ∨ code = .filterString) ∧
      ∃ f ∈ arg.filters, op = (OpConfig.ofCode code).newValue (f.setWidth 64) := by
  unfold valueFilterOps textFilterOps at h
  rcases h with h | h
  · split_ifs at h
    · exact ⟨_, .inl rfl, mem_filterOps h⟩
    · exact absurd h (by simp)
  · split_ifs at h
    · exact ⟨_, .inr (.inr rfl), mem_filterOps h⟩
    · exact ⟨_, .inr (.inl rfl), mem_filterOps h⟩
    · exact absurd h (by simp)

lemma filters_outsideLoop (h : op ∈ arg.valueFilterOps ∨ op ∈ arg.textFilterOps) :
    op.OutsideLoop := by
  obtain ⟨code, hcode, f, -, rfl⟩ := mem_filters h
  rcases hcode with rfl | rfl | rfl
  all_goals exact ArgType.outsideLoop_newValue (by decide) _

lemma code_wellPlaced (h : arg.Configured) : ∀ block ∈ arg.code, block.WellPlaced := by
  unfold code
  split_ifs
  · simp
  all_goals
    refine forall_mem_append.mpr ⟨forall_mem_append.mpr
      ⟨ArgType.wellPlaced_ops (addressOps_outsideLoop h.address),
        ArgType.wellPlaced_ops fun op hop => filters_outsideLoop (.inl hop)⟩, ?_⟩
  · exact forall_mem_append.mpr ⟨arg.type.code_wellPlaced,
      ArgType.wellPlaced_ops fun op hop => filters_outsideLoop (.inr hop)⟩
  · simp

lemma code_safe (h : arg.Configured) (hreg : arg.RegExists) (hfilters : FiltersLoaded m [arg]) :
    ∀ op ∈ codeOps arg.code, m.Safe op := by
  have hfilter : ∀ op, op ∈ arg.valueFilterOps ∨ op ∈ arg.textFilterOps → m.Safe op := by
    intro op hop
    obtain ⟨code, hcode, f, hf, rfl⟩ := mem_filters hop
    exact ⟨.inr ⟨hcode, hfilters arg (by simp) f hf⟩, .inl rfl⟩
  unfold code
  split_ifs with hmax
  · simp
  all_goals
    simp only [codeOps_append, codeOps_map_op, forall_mem_append]
    refine ⟨⟨fun op hop => (addressOps_calm h.address (hreg.resolve_left hmax) op hop).safe,
      fun op hop => hfilter op (.inl hop)⟩, ?_⟩
  · exact ⟨fun op hop => (calm_code _ h.type op hop).safe, fun op hop => hfilter op (.inr hop)⟩
  · simp

lemma runCode_of_not_regExists (hreg : ¬ arg.RegExists) (s : Scan) :
    ∃ halt, m.runCode arg.code s = .error halt := by
  unfold RegExists at hreg
  push Not at hreg
  obtain ⟨hmax, hextra, hlarge⟩ := hreg
  have hread : m.runOp (addReadSaveReg (arg.regIndex.setWidth 64)) s =
      .error (.badRegister, { s.fetched (addReadSaveReg (arg.regIndex.setWidth 64)) with
        ctx := { (s.fetched (addReadSaveReg (arg.regIndex.setWidth 64))).ctx with
          regIndex := (arg.regIndex.setWidth 64).setWidth 8 } }) := by
    have hlarge : ((arg.regIndex.setWidth 64).setWidth 8 : U8).toNat ≥ 33 := by
      rw [BitVec.toNat_setWidth] at hlarge ⊢
      rw [BitVec.toNat_setWidth]
      omega
    rw [runOp, bind_eq_error, execute, if_neg (by simp [addReadSaveReg]), bind_eq_error]
    refine .inl (.inl ?_)
    exact if_pos hlarge
  rw [code, if_neg hmax, addressOps, if_neg (by simp [hextra]), map_cons, cons_append,
    cons_append, runCode, runBlock, hread]
  exact ⟨_, rfl⟩

end PointArg

lemma Machine.runCode_append_ok {code code' : List Block} :
    ∀ {s : Scan} {c : ℕ}, m.runCode (code ++ code') s = .ok (c, s') →
      ∃ d t, m.runCode code s = .ok (d, t) ∧ ∃ e, m.runCode code' t = .ok (e, s') := by
  induction code with
  | nil => intro s c h; exact ⟨0, s, rfl, c, h⟩
  | cons block code ih =>
    intro s c h
    rw [cons_append, runCode, bind_eq_ok] at h
    obtain ⟨⟨d, t⟩, hblock, h⟩ := h
    rw [bind_eq_ok] at h
    obtain ⟨⟨e, u⟩, hrest, heq⟩ := h
    cases heq
    obtain ⟨d', t', hcode, hcode'⟩ := ih hrest
    refine ⟨d + d', t', ?_, hcode'⟩
    rw [runCode, hblock]
    show (m.runCode code t >>= _) = _
    rw [hcode]
    rfl

lemma regExists_of_runCode : ∀ {args : List PointArg} {s : Scan} {c : ℕ},
    m.runCode (argsCode args) s = .ok (c, s') → ∀ arg ∈ args, arg.RegExists := by
  intro args
  induction args with
  | nil => simp
  | cons arg args ih =>
    intro s c h
    rw [argsCode, flatMap_cons] at h
    obtain ⟨d, t, harg, e, hargs⟩ := m.runCode_append_ok h
    refine forall_mem_cons.mpr ⟨?_, ih hargs⟩
    by_contra hreg
    obtain ⟨halt, hhalt⟩ := PointArg.runCode_of_not_regExists (m := m) hreg s
    rw [hhalt] at harg
    exact absurd harg (by simp)

lemma argsCode_wellPlaced (h : ∀ arg ∈ args, arg.Configured) :
    ∀ block ∈ argsCode args, block.WellPlaced := by
  intro block hblock
  obtain ⟨arg, harg, hmem⟩ := mem_flatMap.mp hblock
  exact PointArg.code_wellPlaced (h arg harg) block hmem

lemma argsOps_safe (h : ∀ arg ∈ args, arg.Configured) (hreg : ∀ arg ∈ args, arg.RegExists)
    (hfilters : FiltersLoaded m args) : ∀ op ∈ codeOps (argsCode args), m.Safe op := by
  intro op hop
  rw [codeOps_argsCode] at hop
  obtain ⟨arg, harg, hmem⟩ := mem_flatMap.mp hop
  exact PointArg.code_safe (h arg harg) (hreg arg harg)
    (forall_mem_singleton.mpr (hfilters arg harg)) op hmem

/-- The operations of a program stand where they may, so none is `OP_SKIP`. -/
lemma codeOps_ne_skip {code : List Block} (h : ∀ block ∈ code, block.WellPlaced) :
    ∀ op ∈ codeOps code, op.code ≠ .skip := by
  intro op hop
  obtain ⟨block, hblock, hmem⟩ := mem_flatMap.mp hop
  have hplaced := h block hblock
  cases block with
  | op o =>
    obtain rfl := mem_singleton.mp hmem
    exact hplaced.1.1.1
  | loop body =>
    rcases mem_cons.mp hmem with rfl | hmem
    · decide
    rcases mem_append.mp hmem with hmem | hmem
    · exact (hplaced op hmem).1.1.1
    · obtain rfl := mem_singleton.mp hmem
      decide

/-! ## Calls -/

/-- A post code that a call cut short can leave behind, or the zero of fresh memory. -/
def OpCode.Leftover (code : OpCode) : Prop :=
  code = .skip ∨ skipOp.CalmCode code ∧ code.OutsideLoop

/-- The iteration that a pending post code takes. -/
def OpCtx.pending (ctx : OpCtx) : ℕ := if ctx.postCode = .skip then 0 else 1

/-- The variables of a call once the pending post code is done. -/
def Machine.settled (m : Machine) (ctx : OpCtx) (buf : List U8) : Scan :=
  let s : Scan := { op := some skipOp, ctx := ctx, args := buf }
  if ctx.postCode = .skip then s else m.effect skipOp ctx.postCode s.posted

/-- The pending post code takes its iteration, and the program starts. -/
lemma loop_settled (prog : List OpConfig) {ctx : OpCtx} (buf : List U8)
    (hctx : ctx.postCode.Leftover) (hindex : ctx.opKeyIndex = 0) (hcount : ctx.loopCount = 0)
    (hblack : ctx.matchBlacklist = false) :
    m.loop p ctx.pending { op := some skipOp, ctx := ctx, args := buf } = .ok (m.settled ctx buf) ∧
      At prog (m.settled ctx buf) prog ∧ (m.settled ctx buf).ctx.loopCount = 0 ∧
      (m.settled ctx buf).ctx.matchBlacklist = false := by
  unfold OpCtx.pending settled
  by_cases hskip : ctx.postCode = .skip
  · rw [if_pos hskip, if_pos hskip]
    exact ⟨rfl, At.start hindex hskip, hcount, hblack⟩
  · rw [if_neg hskip, if_neg hskip]
    obtain ⟨hcalm, houtside⟩ := hctx.resolve_left hskip
    set s : Scan := { op := some skipOp, ctx := ctx, args := buf } with hs
    obtain ⟨hexec, hblack'⟩ := m.execute_calm (s := s.posted) hcalm hblack
    have hcourse := m.execute_course ⟨hskip, houtside.1⟩ hexec
    have hstep : m.step p s = .ok (m.effect skipOp ctx.postCode s.posted) := by
      rw [step_post (show s.op = some skipOp from rfl) hskip]
      exact hexec
    have hloop := m.perform_loopCount houtside ((m.execute_ok_iff hskip).mp hexec).1
    exact ⟨Budget.run_one hstep, At.start (hcourse.index.trans hindex) hcourse.post,
      hloop.trans hcount, hblack'⟩

lemma Result.of_skip_iff {r : Except Halt Scan} :
    (Result.of r).ending = .stopped .skip ↔ ∃ t, r = .error (.skip, t) := by
  cases r with
  | ok s => simp [Result.of]
  | error halt =>
    obtain ⟨stop, t⟩ := halt
    cases stop <;> simp [Result.of]

/-- When an accepted program runs to its end.  For every point that the configuration accepts, all
registers and all memory: unless a black list ends it, `read_args` stops at the `OP_SKIP` behind the
program if and only if the registers of the arguments exist and the iterations of the program, with
the one of a pending post code, are fewer than `MAX_OP_COUNT`. -/
theorem accepted_program_ends {kind : PointKind} {table : OpTable} {ctx : OpCtx} {buf : List U8}
    {reg0 : U64} {saveIndex : U8} (hargs : ∀ arg ∈ args, arg.Configured)
    (hfilters : FiltersLoaded m args) (htable : ∀ op ∈ argsOps args, op ∈ table.ops)
    (hops : m.opList = table.opList) (hconfig : getConfig table kind.maxOpCount args = some p)
    (hctx : ctx.postCode.Leftover)
    (hblack : (m.readArgs p (ctx.prepared reg0 saveIndex) buf).ending ≠ .stopped .blacklisted) :
    (m.readArgs p (ctx.prepared reg0 saveIndex) buf).ending = .stopped .skip ↔
      (∀ arg ∈ args, arg.RegExists) ∧
        ctx.pending + (m.passCode (argsCode args)
          (m.settled (ctx.prepared reg0 saveIndex) buf)).1 < kind.maxOpCount := by
  have hpos : 0 < kind.maxOpCount := by cases kind <;> decide
  have hload := loaded_program hpos htable hconfig hops
  have hmax : p.maxOp = kind.maxOpCount := by rw [((getConfig_iff hpos).mp hconfig).2]
  have hplaced := argsCode_wellPlaced hargs
  obtain ⟨hpending, hat, hcount, hsblack⟩ := loop_settled (m := m) (p := p) (argsOps args) buf
    (show (ctx.prepared reg0 saveIndex).postCode.Leftover from hctx) rfl rfl rfl
  have hat' : At (argsOps args) (m.settled (ctx.prepared reg0 saveIndex) buf)
      (codeOps (argsCode args) ++ []) := by
    rw [append_nil, codeOps_argsCode]
    exact hat
  rw [readArgs, hload.zero] at hblack ⊢
  rw [Result.of_skip_iff]
  cases hrun : m.runCode (argsCode args) (m.settled (ctx.prepared reg0 saveIndex) buf) with
  | ok done =>
    obtain ⟨c, t⟩ := done
    obtain ⟨hloop, hend, -, -⟩ := loop_runCode hload hplaced hat' hcount hsblack hrun
    rw [m.passCode_of_runCode hplaced hrun, ← hmax]
    have hall := Budget.run_trans hpending hloop
    have hstop : ∀ e, m.loop p p.maxOp _ = .error e ↔ _ :=
      fun e => Budget.run_eq_error_iff hall (hend.step_end hload)
    constructor
    · rintro ⟨u, hu⟩
      exact ⟨regExists_of_runCode hrun, ((hstop _).mp hu).1⟩
    · rintro ⟨-, hlt⟩
      exact ⟨_, (hstop _).mpr ⟨hlt, rfl⟩⟩
  | error halt =>
    have hloop := (Budget.run_add_of_ok hpending _).trans
      (loop_runCode_error hload hplaced hat' hcount hsblack hrun)
    have hskip : halt.1 ≠ .skip := m.runCode_ends
      (fun op hop => m.endsFor_of_plain (codeOps_ne_skip hplaced op hop)) hrun
    constructor
    · rintro ⟨u, hu⟩
      exact absurd (congrArg Prod.fst (Budget.run_error_unique hloop hu)) hskip
    · rintro ⟨hreg, hlt⟩
      have hlisted : halt.1 = .blacklisted := m.runCode_ends
        (fun op hop => (argsOps_safe hargs hreg hfilters op hop).endsFor) hrun
      refine absurd ?_ hblack
      have hcall : m.loop p p.maxOp _ = .error halt :=
        Budget.run_error_mono hloop (by rw [hmax]; exact hlt.le)
      obtain ⟨stop, t⟩ := halt
      obtain rfl : stop = .blacklisted := hlisted
      rw [hcall]
      rfl

def numberArg (reg : U32) : PointArg :=
  { regIndex := reg, type := .num .int, pointType := .uprobeEnter }

/-- Twenty-two registers are 44 entries of 64, but 66 iterations: the last one is cut off. -/
def manyArgs : List PointArg := (List.range 22).map fun i => numberArg (BitVec.ofNat 32 i)

theorem accepted_program_cut :
    (getConfig (argsTable manyArgs) PointKind.uprobe.maxOpCount manyArgs).isSome ∧
    let m := argsMachine manyArgs (fun _ => none) (fun _ => 0) (fun _ => none)
    (m.readArgs (argsPoint 64 manyArgs) (freshCtx 0) []).ending = .budget := by
  decide +kernel

/-- A single number in a register runs to its end. -/
theorem accepted_program_ends_number :
    ((argsMachine [numberArg 1] (fun _ => none) (fun _ => 0) (fun _ => none)).readArgs
      (argsPoint 64 [numberArg 1]) (freshCtx 0) []).ending = .stopped .skip := by
  have hconfig : getConfig (argsTable [numberArg 1]) PointKind.uprobe.maxOpCount [numberArg 1] =
      some (argsPoint 64 [numberArg 1]) := by
    rw [argsPoint, (getConfig_iff (by decide)).mpr ⟨by decide, rfl⟩]
    rfl
  have hargs : ∀ arg ∈ [numberArg 1], arg.Configured := forall_mem_singleton.mpr ⟨.inl rfl, trivial⟩
  have hblack : ((argsMachine [numberArg 1] (fun _ => none) (fun _ => 0) (fun _ => none)).readArgs
      (argsPoint 64 [numberArg 1]) (({ postCode := .skip } : OpCtx).prepared 0 0) []).ending ≠
        .stopped .blacklisted := by decide +kernel
  refine (accepted_program_ends hargs ?_ (by decide) rfl hconfig (by exact .inl rfl) hblack).mpr ?_
  · exact forall_mem_singleton.mpr (by simp [numberArg])
  · exact ⟨by decide, by decide +kernel⟩

end Spz.Bpf
