import Stackplz.Bpf.ScalarArgs
import Stackplz.Bpf.AnyValue

/-!
# Filters on values

`OP_FILTER_VALUE` of `src/utils.h`, for the filters `eq`, `gt` and `lt` of
`user/config/config_filter.go` and where `GetOpList` puts them: behind the operations that make the
address of an argument.

The operation compares a register, and it lets a value through that is less than the operand of `gt`
or greater than the operand of `lt`.  For an argument that is a register, the register is what is
recorded; for a `read_op` expression it is the last register of the expression, while what is
recorded is the value of the expression.  `value_filters_mean_iff` says for which arguments the
filters still mean what the documentation says, whatever registers and memory hold.
-/

namespace Spz.Bpf

open List Check PointArg

/-! ## What a filter lets through -/

namespace ArgFilter

def Meets (filter : ArgFilter) (value : U64) : Prop :=
  match filter.filterType with
  | .equal => value = filter.numVal
  | .greater => value > filter.numVal
  | .less => value < filter.numVal
  | _ => True

/-- The filter as `OP_FILTER_VALUE` applies it to the register. -/
def Passes (filter : ArgFilter) (regValue : U64) : Prop :=
  match filter.filterType with
  | .equal => regValue = filter.numVal
  | .greater => regValue < filter.numVal
  | .less => regValue > filter.numVal
  | _ => True

/-- One of `eq`, `gt` and `lt`. -/
def Compares (filter : ArgFilter) : Prop :=
  filter.filterType = .equal ∨ filter.filterType = .greater ∨ filter.filterType = .less

end ArgFilter

variable {filter : ArgFilter}

variable {ctx : OpCtx} {value : U64} {address : Option (List ReadStep)}

lemma OpCtx.filterValue_of_passes
    (h : filter.Passes ctx.regValue) : ctx.filterValue filter = ctx := by
  unfold ArgFilter.Passes at h
  unfold OpCtx.filterValue
  cases hkind : filter.filterType with
  | equal =>
    rw [hkind] at h
    exact if_neg (not_not_intro h.symm)
  | greater | less =>
    rw [hkind] at h
    exact if_neg (BitVec.not_le.mpr h)
  | _ => rfl

lemma OpCtx.filterValue_of_not_passes
    (h : ¬ filter.Passes ctx.regValue) : (ctx.filterValue filter).matchBlacklist = true := by
  unfold ArgFilter.Passes at h
  unfold OpCtx.filterValue
  cases hkind : filter.filterType with
  | equal =>
    rw [hkind] at h
    exact congrArg OpCtx.matchBlacklist (if_pos (Ne.symm h))
  | greater | less =>
    rw [hkind] at h
    exact congrArg OpCtx.matchBlacklist (if_pos (BitVec.not_lt.mp h))
  | _ =>
    rw [hkind] at h
    exact absurd trivial h

/-- The filters of an argument, in the map `arg_filter`. -/
def PointArg.filtersIn (arg : PointArg) (table : U64 → Option ArgFilter) : List ArgFilter :=
  arg.filters.filterMap fun f => table (f.setWidth 64)

def AllMeet (filters : List ArgFilter) (value : U64) : Prop :=
  ∀ filter ∈ filters, filter.Meets value

def AllPass (filters : List ArgFilter) (value : U64) : Prop :=
  ∀ filter ∈ filters, filter.Passes value

variable {m : Machine} {s s' : Scan} {arg : PointArg} {filters : List ArgFilter}

/-- `OP_FILTER_VALUE` goes on exactly if its filter lets the register value pass. -/
lemma runOp_filterValue (hfilter : m.argFilter value = some filter)
    (hblack : s.ctx.matchBlacklist = false) :
    m.runOp ((OpConfig.ofCode .filterValue).newValue value) s = .ok s' ↔
      filter.Passes s.ctx.regValue ∧
      s' = s.fetched ((OpConfig.ofCode .filterValue).newValue value) := by
  set op := (OpConfig.ofCode .filterValue).newValue value with hop
  have hperform : m.perform op .filterValue (s.fetched op) =
      .ok { s.fetched op with ctx := (s.fetched op).ctx.filterValue filter } := by
    show m.filtered op _ _ = _
    rw [Machine.filtered, show op.value = value from rfl, hfilter]
  have hrun : m.runOp op s = .ok s' ↔ m.execute op .filterValue (s.fetched op) = .ok s' := by
    rw [Machine.runOp, bind_eq_ok]
    constructor
    · rintro ⟨t, ht, heq⟩
      rw [← Except.ok.inj heq]
      exact ht
    · intro h
      exact ⟨s', h, rfl⟩
  rw [hrun, m.execute_ok_iff (by decide), hperform]
  by_cases hpass : filter.Passes s.ctx.regValue
  · have hsame : (s.fetched op).ctx.filterValue filter = (s.fetched op).ctx :=
      OpCtx.filterValue_of_passes hpass
    rw [hsame]
    constructor
    · rintro ⟨heq, -⟩
      exact ⟨hpass, (Except.ok.inj heq).symm⟩
    · rintro ⟨-, rfl⟩
      exact ⟨rfl, hblack⟩
  · constructor
    · rintro ⟨heq, hfalse⟩
      rw [← Except.ok.inj heq] at hfalse
      have htrue : ((s.fetched op).ctx.filterValue filter).matchBlacklist = true :=
        OpCtx.filterValue_of_not_passes hpass
      rw [hfalse] at htrue
      cases htrue
    · exact fun h => absurd h.1 hpass

lemma runOps_filterValue {fs : List U32} (hfound : ∀ f ∈ fs, (m.argFilter (f.setWidth 64)).isSome)
    (hblack : s.ctx.matchBlacklist = false) :
    (∃ s', m.runOps (fs.map fun v => (OpConfig.ofCode .filterValue).newValue (v.setWidth 64)) s =
        .ok s') ↔ AllPass (fs.filterMap fun f => m.argFilter (f.setWidth 64)) s.ctx.regValue := by
  induction fs generalizing s with
  | nil => exact ⟨fun _ => nofun, fun _ => ⟨s, rfl⟩⟩
  | cons f fs ih =>
    obtain ⟨hf, hfs⟩ := forall_mem_cons.mp hfound
    obtain ⟨filter, hfilter⟩ := Option.isSome_iff_exists.mp hf
    rw [filterMap_cons, hfilter, AllPass, forall_mem_cons, map_cons]
    simp only [Machine.runOps_cons, bind_eq_ok, runOp_filterValue hfilter hblack]
    constructor
    · rintro ⟨s', t, ⟨hpass, rfl⟩, hrest⟩
      exact ⟨hpass, (ih (s := s.fetched _) hfs hblack).mp ⟨s', hrest⟩⟩
    · rintro ⟨hpass, hrest⟩
      obtain ⟨s', hs'⟩ := (ih (s := s.fetched _) hfs hblack).mpr hrest
      exact ⟨s', _, ⟨hpass, rfl⟩, hs'⟩

/-! ## What is recorded and what is compared -/

/-- How the address of an argument was given: by its register, or by an expression. -/
def PointArg.AddressedBy (arg : PointArg) : Option (List ReadStep) → Prop
  | none => arg.extraOps = [] ∧ arg.regIndex.toNat < 33
  | some steps =>
    (∃ text, readSteps text = some steps) ∧ ReadStep.compileAll false steps = some arg.extraOps

lemma PointArg.AddressedBy.addressed (h : arg.AddressedBy address)
    (hmax : arg.regIndex ≠ regMax) : arg.Addressed where
  reg := hmax
  address := by
    cases address with
    | none => exact .inl h
    | some steps =>
      obtain ⟨⟨text, htext⟩, hcompile⟩ := h
      exact .inr ⟨text, by rw [compileText, htext]; exact hcompile⟩

/-- The operations of the address have saved this word for the argument. -/
def Machine.Records (m : Machine) (arg : PointArg) (s : Scan) (value : U64) : Prop :=
  (m.after arg.addressOps s).args = s.args ++ wordRecord s.ctx.saveIndex value

lemma records_iff (h : arg.Addressed) :
    m.Records arg s value ↔ RoomForWord s.args ∧ m.address s.ctx.reg0 arg s = value := by
  rw [Machine.Records, (after_addressOps_saved h).1]
  by_cases hroom : RoomForWord s.args
  · rw [saveToSubmitBuf_of_room hroom, append_right_inj, wordRecord, wordRecord, cons_eq_cons]
    constructor
    · rintro ⟨-, hbytes⟩
      have := congrArg (leWord 64) hbytes
      rw [leWord_leBytes (by decide), leWord_leBytes (by decide)] at this
      exact ⟨hroom, this⟩
    · rintro ⟨-, hvalue⟩
      exact ⟨rfl, by rw [hvalue]⟩
  · rw [saveToSubmitBuf_full hroom]
    refine ⟨fun h => absurd h (by simp [wordRecord]), fun h => absurd h.1 hroom⟩

/-- The event passes the value filters of the argument: `read_args` gets behind them. -/
def Machine.PassesFilters (m : Machine) (arg : PointArg) (s : Scan) : Prop :=
  ∃ s', m.runOps (arg.addressOps ++ arg.valueFilterOps) s = .ok s'

lemma passesFilters_iff (haddr : arg.Addressed) (htext : arg.isText = false)
    (hbuffer : arg.isBuffer = false)
    (hfound : ∀ f ∈ arg.filters, (m.argFilter (f.setWidth 64)).isSome)
    (hblack : s.ctx.matchBlacklist = false) :
    m.PassesFilters arg s ↔
      AllPass (arg.filtersIn m.argFilter) (m.after arg.addressOps s).ctx.regValue := by
  obtain ⟨hrun, hblack'⟩ := m.runOps_calm (addressOps_calm (haddr.address.imp_left And.left)
    (haddr.regExists.resolve_left haddr.reg)) hblack
  have hops : arg.valueFilterOps = arg.filterOps .filterValue := by
    simp [valueFilterOps, htext, hbuffer]
  rw [Machine.PassesFilters, Machine.runOps_append, hrun, hops]
  exact runOps_filterValue hfound hblack'

/-- What `OP_FILTER_VALUE` compares: the register, or the last register of the expression. -/
def comparedValue (reg : U32 → U64) (stale : U64) (regIndex : U32) : Option (List ReadStep) → U64
  | none => reg regIndex
  | some steps => steps.foldl (ReadStep.loadReg reg) stale

def recordedValue (reg : U32 → U64) (mem : Memory) (stale : U64) (regIndex : U32) :
    Option (List ReadStep) → U64
  | none => reg regIndex
  | some steps => loaded reg mem false steps stale

lemma address_values (h : arg.AddressedBy address) :
    (m.after arg.addressOps s).ctx.regValue =
        comparedValue (m.regOf s.ctx.reg0) s.ctx.regValue arg.regIndex address ∧
      m.address s.ctx.reg0 arg s =
        recordedValue (m.regOf s.ctx.reg0) m.memory s.ctx.readAddr arg.regIndex address := by
  cases address with
  | none =>
    obtain ⟨hnone, hlt⟩ := h
    rw [addressOps, Machine.address, hnone, if_neg (by simp), if_pos rfl]
    exact ⟨(m.afterOp_addReadSaveReg hlt).2, rfl⟩
  | some steps =>
    obtain ⟨⟨text, htext⟩, hcompile⟩ := h
    have hvalid := readSteps_valid htext
    have hne := (compileAll_spec hvalid hcompile).1
    obtain ⟨hvalue, -, hregs⟩ := after_compileAll (m := m) (s := s) hvalid hcompile
    rw [addressOps, Machine.address, if_pos (length_pos_iff.mpr hne), if_neg hne]
    exact ⟨hregs, hvalue⟩

/-! ## The claim of the documentation, and when it holds -/

/-- Whatever registers and memory hold, an event passes the filters of the argument exactly if the
value that is recorded for it meets them. -/
def PointArg.FiltersMean (arg : PointArg) (table : U64 → Option ArgFilter) : Prop :=
  ∀ (m : Machine) (s : Scan) (value : U64), m.argFilter = table → s.ctx.matchBlacklist = false →
    m.Records arg s value → (m.PassesFilters arg s ↔ AllMeet (arg.filtersIn table) value)

/-- No value meets all filters, neither as documented nor with `gt` and `lt` exchanged. -/
def Unsatisfiable (filters : List ArgFilter) : Prop :=
  ∀ value, ¬ AllMeet filters value ∧ ¬ AllPass filters value

/-- The arguments whose filters mean what is documented: a register, if all filters are `eq`; an
expression that reads memory behind its last register, or has no register, if there are no filters;
an expression of one register and offsets if the offsets happen to lead from the values that pass to
those that meet the filters.  And all arguments whose filters let nothing through either way. -/
def Meant (filters : List ArgFilter) : Option (List ReadStep) → Prop
  | none => (∀ filter ∈ filters, filter.filterType = .equal) ∨ Unsatisfiable filters
  | some steps =>
    match splitLast steps with
    | none => filters = [] ∨ Unsatisfiable filters
    | some (pre, (negative, _), post) =>
      if .deref ∈ post then filters = [] ∨ Unsatisfiable filters
      else ∀ value, AllPass filters value ↔ AllMeet filters
        (shifted post (if pre.any ReadStep.isReg then signed negative value value else value))

/-! ## Filters and numbers -/

section Numbers

variable (hcompares : ∀ filter ∈ filters, filter.Compares)

lemma ArgFilter.Compares.exists_not_passes {filter : ArgFilter} (h : filter.Compares) :
    ∃ value, ¬ filter.Passes value := by
  unfold ArgFilter.Passes
  rcases h with h | h | h <;> rw [h]
  · exact ⟨filter.numVal + 1, by simp⟩
  · refine ⟨BitVec.allOnes 64, BitVec.not_lt.mpr (BitVec.le_def.mpr ?_)⟩
    rw [BitVec.toNat_allOnes]
    exact Nat.le_sub_one_of_lt filter.numVal.isLt
  · exact ⟨0, BitVec.not_lt.mpr (BitVec.le_def.mpr (Nat.zero_le _))⟩

/-- What is let through by a filter that is not `eq` does not meet it. -/
lemma ArgFilter.Compares.not_meets {filter : ArgFilter} {value : U64} (h : filter.Compares)
    (hequal : filter.filterType ≠ .equal) (hpass : filter.Passes value) : ¬ filter.Meets value := by
  unfold ArgFilter.Passes at hpass
  unfold ArgFilter.Meets
  rcases h.resolve_left hequal with h | h <;> rw [h] at hpass ⊢
  all_goals exact BitVec.not_lt.mpr (BitVec.le_of_lt hpass)

lemma allPass_iff_of_equal (h : ∀ filter ∈ filters, filter.filterType = .equal) (value : U64) :
    AllPass filters value ↔ AllMeet filters value := by
  refine forall₂_congr fun filter hfilter => ?_
  rw [ArgFilter.Passes, ArgFilter.Meets, h filter hfilter]

lemma Unsatisfiable.iff (h : Unsatisfiable filters) (value value' : U64) :
    AllPass filters value ↔ AllMeet filters value' :=
  iff_of_false (h value).2 (h value').1

include hcompares

lemma passes_iff_meets :
    (∀ value, AllPass filters value ↔ AllMeet filters value) ↔
      (∀ filter ∈ filters, filter.filterType = .equal) ∨ Unsatisfiable filters := by
  constructor
  · intro h
    by_cases hequal : ∀ filter ∈ filters, filter.filterType = .equal
    · exact .inl hequal
    · push Not at hequal
      obtain ⟨filter, hfilter, hkind⟩ := hequal
      have hnone : ∀ value, ¬ AllPass filters value := by
        intro value hpass
        exact (hcompares filter hfilter).not_meets hkind (hpass filter hfilter)
          ((h value).mp hpass filter hfilter)
      exact .inr fun value => ⟨fun hmeet => hnone value ((h value).mpr hmeet), hnone value⟩
  · rintro (hequal | hunsat) value
    · exact allPass_iff_of_equal hequal value
    · exact hunsat.iff value value

lemma free_of_independent (hleft : ∃ c, ∀ value, AllPass filters value ↔ AllMeet filters c)
    (hright : ∀ value', ∃ value, AllPass filters value ↔ AllMeet filters value') :
    filters = [] ∨ Unsatisfiable filters := by
  by_cases hempty : filters = []
  · exact .inl hempty
  · obtain ⟨filter, hfilter⟩ := exists_mem_of_ne_nil _ hempty
    obtain ⟨bad, hbad⟩ := (hcompares filter hfilter).exists_not_passes
    obtain ⟨c, hc⟩ := hleft
    have hnone : ∀ value, ¬ AllPass filters value := by
      intro value hpass
      exact hbad ((hc bad).mpr ((hc value).mp hpass) filter hfilter)
    refine .inr fun value' => ⟨fun hmeet => ?_, hnone value'⟩
    obtain ⟨value, hvalue⟩ := hright value'
    exact hnone value (hvalue.mpr hmeet)

end Numbers

lemma passes_iff_of_free (h : filters = [] ∨ Unsatisfiable filters) (value value' : U64) :
    AllPass filters value ↔ AllMeet filters value' := by
  rcases h with rfl | hunsat
  · exact iff_of_true nofun nofun
  · exact hunsat.iff value value'

/-! ## When the filters mean what is documented -/

section Meaning

variable {table : U64 → Option ArgFilter}

/-- A machine whose registers all hold one value. -/
def uniformMachine (table : U64 → Option ArgFilter) (value : U64) (mem : Memory) : Machine where
  opList _ := none
  argFilter := table
  regs _ := value
  memory := mem

/-- The interpreter at the beginning of an argument, with what earlier ones have left. -/
def staleScan (value regValue readAddr : U64) : Scan where
  op := none
  ctx := { regValue := regValue, readAddr := readAddr, reg0 := value }
  args := []

lemma regOf_uniformMachine (value : U64) (mem : Memory) :
    (uniformMachine table value mem).regOf value = fun _ => value := by
  funext index
  exact ite_self value

variable (haddr : arg.AddressedBy address) (hmax : arg.regIndex ≠ regMax)
  (htext : arg.isText = false) (hbuffer : arg.isBuffer = false)
  (hfound : ∀ f ∈ arg.filters, (table (f.setWidth 64)).isSome)

include haddr hmax htext hbuffer hfound

lemma filtersMean_of_values
    (h : ∀ reg mem regValue readAddr,
      AllPass (arg.filtersIn table) (comparedValue reg regValue arg.regIndex address) ↔
        AllMeet (arg.filtersIn table) (recordedValue reg mem readAddr arg.regIndex address)) :
    arg.FiltersMean table := by
  rintro m s value rfl hblack hrecords
  obtain ⟨-, rfl⟩ := (records_iff (haddr.addressed hmax)).mp hrecords
  rw [passesFilters_iff (haddr.addressed hmax) htext hbuffer hfound hblack,
    (address_values haddr).1, (address_values haddr).2]
  exact h ..

lemma PointArg.FiltersMean.values (h : arg.FiltersMean table) (value regValue readAddr : U64)
    (mem : Memory) :
    AllPass (arg.filtersIn table) (comparedValue (fun _ => value) regValue arg.regIndex address) ↔
      AllMeet (arg.filtersIn table)
        (recordedValue (fun _ => value) mem readAddr arg.regIndex address) := by
  have hroom : RoomForWord (staleScan value regValue readAddr).args := show RoomForWord [] by decide
  have hmean := h (uniformMachine table value mem) (staleScan value regValue readAddr) _ rfl rfl
    ((records_iff (haddr.addressed hmax)).mpr ⟨hroom, rfl⟩)
  rw [passesFilters_iff (haddr.addressed hmax) htext hbuffer hfound rfl, (address_values haddr).1,
    (address_values haddr).2] at hmean
  have hregs : (uniformMachine table value mem).regOf value = fun _ => value :=
    regOf_uniformMachine value mem
  rw [show (staleScan value regValue readAddr).ctx.reg0 = value from rfl, hregs] at hmean
  exact hmean

end Meaning

/-- When value filters mean what is documented.  The operations of an argument fit a program, of
which there is room for 256. -/
theorem value_filters_mean_iff {table : U64 → Option ArgFilter} {address : Option (List ReadStep)}
    (haddr : arg.AddressedBy address) (hmax : arg.regIndex ≠ regMax)
    (hops : arg.extraOps.length ≤ 256) (htext : arg.isText = false) (hbuffer : arg.isBuffer = false)
    (hfound : ∀ f ∈ arg.filters, (table (f.setWidth 64)).isSome)
    (hcompares : ∀ filter ∈ arg.filtersIn table, filter.Compares) :
    arg.FiltersMean table ↔ Meant (arg.filtersIn table) address := by
  have hvalues : arg.FiltersMean table → ∀ value regValue readAddr mem,
      AllPass (arg.filtersIn table) (comparedValue (fun _ => value) regValue arg.regIndex address) ↔
        AllMeet (arg.filtersIn table)
          (recordedValue (fun _ => value) mem readAddr arg.regIndex address) :=
    fun h => h.values haddr hmax htext hbuffer hfound
  have hmean := filtersMean_of_values haddr hmax htext hbuffer hfound
  cases address with
  | none =>
    rw [Meant, ← passes_iff_meets hcompares]
    exact ⟨fun h value => hvalues h value 0 0 (fun _ => none), fun h => hmean fun reg _ _ _ => h _⟩
  | some steps =>
    have hlength : steps.length < 2 ^ 60 :=
      lt_of_le_of_lt ((length_le_compileAll haddr.2).trans hops) (by decide)
    have hspec := @splitLast_spec steps
    rw [Meant]
    cases hsplit : splitLast steps with
    | none =>
      rw [hsplit] at hspec
      simp only [comparedValue, recordedValue, foldl_loadReg_noReg hspec,
        loaded_noReg hspec] at hvalues hmean
      refine ⟨fun h => ?_, fun hfree => hmean fun _ _ _ _ => passes_iff_of_free hfree _ _⟩
      -- Both values are what earlier arguments have left.
      refine free_of_independent hcompares ⟨_, fun value => hvalues h 0 value 0 fun _ => none⟩ ?_
      intro target
      obtain ⟨mem, hmem⟩ := exists_follow_eq (fun _ => 0) hspec hlength 0 target
      exact ⟨0, hmem ▸ hvalues h 0 0 _ mem⟩
    | some found =>
      obtain ⟨pre, ⟨negative, index⟩, post⟩ := found
      rw [hsplit] at hspec
      obtain ⟨rfl, hpost⟩ := hspec
      rw [length_append, length_cons] at hlength
      simp only [comparedValue, recordedValue, foldl_append, foldl_cons,
        ReadStep.loadReg, foldl_loadReg_noReg hpost, loaded_split hpost,
        Bool.false_or] at hvalues hmean
      by_cases hderef : ReadStep.deref ∈ post
      · simp only [hderef, if_true]
        refine ⟨fun h => ?_, fun hfree => hmean fun _ _ _ _ => passes_iff_of_free hfree _ _⟩
        refine free_of_independent hcompares ⟨follow (fun _ => 0) (fun _ => none) post 0, ?_⟩ ?_
        · intro value
          rw [hvalues h value 0 0 fun _ => none, follow_unmapped hpost hderef]
        · intro target
          obtain ⟨base, hbase⟩ := exists_valueBefore_eq target hderef
            (if pre.any ReadStep.isReg then signed negative 0 0 else 0)
          obtain ⟨mem, hmem⟩ := exists_follow_eq (fun _ => 0) hpost (by omega) base target
          rw [hbase] at hmem
          exact ⟨0, hmem ▸ hvalues h 0 0 0 mem⟩
      · simp only [hderef, if_false]
        simp only [follow_eq_shifted hpost hderef] at hvalues hmean
        exact ⟨fun h value => hvalues h value 0 0 fun _ => none,
          fun h => hmean fun reg _ _ _ => h _⟩

/-! ## Two arguments -/

/-- `x1`, as a number, with the filter of index 1. -/
def filteredArg : PointArg :=
  { regIndex := 1, type := .num .int, filters := [1], pointType := .uprobeEnter }

section

variable (filterType : FilterType)

def fiveFilter : ArgFilter :=
  { filterType := filterType, strVal := [], strLen := 0, numVal := 5 }

/-- One filter, with the operand 5. -/
def oneFilter : U64 → Option ArgFilter := fun index =>
  if index = 1 then some (fiveFilter filterType) else none

lemma filtersIn_oneFilter :
    filteredArg.filtersIn (oneFilter filterType) = [fiveFilter filterType] := rfl

lemma found_oneFilter :
    ∀ f ∈ filteredArg.filters, (oneFilter filterType (f.setWidth 64)).isSome := by
  intro f hf
  obtain rfl := mem_singleton.mp hf
  rfl

end

theorem value_filters_mean_equal : filteredArg.FiltersMean (oneFilter .equal) := by
  refine (value_filters_mean_iff
    (show filteredArg.AddressedBy none from ⟨rfl, by decide⟩) (by decide)
    (by decide) (by decide) (by decide) (found_oneFilter .equal) ?_).mpr (.inl ?_)
  · rw [filtersIn_oneFilter]
    exact forall_mem_singleton.mpr (.inl rfl)
  · rw [filtersIn_oneFilter]
    exact forall_mem_singleton.mpr rfl

/-- `gt:5` drops the value ten: it is recorded and greater than five, and the event does not
pass. -/
theorem greater_filter_reversed :
    (uniformMachine (oneFilter .greater) 10 fun _ => none).Records filteredArg
      (staleScan 10 0 0) 10 ∧
      AllMeet (filteredArg.filtersIn (oneFilter .greater)) 10 ∧
      ¬ (uniformMachine (oneFilter .greater) 10 fun _ => none).PassesFilters filteredArg
        (staleScan 10 0 0) := by
  have haddr : filteredArg.AddressedBy none := ⟨rfl, by decide⟩
  have haddressed := haddr.addressed (by decide)
  refine ⟨(records_iff haddressed).mpr ⟨show RoomForWord [] by decide, rfl⟩, ?_, ?_⟩
  · rw [filtersIn_oneFilter]
    exact forall_mem_singleton.mpr (show (10 : U64) > 5 by decide)
  · rw [passesFilters_iff haddressed (by decide) (by decide) (found_oneFilter .greater) rfl,
      (address_values haddr).1]
    intro hpass
    exact absurd (hpass (fiveFilter .greater) mem_cons_self) (show ¬ (10 : U64) < 5 by decide)

end Spz.Bpf
