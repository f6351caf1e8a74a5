import Stackplz.Lib.FirstMatch
import Stackplz.Abi

/-!
# The filter lists

`should_trace` of `src/common/filtering.h` and the list checks of `raw_syscalls_sys_enter`.  The
eight white and black lists share the map `common_list`: an id stands in it under the key
`start of its list + id`, in 32 bits.  The rules are the same whether they look an id up in that map
(`CommonList.listed`) or in eight separate lists (`FilterLists.listed`); so they are written once,
over the lookup.

The starts are only `0x400` apart while ids have 32 bits.  So keys of different lists coincide, and
a list can be hit by an id of another one; `filter_decisions_separate` says when that does not show.
-/

namespace Spz.Bpf

/-! ## The lists and the map they share -/

inductive ListName
  | sysWhitelist
  | sysBlacklist
  | uidWhitelist
  | uidBlacklist
  | pidWhitelist
  | pidBlacklist
  | tidWhitelist
  | tidBlacklist
deriving DecidableEq, Repr

/-- `SYS_WHITELIST_START` to `TID_BLACKLIST_START`. -/
def ListName.start : ListName → U32
  | .sysWhitelist => 0x400
  | .sysBlacklist => 0x800
  | .uidWhitelist => 0xC00
  | .uidBlacklist => 0x1000
  | .pidWhitelist => 0x1400
  | .pidBlacklist => 0x1800
  | .tidWhitelist => 0x1C00
  | .tidBlacklist => 0x2000

abbrev FilterLists := ListName → List U32

/-- Looking an id up in lists of its own. -/
def FilterLists.listed (lists : FilterLists) (name : ListName) (id : U32) : Bool := id ∈ lists name

/-- The keys in `common_list`. -/
abbrev CommonList := List U32

/-- `max_entries` of `common_list`. -/
def commonListCapacity : ℕ := 1024

/-- `bpf_map.Update`: a key that is there stays, a new one needs a free entry. -/
def CommonList.update (map : CommonList) (key : U32) : Option CommonList :=
  if key ∈ map then some map
  else if map.length < commonListCapacity then some (key :: map)
  else none

def CommonList.updateCommonList (lists : FilterLists) (map : CommonList) (name : ListName) :
    Option CommonList :=
  (lists name).foldlM (fun map v => map.update (v + name.start)) map

/-- The order in which `update_common_filter` and then `updateFilter` load the lists. -/
def loadOrder : List ListName :=
  [.uidWhitelist, .uidBlacklist, .pidWhitelist, .pidBlacklist, .tidWhitelist, .tidBlacklist,
    .sysWhitelist, .sysBlacklist]

/-- `common_list` as the modules load it; `none` if an update fails. -/
def CommonList.load (lists : FilterLists) : Option CommonList :=
  loadOrder.foldlM (CommonList.updateCommonList lists) []

/-- Looking an id up under its key, as the programs do. -/
def CommonList.listed (map : CommonList) (name : ListName) (id : U32) : Bool :=
  name.start + id ∈ map

/-- The key of the id belongs to an id of another list as well. -/
def FilterLists.Aliased (lists : FilterLists) (name : ListName) (id : U32) : Prop :=
  ∃ other, other ≠ name ∧ ∃ v ∈ lists other, v + other.start = id + name.start

variable {map : CommonList} {lists : FilterLists}

lemma CommonList.mem_update {map' : CommonList} {key k : U32} (h : map.update key = some map') :
    k ∈ map' ↔ k ∈ map ∨ k = key := by
  unfold update at h
  split_ifs at h with hmem hroom
  · cases h
    exact ⟨.inl, fun hk => hk.elim id fun heq => heq ▸ hmem⟩
  · cases h
    rw [List.mem_cons, or_comm]

lemma CommonList.mem_updateCommonList {name : ListName} {k : U32} :
    ∀ {map map' : CommonList}, map.updateCommonList lists name = some map' →
      (k ∈ map' ↔ k ∈ map ∨ ∃ v ∈ lists name, v + name.start = k) := by
  unfold updateCommonList
  induction lists name with
  | nil =>
    intro map map' h
    obtain rfl : map = map' := by simpa using h
    simp
  | cons v rest ih =>
    intro map map' h
    rw [List.foldlM_cons, Option.bind_eq_bind, Option.bind_eq_some_iff] at h
    obtain ⟨middle, hupdate, hrest⟩ := h
    rw [ih hrest, mem_update hupdate, or_assoc, eq_comm (a := k)]
    simp

/-- What is in the shared map: the keys of all ids of all lists. -/
lemma CommonList.mem_load {k : U32} (h : CommonList.load lists = some map) :
    k ∈ map ↔ ∃ name, ∃ v ∈ lists name, v + name.start = k := by
  have hfold : ∀ {names : List ListName} {start map : CommonList},
      names.foldlM (CommonList.updateCommonList lists) start = some map →
      (k ∈ map ↔ k ∈ start ∨ ∃ name ∈ names, ∃ v ∈ lists name, v + name.start = k) := by
    intro names
    induction names with
    | nil =>
      intro start map h
      obtain rfl : start = map := by simpa using h
      simp
    | cons name rest ih =>
      intro start map h
      rw [List.foldlM_cons, Option.bind_eq_bind, Option.bind_eq_some_iff] at h
      obtain ⟨middle, hlist, hrest⟩ := h
      rw [ih hrest, mem_updateCommonList hlist, or_assoc]
      simp
  rw [hfold h]
  have hall : ∀ name : ListName, name ∈ loadOrder := by
    intro name
    cases name <;> decide
  simp [hall]

lemma CommonList.listed_iff (name : ListName) (id : U32) (h : CommonList.load lists = some map) :
    map.listed name id = true ↔ lists.listed name id = true ∨ lists.Aliased name id := by
  rw [listed, decide_eq_true_iff, mem_load h, BitVec.add_comm, FilterLists.listed,
    decide_eq_true_iff]
  constructor
  · rintro ⟨other, v, hv, hkey⟩
    by_cases hother : other = name
    · subst hother
      exact .inl ((BitVec.add_left_inj _).mp hkey ▸ hv)
    · exact .inr ⟨other, hother, v, hv, hkey⟩
  · rintro (hid | ⟨other, -, v, hv, hkey⟩)
    · exact ⟨name, id, hid, rfl⟩
    · exact ⟨other, v, hv, hkey⟩

/-! ## The rules -/

/-- The values of `thread_filter`. -/
inductive ThreadFlag
  | whitelist
  | blacklist
deriving DecidableEq, Repr

/-- The parts of `common_filter_t` that the rules read. -/
structure CommonFilter where
  /-- `trace_mode == TRACE_COMMON`. -/
  traceCommon : Bool
  traceUidGroup : U32
deriving Repr

/-- What the rules read besides the lists. -/
structure TraceConfig where
  stackplzPid : U32
  threadWhitelist : Bool
  threadFilter : List U8 → Option ThreadFlag
  childParentMap : U32 → Bool
  commonFilter : Option CommonFilter

/-- The parts of `event_context_t` that the rules read. -/
structure Task where
  comm : List U8
  uid : U32
  pid : U32
  tid : U32
deriving DecidableEq, Repr

def groupRoot : U32 := 1 <<< 1
def groupSystem : U32 := 1 <<< 2
def groupShell : U32 := 1 <<< 3
def groupApp : U32 := 1 <<< 4
def groupIso : U32 := 1 <<< 5

/-- The end of `should_trace`, with the uid groups. -/
def inTracedGroup (cfg : TraceConfig) (uid : U32) : Bool :=
  match cfg.commonFilter with
  | none => false
  | some filter =>
    if filter.traceUidGroup &&& groupRoot = groupRoot ∧ uid = 0 then true
    else if filter.traceUidGroup &&& groupSystem = groupSystem ∧ uid = 1000 then true
    else if filter.traceUidGroup &&& groupShell = groupShell ∧ uid = 2000 then true
    else if filter.traceUidGroup &&& groupApp = groupApp ∧ uid ≥ 10000 ∧ uid ≤ 19999 then true
    else filter.traceUidGroup &&& groupIso = groupIso ∧ uid ≥ 99000 ∧ uid ≤ 99999

section

variable (cfg : TraceConfig) (listed : ListName → U32 → Bool)

/-- `should_trace` from the check of the tid black list on. -/
def traceById (task : Task) : Bool :=
  if listed .tidBlacklist task.tid then false
  else if listed .tidWhitelist task.tid then true
  else if listed .pidBlacklist task.pid then false
  else if listed .pidWhitelist task.pid then true
  else if cfg.childParentMap task.pid then true
  else if listed .uidBlacklist task.uid then false
  else if listed .uidWhitelist task.uid then true
  else inTracedGroup cfg task.uid

def shouldTrace (task : Task) : Bool :=
  if cfg.stackplzPid = task.pid then false
  else
    match cfg.threadFilter task.comm with
    | none => if cfg.threadWhitelist then false else traceById cfg listed task
    | some .blacklist => false
    | some .whitelist => true

/-- The list checks of `raw_syscalls_sys_enter`, and again of `raw_syscalls_sys_exit`. -/
def syscallListed (sysno : U32) : Bool :=
  match cfg.commonFilter with
  | none => false
  | some filter =>
    if filter.traceCommon ∧ ¬ listed .sysWhitelist sysno then false
    else !listed .sysBlacklist sysno

end

/-! ## The chain of `should_trace` -/

/-- The rules of `traceById`, in their order. -/
inductive IdRule
  | list (name : ListName)
  | forked
deriving DecidableEq, Repr

namespace IdRule

def chain : List IdRule :=
  [.list .tidBlacklist, .list .tidWhitelist, .list .pidBlacklist, .list .pidWhitelist, .forked,
    .list .uidBlacklist, .list .uidWhitelist]

/-- Black lists refuse, everything else accepts. -/
def gives : IdRule → Bool
  | .list .sysBlacklist => false
  | .list .uidBlacklist => false
  | .list .pidBlacklist => false
  | .list .tidBlacklist => false
  | _ => true

/-- The id of a task, or the number of its system call, that a list is about. -/
def subject (task : Task) (sysno : U32) : ListName → U32
  | .sysWhitelist => sysno
  | .sysBlacklist => sysno
  | .uidWhitelist => task.uid
  | .uidBlacklist => task.uid
  | .pidWhitelist => task.pid
  | .pidBlacklist => task.pid
  | .tidWhitelist => task.tid
  | .tidBlacklist => task.tid

def applies (cfg : TraceConfig) (listed : ListName → U32 → Bool) (task : Task) : IdRule → Bool
  | .list name => listed name (subject task 0 name)
  | .forked => cfg.childParentMap task.pid

/-- The key that the rule looks up is that of an id of another list. -/
def Aliased (lists : FilterLists) (task : Task) : IdRule → Prop
  | .list name => lists.Aliased name (subject task 0 name)
  | .forked => False

end IdRule

lemma traceById_eq_verdict (cfg : TraceConfig) (listed : ListName → U32 → Bool) (task : Task) :
    traceById cfg listed task = FirstMatch.verdict IdRule.gives (inTracedGroup cfg task.uid)
      (IdRule.applies cfg listed task) IdRule.chain := by
  simp only [traceById, IdRule.chain, FirstMatch.verdict_cons, FirstMatch.verdict_nil,
    IdRule.applies, IdRule.subject]
  rfl

/-! ## When sharing the map does not show -/

section Sharing

variable (cfg : TraceConfig) (lists : FilterLists) (task : Task) (sysno : U32)

/-- Neither the task itself nor its thread name decides, so that the lists are asked. -/
def AsksLists : Prop :=
  cfg.stackplzPid ≠ task.pid ∧ cfg.threadFilter task.comm = none ∧ cfg.threadWhitelist = false

/-- An aliased key that comes before any list naming the task does no harm: the list names the task
as well, or the first of the later rules that does has the same colour. -/
def IdsSeparate : Prop :=
  ∀ pre rule post, IdRule.chain = pre ++ rule :: post →
    (∀ q ∈ pre, IdRule.applies cfg lists.listed task q = false ∧ ¬ q.Aliased lists task) →
    rule.Aliased lists task → IdRule.applies cfg lists.listed task rule = true ∨
      FirstMatch.Decides IdRule.gives (inTracedGroup cfg task.uid)
        (IdRule.applies cfg lists.listed task) rule.gives post

/-- An aliased key in the black list's place refuses a number that is refused anyway, and one in the
white list's place admits none that its list does not have, unless the black list's place refuses
it. -/
def SysnoSeparate : Prop :=
  ∀ filter, cfg.commonFilter = some filter →
    (lists.Aliased .sysBlacklist sysno → lists.listed .sysBlacklist sysno = true ∨
      filter.traceCommon = true ∧ lists.listed .sysWhitelist sysno = false) ∧
    (filter.traceCommon = true → lists.Aliased .sysWhitelist sysno →
      lists.listed .sysWhitelist sysno = true ∨ lists.listed .sysBlacklist sysno = true ∨
        lists.Aliased .sysBlacklist sysno)

variable {cfg lists task sysno}

/-- Without aliased keys sharing the map does not show. -/
lemma separate_of_not_aliased
    (h : ∀ name, ¬ lists.Aliased name (IdRule.subject task sysno name)) :
    (AsksLists cfg task → IdsSeparate cfg lists task) ∧ SysnoSeparate cfg lists sysno := by
  refine ⟨fun _ pre rule post hchain _ halias => ?_,
    fun filter _ => ⟨fun halias => ?_, fun _ halias => ?_⟩⟩
  · have hmem : rule ∈ IdRule.chain := by simp [hchain]
    cases rule with
    | forked => exact halias.elim
    | list name =>
      refine absurd ?_ (h name)
      -- The lists of system calls are not in the chain.
      cases name <;> first | exact absurd hmem (by decide) | exact halias
  · exact absurd halias (h .sysBlacklist)
  · exact absurd halias (h .sysWhitelist)

lemma traceById_shared_iff (hload : CommonList.load lists = some map) :
    traceById cfg map.listed task = traceById cfg lists.listed task ↔
      IdsSeparate cfg lists task := by
  rw [traceById_eq_verdict, traceById_eq_verdict]
  refine FirstMatch.verdict_eq_iff fun rule => ?_
  cases rule with
  | forked => simp [IdRule.applies, IdRule.Aliased]
  | list name => exact CommonList.listed_iff name _ hload

lemma shouldTrace_of_not_asks {listed listed' : ListName → U32 → Bool} (h : ¬ AsksLists cfg task) :
    shouldTrace cfg listed task = shouldTrace cfg listed' task := by
  unfold shouldTrace
  by_cases hself : cfg.stackplzPid = task.pid
  · rw [if_pos hself, if_pos hself]
  · rw [if_neg hself, if_neg hself]
    cases hname : cfg.threadFilter task.comm with
    | some flag => cases flag <;> rfl
    | none =>
      have hwhite : cfg.threadWhitelist = true := by
        by_contra hwhite
        exact h ⟨hself, hname, Bool.not_eq_true _ ▸ hwhite⟩
      simp [hwhite]

lemma shouldTrace_of_asks {listed : ListName → U32 → Bool} (h : AsksLists cfg task) :
    shouldTrace cfg listed task = traceById cfg listed task := by
  obtain ⟨hself, hname, hwhite⟩ := h
  rw [shouldTrace, if_neg hself, hname, hwhite]
  rfl

lemma shouldTrace_shared_iff (hload : CommonList.load lists = some map) :
    shouldTrace cfg map.listed task = shouldTrace cfg lists.listed task ↔
      (AsksLists cfg task → IdsSeparate cfg lists task) := by
  by_cases hasks : AsksLists cfg task
  · rw [shouldTrace_of_asks hasks, shouldTrace_of_asks hasks, traceById_shared_iff hload]
    exact ⟨fun h _ => h, fun h => h hasks⟩
  · exact iff_of_true (shouldTrace_of_not_asks hasks) fun h => absurd h hasks

lemma syscallListed_shared_iff (hload : CommonList.load lists = some map) :
    syscallListed cfg map.listed sysno = syscallListed cfg lists.listed sysno ↔
      SysnoSeparate cfg lists sysno := by
  have hwhite := CommonList.listed_iff .sysWhitelist sysno hload
  have hblack := CommonList.listed_iff .sysBlacklist sysno hload
  unfold SysnoSeparate syscallListed
  cases cfg.commonFilter with
  | none => simp
  | some filter =>
    simp only [Option.some.injEq, forall_eq']
    rw [Bool.eq_iff_iff]
    by_cases halias : lists.Aliased .sysBlacklist sysno <;>
      by_cases halias' : lists.Aliased .sysWhitelist sysno <;>
        cases filter.traceCommon <;> cases hlw : lists.listed .sysWhitelist sysno <;>
          cases hlb : lists.listed .sysBlacklist sysno <;> simp_all

/-- The shared map decides like eight separate lists exactly if aliased keys do no harm: neither the
first one that the chain of `should_trace` meets, nor those of the system call number. -/
theorem filter_decisions_separate (hload : CommonList.load lists = some map) :
    (shouldTrace cfg map.listed task = shouldTrace cfg lists.listed task ∧
      syscallListed cfg map.listed sysno = syscallListed cfg lists.listed sysno) ↔
    ((AsksLists cfg task → IdsSeparate cfg lists task) ∧ SysnoSeparate cfg lists sysno) :=
  and_congr (shouldTrace_shared_iff hload) (syscallListed_shared_iff hload)

end Sharing

/-! ## An id of one list that hits another -/

/-- A configuration that follows an uid only, as `--uid 10000` gives it. -/
def uidOnly : FilterLists
  | .uidWhitelist => [10000]
  | _ => []

/-- Nothing but the lists decides. -/
def plainConfig : TraceConfig where
  stackplzPid := 1
  threadWhitelist := false
  threadFilter _ := none
  childParentMap _ := false
  commonFilter := some { traceCommon := true, traceUidGroup := 0 }

/-- A task of another uid, whose pid stands in the place of the key of the uid. -/
def otherTask : Task where
  comm := []
  uid := 0
  pid := 7952
  tid := 7952

/-- The lists are not independent: with the uid 10000 on its white list, a process of the uid 0
with the pid 7952 is traced, which no list mentions; without that entry it is not. -/
theorem uid_whitelist_traces_pid :
    CommonList.load uidOnly = some [13072] ∧
    shouldTrace plainConfig (CommonList.listed [13072]) otherTask = true ∧
    shouldTrace plainConfig uidOnly.listed otherTask = false ∧
    shouldTrace plainConfig (CommonList.listed []) otherTask = false := by
  decide

/-- A process of the uid itself is judged alike. -/
theorem filter_decisions_separate_uid :
    let task : Task := { otherTask with uid := 10000, pid := 5, tid := 5 }
    shouldTrace plainConfig (CommonList.listed [13072]) task =
      shouldTrace plainConfig uidOnly.listed task ∧
      syscallListed plainConfig (CommonList.listed [13072]) 63 =
        syscallListed plainConfig uidOnly.listed 63 := by
  refine (filter_decisions_separate (show CommonList.load uidOnly = some [13072] by decide)).mpr
    (separate_of_not_aliased fun name => ?_)
  rintro ⟨other, hother, v, hv, hkey⟩
  cases other <;> cases name <;> simp_all [uidOnly, IdRule.subject, ListName.start]

end Spz.Bpf
