import Stackplz.Bpf.SavedRegs
import Stackplz.Lib.Transition

/-!
# System calls from entry to exit

`raw_syscalls_sys_enter` and `raw_syscalls_sys_exit` of `src/syscall.c`.  The entry saves the
registers of the thread once the thread and the number have passed the filters; the exit, if the
thread passes them too, takes the registers out again and reads the arguments from them.

A run interleaves the entries and exits of any number of threads.  Each entry starts a new call; the
calls are numbered, so that one can say from which of them the registers in the map come.  What the
filters see of a thread (its name, its uid, whether it is on the fork list) is part of each event,
and may be different at every one of them.

The exit takes nothing out if the filters now refuse the thread, and no program runs for a call that
never returns.  Then the registers stay in the map, where a later exit finds them
(`exit_uses_stale_registers`).  `paired_step_iff` says exactly which steps do this harm.
-/

namespace Spz.Bpf

open Function CtxRegsMap

/-! ## The programs -/

/-- `SYSCALL_ENTER` of `event_id_e`. -/
def syscallEnter : U32 := 456

structure SyscallConfig extends TracerConfig where
  sysenterPointArgs : U32 → Option PointArgs
  sysexitPointArgs : U32 → Option PointArgs

structure SyscallEvent extends ThreadHit where
  /-- `_TIF_32BIT`. -/
  is32 : Bool
  sysno : U32

namespace SyscallEvent

variable (c : SyscallConfig) (e : SyscallEvent)

/-- The entry that passes all filters, with what is to be read there. -/
def enters : Option PointArgs :=
  if !e.is32 && e.traced c.toTracerConfig && syscallListed c.trace c.listed e.sysno then
    c.sysenterPointArgs e.sysno
  else none

/-- The exit that comes to `load_regs`; the lists are asked behind it. -/
def exits : Option PointArgs :=
  if !e.is32 && e.traced c.toTracerConfig && c.trace.commonFilter.isSome then
    c.sysexitPointArgs e.sysno
  else none

end SyscallEvent

/-- `raw_syscalls_sys_enter`: the map, and the arguments if an event is submitted. -/
def rawSyscallsSysEnter (c : SyscallConfig) (map : CtxRegsMap) (call : ℕ) (e : SyscallEvent) :
    CtxRegsMap × Option (List U8) :=
  match e.enters c with
  | none => (map, none)
  | some point =>
    let map := map.saveRegs syscallEnter e.hostTid { regs := e.regs, call := call }
    let result := (e.machine c.toTracerConfig e.regs).readArgs point
      (e.ctx.prepared (e.regs.get firstReg) 4)
      (numberRecord e.sysno ++ e.frameRecords c.toTracerConfig)
    if result.ctx.skipFlag then
      (map.saveRegs syscallEnter e.hostTid { regs := e.regs, flag := true, call := call }, none)
    else (map, some result.args)

/-- An exit event: the registers its arguments were read from, and the arguments. -/
structure ExitRecord where
  used : CtxRegs
  args : List U8

def rawSyscallsSysExit (c : SyscallConfig) (map : CtxRegsMap) (e : SyscallEvent) :
    CtxRegsMap × Option ExitRecord :=
  match e.exits c with
  | none => (map, none)
  | some point =>
    match map.loadRegs syscallEnter e.hostTid with
    | none => (map, none)
    | some saved =>
      let map := map.delRegs syscallEnter e.hostTid
      if saved.flag then (map, none)
      else if !syscallListed c.trace c.listed e.sysno then (map, none)
      else
        let result := (e.machine c.toTracerConfig saved.regs).readArgs point
          (e.ctx.prepared (saved.regs.get firstReg) 1) (numberRecord e.sysno)
        if result.ctx.skipFlag then (map, none)
        else (map, some ⟨saved,
          saveToSubmitBuf result.args (e.regs.get firstReg) result.ctx.saveIndex⟩)

/-! ## Runs -/

/-- A call that a thread is in: its number, whether its entry passed the filters, and the registers
at the entry. -/
structure Invocation where
  call : ℕ
  traced : Bool
  regs : RegFile
deriving DecidableEq

/-- The map, the threads that are inside a call, and the exit events so far, each with the call that
returned. -/
structure SyscallState where
  map : CtxRegsMap
  inside : U32 → Option Invocation
  calls : ℕ
  submitted : List (Invocation × ExitRecord)

/-- A thread enters or leaves a call, or ends inside one. -/
inductive SyscallAction
  | enter (e : SyscallEvent)
  | exit (e : SyscallEvent)
  | gone (tid : U32)

/-- Only a thread inside a call can leave it.  A thread inside a call can enter another one: the
first then never returns. -/
def syscallNext (c : SyscallConfig) (s : SyscallState) : SyscallAction → Option SyscallState
  | .enter e =>
    some { s with
      map := (rawSyscallsSysEnter c s.map s.calls e).1
      inside := update s.inside e.hostTid (some ⟨s.calls, (e.enters c).isSome, e.regs⟩)
      calls := s.calls + 1 }
  | .exit e =>
    match s.inside e.hostTid with
    | none => none
    | some inv =>
      some { s with
        map := (rawSyscallsSysExit c s.map e).1
        inside := update s.inside e.hostTid none
        submitted := s.submitted ++ ((rawSyscallsSysExit c s.map e).2.map (inv, ·)).toList }
  | .gone tid =>
    match s.inside tid with
    | none => none
    | some _ => some { s with inside := update s.inside tid none }

def syscallStart : SyscallState := ⟨.empty, fun _ => none, 0, []⟩

def syscallSystem (c : SyscallConfig) : Transition.System SyscallState SyscallAction :=
  .ofStep (· = syscallStart) (syscallNext c)

/-- The registers were saved at the entry of this call, which passed the filters. -/
structure Invocation.Saved (inv : Invocation) (regs : CtxRegs) : Prop where
  traced : inv.traced = true
  call : regs.call = inv.call
  regs : regs.regs = inv.regs

/-- Exits are paired with their own entry. -/
structure SyscallState.Paired (s : SyscallState) : Prop where
  submitted : ∀ x ∈ s.submitted, x.1.Saved x.2.used
  entries : ∀ tid regs, s.map.loadRegs syscallEnter tid = some regs →
    ∃ inv, s.inside tid = some inv ∧ inv.Saved regs

/-- What keeps the map in order: a thread whose registers are in the map leaves its call while the
filters let it through, does not end inside the call, and if it enters another one instead, then
through the filters as well. -/
def Settled (c : SyscallConfig) (s : SyscallState) : SyscallAction → Prop
  | .enter e => (s.map.loadRegs syscallEnter e.hostTid).isSome → (e.enters c).isSome
  | .exit e => (s.map.loadRegs syscallEnter e.hostTid).isSome → (e.exits c).isSome
  | .gone tid => s.map.loadRegs syscallEnter tid = none

variable {c : SyscallConfig} {s s' : SyscallState} {a : SyscallAction} {e : SyscallEvent}
  {map : CtxRegsMap} {call : ℕ} {tid : U32} {regs : CtxRegs} {record : ExitRecord}

/-! ## What the programs do to the map -/

lemma sysEnter_of_not_enters (h : e.enters c = none) :
    (rawSyscallsSysEnter c map call e).1 = map := by
  rw [rawSyscallsSysEnter, h]

lemma sysEnter_other (h : tid ≠ e.hostTid) :
    (rawSyscallsSysEnter c map call e).1.loadRegs syscallEnter tid =
      map.loadRegs syscallEnter tid := by
  have hne : ¬ (syscallEnter = syscallEnter ∧ tid = e.hostTid) := fun heq => h heq.2
  unfold rawSyscallsSysEnter
  cases e.enters c with
  | none => rfl
  | some point =>
    dsimp only
    split_ifs
    · rw [loadRegs_saveRegs_of_ne hne, loadRegs_saveRegs_of_ne hne]
    · rw [loadRegs_saveRegs_of_ne hne]

lemma sysEnter_self {point : PointArgs} (henters : e.enters c = some point)
    (h : (rawSyscallsSysEnter c map call e).1.loadRegs syscallEnter e.hostTid = some regs) :
    regs.call = call ∧ regs.regs = e.regs := by
  unfold rawSyscallsSysEnter at h
  rw [henters] at h
  dsimp only at h
  split_ifs at h
  all_goals
    rw [eq_of_loadRegs_saveRegs h]
    exact ⟨rfl, rfl⟩

lemma sysExit_of_not_exits (h : e.exits c = none) : rawSyscallsSysExit c map e = (map, none) := by
  rw [rawSyscallsSysExit, h]

/-- An exit that gets that far leaves nothing under its key, and reports what it has found there. -/
lemma sysExit_of_exits {point : PointArgs} (h : e.exits c = some point) :
    (rawSyscallsSysExit c map e).1.loadRegs syscallEnter e.hostTid = none ∧
      ∀ record, (rawSyscallsSysExit c map e).2 = some record →
        map.loadRegs syscallEnter e.hostTid = some record.used := by
  unfold rawSyscallsSysExit
  rw [h]
  dsimp only
  cases hload : map.loadRegs syscallEnter e.hostTid with
  | none => exact ⟨hload, fun record hrecord => by cases hrecord⟩
  | some saved =>
    dsimp only
    split_ifs
    all_goals refine ⟨loadRegs_delRegs, fun record hrecord => ?_⟩
    · cases hrecord
    · cases hrecord
    · cases hrecord
    · cases hrecord
      rfl

lemma sysExit_other (h : tid ≠ e.hostTid) :
    (rawSyscallsSysExit c map e).1.loadRegs syscallEnter tid = map.loadRegs syscallEnter tid := by
  have hne : ¬ (syscallEnter = syscallEnter ∧ tid = e.hostTid) := fun heq => h heq.2
  unfold rawSyscallsSysExit
  cases e.exits c with
  | none => rfl
  | some point =>
    dsimp only
    cases map.loadRegs syscallEnter e.hostTid with
    | none => rfl
    | some saved =>
      dsimp only
      split_ifs <;> exact loadRegs_delRegs_of_ne hne

/-! ## One step -/

/-- An entry keeps the pairing unless it is filtered while the map has registers of the thread. -/
lemma enter_step_iff (hs : s.Paired) (h : syscallNext c s (.enter e) = some s') :
    s'.Paired ↔ Settled c s (.enter e) := by
  cases h
  constructor
  · intro hpaired hsome
    cases henters : e.enters c with
    | some point => rfl
    | none =>
      -- the old registers stay, while the thread is in a call that was refused
      obtain ⟨regs, hload⟩ := Option.isSome_iff_exists.mp hsome
      obtain ⟨inv, hinside, hsaved⟩ := hpaired.entries e.hostTid regs
        (by rw [sysEnter_of_not_enters henters, hload])
      dsimp only at hinside
      rw [update_self, henters] at hinside
      cases hinside
      exact hsaved.traced
  · intro hsettled
    refine ⟨hs.submitted, fun tid regs hload => ?_⟩
    dsimp only at hload ⊢
    by_cases htid : tid = e.hostTid
    · subst htid
      rw [update_self]
      cases henters : e.enters c with
      | none =>
        rw [sysEnter_of_not_enters henters] at hload
        have hsome := hsettled (by rw [hload]; rfl)
        rw [henters] at hsome
        cases hsome
      | some point =>
        obtain ⟨hcall, hregs⟩ := sysEnter_self henters hload
        exact ⟨_, rfl, rfl, hcall, hregs⟩
    · rw [sysEnter_other htid] at hload
      rw [update_of_ne htid]
      exact hs.entries tid regs hload

/-- A return keeps the pairing exactly if the exit program deletes the registers it finds. -/
lemma exit_step_iff (hs : s.Paired) (h : syscallNext c s (.exit e) = some s') :
    s'.Paired ↔ Settled c s (.exit e) := by
  simp only [syscallNext] at h
  cases hinv : s.inside e.hostTid with
  | none =>
    rw [hinv] at h
    cases h
  | some inv =>
    rw [hinv] at h
    cases h
    constructor
    · intro hpaired hsome
      cases hexits : e.exits c with
      | some point => rfl
      | none =>
        -- the registers stay, while the thread is in no call
        obtain ⟨regs, hload⟩ := Option.isSome_iff_exists.mp hsome
        obtain ⟨inv', hinside, -⟩ := hpaired.entries e.hostTid regs
          (by rw [sysExit_of_not_exits hexits, hload])
        dsimp only at hinside
        rw [update_self] at hinside
        cases hinside
    · intro hsettled
      refine ⟨fun x hx => ?_, fun tid regs hload => ?_⟩
      · rcases List.mem_append.mp hx with hx | hx
        · exact hs.submitted x hx
        · rw [Option.mem_toList, Option.map_eq_some_iff] at hx
          obtain ⟨record, hrecord, rfl⟩ := hx
          cases hexits : e.exits c with
          | none =>
            rw [sysExit_of_not_exits hexits] at hrecord
            cases hrecord
          | some point =>
            obtain ⟨inv', hinside, hsaved⟩ := hs.entries e.hostTid record.used
              ((sysExit_of_exits hexits).2 record hrecord)
            obtain rfl : inv = inv' := Option.some.inj (hinv.symm.trans hinside)
            exact hsaved
      · dsimp only at hload ⊢
        by_cases htid : tid = e.hostTid
        · subst htid
          cases hexits : e.exits c with
          | none =>
            rw [sysExit_of_not_exits hexits] at hload
            have hsome := hsettled (by rw [hload]; rfl)
            rw [hexits] at hsome
            cases hsome
          | some point =>
            rw [(sysExit_of_exits hexits).1] at hload
            cases hload
        · rw [sysExit_other htid] at hload
          rw [update_of_ne htid]
          exact hs.entries tid regs hload

lemma gone_step_iff (hs : s.Paired) (h : syscallNext c s (.gone tid) = some s') :
    s'.Paired ↔ Settled c s (.gone tid) := by
  simp only [syscallNext] at h
  cases hinv : s.inside tid with
  | none =>
    rw [hinv] at h
    cases h
  | some inv =>
    rw [hinv] at h
    cases h
    constructor
    · intro hpaired
      cases hload : s.map.loadRegs syscallEnter tid with
      | none => exact hload
      | some regs =>
        obtain ⟨inv', hinside, -⟩ := hpaired.entries tid regs hload
        dsimp only at hinside
        rw [update_self] at hinside
        cases hinside
    · intro hnone
      refine ⟨hs.submitted, fun other regs hload => ?_⟩
      have hne : other ≠ tid := by
        rintro rfl
        rw [show s.map.loadRegs syscallEnter other = none from hnone] at hload
        cases hload
      dsimp only
      rw [update_of_ne hne]
      exact hs.entries other regs hload

lemma paired_step_iff (hs : s.Paired) (h : syscallNext c s a = some s') :
    s'.Paired ↔ Settled c s a := by
  cases a with
  | enter e => exact enter_step_iff hs h
  | exit e => exact exit_step_iff hs h
  | gone tid => exact gone_step_iff hs h

/-! ## Runs -/

/-- Exits are paired with their own entry in every state of a run in which no thread with saved
registers slips past the exit program. -/
theorem syscall_exits_paired (h : ((syscallSystem c).restrict (Settled c)).Reachable s) :
    s.Paired := by
  refine h.invariant ?_ ?_
  · rintro s rfl
    refine ⟨by simp [syscallStart], fun tid regs hload => ?_⟩
    rw [loadRegs, syscallStart, BoundedMap.lookup_empty] at hload
    cases hload
  · rintro s a s' hs ⟨hsettled, hstep⟩
    exact (paired_step_iff hs hstep).mpr hsettled

instance : ∀ (c : SyscallConfig) (s : SyscallState) (a : SyscallAction), Decidable (Settled c s a)
  | _, _, .enter _ => inferInstanceAs (Decidable (_ → _))
  | _, _, .exit _ => inferInstanceAs (Decidable (_ → _))
  | _, s, .gone tid => inferInstanceAs (Decidable (s.map.loadRegs syscallEnter tid = none))

/-- Only threads of the name `a` are traced, and no arguments are read. -/
def nameConfig : SyscallConfig where
  trace :=
    { stackplzPid := 1
      threadWhitelist := true
      threadFilter := fun comm => if comm = [0x61] then some .whitelist else none
      childParentMap := fun _ => false
      commonFilter := some { traceCommon := false, traceUidGroup := 0 } }
  listed _ _ := false
  sysenterPointArgs _ := some { maxOp := 256, opKeyList := [] }
  sysexitPointArgs _ := some { maxOp := 256, opKeyList := [] }
  opList _ := some { code := .skip }
  argFilter _ := none
  is32bit := false

/-- The thread 7 under the given name, with the given value in all registers. -/
def namedThread (comm : List U8) (value : U64) : SyscallEvent where
  hostTid := 7
  is32 := false
  task := { comm := comm, uid := 0, pid := 5, tid := 7 }
  forks _ := false
  sysno := 167
  regs := Vector.replicate 33 value
  memory _ := none
  ctx := { postCode := .skip }

def plainCall : List SyscallAction :=
  [.enter (namedThread [0x61] 1), .exit (namedThread [0x61] 1)]

/-- Its exit is submitted, with its own registers. -/
theorem syscall_exits_paired_plain :
    let s := Transition.runFrom (Transition.guarded (Settled nameConfig) (syscallNext nameConfig))
      syscallStart plainCall
    s.submitted.map (fun x => x.2.used.call) = [0] ∧ s.Paired := by
  refine ⟨by decide +kernel, syscall_exits_paired (c := nameConfig) ?_⟩
  exact .steps (.init rfl) (Transition.guarded_steps _ _ (by decide +kernel))

/-- `prctl` renames the thread from `a` to `b`, and then back. -/
def renamingCalls : List SyscallAction :=
  [.enter (namedThread [0x61] 1), .exit (namedThread [0x62] 1),
    .enter (namedThread [0x62] 2), .exit (namedThread [0x61] 2)]

/-- The exit of the second call uses the registers of the first: the exit of the first was
refused and left them in the map, the entry of the second was refused and did not replace them. -/
theorem exit_uses_stale_registers :
    ∃ s, (syscallSystem nameConfig).Reachable s ∧
      s.submitted.map (fun x => (x.1.call, x.2.used.call)) = [(1, 0)] ∧
      s.submitted.map (fun x => (x.1.regs.get 0, x.2.used.regs.get 0)) = [(2, 1)] ∧ ¬ s.Paired := by
  have hsubmitted : (Transition.run (syscallNext nameConfig) syscallStart renamingCalls).map
      (fun s => (s.submitted.map fun x => (x.1.call, x.2.used.call),
        s.submitted.map fun x => (x.1.regs.get 0, x.2.used.regs.get 0))) =
          some ([(1, 0)], [(2, 1)]) := by
    decide +kernel
  obtain ⟨s, hs, hsubmitted⟩ := Option.map_eq_some_iff.mp hsubmitted
  obtain ⟨hcalls, hregs⟩ := Prod.mk.inj hsubmitted
  refine ⟨s, Transition.run_reachable rfl _ hs, hcalls, hregs, fun hpaired => ?_⟩
  -- whoever is paired has the same number twice
  have hsame : ∀ p ∈ s.submitted.map (fun x => (x.1.call, x.2.used.call)), p.2 = p.1 := by
    intro p hp
    obtain ⟨x, hx, rfl⟩ := List.mem_map.mp hp
    exact (hpaired.submitted x hx).call
  rw [hcalls] at hsame
  exact absurd (hsame _ List.mem_cons_self) (by decide)

end Spz.Bpf
