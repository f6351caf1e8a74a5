import Stackplz.Bpf.SavedRegs
import Stackplz.Lib.Transition

/-!
# Calls of hooked functions from entry to exit

`probe_stack_warp` of `src/stack.c`.  A point with an exit point saves the registers in
`ctx_regs_map` under its own number; the exit point, which `GetExitPoint` gives the same
`enter_key`, takes them out again and reads the arguments from them.

A run interleaves the calls and returns of any number of threads.  The calls of a thread are
properly nested, so that a return belongs to the call on top of the thread's stack.  The map has one
entry for a thread and a point: a call of a function that is still active on the thread takes the
place of the earlier one, whose return then finds nothing (`outer_return_lost`).  As long as there
is no such recursion, every return reports the registers of its own call (`uprobe_exits_paired`).
-/

namespace Spz.Bpf

open Function List

/-! ## The program -/

/-- `UPROBE_ENTER` of `event_id_e`. -/
def uprobeEnter : U32 := 458

/-- `point_args_t` of a uprobe. -/
structure UprobePoint extends PointArgs where
  enterKey : U32

structure UprobeConfig extends TracerConfig where
  uprobePointArgs : U32 → Option UprobePoint

structure UprobeEvent extends ThreadHit where
  pointKey : U32

/-- An event: the registers its arguments were read from, and the arguments. -/
structure UprobeRecord where
  used : CtxRegs
  args : List U8

namespace UprobeEvent

variable (c : UprobeConfig) (e : UprobeEvent)

/-- `read_args` with the given registers. -/
def reading (point : UprobePoint) (regs : RegFile) : Result :=
  (e.machine c.toTracerConfig regs).readArgs point.toPointArgs
    (e.ctx.prepared (regs.get firstReg) 4)
    (numberRecord e.pointKey ++ e.frameRecords c.toTracerConfig)

/-- The registers that the arguments are read from, and the map behind them. -/
def pickRegs (point : UprobePoint) (map : CtxRegsMap) (call : ℕ) : CtxRegsMap × Option CtxRegs :=
  let own : CtxRegs := { regs := e.regs, call := call }
  if point.enterKey = 0 then (map, some own)
  else if point.enterKey = e.pointKey + 1 then
    (map.saveRegs (uprobeEnter + e.pointKey + 1) e.hostTid own, some own)
  else
    match map.loadRegs (uprobeEnter + point.enterKey) e.hostTid with
    | none => (map, none)
    | some saved => (map.delRegs (uprobeEnter + point.enterKey) e.hostTid, some saved)

end UprobeEvent

def probeStackWarp (c : UprobeConfig) (map : CtxRegsMap) (call : ℕ) (e : UprobeEvent) :
    CtxRegsMap × Option UprobeRecord :=
  if !(e.traced c.toTracerConfig && c.trace.commonFilter.isSome) then (map, none)
  else
    match c.uprobePointArgs e.pointKey with
    | none => (map, none)
    | some point =>
      match e.pickRegs point map call with
      | (map, none) => (map, none)
      | (map, some regs) =>
        let result := e.reading c point regs.regs
        if result.ctx.skipFlag then (map, none) else (map, some ⟨regs, result.args⟩)

/-! ## Runs -/

/-- A call that has not returned yet: its point, its number, and the registers at its entry. -/
structure CallFrame where
  point : U32
  call : ℕ
  regs : RegFile
deriving DecidableEq

/-- The map, the active calls of the threads, innermost first, and the calls that have returned,
each with the event that its return has produced. -/
structure UprobeState where
  map : CtxRegsMap
  stack : U32 → List CallFrame
  calls : ℕ
  returned : List (CallFrame × Option UprobeRecord)

/-- A call of a function with an exit point, its return, or a point without one. -/
inductive UprobeAction
  | call (e : UprobeEvent)
  | ret (e : UprobeEvent)
  | hit (e : UprobeEvent)

/-- The event passes the filters, those of the arguments included. -/
def UprobeEvent.passes (c : UprobeConfig) (e : UprobeEvent) (point : UprobePoint) (regs : RegFile) :
    Bool :=
  e.traced c.toTracerConfig && c.trace.commonFilter.isSome && !(e.reading c point regs).ctx.skipFlag

/-- A call and a return of the thread's innermost call.  Every event passes the filters and the map
has a free entry. -/
def uprobeNext (c : UprobeConfig) (s : UprobeState) : UprobeAction → Option UprobeState
  | .call e =>
    match c.uprobePointArgs e.pointKey with
    | none => none
    | some point =>
      if point.enterKey = e.pointKey + 1 ∧ point.enterKey ≠ 0 ∧ e.passes c point e.regs ∧
          s.map.Room then
        some { s with
          map := (probeStackWarp c s.map s.calls e).1
          stack := update s.stack e.hostTid
            (⟨e.pointKey, s.calls, e.regs⟩ :: s.stack e.hostTid)
          calls := s.calls + 1 }
      else none
  | .ret e =>
    match c.uprobePointArgs e.pointKey, s.stack e.hostTid with
    | some point, frame :: rest =>
      if point.enterKey = frame.point + 1 ∧ point.enterKey ≠ 0 ∧ e.pointKey ≠ frame.point ∧
          e.passes c point frame.regs then
        some { s with
          map := (probeStackWarp c s.map s.calls e).1
          stack := update s.stack e.hostTid rest
          returned := s.returned ++ [(frame, (probeStackWarp c s.map s.calls e).2)] }
      else none
    | _, _ => none
  | .hit e =>
    match c.uprobePointArgs e.pointKey with
    | none => none
    | some point =>
      if point.enterKey = 0 then
        some { s with map := (probeStackWarp c s.map s.calls e).1, calls := s.calls + 1 }
      else none

def uprobeStart : UprobeState := ⟨.empty, fun _ => [], 0, []⟩

def uprobeSystem (c : UprobeConfig) : Transition.System UprobeState UprobeAction :=
  .ofStep (· = uprobeStart) (uprobeNext c)

/-- Every return has produced its event, with the registers of the call that returned. -/
def UprobeState.Paired (s : UprobeState) : Prop :=
  ∀ x ∈ s.returned, ∃ record, x.2 = some record ∧
    record.used.call = x.1.call ∧ record.used.regs = x.1.regs

/-- The function that is called is not active on the thread yet. -/
def NotRecursive (s : UprobeState) : UprobeAction → Prop
  | .call e => e.pointKey ∉ (s.stack e.hostTid).map CallFrame.point
  | _ => True

/-! ## What the program does to the map -/

variable {c : UprobeConfig} {s s' : UprobeState} {a : UprobeAction} {e : UprobeEvent}
  {map : CtxRegsMap} {n : ℕ} {point : UprobePoint} {frame : CallFrame}

lemma UprobeEvent.passes_iff {regs : RegFile} : e.passes c point regs = true ↔
    (e.traced c.toTracerConfig && c.trace.commonFilter.isSome) = true ∧
      (e.reading c point regs).ctx.skipFlag = false := by
  rw [passes, Bool.and_eq_true, Bool.not_eq_true']

section

variable (hpoint : c.uprobePointArgs e.pointKey = some point)
include hpoint

lemma probeStackWarp_call (hkey : point.enterKey = e.pointKey + 1) (hne : point.enterKey ≠ 0)
    (hpass : e.passes c point e.regs = true) :
    (probeStackWarp c map n e).1 =
      map.saveRegs (uprobeEnter + (e.pointKey + 1)) e.hostTid { regs := e.regs, call := n } := by
  obtain ⟨htraced, hskip⟩ := UprobeEvent.passes_iff.mp hpass
  rw [probeStackWarp, htraced, if_neg (by simp), hpoint]
  dsimp only
  rw [UprobeEvent.pickRegs, if_neg hne, if_pos hkey]
  dsimp only
  rw [hskip, if_neg (by simp), BitVec.add_assoc]

lemma probeStackWarp_ret {saved : CtxRegs} (hkey : point.enterKey = frame.point + 1)
    (hne : point.enterKey ≠ 0) (hexit : e.pointKey ≠ frame.point)
    (hload : map.loadRegs (uprobeEnter + (frame.point + 1)) e.hostTid = some saved)
    (hpass : e.passes c point saved.regs = true) :
    (probeStackWarp c map n e).1 =
        map.delRegs (uprobeEnter + (frame.point + 1)) e.hostTid ∧
      ∃ record, (probeStackWarp c map n e).2 = some record ∧ record.used = saved := by
  obtain ⟨htraced, hskip⟩ := UprobeEvent.passes_iff.mp hpass
  have hother : point.enterKey ≠ e.pointKey + 1 := by
    rw [hkey, ne_eq, BitVec.add_left_inj]
    exact fun heq => hexit heq.symm
  rw [probeStackWarp, htraced, if_neg (by simp), hpoint]
  dsimp only
  rw [UprobeEvent.pickRegs, if_neg hne, if_neg hother, hkey, hload]
  dsimp only
  rw [hskip, if_neg (by simp)]
  exact ⟨rfl, _, rfl, rfl⟩

lemma probeStackWarp_hit (hkey : point.enterKey = 0) : (probeStackWarp c map n e).1 = map := by
  unfold probeStackWarp
  rw [hpoint]
  dsimp only
  rw [UprobeEvent.pickRegs, if_pos hkey]
  dsimp only
  split_ifs <;> rfl

end

/-! ## The invariant -/

/-- The registers of every active call are in the map, under keys of their own. -/
structure UprobeState.Recorded (s : UprobeState) : Prop where
  paired : s.Paired
  distinct : ∀ tid, ((s.stack tid).map CallFrame.point).Nodup
  saved : ∀ tid, ∀ frame ∈ s.stack tid,
    s.map.loadRegs (uprobeEnter + (frame.point + 1)) tid =
      some { regs := frame.regs, call := frame.call }

namespace UprobeState.Recorded

lemma key_ne {k k' tid tid' : U32} (h : k' ≠ k ∨ tid' ≠ tid) :
    ¬ (uprobeEnter + (k' + 1) = uprobeEnter + (k + 1) ∧ tid' = tid) := by
  rintro ⟨hkey, htid⟩
  rw [BitVec.add_right_inj, BitVec.add_left_inj] at hkey
  exact h.elim (fun hne => hne hkey) fun hne => hne htid

lemma init : uprobeStart.Recorded := by
  refine ⟨?_, ?_, ?_⟩
  · intro x hx
    cases hx
  · intro tid
    exact nodup_nil
  · intro tid frame hframe
    cases hframe

/-- A call of a point that the thread is not inside of saves its registers beside the others. -/
lemma call (hs : s.Recorded) (h : uprobeNext c s (.call e) = some s')
    (hnew : e.pointKey ∉ (s.stack e.hostTid).map CallFrame.point) : s'.Recorded := by
  simp only [uprobeNext] at h
  cases hpoint : c.uprobePointArgs e.pointKey with
  | none =>
    rw [hpoint] at h
    cases h
  | some point =>
    rw [hpoint] at h
    dsimp only at h
    split_ifs at h with hcond
    obtain ⟨hkey, hne, hpass, hroom⟩ := hcond
    cases h
    refine ⟨hs.paired, ?_, fun tid frame hframe => ?_⟩
    · exact (forall_update_iff _ fun _ (l : List CallFrame) => (l.map CallFrame.point).Nodup).mpr
        ⟨nodup_cons.mpr ⟨hnew, hs.distinct _⟩, fun tid _ => hs.distinct tid⟩
    · dsimp only at hframe ⊢
      rw [probeStackWarp_call hpoint hkey hne hpass]
      by_cases htid : tid = e.hostTid
      · subst htid
        rw [update_self, mem_cons] at hframe
        rcases hframe with rfl | hframe
        · exact CtxRegsMap.loadRegs_saveRegs hroom
        · have hpointNe : frame.point ≠ e.pointKey := by
            intro heq
            exact hnew (heq ▸ mem_map_of_mem hframe)
          rw [CtxRegsMap.loadRegs_saveRegs_of_ne (key_ne (.inl hpointNe))]
          exact hs.saved _ frame hframe
      · rw [update_of_ne htid] at hframe
        rw [CtxRegsMap.loadRegs_saveRegs_of_ne (key_ne (.inr htid))]
        exact hs.saved tid frame hframe

/-- A return finds the registers of its own call and deletes no others. -/
lemma ret (hs : s.Recorded) (h : uprobeNext c s (.ret e) = some s') : s'.Recorded := by
  simp only [uprobeNext] at h
  cases hpoint : c.uprobePointArgs e.pointKey with
  | none =>
    rw [hpoint] at h
    cases h
  | some point =>
    cases hstack : s.stack e.hostTid with
    | nil =>
      rw [hpoint, hstack] at h
      cases h
    | cons frame rest =>
      rw [hpoint, hstack] at h
      dsimp only at h
      split_ifs at h with hcond
      obtain ⟨hkey, hne, hexit, hpass⟩ := hcond
      cases h
      have hdistinct := hs.distinct e.hostTid
      rw [hstack, map_cons, nodup_cons] at hdistinct
      have hload := hs.saved e.hostTid frame (by rw [hstack]; exact mem_cons_self)
      obtain ⟨hmap, record, hrecord, hused⟩ :=
        probeStackWarp_ret (n := s.calls) hpoint hkey hne hexit hload hpass
      refine ⟨fun x hx => ?_, ?_, fun tid other hother => ?_⟩
      · rcases mem_append.mp hx with hx | hx
        · exact hs.paired x hx
        · rw [mem_singleton.mp hx]
          exact ⟨record, hrecord, by rw [hused], by rw [hused]⟩
      · exact (forall_update_iff _ fun _ (l : List CallFrame) => (l.map CallFrame.point).Nodup).mpr
          ⟨hdistinct.2, fun tid _ => hs.distinct tid⟩
      · dsimp only at hother ⊢
        rw [hmap]
        by_cases htid : tid = e.hostTid
        · subst htid
          rw [update_self] at hother
          have hpointNe : other.point ≠ frame.point := by
            intro heq
            exact hdistinct.1 (heq ▸ mem_map_of_mem hother)
          rw [CtxRegsMap.loadRegs_delRegs_of_ne (key_ne (.inl hpointNe))]
          exact hs.saved _ other (by rw [hstack]; exact mem_cons_of_mem _ hother)
        · rw [update_of_ne htid] at hother
          rw [CtxRegsMap.loadRegs_delRegs_of_ne (key_ne (.inr htid))]
          exact hs.saved tid other hother

lemma hit (hs : s.Recorded) (h : uprobeNext c s (.hit e) = some s') : s'.Recorded := by
  simp only [uprobeNext] at h
  cases hpoint : c.uprobePointArgs e.pointKey with
  | none =>
    rw [hpoint] at h
    cases h
  | some point =>
    rw [hpoint] at h
    dsimp only at h
    split_ifs at h with hkey
    cases h
    refine ⟨hs.paired, hs.distinct, fun tid frame hframe => ?_⟩
    dsimp only
    rw [probeStackWarp_hit hpoint hkey]
    exact hs.saved tid frame hframe

lemma step (hs : s.Recorded) (h : uprobeNext c s a = some s') (hnot : NotRecursive s a) :
    s'.Recorded := by
  cases a with
  | call e => exact hs.call h hnot
  | ret e => exact hs.ret h
  | hit e => exact hs.hit h

end UprobeState.Recorded

/-- Exits are paired with their own call in every state of a run without recursion. -/
theorem uprobe_exits_paired (h : ((uprobeSystem c).restrict NotRecursive).Reachable s) :
    s.Paired := by
  have hrecorded : s.Recorded := by
    refine h.invariant ?_ ?_
    · rintro s rfl
      exact .init
    · rintro s a s' hs ⟨hnot, hstep⟩
      exact hs.step hstep hnot
  exact hrecorded.paired

/-! ## Recursion -/

instance : ∀ (s : UprobeState) (a : UprobeAction), Decidable (NotRecursive s a)
  | s, .call e => inferInstanceAs (Decidable (e.pointKey ∉ (s.stack e.hostTid).map CallFrame.point))
  | _, .ret _ => inferInstanceAs (Decidable True)
  | _, .hit _ => inferInstanceAs (Decidable True)

/-- One function is hooked, with its entry as point 0 and its exit as point 1; all threads are
traced and no arguments are read. -/
def hookedConfig : UprobeConfig where
  trace :=
    { stackplzPid := 1
      threadWhitelist := false
      threadFilter := fun _ => some .whitelist
      childParentMap := fun _ => false
      commonFilter := some { traceCommon := false, traceUidGroup := 0 } }
  listed _ _ := false
  opList _ := some { code := .skip }
  argFilter _ := none
  is32bit := false
  uprobePointArgs key :=
    if key = 0 ∨ key = 1 then some { maxOp := 64, opKeyList := [], enterKey := 1 } else none

/-- The thread 7 at a point, with the given value in all registers. -/
def atPoint (key : U32) (value : U64) : UprobeEvent where
  hostTid := 7
  task := { comm := [], uid := 0, pid := 5, tid := 7 }
  forks _ := false
  regs := Vector.replicate 33 value
  memory _ := none
  ctx := { postCode := .skip }
  pointKey := key

def twoCalls : List UprobeAction :=
  [.call (atPoint 0 1), .ret (atPoint 1 2), .call (atPoint 0 3), .ret (atPoint 1 4)]

theorem uprobe_exits_paired_sequence :
    let s := Transition.runFrom (Transition.guarded NotRecursive (uprobeNext hookedConfig))
      uprobeStart twoCalls
    s.returned.map (fun x => x.2.map fun r => r.used.call) = [some 0, some 1] ∧ s.Paired := by
  refine ⟨by decide +kernel, uprobe_exits_paired (c := hookedConfig) ?_⟩
  exact .steps (.init rfl) (Transition.guarded_steps _ _ (by decide +kernel))

/-- The function calls itself once. -/
def recursiveCall : List UprobeAction :=
  [.call (atPoint 0 1), .call (atPoint 0 2), .ret (atPoint 1 3), .ret (atPoint 1 4)]

/-- The return of the outer call is lost: the inner call has replaced its registers, and the
return of the inner call has taken them out. -/
theorem outer_return_lost :
    ∃ s, (uprobeSystem hookedConfig).Reachable s ∧
      s.returned.map (fun x => (x.1.call, x.2.map fun r => r.used.call)) =
        [(1, some 1), (0, none)] ∧
      ¬ s.Paired := by
  have hreturned : (Transition.run (uprobeNext hookedConfig) uprobeStart recursiveCall).map
      (fun s => s.returned.map fun x => (x.1.call, x.2.map fun r => r.used.call)) =
        some [(1, some 1), (0, none)] := by
    decide +kernel
  obtain ⟨s, hs, hreturned⟩ := Option.map_eq_some_iff.mp hreturned
  refine ⟨s, Transition.run_reachable rfl _ hs, hreturned, fun hpaired => ?_⟩
  -- whoever is paired has an event
  have hsome : ∀ p ∈ s.returned.map (fun x => (x.1.call, x.2.map fun r => r.used.call)),
      p.2.isSome := by
    intro p hp
    obtain ⟨x, hx, rfl⟩ := mem_map.mp hp
    obtain ⟨record, hrecord, -⟩ := hpaired x hx
    rw [hrecord]
    rfl
  rw [hreturned] at hsome
  exact absurd (hsome (0, none) (by simp)) (by decide)

end Spz.Bpf
