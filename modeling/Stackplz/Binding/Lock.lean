import Mathlib.Data.List.FinRange
import Stackplz.Binding.Steps
import Stackplz.Lib.Seqlock

/-!
# The sequence lock of the binding

`spz_write_begin`, `spz_write_end`, the write sections and `spz_binding_snapshot` of `core/task.c`,
one load or store at a time.  The cells are the fields of `struct spz_binding`, each byte of the
two names on its own, in the order in which the source copies them.

`BindingWrite.section_alone` says that a write section alone does what the functions of
`Stackplz.Binding` do in one piece.  `binding_seqlock` is the sequence lock's result: a snapshot
that succeeds shows the binding as it is at one moment, with no write section open.
-/

namespace Spz

open Errno Transition Binding

/-! ## The cells -/

/-- The fields of `struct spz_binding` apart from the sequence number. -/
inductive BindingCell
  | generation | state
  | bindingId | pid | mode | uid | startBootTime | comm (k : Fin 16)
  | hasUid | hasComm | hasStartBootTime
  | identityGeneration | taskCookie | identityPid | identityTgid | identityUid
  | identityStartTime | identityStartBootTime | identityComm (k : Fin 16)
deriving DecidableEq

@[reducible] def BindingCell.Value : BindingCell → Type
  | .generation | .startBootTime | .identityGeneration | .taskCookie | .identityStartTime |
      .identityStartBootTime => U64
  | .bindingId | .pid | .uid | .identityPid | .identityTgid | .identityUid => U32
  | .comm _ | .hasUid | .hasComm | .hasStartBootTime | .identityComm _ => U8
  | .state => BindingState
  | .mode => BindMode

abbrev BindingCells := ∀ cell : BindingCell, cell.Value

def Binding.cells (b : Binding) : BindingCells
  | .generation => b.generation
  | .state => b.state
  | .bindingId => b.request.bindingId
  | .pid => b.request.pid
  | .mode => b.request.mode
  | .uid => b.request.uid
  | .startBootTime => b.request.startBootTime
  | .comm k => b.request.comm.get k
  | .hasUid => b.request.hasUid
  | .hasComm => b.request.hasComm
  | .hasStartBootTime => b.request.hasStartBootTime
  | .identityGeneration => b.identity.generation
  | .taskCookie => b.identity.taskCookie
  | .identityPid => b.identity.pid
  | .identityTgid => b.identity.tgid
  | .identityUid => b.identity.uid
  | .identityStartTime => b.identity.startTime
  | .identityStartBootTime => b.identity.startBootTime
  | .identityComm k => b.identity.comm.get k

def Binding.ofCells (cells : BindingCells) : Binding where
  generation := cells .generation
  state := cells .state
  request :=
    { bindingId := cells .bindingId
      pid := cells .pid
      mode := cells .mode
      uid := cells .uid
      startBootTime := cells .startBootTime
      comm := Vector.ofFn fun k => cells (.comm k)
      hasUid := cells .hasUid
      hasComm := cells .hasComm
      hasStartBootTime := cells .hasStartBootTime }
  identity :=
    { generation := cells .identityGeneration
      taskCookie := cells .taskCookie
      pid := cells .identityPid
      tgid := cells .identityTgid
      uid := cells .identityUid
      startTime := cells .identityStartTime
      startBootTime := cells .identityStartBootTime
      comm := Vector.ofFn fun k => cells (.identityComm k) }

lemma Binding.ofCells_cells (b : Binding) : ofCells b.cells = b := by
  have hname : ∀ comm : Comm, (Vector.ofFn fun k : Fin 16 => comm.get k) = comm := by
    intro comm
    refine Vector.ext fun k hk => ?_
    rw [Vector.getElem_ofFn]
    rfl
  simp only [ofCells, cells, hname]

/-! ## The programs -/

/-- The order in which `spz_store_request` and `spz_load_request` take the fields. -/
def requestOrder : List BindingCell :=
  [.bindingId, .pid, .mode, .uid, .startBootTime] ++ (List.finRange 16).map .comm ++
    [.hasUid, .hasComm, .hasStartBootTime]

/-- The order in which `spz_store_identity` and `spz_load_identity` take the fields. -/
def identityOrder : List BindingCell :=
  [.identityGeneration, .taskCookie, .identityPid, .identityTgid, .identityUid,
    .identityStartTime, .identityStartBootTime] ++ (List.finRange 16).map .identityComm

def storeCells (order : List BindingCell) (b : Binding) : List (Σ cell : BindingCell, cell.Value) :=
  order.map fun cell => ⟨cell, b.cells cell⟩

def storeRequest (request : BindingRequest) : List (Σ cell : BindingCell, cell.Value) :=
  storeCells requestOrder { request := request }

def storeIdentity (identity : TaskIdentity) : List (Σ cell : BindingCell, cell.Value) :=
  storeCells identityOrder { identity := identity }

abbrev BindingSection := Seqlock.Section BindingCell BindingCell.Value (Except Errno Unit)

/-- The calls that write: `spz_binding_set` with a valid request, `spz_binding_clear`,
`spz_mark_state_if_generation`, and the commit of `spz_binding_observe_current`. -/
inductive BindingWrite
  | set (request : BindingRequest) (valid : requestValid request = true)
  | clear
  | mark (generation : U64) (required replacement : BindingState)
  | commit (generation : U64) (identity : TaskIdentity)

namespace BindingWrite

/-- The section between `spz_write_begin` and `spz_write_end`. -/
def body : BindingWrite → BindingSection
  | .set request _ =>
    .load .generation fun generation =>
      .stores (storeRequest request ++ storeIdentity {} ++
        [⟨.generation, nextGeneration generation⟩, ⟨.state, .pending⟩]) (.done (.ok ()))
  | .clear =>
    .load .generation fun generation =>
      .stores (storeRequest {} ++ storeIdentity {} ++
        [⟨.generation, nextGeneration generation⟩, ⟨.state, .empty⟩]) (.done (.ok ()))
  | .mark generation required replacement =>
    .load .generation fun current =>
      if current ≠ generation then .done (.error ESTALE)
      else .load .state fun state =>
        if state ≠ required then .done (.error ESTALE)
        else .store .state replacement (.done (.ok ()))
  | .commit generation identity =>
    .load .generation fun current =>
      if current ≠ generation then .done (.error ESTALE)
      else .load .state fun state =>
        if state ≠ .pending then .done (.error ESTALE)
        else .stores (storeIdentity identity ++ [⟨.state, .bound⟩]) (.done (.ok ()))

/-- What the section does to the binding in one piece. -/
def apply (b : Binding) : BindingWrite → Binding
  | .set request _ => (bindingSet b request).2
  | .clear => bindingClear b
  | .mark generation required replacement =>
    (markStateIfGeneration b generation required replacement).2
  | .commit generation identity => (commitSection b generation identity).1

section

variable {b b' : Binding} {order : List BindingCell}

lemma written_storeCells (hnodup : order.Nodup) (h : ∀ cell ∉ order, b.cells cell = b'.cells cell) :
    Seqlock.Section.written b.cells (storeCells order b') = b'.cells := by
  have hkeys : (storeCells order b').map Sigma.fst = order := by
    rw [storeCells, List.map_map]
    exact List.map_id order
  funext cell
  by_cases hmem : cell ∈ order
  · have hstored : ⟨cell, b'.cells cell⟩ ∈ storeCells order b' := List.mem_map.mpr ⟨cell, hmem, rfl⟩
    exact Seqlock.Section.written_of_mem (by rwa [hkeys]) hstored _
  · rw [Seqlock.Section.written_of_notMem (by rwa [hkeys])]
    exact h cell hmem

lemma storeCells_congr (h : ∀ cell ∈ order, b.cells cell = b'.cells cell) :
    storeCells order b = storeCells order b' := by
  refine List.map_congr_left fun cell hmem => ?_
  rw [h cell hmem]

lemma storeRequest_eq (b : Binding) : storeRequest b.request = storeCells requestOrder b := by
  refine storeCells_congr fun cell hmem => ?_
  revert hmem
  cases cell <;> simp [requestOrder, cells]

lemma storeIdentity_eq (b : Binding) : storeIdentity b.identity = storeCells identityOrder b := by
  refine storeCells_congr fun cell hmem => ?_
  revert hmem
  cases cell <;> simp [identityOrder, cells]

end

lemma renew_run (b : Binding) (request : BindingRequest) (generation : U64) (state : BindingState) :
    Seqlock.Section.written b.cells (storeRequest request ++ storeIdentity {} ++
      [⟨.generation, generation⟩, ⟨.state, state⟩]) =
      cells { generation := generation, state := state, request := request } := by
  let b' : Binding := { generation := generation, state := state, request := request }
  have hstores : storeRequest request ++ storeIdentity {} ++
      [⟨.generation, generation⟩, ⟨.state, state⟩] =
      storeCells (requestOrder ++ identityOrder ++ [.generation, .state]) b' := by
    rw [storeRequest_eq b', storeIdentity_eq b']
    simp only [storeCells, List.map_append]
    rfl
  rw [hstores]
  refine written_storeCells (by decide +kernel) fun cell hmem => absurd ?_ hmem
  cases cell <;> simp [requestOrder, identityOrder]

lemma commit_run (b : Binding) (identity : TaskIdentity) :
    Seqlock.Section.written b.cells (storeIdentity identity ++ [⟨.state, .bound⟩]) =
      cells { b with identity := identity, state := .bound } := by
  let b' : Binding := { b with identity := identity, state := .bound }
  have hstores : storeIdentity identity ++ [⟨.state, .bound⟩] =
      storeCells (identityOrder ++ [.state]) b' := by
    rw [storeIdentity_eq b']
    simp only [storeCells, List.map_append]
    rfl
  rw [hstores]
  refine written_storeCells (by decide +kernel) fun cell => ?_
  cases cell <;> simp [identityOrder, cells, b']

/-- A section alone does what the function does in one piece. -/
theorem section_alone (write : BindingWrite) (b : Binding) :
    (write.body.run b.cells).2 = (write.apply b).cells := by
  have hgeneration : b.cells .generation = b.generation := rfl
  have hcell : b.cells .state = b.state := rfl
  cases write with
  | set request valid =>
    have hset : (bindingSet b request).2 =
        { generation := nextGeneration b.generation, state := .pending, request := request } := by
      simp [bindingSet, valid]
    rw [body, Seqlock.Section.run, Seqlock.Section.run_stores, apply, hset]
    exact renew_run b request _ _
  | clear =>
    rw [body, Seqlock.Section.run, Seqlock.Section.run_stores]
    exact renew_run b {} _ _
  | mark generation required replacement =>
    rw [body, Seqlock.Section.run, apply, markStateIfGeneration, hgeneration]
    by_cases hgen : b.generation ≠ generation
    · rw [if_pos hgen, if_pos (.inl hgen)]
      rfl
    · rw [if_neg hgen, Seqlock.Section.run, hcell]
      by_cases hstate : b.state ≠ required
      · rw [if_pos hstate, if_pos (.inr hstate)]
        rfl
      · rw [if_neg hstate, if_neg (not_or.mpr ⟨hgen, hstate⟩)]
        funext cell
        cases cell <;> rfl
  | commit generation identity =>
    rw [body, Seqlock.Section.run, apply, commitSection, hgeneration]
    by_cases hgen : b.generation ≠ generation
    · rw [if_pos hgen, if_pos (.inl hgen)]
      rfl
    · rw [if_neg hgen, Seqlock.Section.run, hcell]
      by_cases hstate : b.state ≠ .pending
      · rw [if_pos hstate, if_pos (.inr hstate)]
        rfl
      · rw [if_neg hstate, if_neg (not_or.mpr ⟨hgen, hstate⟩), Seqlock.Section.run_stores]
        exact commit_run b identity

end BindingWrite

/-! ## The lock -/

/-- `SPZ_BINDING_WRITE_ATTEMPTS`, `SPZ_BINDING_SNAPSHOT_ATTEMPTS`, and the order in which
`spz_binding_snapshot` loads the fields of a snapshot it has set to 0. -/
def bindingLock : Seqlock.Config BindingCell BindingCell.Value where
  writeAttempts := 128
  readAttempts := 32
  order := [.generation, .state] ++ requestOrder ++ identityOrder
  blank := cells {}

/-- The binding with its sequence number and the threads that use it. -/
abbrev LockedBinding := Seqlock.State BindingCell BindingCell.Value (Except Errno Unit) 64

/-- A thread begins a call that writes or an `spz_binding_snapshot`, or makes its next step. -/
inductive BindingLockAct
  | write (t : ℕ) (call : BindingWrite)
  | snapshot (t : ℕ)
  | step (t : ℕ)

def BindingLockAct.toAct :
    BindingLockAct → Seqlock.Act BindingCell BindingCell.Value (Except Errno Unit)
  | .write t call => .write t call.body
  | .snapshot t => .read t
  | .step t => .step t

/-- The binding after `spz_binding_init`, used by any number of threads. -/
def bindingLockSystem : System LockedBinding BindingLockAct :=
  .ofStep (fun s => s.sequence = 0 ∧ s.cells = cells {} ∧ ∀ t, s.threads t = .idle)
    fun s a => Seqlock.next bindingLock s a.toAct

/-- The sequence number is not about to wrap around. -/
def SequenceShort (s : LockedBinding) (_ : BindingLockAct) : Prop := s.sequence.toNat + 2 < 2 ^ 64
deriving Decidable

lemma bindingLock_order (cell : BindingCell) : cell ∈ bindingLock.order := by
  cases cell <;> simp [bindingLock, requestOrder, identityOrder]

lemma bindingLock_coherent {s : LockedBinding}
    (h : (bindingLockSystem.restrict SequenceShort).Reachable s) : Seqlock.Coherent s := by
  refine System.Reachable.invariant (I := Seqlock.Coherent) (fun s hs => ?_)
    (fun s a s' hI hstep => ?_) h
  · exact .init hs.2.2
  · exact hI.act (by decide) bindingLock_order hstep.1 hstep.2

/-- A snapshot is never torn.  In every interleaving short of the wrap-around of the sequence
number at most one thread is inside a write section, and when an `spz_binding_snapshot` that is
under way returns 0, what it returns is the binding as it is at that moment, with nobody inside. -/
theorem binding_seqlock {s : LockedBinding}
    (h : (bindingLockSystem.restrict SequenceShort).Reachable s) :
    (∀ t u, (s.threads t).IsInside → (s.threads u).IsInside → t = u) ∧
      ∀ t s' snapshot, (s.threads t).resting = false → bindingLockSystem.step s (.step t) s' →
        s'.threads t = .read (some snapshot) →
          ofCells snapshot = ofCells s.cells ∧ ∀ u, ¬ (s.threads u).IsInside := by
  have hcoherent := bindingLock_coherent h
  refine ⟨hcoherent.unique, fun t s' snapshot hbusy hstep hread => ?_⟩
  have hnext : Seqlock.next bindingLock s (.step t) = some s' := hstep
  obtain ⟨hcells, hnone⟩ := hcoherent.copied (by decide) hbusy hnext hread
  exact ⟨congrArg _ hcells, hnone⟩

/-- A write overtakes a snapshot, which begins again; it is about to load the sequence number for
the last time. -/
def overtaken : LockedBinding :=
  runFrom (guarded SequenceShort fun s a => Seqlock.next bindingLock s a.toAct)
    ⟨0, cells {}, fun _ => .idle⟩
    ([.snapshot 0, .step 0,
      .write 1 (.set { bindingId := 7, pid := 100, mode := .pid } (by decide))] ++
      List.replicate 53 (.step 1) ++ List.replicate 100 (.step 0))

theorem binding_seqlock_overtaken : ∃ s' snapshot,
    bindingLockSystem.step overtaken (.step 0) s' ∧ s'.threads 0 = .read (some snapshot) ∧
      (ofCells snapshot).state = .pending ∧ (ofCells snapshot).request.pid = 100 ∧
      ∀ u, ¬ (overtaken.threads u).IsInside := by
  have hreach : (bindingLockSystem.restrict SequenceShort).Reachable overtaken :=
    .steps (.init ⟨rfl, rfl, fun _ => rfl⟩) (guarded_steps _ _ (by decide +kernel))
  have hreturns : (Seqlock.next bindingLock overtaken (.step 0)).any
      fun s' => (s'.threads 0).copy?.isSome := by decide +kernel
  obtain ⟨s', hstep, hread⟩ := (Option.any_eq_true _ _).mp hreturns
  obtain ⟨snapshot, hread⟩ := Option.isSome_iff_exists.mp hread
  have hthread := Seqlock.Pc.eq_read_of_copy? hread
  obtain ⟨hcopy, hnone⟩ :=
    (binding_seqlock hreach).2 0 s' snapshot (by decide +kernel) hstep hthread
  refine ⟨s', snapshot, hstep, hthread, ?_, ?_, hnone⟩
  all_goals
    rw [hcopy]
    decide +kernel

end Spz
