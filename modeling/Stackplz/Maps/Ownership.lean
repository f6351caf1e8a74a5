import Stackplz.Lib.Transition
import Stackplz.Maps

/-!
# What the maps store owns

The calls of `core/maps.c`, one after another, with a ledger of what the backend has handed out
and what was handed back to it: references to tasks (`retain_task`, `release_task`) and rendered
buffers (`render`, `release_buffer`).  Buffers are numbered in the order in which `render` delivers
them, so two renderings at the same address are two buffers.

The store itself is the one of `Stackplz.Maps`: `capture_forget`, `snapshot_forget` and
`clear_forget` say that a call does to it what the functions there do, which fail with `-EBUSY`
here exactly while a read is open.  `maps_ownership` is the ledger's invariant.
-/

namespace Spz

open Errno Transition

/-! ## The calls with their ledger -/

/-- The store, the number of its buffer, the open reads, and the ledger. -/
structure OwnedMaps where
  maps : Maps
  held : Option ℕ := none
  readers : U32 := 0
  retained : List U64 := []
  released : List U64 := []
  rendered : ℕ := 0
  freed : List ℕ := []

/-- What `backend.render` does: it fails or not, and in either case it may have delivered a
buffer and a length. -/
structure RenderAnswer where
  failure : Option Errno
  rendering : Rendering

/-- What `mapsSnapshot` is told of it. -/
def RenderAnswer.toExcept (answer : RenderAnswer) : Except Errno Rendering :=
  match answer.failure with
  | some e => .error e
  | none => .ok answer.rendering

namespace OwnedMaps

variable (s : OwnedMaps)

/-- `release_buffer`, which is called for a buffer that is there. -/
def releaseBuffer : Option ℕ → OwnedMaps
  | none => s
  | some number => { s with freed := s.freed ++ [number] }

/-- `release_task`, which is called for a task that is there. -/
def releaseTask : Option U64 → OwnedMaps
  | none => s
  | some task => { s with released := s.released ++ [task] }

/-- `render` has delivered a buffer. -/
def deliver : Option (List U8) → Option ℕ × OwnedMaps
  | none => (none, s)
  | some _ => (some s.rendered, { s with rendered := s.rendered + 1 })

/-- `spz_maps_capture_task`. -/
def capture (task generation : U64) (retain : Except Errno Unit) : Except Errno Unit × OwnedMaps :=
  if generation = 0 then (.error EINVAL, s)
  else if !mapsSupported s.maps then (.error EOPNOTSUPP, s)
  else if s.readers ≠ 0 then (.error EBUSY, s)
  else
    match s.maps.task with
    | some held =>
      (if held = task ∧ s.maps.taskGeneration = generation then .ok () else .error EBUSY, s)
    | none =>
      match retain with
      | .error e => (.error e, s)
      | .ok () =>
        (.ok (), { s with
          maps := { s.maps with
            task := some task, taskGeneration := generation, state := .taskCaptured }
          retained := s.retained ++ [task] })

/-- `spz_maps_snapshot`: what is released at the end is the new buffer after a failure and the old
one, if there is one, after a success. -/
def snapshot (generation snapshot : U64) (answer : RenderAnswer) : Except Errno Unit × OwnedMaps :=
  if generation = 0 ∨ snapshot = 0 then (.error EINVAL, s)
  else if !mapsSupported s.maps then (.error EOPNOTSUPP, s)
  else if s.readers ≠ 0 then (.error EBUSY, s)
  else if s.maps.task = none ∨ s.maps.taskGeneration ≠ generation then (.error ESTALE, s)
  else
    let (new, s') := s.deliver answer.rendering.data
    match answer.failure with
    | some e => (.error e, s'.releaseBuffer new)
    | none =>
      match mapsStore s.maps snapshot answer.rendering with
      | (.error e, _) => (.error e, s'.releaseBuffer new)
      | (.ok (), maps) => (.ok (), { s' with maps := maps, held := new }.releaseBuffer s.held)

/-- `spz_maps_read_begin`; nobody writes between two calls. -/
def readBegin (snapshot : U64) (offset : U32) : Except Errno MapsRead × OwnedMaps :=
  match mapsReadBegin s.maps snapshot offset false with
  | .error e => (.error e, s)
  | .ok read => (.ok read, { s with readers := s.readers + 1 })

/-- `spz_maps_read_end`. -/
def readEnd : OwnedMaps := { s with readers := s.readers - 1 }

/-- `spz_maps_clear`. -/
def clear : Except Errno Unit × OwnedMaps :=
  if !mapsSupported s.maps then (.ok (), s)
  else if s.readers ≠ 0 then (.error EBUSY, s)
  else
    let s' := { s with maps := { backend := s.maps.backend, state := .empty }, held := none }
    (.ok (), (s'.releaseBuffer s.held).releaseTask s.maps.task)

end OwnedMaps

/-- A call of the store with what the backend answers. -/
inductive MapsCall
  | capture (task generation : U64) (retain : Except Errno Unit)
  | snapshot (generation snapshot : U64) (answer : RenderAnswer)
  | readBegin (snapshot : U64) (offset : U32)
  | readEnd
  | clear

def OwnedMaps.call (s : OwnedMaps) : MapsCall → OwnedMaps
  | .capture task generation retain => (s.capture task generation retain).2
  | .snapshot generation snapshot answer => (s.snapshot generation snapshot answer).2
  | .readBegin snapshot offset => (s.readBegin snapshot offset).2
  | .readEnd => s.readEnd
  | .clear => s.clear.2

/-- The store after `spz_maps_init` and any sequence of calls. -/
def ownedSystem (backend : MapsBackend) : System OwnedMaps MapsCall :=
  .ofStep (fun s => s = { maps := mapsInit backend }) fun s call => some (s.call call)

/-! ## Without the ledger -/

namespace OwnedMaps

variable {s : OwnedMaps}

@[simp] lemma releaseBuffer_maps (number : Option ℕ) : (s.releaseBuffer number).maps = s.maps := by
  cases number <;> rfl

@[simp] lemma releaseTask_maps (task : Option U64) : (s.releaseTask task).maps = s.maps := by
  cases task <;> rfl

@[simp] lemma deliver_maps (data : Option (List U8)) : (s.deliver data).2.maps = s.maps := by
  cases data <;> rfl

section

variable (number : Option ℕ) (task : Option U64) (k : ℕ)

@[simp] lemma releaseBuffer_held : (s.releaseBuffer number).held = s.held := by
  cases number <;> rfl

@[simp] lemma releaseBuffer_rendered : (s.releaseBuffer number).rendered = s.rendered := by
  cases number <;> rfl

@[simp] lemma releaseBuffer_retained : (s.releaseBuffer number).retained = s.retained := by
  cases number <;> rfl

@[simp] lemma releaseBuffer_released : (s.releaseBuffer number).released = s.released := by
  cases number <;> rfl

@[simp] lemma releaseTask_held : (s.releaseTask task).held = s.held := by
  cases task <;> rfl

@[simp] lemma releaseTask_rendered : (s.releaseTask task).rendered = s.rendered := by
  cases task <;> rfl

@[simp] lemma releaseTask_retained : (s.releaseTask task).retained = s.retained := by
  cases task <;> rfl

@[simp] lemma releaseTask_freed : (s.releaseTask task).freed = s.freed := by
  cases task <;> rfl

lemma count_snoc {α : Type*} [DecidableEq α] (l : List α) (a b : α) :
    (l ++ [a]).count b = l.count b + if a = b then 1 else 0 := by
  simp [List.count_append, List.count_singleton]

@[simp] lemma releaseBuffer_freed : (s.releaseBuffer number).freed.count k =
    s.freed.count k + if number = some k then 1 else 0 := by
  cases number with
  | none => simp [releaseBuffer]
  | some number => simp only [releaseBuffer, count_snoc, Option.some.injEq]

@[simp] lemma releaseTask_released : (s.releaseTask task).released = s.released ++ task.toList := by
  cases task with
  | none => exact (List.append_nil _).symm
  | some task => rfl

end

lemma capture_forget (task generation : U64) (retain : Except Errno Unit) :
    ((s.capture task generation retain).1, (s.capture task generation retain).2.maps) =
      mapsCaptureTask s.maps task generation (s.readers != 0) retain := by
  unfold capture mapsCaptureTask
  simp only [bne_iff_ne]
  split_ifs
  · rfl
  · rfl
  · rfl
  · cases htask : s.maps.task with
    | some held => rfl
    | none =>
      cases retain with
      | error e => rfl
      | ok _ => rfl

/-- A snapshot does to the store what `mapsSnapshot` does. -/
lemma snapshot_forget (generation snapshot : U64) (answer : RenderAnswer) :
    ((s.snapshot generation snapshot answer).1, (s.snapshot generation snapshot answer).2.maps) =
      mapsSnapshot s.maps generation snapshot (s.readers != 0) answer.toExcept := by
  unfold OwnedMaps.snapshot mapsSnapshot RenderAnswer.toExcept
  simp only [bne_iff_ne]
  split_ifs
  · rfl
  · rfl
  · rfl
  · rfl
  · cases answer.failure with
    | some e => simp
    | none =>
      dsimp only
      rcases hstore : mapsStore s.maps snapshot answer.rendering with ⟨⟨e⟩ | ⟨⟩, maps⟩
      · have hsame := mapsStore_error (congrArg Prod.fst hstore)
        rw [hstore] at hsame
        simpa using hsame.symm
      · simp

lemma clear_forget : (s.clear.1, s.clear.2.maps) = mapsClear s.maps (s.readers != 0) := by
  unfold clear mapsClear
  simp only [bne_iff_ne]
  split_ifs
  · rfl
  · rfl
  · simp

/-! ## What a call can do -/

/-- Everything a call can do, ledger included. -/
inductive Effect (s : OwnedMaps) : OwnedMaps → Prop
  | same (readers : U32) : Effect s { s with readers := readers }
  | captured (task generation : U64) : mapsSupported s.maps = true → s.maps.task = none →
      Effect s { s with
        maps := { s.maps with
          task := some task, taskGeneration := generation, state := .taskCaptured }
        retained := s.retained ++ [task] }
  /-- A rendering that was of no use; its buffer, if any, has been released. -/
  | refused (data : Option (List U8)) :
      Effect s ((s.deliver data).2.releaseBuffer (s.deliver data).1)
  /-- A rendering that is now the current one; the buffer before it has been released. -/
  | stored (bytes : List U8) (length : U32) (snapshot : U64) : s.maps.task ≠ none →
      1 ≤ length.toNat → length ≤ s.maps.backend.maxSnapshotBytes →
      Effect s (releaseBuffer { s with
        maps := { s.maps with
          data := some bytes
          length := length
          crc32 := crc32Ieee (bytes.take length.toNat)
          snapshot := snapshot
          state := .ready }
        held := some s.rendered
        rendered := s.rendered + 1 } s.held)
  | cleared : mapsSupported s.maps = true →
      Effect s (releaseTask (releaseBuffer { s with
        maps := { backend := s.maps.backend, state := .empty }
        held := none } s.held) s.maps.task)

lemma capture_effect (task generation : U64) (retain : Except Errno Unit) :
    Effect s (s.capture task generation retain).2 := by
  unfold capture
  split_ifs with hgen hsup hbusy
  · exact .same s.readers
  · exact .same s.readers
  · exact .same s.readers
  · cases htask : s.maps.task with
    | some held => exact .same s.readers
    | none =>
      cases retain with
      | error e => exact .same s.readers
      | ok _ => exact .captured task generation (by simpa using hsup) htask

lemma snapshot_effect (generation snapshot : U64) (answer : RenderAnswer) :
    Effect s (s.snapshot generation snapshot answer).2 := by
  unfold OwnedMaps.snapshot
  split_ifs with harg hsup hbusy hstale
  · exact .same s.readers
  · exact .same s.readers
  · exact .same s.readers
  · exact .same s.readers
  · cases answer.failure with
    | some e => exact .refused answer.rendering.data
    | none =>
      dsimp only
      rcases hstore : mapsStore s.maps snapshot answer.rendering with ⟨⟨e⟩ | ⟨⟩, maps⟩
      · exact .refused answer.rendering.data
      · obtain ⟨bytes, hdata, hpos, hmax, hmaps⟩ := mapsStore_ok (congrArg Prod.fst hstore)
        rw [hstore] at hmaps
        cases hmaps
        rw [hdata]
        exact .stored bytes _ snapshot (fun h => hstale (.inl h)) hpos hmax

lemma readBegin_effect (snapshot : U64) (offset : U32) :
    Effect s (s.readBegin snapshot offset).2 := by
  unfold readBegin
  cases mapsReadBegin s.maps snapshot offset false with
  | error e => exact .same s.readers
  | ok read => exact .same (s.readers + 1)

lemma clear_effect : Effect s s.clear.2 := by
  unfold clear
  split_ifs with hsup hbusy
  · exact .same s.readers
  · exact .same s.readers
  · exact .cleared (by simpa using hsup)

lemma call_effect (call : MapsCall) : Effect s (s.call call) := by
  cases call with
  | capture task generation retain => exact capture_effect task generation retain
  | snapshot generation snapshot answer => exact snapshot_effect generation snapshot answer
  | readBegin snapshot offset => exact readBegin_effect snapshot offset
  | readEnd => exact .same (s.readers - 1)
  | clear => exact clear_effect

lemma snapshot_error {generation snapshot : U64} {answer : RenderAnswer} {e : Errno}
    (h : (s.snapshot generation snapshot answer).1 = .error e) :
    (s.snapshot generation snapshot answer).2.maps = s.maps := by
  have hforget := snapshot_forget (s := s) generation snapshot answer
  rw [h] at hforget
  have hsame := mapsSnapshot_error (congrArg Prod.fst hforget).symm
  rw [← hforget] at hsame
  exact hsame

/-! ## The invariant -/

/-- What the store holds and what it owes. -/
structure Accounted (s : OwnedMaps) : Prop where
  empty : s.maps.state = .empty ↔ s.maps.task = none ∧ s.maps.data = none
  captured : s.maps.state = .taskCaptured ↔ s.maps.task ≠ none ∧ s.maps.data = none
  ready : s.maps.state = .ready ↔ s.maps.task ≠ none ∧ s.maps.data ≠ none
  content : ∀ bytes, s.maps.data = some bytes → 1 ≤ s.maps.length.toNat ∧
    s.maps.length ≤ s.maps.backend.maxSnapshotBytes ∧
    s.maps.crc32 = crc32Ieee (bytes.take s.maps.length.toNat)
  tasks : s.retained.Perm (s.released ++ s.maps.task.toList)
  held : s.held = none ↔ s.maps.data = none
  buffers : ∀ number < s.rendered,
    s.freed.count number = if s.held = some number then 0 else 1
  fresh : ∀ number, s.rendered ≤ number → s.freed.count number = 0 ∧ s.held ≠ some number

namespace Accounted

lemma init {backend : MapsBackend} (hsup : mapsBackendSupported backend = true) :
    Accounted { maps := mapsInit backend } := by
  refine ⟨?_, ?_, ?_, ?_, ?_, ?_, ?_, ?_⟩ <;> simp [mapsInit, hsup]

variable (h : s.Accounted)
include h

lemma data_eq_none (hsup : mapsSupported s.maps = true)
    (htask : s.maps.task = none) : s.maps.data = none := by
  cases hstate : s.maps.state with
  | unsupported => simp [mapsSupported, hstate] at hsup
  | empty => exact (h.empty.mp hstate).2
  | taskCaptured => exact absurd htask (h.captured.mp hstate).1
  | ready => exact absurd htask (h.ready.mp hstate).1

lemma refused (data : Option (List U8)) :
    ((s.deliver data).2.releaseBuffer (s.deliver data).1).Accounted := by
  cases data with
  | none => exact h
  | some bytes =>
    obtain ⟨hfreed, hheld⟩ := h.fresh s.rendered (Nat.le_refl _)
    refine ⟨h.empty, h.captured, h.ready, h.content, h.tasks, h.held, fun number hnumber => ?_,
      fun number hnumber => ?_⟩
    · change number < s.rendered + 1 at hnumber
      change (s.freed ++ [s.rendered]).count number = if s.held = some number then 0 else 1
      rw [count_snoc]
      by_cases heq : s.rendered = number
      · rw [if_pos heq, ← heq, hfreed, if_neg hheld]
      · rw [if_neg heq, h.buffers number (by omega), Nat.add_zero]
    · change s.rendered + 1 ≤ number at hnumber
      obtain ⟨hnone, hother⟩ := h.fresh number (by omega)
      refine ⟨?_, hother⟩
      change (s.freed ++ [s.rendered]).count number = 0
      rw [count_snoc, hnone, if_neg (by omega)]

/-- The new buffer takes the place of the old one, which goes out. -/
lemma stored (bytes : List U8) (length : U32) (snapshot : U64) (htask : s.maps.task ≠ none)
    (hpos : 1 ≤ length.toNat) (hmax : length ≤ s.maps.backend.maxSnapshotBytes) :
    (releaseBuffer { s with
      maps := { s.maps with
        data := some bytes
        length := length
        crc32 := crc32Ieee (bytes.take length.toNat)
        snapshot := snapshot
        state := .ready }
      held := some s.rendered
      rendered := s.rendered + 1 } s.held).Accounted := by
  obtain ⟨hfreed, hheld⟩ := h.fresh s.rendered (Nat.le_refl _)
  refine ⟨?_, ?_, ?_, ?_, ?_, ?_, fun number hnumber => ?_, fun number hnumber => ?_⟩
  · simp
  · simp
  · simpa using htask
  · simp only [releaseBuffer_maps, Option.some.injEq]
    rintro _ rfl
    exact ⟨hpos, hmax, rfl⟩
  · simpa using h.tasks
  · simp
  · simp only [releaseBuffer_rendered] at hnumber
    simp only [releaseBuffer_freed, releaseBuffer_held, Option.some.injEq]
    by_cases heq : s.rendered = number
    · rw [if_pos heq, ← heq, hfreed, if_neg hheld]
    · rw [if_neg heq, h.buffers number (by omega)]
      split_ifs <;> rfl
  · simp only [releaseBuffer_rendered] at hnumber
    obtain ⟨hnone, hother⟩ := h.fresh number (by omega)
    simp only [releaseBuffer_freed, releaseBuffer_held, hnone, if_neg hother]
    refine ⟨trivial, fun heq => ?_⟩
    simp only [Option.some.injEq] at heq
    omega

lemma cleared :
    (releaseTask (releaseBuffer { s with
      maps := { backend := s.maps.backend, state := .empty }
      held := none } s.held) s.maps.task).Accounted := by
  refine ⟨?_, ?_, ?_, ?_, ?_, ?_, fun number hnumber => ?_, fun number hnumber => ?_⟩
  · simp
  · simp
  · simp
  · simp
  · simpa using h.tasks
  · simp
  · simp only [releaseTask_rendered, releaseBuffer_rendered] at hnumber
    simp only [releaseTask_freed, releaseTask_held, releaseBuffer_freed, releaseBuffer_held,
      h.buffers number hnumber]
    split_ifs <;> simp_all
  · simp only [releaseTask_rendered, releaseBuffer_rendered] at hnumber
    obtain ⟨hnone, hother⟩ := h.fresh number hnumber
    simp [hnone, hother]

lemma step {s' : OwnedMaps} (heff : Effect s s') : s'.Accounted := by
  cases heff with
  | same readers =>
    exact ⟨h.empty, h.captured, h.ready, h.content, h.tasks, h.held, h.buffers, h.fresh⟩
  | captured task generation hsup htask =>
    have hdata := h.data_eq_none hsup htask
    refine ⟨?_, ?_, ?_, h.content, ?_, h.held, h.buffers, h.fresh⟩
    · simp
    · simpa using hdata
    · simpa using hdata
    · have hbooks := h.tasks
      rw [htask, Option.toList_none, List.append_nil] at hbooks
      exact hbooks.append_right [task]
  | refused data => exact h.refused data
  | stored bytes length snapshot htask hpos hmax =>
    exact h.stored bytes length snapshot htask hpos hmax
  | cleared hsup => exact h.cleared

end Accounted

end OwnedMaps

/-! ## The result -/

lemma OwnedMaps.Accounted.references {s : OwnedMaps} (h : s.Accounted) :
    s.retained.length = s.released.length + if s.maps.task = none then 0 else 1 := by
  rw [h.tasks.length_eq, List.length_append]
  cases s.maps.task with
  | none => rfl
  | some task => rfl

/-- The store's books are in order after any sequence of calls, whatever the backend answers:
its state says what it holds, the references and buffers that were handed out are held or have
been handed back once, and a snapshot that fails leaves task, data, length, checksum and snapshot
number as they were. -/
theorem maps_ownership {backend : MapsBackend} (hsup : mapsBackendSupported backend = true)
    {s : OwnedMaps} (h : (ownedSystem backend).Reachable s) :
    s.Accounted ∧
      (s.retained.length = s.released.length + if s.maps.task = none then 0 else 1) ∧
      ∀ generation snapshot answer e, (s.snapshot generation snapshot answer).1 = .error e →
        (s.snapshot generation snapshot answer).2.maps = s.maps := by
  have hbooks : s.Accounted := by
    refine System.Reachable.invariant (I := OwnedMaps.Accounted) (fun s hs => ?_)
      (fun s call s' hI hstep => ?_) h
    · rw [hs]
      exact .init hsup
    · cases hstep
      exact hI.step (OwnedMaps.call_effect call)
  exact ⟨hbooks, hbooks.references, fun _ _ _ _ => OwnedMaps.snapshot_error⟩

/-- A task is captured and rendered twice; the third rendering fails and delivers a buffer all the
same.  The second buffer is the current one, the other two have been released. -/
theorem maps_ownership_rendered :
    let s := runFrom (fun s call => some (OwnedMaps.call s call)) { maps := mapsInit ⟨true, 16, 8⟩ }
      [.capture 0x1000 1 (.ok ()), .snapshot 1 1 ⟨none, some [0x41], 1⟩,
        .snapshot 1 2 ⟨none, some [0x42], 1⟩, .snapshot 1 3 ⟨some EIO, some [0x43], 1⟩]
    (mapsBackendSupported ⟨true, 16, 8⟩ = true ∧ s.held = some 1 ∧ s.freed = [0, 2]) ∧
      s.Accounted ∧
      (s.retained.length = s.released.length + if s.maps.task = none then 0 else 1) ∧
      ∀ generation snapshot answer e, (s.snapshot generation snapshot answer).1 = .error e →
        (s.snapshot generation snapshot answer).2.maps = s.maps := by
  refine ⟨by decide +kernel,
    maps_ownership (by decide : mapsBackendSupported ⟨true, 16, 8⟩ = true) ?_⟩
  exact .steps (.init rfl) (.of_restrict
    (runFrom_steps (C := fun _ _ => True) _ _ (fun _ _ _ => trivial) rfl))

end Spz
