import Stackplz.Wire

/-!
# The maps store

`core/maps.c`: a reference to the bound task, taken when the task is first seen, and the last
rendering of its memory map.  The functions are taken as a whole.  What other threads do meanwhile
enters as `busy`: the attempt to become the only writer, or to read while nobody writes, fails.
What the backend answers is an argument too.
-/

namespace Spz

open Errno

inductive MapsState
  | unsupported | empty | taskCaptured | ready
deriving DecidableEq, Repr

def mapsMaxSnapshotBytes : U32 := 16777216#32

def mapsMaxChunkBytes : U32 := 1536#32

/-- `struct spz_maps_backend`; `complete` says that none of its four functions is null. -/
structure MapsBackend where
  complete : Bool := false
  maxSnapshotBytes : U32 := 0
  maxChunkBytes : U32 := 0
deriving DecidableEq

/-- `struct spz_maps`.  A task is known by its address, a rendering by its bytes. -/
structure Maps where
  backend : MapsBackend := {}
  task : Option U64 := none
  data : Option (List U8) := none
  taskGeneration : U64 := 0
  snapshot : U64 := 0
  length : U32 := 0
  crc32 : U32 := 0
  state : MapsState := .unsupported
deriving DecidableEq

def mapsBackendSupported (backend : MapsBackend) : Bool :=
  backend.complete && backend.maxSnapshotBytes != 0 &&
    backend.maxSnapshotBytes ≤ mapsMaxSnapshotBytes && backend.maxChunkBytes != 0 &&
    backend.maxChunkBytes ≤ mapsMaxChunkBytes

def mapsInit (backend : MapsBackend) : Maps :=
  { backend := backend
    state := if mapsBackendSupported backend then .empty else .unsupported }

def mapsSupported (m : Maps) : Bool := m.state != .unsupported

def mapsHasTask (m : Maps) : Bool := mapsSupported m && m.task.isSome

/-- `spz_maps_capture_task`; `retain` is what the backend answers when asked for a reference. -/
def mapsCaptureTask (m : Maps) (task generation : U64) (busy : Bool) (retain : Except Errno Unit) :
    Except Errno Unit × Maps :=
  if generation = 0 then (.error EINVAL, m)
  else if !mapsSupported m then (.error EOPNOTSUPP, m)
  else if busy then (.error EBUSY, m)
  else
    match m.task with
    | some held =>
      (if held = task ∧ m.taskGeneration = generation then .ok () else .error EBUSY, m)
    | none =>
      match retain with
      | .error e => (.error e, m)
      | .ok () =>
        (.ok (), { m with task := some task, taskGeneration := generation,
                          state := .taskCaptured })

/-- What `backend.render` delivers: a buffer, or none, and the length it claims. -/
structure Rendering where
  data : Option (List U8)
  length : U32

/-- The part of `spz_maps_snapshot` after a successful rendering. -/
def mapsStore (m : Maps) (snapshot : U64) (rendering : Rendering) : Except Errno Unit × Maps :=
  match rendering.data with
  | none =>
    (.error (if rendering.length > m.backend.maxSnapshotBytes then E2BIG else EUCLEAN), m)
  | some bytes =>
    if rendering.length > m.backend.maxSnapshotBytes then (.error E2BIG, m)
    else if rendering.length = 0 then (.error EUCLEAN, m)
    else
      (.ok (), { m with
        data := some bytes
        length := rendering.length
        crc32 := crc32Ieee (bytes.take rendering.length.toNat)
        snapshot := snapshot
        state := .ready })

def mapsSnapshot (m : Maps) (generation snapshot : U64) (busy : Bool)
    (render : Except Errno Rendering) : Except Errno Unit × Maps :=
  if generation = 0 ∨ snapshot = 0 then (.error EINVAL, m)
  else if !mapsSupported m then (.error EOPNOTSUPP, m)
  else if busy then (.error EBUSY, m)
  else if m.task = none ∨ m.taskGeneration ≠ generation then (.error ESTALE, m)
  else
    match render with
    | .error e => (.error e, m)
    | .ok rendering => mapsStore m snapshot rendering

structure MapsRead where
  data : List U8
  snapshot : U64
  offset : U32
  total : U32
  length : U32
  crc32 : U32
  eof : Bool
deriving DecidableEq

def mapsReadBegin (m : Maps) (snapshot : U64) (offset : U32) (busy : Bool) :
    Except Errno MapsRead :=
  if snapshot = 0 then .error EINVAL
  else if !mapsSupported m then .error EOPNOTSUPP
  else if busy then .error EBUSY
  else
    match m.data with
    | none => .error (if m.snapshot ≠ snapshot then ESTALE else ERANGE)
    | some bytes =>
      if m.state ≠ .ready ∨ m.snapshot ≠ snapshot ∨ offset ≥ m.length then
        .error (if m.snapshot ≠ snapshot then ESTALE else ERANGE)
      else
        let remaining := m.length - offset
        let length := if remaining < m.backend.maxChunkBytes then remaining
          else m.backend.maxChunkBytes
        .ok
          { data := (bytes.drop offset.toNat).take length.toNat
            snapshot := m.snapshot
            offset := offset
            total := m.length
            length := length
            crc32 := m.crc32
            eof := length == remaining }

def mapsClear (m : Maps) (busy : Bool) : Except Errno Unit × Maps :=
  if !mapsSupported m then (.ok (), m)
  else if busy then (.error EBUSY, m)
  else (.ok (), { backend := m.backend, state := .empty })

/-! ## What they do -/

/-- The store holds nothing: what `EMPTY` and `UNSUPPORTED` mean. -/
structure Maps.Vacant (m : Maps) : Prop where
  state : m.state = .empty ∨ m.state = .unsupported
  task : m.task = none

variable {m : Maps} {task generation : U64} {busy : Bool} {retain : Except Errno Unit}

lemma Maps.Vacant.hasTask (h : m.Vacant) : mapsHasTask m = false := by
  simp [mapsHasTask, h.task]

lemma mapsCaptureTask_effect (m : Maps) (task generation : U64) (busy : Bool)
    (retain : Except Errno Unit) :
    (mapsCaptureTask m task generation busy retain).2 = m ∨
      (mapsCaptureTask m task generation busy retain).1 = .ok () ∧
      (mapsCaptureTask m task generation busy retain).2 =
        { m with task := some task, taskGeneration := generation, state := .taskCaptured } := by
  unfold mapsCaptureTask
  split_ifs
  · exact .inl rfl
  · exact .inl rfl
  · exact .inl rfl
  · cases htask : m.task with
    | some held => exact .inl rfl
    | none =>
      cases retain with
      | error e => exact .inl rfl
      | ok _ => exact .inr ⟨rfl, rfl⟩

variable {snapshot : U64}

variable {rendering : Rendering} {e : Errno}

lemma mapsStore_error (h : (mapsStore m snapshot rendering).1 = .error e) :
    (mapsStore m snapshot rendering).2 = m := by
  unfold mapsStore at h ⊢
  cases hdata : rendering.data with
  | none => rfl
  | some bytes =>
    simp only [hdata] at h ⊢
    split_ifs at h ⊢
    all_goals rfl

lemma mapsStore_ok (h : (mapsStore m snapshot rendering).1 = .ok ()) :
    ∃ bytes, rendering.data = some bytes ∧ 1 ≤ rendering.length.toNat ∧
      rendering.length ≤ m.backend.maxSnapshotBytes ∧
      (mapsStore m snapshot rendering).2 = { m with
        data := some bytes
        length := rendering.length
        crc32 := crc32Ieee (bytes.take rendering.length.toNat)
        snapshot := snapshot
        state := .ready } := by
  unfold mapsStore at h ⊢
  cases hdata : rendering.data with
  | none => simp [hdata] at h
  | some bytes =>
    simp only [hdata] at h ⊢
    split_ifs at h ⊢ with hlong hzero
    refine ⟨bytes, rfl, ?_, BitVec.not_lt.mp hlong, rfl⟩
    exact Nat.pos_of_ne_zero fun hnat => hzero (BitVec.eq_of_toNat_eq hnat)

lemma mapsStore_frame (m : Maps) (snapshot : U64) (rendering : Rendering) :
    (mapsStore m snapshot rendering).2.task = m.task ∧
      (mapsStore m snapshot rendering).2.taskGeneration = m.taskGeneration := by
  unfold mapsStore
  cases rendering.data with
  | none => exact ⟨rfl, rfl⟩
  | some bytes =>
    dsimp only
    split_ifs <;> exact ⟨rfl, rfl⟩

lemma mapsStore_supported (h : mapsSupported m = true) (snapshot : U64) (rendering : Rendering) :
    mapsSupported (mapsStore m snapshot rendering).2 = true := by
  unfold mapsStore
  cases rendering.data with
  | none => exact h
  | some bytes =>
    dsimp only
    split_ifs
    · exact h
    · exact h
    · rfl

/-- A rendering leaves the captured task alone, and changes nothing if there is none. -/
lemma mapsSnapshot_effect (m : Maps) (generation snapshot : U64) (busy : Bool)
    (render : Except Errno Rendering) :
    (mapsSnapshot m generation snapshot busy render).2 = m ∨
      mapsSupported (mapsSnapshot m generation snapshot busy render).2 = true ∧ m.task ≠ none ∧
        (mapsSnapshot m generation snapshot busy render).2.task = m.task ∧
        (mapsSnapshot m generation snapshot busy render).2.taskGeneration = m.taskGeneration := by
  unfold mapsSnapshot
  split_ifs with harg hsup hbusy hstale
  · exact .inl rfl
  · exact .inl rfl
  · exact .inl rfl
  · exact .inl rfl
  · cases render with
    | error e => exact .inl rfl
    | ok rendering =>
      exact .inr ⟨mapsStore_supported (by simpa using hsup) snapshot rendering,
        fun h => hstale (.inl h), mapsStore_frame m snapshot rendering⟩

lemma mapsSnapshot_error {render : Except Errno Rendering}
    (h : (mapsSnapshot m generation snapshot busy render).1 = .error e) :
    (mapsSnapshot m generation snapshot busy render).2 = m := by
  unfold mapsSnapshot at h ⊢
  split_ifs at h ⊢
  · rfl
  · rfl
  · rfl
  · rfl
  · cases render with
    | error e => rfl
    | ok rendering => exact mapsStore_error h

/-- A store that is not supported holds no task. -/
def Maps.Sound (m : Maps) : Prop := m.state = .unsupported → m.task = none

lemma mapsInit_sound (backend : MapsBackend) : (mapsInit backend).Sound := fun _ => rfl

lemma mapsSnapshot_sound (hm : m.Sound) (generation snapshot : U64) (busy : Bool)
    (render : Except Errno Rendering) :
    (mapsSnapshot m generation snapshot busy render).2.Sound := by
  rcases mapsSnapshot_effect m generation snapshot busy render with h | ⟨h, -⟩
  · rw [h]
    exact hm
  · intro hun
    simp [mapsSupported, hun] at h

lemma mapsClear_vacant (hm : m.Sound) (h : (mapsClear m busy).1 = .ok ()) :
    (mapsClear m busy).2.Vacant := by
  unfold mapsClear at h ⊢
  split_ifs at h ⊢ with hsup
  · have hstate : m.state = .unsupported := by simpa [mapsSupported] using hsup
    exact ⟨.inr hstate, hm hstate⟩
  · exact ⟨.inl rfl, rfl⟩

/-- The number of bytes of the chunk at an offset. -/
def chunkLength (m : Maps) (offset : U32) : U32 :=
  if m.length - offset < m.backend.maxChunkBytes then m.length - offset
  else m.backend.maxChunkBytes

/-- What is read from the store. -/
lemma mapsReadBegin_ok {offset : U32} {read : MapsRead} :
    mapsReadBegin m snapshot offset busy = .ok read ↔
      snapshot ≠ 0 ∧ mapsSupported m = true ∧ busy = false ∧ m.state = .ready ∧
      m.snapshot = snapshot ∧ offset < m.length ∧ ∃ bytes, m.data = some bytes ∧ read =
        { data := (bytes.drop offset.toNat).take (chunkLength m offset).toNat
          snapshot := snapshot
          offset := offset
          total := m.length
          length := chunkLength m offset
          crc32 := m.crc32
          eof := chunkLength m offset == m.length - offset } := by
  unfold mapsReadBegin
  by_cases hzero : snapshot = 0
  · simp [hzero]
  rw [if_neg hzero]
  cases hsup : mapsSupported m with
  | false => simp
  | true =>
    cases busy with
    | true => simp
    | false =>
      cases hdata : m.data with
      | none => simp
      | some bytes =>
        by_cases hbad : m.state ≠ .ready ∨ m.snapshot ≠ snapshot ∨ offset ≥ m.length
        · simp only [Bool.not_true, Bool.false_eq_true, if_false, if_pos hbad, reduceCtorEq,
            false_iff]
          rintro ⟨-, -, -, hready, hsame, hlt, -⟩
          rcases hbad with hbad | hbad | hbad
          · exact hbad hready
          · exact hbad hsame
          · exact absurd hlt (BitVec.not_lt.mpr hbad)
        · simp only [Bool.not_true, Bool.false_eq_true, if_false, if_neg hbad]
          simp only [not_or, not_not, ge_iff_le, BitVec.not_le] at hbad
          obtain ⟨hready, rfl, hlt⟩ := hbad
          constructor
          · rintro ⟨⟩
            exact ⟨hzero, trivial, trivial, hready, rfl, hlt, bytes, rfl, rfl⟩
          · rintro ⟨-, -, -, -, -, -, bytes', hbytes, rfl⟩
            cases hbytes
            rfl

lemma mapsClear_effect (m : Maps) (busy : Bool) :
    (mapsClear m busy).2 = m ∨
      mapsSupported m = true ∧
      (mapsClear m busy).2 = { backend := m.backend, state := .empty } := by
  unfold mapsClear
  split_ifs with hsup hbusy
  · exact .inl rfl
  · exact .inl rfl
  · exact .inr ⟨by simpa using hsup, rfl⟩

lemma mapsClear_sound (hm : m.Sound) (busy : Bool) : (mapsClear m busy).2.Sound := by
  rcases mapsClear_effect m busy with h | ⟨-, h⟩
  · rw [h]
    exact hm
  · rw [h]
    exact fun _ => rfl

end Spz
