import Stackplz.Maps
import Stackplz.Wire.Layout
import Stackplz.Lib.Budget

/-!
# Rendering the memory map

`spz_maps_render_vmas` of `platform/kpatch/maps.c` walks the address space of a task with `find_vma`
and has the kernel show one VMA after the other into a buffer of its own.  The kernel's functions
are parameters: what they answer is arbitrary, except that the address space does not change while
it is locked.  Where a VMA starts and ends is what stands at the offsets of the profile.

The loop shows the VMAs in order (`walk_leaves`, by induction on those that are left): the cursor
stands between what has been shown and the rest.  The calls of the kernel are noted, so that what is
taken can be compared with what is given back.
-/

namespace Spz.Render

open Errno List

structure MapsProfile where
  showMapVmaArgs : U32
  maxSnapshotBytes : U32
  seqFileSize : U32
  seqBuf : U32
  seqSize : U32
  seqPrivate : U32
  seqCount : U32
  procMapsPrivateSize : U32
  procTask : U32
  procMm : U32
  procIter : U32
  vmaIteratorSize : U32
  vmaStructSize : U32
  vmaStart : U32
  vmaEnd : U32
  mmMt : U32
  masTree : U32
  masIndex : U32
  masLast : U32
  masNode : U32
  masStatus : U32
  masStartNode : U64
  maStartStatus : U32

/-- `spz_maps_render_arguments_valid`, for pointers that are not null. -/
def mapsRenderArgumentsValid (p : MapsProfile) : Bool :=
  !(p.showMapVmaArgs != 2 || p.maxSnapshotBytes == 0 || p.maxSnapshotBytes > mapsMaxSnapshotBytes ||
    p.seqFileSize == 0 || p.seqFileSize > 256 || p.procMapsPrivateSize == 0 ||
    p.procMapsPrivateSize > 512 || p.vmaIteratorSize == 0 || p.procIter > p.procMapsPrivateSize ||
    p.vmaIteratorSize > p.procMapsPrivateSize - p.procIter)

/-! ## Storage -/

/-- Whether a field lies inside an object. -/
def fieldInside (size offset : U32) (width : ℕ) : Bool :=
  !(offset > size || width > (size - offset).toNat)

/-- `spz_maps_write_u64` and `spz_maps_write_u32`, at a place of the storage. -/
def mapsWrite {w : ℕ} (n : ℕ) (base : ℕ) (size offset : U32) (value : BitVec w)
    (storage : List U8) :
    Option (List U8) :=
  if fieldInside size offset n then
    some (storage.take (base + offset.toNat) ++ leBytes n value ++
      storage.drop (base + offset.toNat + n))
  else none

def u64At (offset : U32) (object : List U8) : U64 :=
  leWord 64 (slice offset.toNat (offset.toNat + 8) object)

def mapsReadU64 (size offset : U32) (object : List U8) : Option U64 :=
  if fieldInside size offset 8 then some (u64At offset object) else none

/-! ## Address spaces -/

/-- A `struct vm_area_struct`. -/
structure Vma where
  pointer : U64
  object : List U8
deriving DecidableEq

def Vma.start (p : MapsProfile) (v : Vma) : U64 := u64At p.vmaStart v.object

def Vma.stop (p : MapsProfile) (v : Vma) : U64 := u64At p.vmaEnd v.object

/-- The VMAs of a task, in the order of their addresses. -/
structure AddressSpace (p : MapsProfile) where
  vmas : List Vma
  nonempty : ∀ v ∈ vmas, v.start p < v.stop p
  disjoint : vmas.Pairwise fun v w => v.stop p ≤ w.start p

/-- `find_vma`: the one with the smallest end behind the address. -/
def AddressSpace.findVma {p : MapsProfile} (space : AddressSpace p) (address : U64) : Option Vma :=
  space.vmas.find? fun v => address < v.stop p

/-- What the kernel answers; `mas_walk` and `show_map_vma` also write to the storage they are
given. -/
structure MapsKernelOps where
  task : U64
  privateStorage : U64
  allocate : Option U64
  getTaskMm : Option U64
  mmapReadLockKillable : Except Errno Unit
  masWalk : List U8 → U64 × List U8
  showMapVma : List U8 → List U8 → Vma → List U8 × List U8

/-- Calls of the kernel that take something, give it back or show a VMA. -/
inductive MapsCall
  | allocate | free | getMm | mmput | lock | unlock
  | shown (vma : Vma)
deriving DecidableEq

/-! ## The loop -/

/-- The variables of the loop, with what has been shown. -/
structure Walk where
  cursor : U64
  count : U64
  seq : List U8
  priv : List U8
  shown : List Vma

/-- How the loop is left: at its `break`, or with an error. -/
inductive Left
  | done (s : Walk)
  | failed (result : Errno) (shown : List Vma)

variable (p : MapsProfile) (ops : MapsKernelOps) (space : AddressSpace p)

/-- The iterator, set to an address. -/
def positionIterator (mm : U64) (start : U64) (priv : List U8) : Option (List U8) := do
  let base := p.procIter.toNat
  let size := p.vmaIteratorSize
  let cleared := priv.take base ++ List.replicate size.toNat 0 ++ priv.drop (base + size.toNat)
  let priv ← mapsWrite 8 base size p.masTree (mm + p.mmMt.setWidth 64) cleared
  let priv ← mapsWrite 8 base size p.masIndex start priv
  let priv ← mapsWrite 8 base size p.masLast start priv
  let priv ← mapsWrite 8 base size p.masNode p.masStartNode priv
  mapsWrite 4 base size p.masStatus p.maStartStatus priv

def walkStep (mm : U64) (s : Walk) : Except Left Walk :=
  match space.findVma s.cursor with
  | none => .error (.done s)
  | some vma =>
    match mapsReadU64 p.vmaStructSize p.vmaStart vma.object,
      mapsReadU64 p.vmaStructSize p.vmaEnd vma.object with
    | some start, some stop =>
      if start < s.cursor ∨ stop ≤ start ∨ stop ≤ s.cursor then .error (.failed EUCLEAN s.shown)
      else
        match positionIterator p mm start s.priv with
        | none => .error (.failed ERANGE s.shown)
        | some priv =>
          let (positioned, priv) := ops.masWalk priv
          if positioned ≠ vma.pointer then .error (.failed EUCLEAN s.shown)
          else
            let (seq, priv) := ops.showMapVma s.seq priv vma
            match mapsReadU64 p.seqFileSize p.seqCount seq with
            | none => .error (.failed ERANGE (s.shown ++ [vma]))
            | some count =>
              if count ≥ p.maxSnapshotBytes.setWidth 64 then
                .error (.failed E2BIG (s.shown ++ [vma]))
              else .ok ⟨stop, count, seq, priv, s.shown ++ [vma]⟩
    | _, _ => .error (.failed EUCLEAN s.shown)

def prepareStorage (output mm : U64) : Option (List U8 × List U8) := do
  let seq ← mapsWrite 8 0 p.seqFileSize p.seqBuf output (List.replicate 256 0)
  let seq ← mapsWrite 8 0 p.seqFileSize p.seqSize (p.maxSnapshotBytes.setWidth 64) seq
  let seq ← mapsWrite 8 0 p.seqFileSize p.seqPrivate ops.privateStorage seq
  let priv ← mapsWrite 8 0 p.procMapsPrivateSize p.procTask ops.task (List.replicate 512 0)
  let priv ← mapsWrite 8 0 p.procMapsPrivateSize p.procMm mm priv
  some (seq, priv)

/-! ## The function -/

/-- What a call leaves behind: its result, `*data` and `*length`, and the calls of the kernel. -/
structure Rendered where
  result : Except Errno Unit
  data : Option U64 := none
  length : U32 := 0
  calls : List MapsCall

/-- Behind the label `out`. -/
def outCalls (locked hasMm hasOutput : Bool) : List MapsCall :=
  (if locked then [.unlock] else []) ++ (if hasMm then [.mmput] else []) ++
    if hasOutput then [.free] else []

/-- `spz_maps_render_vmas` from where the lock is held, with a budget for its loop; `none` if that
is used up. -/
def renderLocked (output mm : U64) (budget : ℕ) : Option Rendered :=
  let taken : List MapsCall := [.allocate, .getMm, .lock]
  match prepareStorage p ops output mm with
  | none => some { result := .error ERANGE, calls := taken ++ outCalls true true true }
  | some (seq, priv) =>
    match Budget.run (walkStep p ops space mm) budget ⟨0, 0, seq, priv, []⟩ with
    | .ok _ => none
    | .error (.failed e shown) =>
      some { result := .error e, calls := taken ++ shown.map .shown ++ outCalls true true true }
    | .error (.done s) =>
      if s.count = 0 ∨ s.count > 0xffffffff then
        some { result := .error EUCLEAN
               calls := taken ++ s.shown.map .shown ++ outCalls true true true }
      else
        some { result := .ok (), data := some output, length := s.count.setWidth 32
               calls := taken ++ s.shown.map .shown ++ outCalls true true false }

/-- `spz_maps_render_vmas` with valid arguments. -/
def mapsRenderVmas (budget : ℕ) : Option Rendered :=
  match ops.allocate with
  | none => some { result := .error ENOMEM, calls := [] }
  | some output =>
    match ops.getTaskMm with
    | none => some { result := .error ESRCH, calls := .allocate :: outCalls false false true }
    | some mm =>
      match ops.mmapReadLockKillable with
      | .error e =>
        some { result := .error (if e.code > 0 then EINTR else e)
               calls := [.allocate, .getMm] ++ outCalls false true true }
      | .ok _ => renderLocked p ops space output mm budget

/-! ## Results -/

/-- What was taken and what was given back, with the allocations that are kept. -/
def Balanced (calls : List MapsCall) (kept : ℕ) : Prop :=
  calls.count .lock = calls.count .unlock ∧ calls.count .getMm = calls.count .mmput ∧
    calls.count .allocate = calls.count .free + kept

def MapsCall.vma? : MapsCall → Option Vma
  | .shown vma => some vma
  | _ => none

/-- What a caller may rely on. -/
structure Rendered.Sound (p : MapsProfile) (space : AddressSpace p) (r : Rendered) : Prop where
  shown : r.result = .ok () → r.calls.filterMap MapsCall.vma? = space.vmas
  handed : r.result = .ok () → r.data.isSome ∧ 1 ≤ r.length ∧ r.length < p.maxSnapshotBytes
  failed : r.result ≠ .ok () → r.data = none ∧ r.length = 0
  balanced : Balanced r.calls (if r.data.isSome then 1 else 0)

variable {p ops space} {mm : U64} {s : Walk}

/-- An iteration that finds a VMA does not break, and if it goes on the VMA has been shown. -/
lemma walkStep_some {vma : Vma} (hfind : space.findVma s.cursor = some vma) :
    (∃ e shown, walkStep p ops space mm s = .error (.failed e shown)) ∨
    ∃ t, walkStep p ops space mm s = .ok t ∧ t.cursor = vma.stop p ∧ t.shown = s.shown ++ [vma] ∧
      t.count < p.maxSnapshotBytes.setWidth 64 := by
  unfold walkStep
  rw [hfind]
  dsimp only
  split
  case h_2 => exact .inl ⟨_, _, rfl⟩
  case h_1 start stop hstart hstop =>
    split_ifs
    · exact .inl ⟨_, _, rfl⟩
    · split
      · exact .inl ⟨_, _, rfl⟩
      · split_ifs
        · exact .inl ⟨_, _, rfl⟩
        · split
          · exact .inl ⟨_, _, rfl⟩
          · split_ifs with hbig
            · exact .inl ⟨_, _, rfl⟩
            · refine .inr ⟨_, rfl, ?_, rfl, BitVec.not_le.mp hbig⟩
              unfold mapsReadU64 at hstop
              split_ifs at hstop
              exact (Option.some.inj hstop).symm

/-- The loop is left, and at its `break` all VMAs have been shown, by induction on those behind the
cursor. -/
lemma walk_leaves (rest : List Vma) : ∀ s : Walk, space.vmas = s.shown ++ rest →
    (∀ v ∈ s.shown, v.stop p ≤ s.cursor) → (∀ v ∈ rest, s.cursor ≤ v.start p) →
    s.count < p.maxSnapshotBytes.setWidth 64 →
    ∃ n left, Budget.run (walkStep p ops space mm) n s = .error left ∧
      ∀ t, left = .done t → t.shown = space.vmas ∧ t.count < p.maxSnapshotBytes.setWidth 64 := by
  -- What has been shown ends at the cursor or before, so `find_vma` passes over it.
  have hbefore : ∀ s : Walk, (∀ v ∈ s.shown, v.stop p ≤ s.cursor) →
      s.shown.find? (fun w => decide (s.cursor < w.stop p)) = none := by
    intro s hshown
    rw [List.find?_eq_none]
    intro w hw
    rw [decide_eq_true_iff, BitVec.not_lt]
    exact hshown w hw
  induction rest with
  | nil =>
    intro s hvmas hshown _ hcount
    rw [append_nil] at hvmas
    have hfind : space.findVma s.cursor = none := by
      rw [AddressSpace.findVma, hvmas, hbefore s hshown]
    have hstep : walkStep p ops space mm s = .error (.done s) := by
      unfold walkStep
      rw [hfind]
    refine ⟨1, _, Budget.run_succ_error 0 hstep, ?_⟩
    rintro _ ⟨⟩
    exact ⟨hvmas.symm, hcount⟩
  | cons v rest ih =>
    intro s hvmas hshown hrest hcount
    have hsorted := space.disjoint
    have hlt := space.nonempty v (hvmas ▸ mem_append_right _ (mem_cons_self ..))
    rw [hvmas, pairwise_append, pairwise_cons] at hsorted
    have hcursor : s.cursor < v.stop p := by
      have hle := hrest v (mem_cons_self ..)
      bv_omega
    have hfind : space.findVma s.cursor = some v := by
      rw [AddressSpace.findVma, hvmas, List.find?_append, hbefore s hshown, Option.none_or]
      exact List.find?_cons_of_pos (decide_eq_true hcursor)
    obtain ⟨e, shown, hstep⟩ | ⟨t, hstep, htcursor, htshown, htcount⟩ := walkStep_some hfind
    · refine ⟨1, _, Budget.run_succ_error 0 hstep, ?_⟩
      rintro _ ⟨⟩
    · have htbefore : ∀ w ∈ t.shown, w.stop p ≤ t.cursor := by
        intro w hw
        rw [htcursor]
        rw [htshown] at hw
        rcases mem_append.mp hw with hw | hw
        · exact BitVec.le_trans (hshown w hw) (BitVec.le_of_lt hcursor)
        · rw [mem_singleton.mp hw]
          exact BitVec.le_refl _
      obtain ⟨n, left, hrun, hleft⟩ := ih t (by rw [hvmas, htshown, append_cons]) htbefore
        (htcursor ▸ hsorted.2.1.1) htcount
      exact ⟨n + 1, left, (Budget.run_succ_ok n hstep).trans hrun, hleft⟩

lemma Balanced.insert {taken out : List MapsCall} {kept : ℕ} (h : Balanced (taken ++ out) kept)
    (vmas : List Vma) : Balanced (taken ++ vmas.map .shown ++ out) kept := by
  have hzero : ∀ c : MapsCall, (∀ v, MapsCall.shown v ≠ c) →
      (vmas.map MapsCall.shown).count c = 0 := by
    intro c hc
    rw [count_eq_zero, mem_map]
    rintro ⟨v, -, hv⟩
    exact hc v hv
  simpa [Balanced, count_append, hzero] using h

lemma Rendered.Sound.of_error (e : Errno) {calls : List MapsCall} (h : Balanced calls 0) :
    Rendered.Sound p space { result := .error e, calls := calls } :=
  ⟨fun h => (by cases h), fun h => (by cases h), fun _ => ⟨rfl, rfl⟩, h⟩

lemma Rendered.Sound.of_ok (output : U64) {t : Walk} (hshown : t.shown = space.vmas)
    (hcount : t.count < p.maxSnapshotBytes.setWidth 64) (hsome : t.count ≠ 0) :
    Rendered.Sound p space
      { result := .ok (), data := some output, length := t.count.setWidth 32
        calls := [.allocate, .getMm, .lock] ++ t.shown.map .shown ++
          outCalls true true false } := by
  refine ⟨fun _ => ?_, fun _ => ⟨rfl, ?_, ?_⟩, fun h => absurd rfl h,
    Balanced.insert ⟨rfl, rfl, rfl⟩ t.shown⟩
  · have hall : (t.shown.map MapsCall.shown).filterMap MapsCall.vma? = t.shown := by
      rw [filterMap_map]
      exact filterMap_some
    rw [filterMap_append, filterMap_append, hall, hshown]
    exact append_nil _
  all_goals bv_omega

/-- The part under the lock gives a sound answer if there are iterations enough. -/
lemma renderLocked_sound (hmax : p.maxSnapshotBytes ≠ 0) (output mm : U64) :
    ∃ r, (∃ least, ∀ budget ≥ least, renderLocked p ops space output mm budget = some r) ∧
      r.Sound p space := by
  have hback : ∀ shown : List Vma, Balanced ([.allocate, .getMm, .lock] ++ shown.map .shown ++
      outCalls true true true) 0 := Balanced.insert ⟨rfl, rfl, rfl⟩
  unfold renderLocked
  cases prepareStorage p ops output mm with
  | none => exact ⟨_, ⟨0, fun _ _ => rfl⟩, .of_error _ ⟨rfl, rfl, rfl⟩⟩
  | some storage =>
    obtain ⟨n, left, hrun, hleft⟩ := walk_leaves space.vmas ⟨0, 0, storage.1, storage.2, []⟩ rfl
      (fun v hv => (by cases hv)) (fun v _ => (by bv_omega)) (by bv_omega)
    have hruns := fun budget (hle : n ≤ budget) => Budget.run_error_mono hrun hle
    cases left with
    | failed e shown =>
      refine ⟨_, ⟨n, fun budget hle => ?_⟩, .of_error e (hback shown)⟩
      dsimp only
      rw [hruns budget hle]
    | done t =>
      obtain ⟨hshown, hcount⟩ := hleft t rfl
      by_cases hnone : t.count = 0 ∨ t.count > 0xffffffff
      · refine ⟨_, ⟨n, fun budget hle => ?_⟩, .of_error EUCLEAN (hback t.shown)⟩
        dsimp only
        rw [hruns budget hle]
        exact if_pos hnone
      · refine ⟨_, ⟨n, fun budget hle => ?_⟩, .of_ok output hshown hcount fun h => hnone (.inl h)⟩
        dsimp only
        rw [hruns budget hle]
        exact if_neg hnone

/-- The renderer ends, shows every VMA once and in order if it succeeds, and keeps nothing but the
snapshot it hands over, whatever the kernel answers. -/
theorem mapsRenderVmas_sound (hvalid : mapsRenderArgumentsValid p = true) (ops : MapsKernelOps)
    (space : AddressSpace p) :
    ∃ r, (∃ least, ∀ budget ≥ least, mapsRenderVmas p ops space budget = some r) ∧
      r.Sound p space := by
  have hmax : p.maxSnapshotBytes ≠ 0 := by
    rintro h
    simp [mapsRenderArgumentsValid, h] at hvalid
  unfold mapsRenderVmas
  cases ops.allocate with
  | none => exact ⟨_, ⟨0, fun _ _ => rfl⟩, .of_error _ ⟨rfl, rfl, rfl⟩⟩
  | some output =>
    cases ops.getTaskMm with
    | none => exact ⟨_, ⟨0, fun _ _ => rfl⟩, .of_error _ ⟨rfl, rfl, rfl⟩⟩
    | some mm =>
      cases ops.mmapReadLockKillable with
      | error e => exact ⟨_, ⟨0, fun _ _ => rfl⟩, .of_error _ ⟨rfl, rfl, rfl⟩⟩
      | ok u => exact renderLocked_sound hmax output mm

/-- Two fields of a VMA, four of a `seq_file`, the fields of the iterator behind the task and the
`mm`. -/
def sampleMapsProfile : MapsProfile :=
  { showMapVmaArgs := 2, maxSnapshotBytes := 64, seqFileSize := 32, seqBuf := 0, seqSize := 8,
    seqPrivate := 24, seqCount := 16, procMapsPrivateSize := 64, procTask := 0, procMm := 8,
    procIter := 16, vmaIteratorSize := 40, vmaStructSize := 16, vmaStart := 0, vmaEnd := 8,
    mmMt := 0, masTree := 0, masIndex := 8, masLast := 16, masNode := 24, masStatus := 32,
    masStartNode := 1, maStartStatus := 0 }

def sampleSpace : AddressSpace sampleMapsProfile :=
  { vmas := [⟨7, leBytes 8 (0x1000 : U64) ++ leBytes 8 (0x2000 : U64)⟩,
      ⟨9, leBytes 8 (0x3000 : U64) ++ leBytes 8 (0x5000 : U64)⟩]
    nonempty := by decide
    disjoint := by decide }

/-- A kernel that finds the VMA at the index of the iterator and shows each with five bytes. -/
def sampleMapsOps : MapsKernelOps :=
  { task := 1, privateStorage := 2, allocate := some 3, getTaskMm := some 4,
    mmapReadLockKillable := .ok ()
    masWalk := fun priv => (if leWord 64 (slice 24 32 priv) = 0x1000 then 7 else 9, priv)
    showMapVma := fun seq priv _ =>
      (seq.take 16 ++ leBytes 8 (leWord 64 (slice 16 24 seq) + 5) ++ seq.drop 24, priv) }

/-- Both VMAs are shown and ten bytes are handed over. -/
theorem mapsRenderVmas_sound_sample : ∃ r, (∃ least, ∀ budget ≥ least,
      mapsRenderVmas sampleMapsProfile sampleMapsOps sampleSpace budget = some r) ∧
    r.result = .ok () ∧ r.data = some 3 ∧ r.length = 10 ∧
    r.calls.filterMap MapsCall.vma? = sampleSpace.vmas := by
  obtain ⟨r, ⟨least, hrun⟩, hsound⟩ :=
    mapsRenderVmas_sound (show mapsRenderArgumentsValid sampleMapsProfile = true by decide)
      sampleMapsOps sampleSpace
  have hsome := hrun (least + 3) (Nat.le_add_right ..)
  have hresult : (mapsRenderVmas sampleMapsProfile sampleMapsOps sampleSpace (least + 3)).map
      (fun r => (r.result, r.data, r.length)) = some (.ok (), some 3, 10) := by rfl
  simp only [hsome, Option.map_some, Option.some.injEq, Prod.mk.injEq] at hresult
  exact ⟨r, ⟨least, hrun⟩, hresult.1, hresult.2.1, hresult.2.2, hsound.shown hresult.1⟩

end Spz.Render
