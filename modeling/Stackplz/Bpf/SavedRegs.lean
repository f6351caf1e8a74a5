import Stackplz.Bpf.Filtering
import Stackplz.Bpf.ReadArgs
import Stackplz.Lib.BoundedMap

/-!
# Registers kept from one program to the next

`save_regs`, `load_regs` and `del_regs` of `src/common/arguments.h`, which keep the registers of an
entry in `ctx_regs_map` for the program at the exit.  The key of an entry is made of an event id and
of the thread; keys of different threads or of different ids never meet (`regsKey_inj`).

`ThreadHit` and `TracerConfig` are what the programs of `src/syscall.c` and `src/stack.c` have in
common: the thread they are called for, as it is at that moment, and the maps that are loaded once.
-/

namespace Spz.Bpf

/-- The 31 general registers, `sp` and `pc`. -/
abbrev RegFile := Vector U64 33

/-- The register of the first argument and of the return value. -/
abbrev firstReg : Fin 33 := 0

/-- `ctx_regs_t`.  The number of the call at whose entry the registers were saved is not in the
source: no program reads it, it serves to tell the calls of a thread apart. -/
structure CtxRegs where
  regs : RegFile
  flag : Bool := false
  call : ℕ
deriving DecidableEq

/-- `ctx_regs_map`, with its `max_entries`. -/
abbrev CtxRegsMap := BoundedMap U64 CtxRegs 1024

/-- `id << 32 | tid`. -/
def regsKey (eventId tid : U32) : U64 := eventId.setWidth 64 <<< 32 ||| tid.setWidth 64

lemma setWidth_regsKey (eventId tid : U32) : (regsKey eventId tid).setWidth 32 = tid := by
  ext i hi
  simp [regsKey]

lemma shiftRight_regsKey (eventId tid : U32) :
    (regsKey eventId tid >>> 32).setWidth 32 = eventId := by
  ext i hi
  simp [regsKey, show 32 + i < 64 by omega, BitVec.getLsbD_eq_getElem hi]

lemma regsKey_inj {eventId eventId' tid tid' : U32} :
    regsKey eventId tid = regsKey eventId' tid' ↔ eventId = eventId' ∧ tid = tid' := by
  constructor
  · intro h
    constructor
    · rw [← shiftRight_regsKey eventId tid, h, shiftRight_regsKey]
    · rw [← setWidth_regsKey eventId tid, h, setWidth_regsKey]
  · rintro ⟨rfl, rfl⟩
    rfl

namespace CtxRegsMap

section

variable (map : CtxRegsMap) (eventId tid : U32)

def saveRegs (regs : CtxRegs) : CtxRegsMap :=
  map.put (regsKey eventId tid) regs

def loadRegs : Option CtxRegs :=
  map.lookup (regsKey eventId tid)

def delRegs : CtxRegsMap :=
  map.delete (regsKey eventId tid)

end

variable {map : CtxRegsMap} {eventId eventId' tid tid' : U32} {regs saved : CtxRegs}

lemma loadRegs_delRegs : (map.delRegs eventId tid).loadRegs eventId tid = none := by
  rw [loadRegs, delRegs, BoundedMap.lookup_delete, if_pos rfl]

lemma loadRegs_delRegs_of_ne (h : ¬ (eventId' = eventId ∧ tid' = tid)) :
    (map.delRegs eventId tid).loadRegs eventId' tid' = map.loadRegs eventId' tid' := by
  rw [loadRegs, delRegs, BoundedMap.lookup_delete, if_neg (mt regsKey_inj.mp h)]
  rfl

lemma loadRegs_saveRegs (h : map.Room) :
    (map.saveRegs eventId tid regs).loadRegs eventId tid = some regs := by
  rw [loadRegs, saveRegs, BoundedMap.lookup_put (.inr h), if_pos rfl]

lemma eq_of_loadRegs_saveRegs
    (h : (map.saveRegs eventId tid regs).loadRegs eventId tid = some saved) : saved = regs := by
  unfold loadRegs saveRegs at h
  rcases map.lookup_put_cases (regsKey eventId tid) regs with hput | ⟨hnone, hput⟩
  · rw [hput, if_pos rfl] at h
    exact (Option.some.inj h).symm
  · rw [hput, hnone] at h
    cases h

lemma loadRegs_saveRegs_of_ne (h : ¬ (eventId' = eventId ∧ tid' = tid)) :
    (map.saveRegs eventId tid regs).loadRegs eventId' tid' = map.loadRegs eventId' tid' := by
  rw [loadRegs, saveRegs, BoundedMap.lookup_put_of_ne (mt regsKey_inj.mp h)]
  rfl

end CtxRegsMap

/-! ## What the programs read -/

/-- The maps that are loaded once. -/
structure TracerConfig where
  trace : TraceConfig
  listed : ListName → U32 → Bool
  opList : U32 → Option OpConfig
  argFilter : U64 → Option ArgFilter
  /-- `filter->is_32bit`. -/
  is32bit : Bool

/-- The thread that a program is called for: as the filters see it now, its registers and memory,
and the op context as the last event on the CPU has left it. -/
structure ThreadHit where
  hostTid : U32
  task : Task
  forks : U32 → Bool
  regs : RegFile
  memory : Memory
  ctx : OpCtx

namespace ThreadHit

variable (c : TracerConfig) (h : ThreadHit)

/-- The thread passes `should_trace` now. -/
def traced : Bool := shouldTrace { c.trace with childParentMap := h.forks } c.listed h.task

/-- What `read_args` reads, with the given registers. -/
def machine (regs : RegFile) : Machine where
  opList := c.opList
  argFilter := c.argFilter
  regs i := regs.toList.getD i 0
  memory := h.memory

/-- The records of `lr`, `sp` and `pc`. -/
def frameRecords : List U8 :=
  let lr := if c.is32bit then h.regs.get 14 else h.regs.get 30
  let sp := if c.is32bit then h.regs.get 13 else h.regs.get 31
  wordRecord 1 lr ++ wordRecord 2 sp ++ wordRecord 3 (h.regs.get 32)

end ThreadHit

/-- The number of a system call or of a point as the first record. -/
def numberRecord (number : U32) : List U8 := 0 :: leBytes 4 number

end Spz.Bpf
