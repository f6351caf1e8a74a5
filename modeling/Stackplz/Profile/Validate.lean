import Stackplz.Profile.Device
import Stackplz.Wire.Layout

/-!
# Profiles and the running kernel

`spz_profile_validate` of `core/profile.c`, over the operations that the platform gives it, and
these operations as `platform/kpatch/runtime.c` implements them.  Pointers are never null, and
memory does not change while a profile is validated.
-/

namespace Spz.Profile

open Errno
open Check (require)

/-! ## Results -/

/-- `enum spz_profile_reason`, without the ones that other functions give. -/
inductive Reason
  | unknownId
  | generatedBounds
  | kernelRelease
  | pageSize
  | cpuCount
  | debugArch
  | brpCount
  | wrpCount
  | contextCount
  /-- `SPZ_PROFILE_REASON_SYMBOL_…`. -/
  | symbol (index : ℕ)
  | initTaskPid
  | initTaskTgid
  | initTaskComm
  | initTaskCred
deriving DecidableEq, Repr

/-- `spz_profile_reason_name`. -/
def Reason.name : Reason → String
  | .unknownId => "unknown_profile_id"
  | .generatedBounds => "generated_profile_bounds"
  | .kernelRelease => "kernel_release_mismatch"
  | .pageSize => "page_size_mismatch"
  | .cpuCount => "cpu_count_mismatch"
  | .debugArch => "debug_arch_mismatch"
  | .brpCount => "breakpoint_count_mismatch"
  | .wrpCount => "watchpoint_count_mismatch"
  | .contextCount => "context_count_mismatch"
  | .symbol index => "missing_symbol_" ++ symbolNames.getD index ""
  | .initTaskPid => "init_task_pid_mismatch"
  | .initTaskTgid => "init_task_tgid_mismatch"
  | .initTaskComm => "init_task_comm_mismatch"
  | .initTaskCred => "init_task_cred_mismatch"

/-- `spz_copy_reason`, without the terminator. -/
def copyReason (capacity : ℕ) (reason : List U8) : List U8 := reason.take (capacity - 1)

/-- What `spz_reject` returns: the reason that stays in the runtime, its text, and the error. -/
structure Rejection where
  reason : Reason
  text : List U8
  error : Errno
deriving DecidableEq, Repr

/-- `struct spz_profile_runtime` of a profile that is `SPZ_PROFILE_READY`. -/
structure Runtime where
  profile : DeviceProfile
  symbols : List U64
  dfr0 : U64
  initialCpuCount : U32
deriving DecidableEq, Repr

def reject (capacity : ℕ) (reason : Reason) (error : Errno) : Rejection :=
  ⟨reason, copyReason capacity (ascii reason.name), error⟩

/-! ## Operations of the platform -/

/-- `struct spz_profile_runtime_ops`. -/
structure RuntimeOps where
  lookupSymbol : List U8 → U64
  readMemory : U64 → ℕ → Except Errno (List U8)
  /-- Result and buffer. -/
  readKernelBanner : List U8 → ℕ → Option Errno × List U8
  pageSize : U32
  cpuCount : U32
  readDfr0 : U64

section Validate

variable (ops : RuntimeOps)

/-- `spz_profile_select`. -/
def select (table : List DeviceProfile) (id : List U8) : Option DeviceProfile :=
  if id = [] then none else table.find? fun profile => profile.id = id

/-- `strncmp(a, b, n) == 0`, for strings given without their terminators. -/
def strncmpEq : ℕ → List U8 → List U8 → Bool
  | 0, _, _ => true
  | n + 1, a, b => a.headD 0 = b.headD 0 && (a.headD 0 = 0 || strncmpEq n a.tail b.tail)

/-- `"Linux version "`. -/
def bannerStart : List U8 := ascii "Linux version "

def releaseMatchesBanner (banner release : List U8) : Bool :=
  strncmpEq bannerStart.length banner bannerStart &&
    strncmpEq release.length (banner.drop bannerStart.length) release &&
    (banner.getD (bannerStart.length + release.length) 0 = space ||
      banner.getD (bannerStart.length + release.length) 0 = 0)

def readMember (base : U64) (offset : U32) (length : ℕ) : Except Errno (List U8) :=
  if 2 ^ 64 - 1 - offset.toNat < base.toNat then .error EOVERFLOW
  else ops.readMemory (base + offset.setWidth 64) length

/-- A member that was read and satisfies a test. -/
def member (base : U64) (offset : U32) (length : ℕ) (test : List U8 → Bool) : Bool :=
  match readMember ops base offset length with
  | .error _ => false
  | .ok bytes => test bytes

/-- The condition on the credentials of the first task. -/
def credMatches (profile : DeviceProfile) (initTask : U64) : Bool :=
  member ops initTask profile.task.cred 8 fun cred =>
    member ops initTask profile.task.realCred 8 fun realCred =>
      leWord 64 cred ≠ 0 && leWord 64 cred = leWord 64 realCred &&
        member ops (leWord 64 cred) profile.cred.uid 4 fun uid => leWord 32 uid = 0

def readInitTask (profile : DeviceProfile) (initTask : U64) : Except Reason Unit := do
  require (member ops initTask profile.task.pid 4 fun pid => leWord 32 pid = 0) .initTaskPid
  require (member ops initTask profile.task.tgid 4 fun tgid => leWord 32 tgid = 0) .initTaskTgid
  require (member ops initTask profile.task.comm commLen fun comm => comm.take 7 = ascii "swapper")
    .initTaskComm
  require (credMatches ops profile initTask) .initTaskCred

/-- The loop over the symbols, from `index` on. -/
def lookupSymbols (capacity : ℕ) : ℕ → List (List U8) → Except Rejection (List U64)
  | _, [] => pure []
  | index, name :: rest => do
    require (name ≠ []) (reject capacity (.symbol index) ENOENT)
    require (ops.lookupSymbol name ≠ 0) (reject capacity (.symbol index) ENOENT)
    let symbols ← lookupSymbols capacity (index + 1) rest
    pure (ops.lookupSymbol name :: symbols)

def bannerMatches (profile : DeviceProfile) : Bool :=
  let capacity := profile.kernel.linuxBannerCapacity.toNat
  let (result, banner) := ops.readKernelBanner (List.replicate bannerCapacityMax.toNat 0) capacity
  (result = none || (result = some ENOSPC && profile.linuxBannerPrefixOk)) &&
    (banner.take capacity).contains 0 && releaseMatchesBanner banner profile.kernel.release

/-- `spz_profile_validate`, with a buffer for the reason. -/
def profileValidate (table : List DeviceProfile) (profile : DeviceProfile) (capacity : ℕ) :
    Except Rejection Runtime := do
  require (select table profile.id ≠ none) (reject capacity .unknownId ENOENT)
  require (boundsValid profile) (reject capacity .generatedBounds ERANGE)
  require (ops.pageSize = profile.kernel.pageSize) (reject capacity .pageSize EINVAL)
  require (ops.cpuCount ≠ 0 ∧ ops.cpuCount ≤ profile.debug.maxCpus ∧
    ops.cpuCount ≤ BitVec.ofNat 32 maxCpus)
    (reject capacity .cpuCount ERANGE)
  require (dfr0Bits ops.readDfr0 0 = profile.debug.debugArch) (reject capacity .debugArch EINVAL)
  require (dfr0Bits ops.readDfr0 12 + 1 = profile.debug.brps) (reject capacity .brpCount EINVAL)
  require (dfr0Bits ops.readDfr0 20 + 1 = profile.debug.wrps) (reject capacity .wrpCount EINVAL)
  require (dfr0Bits ops.readDfr0 28 + 1 = profile.debug.ctxCmps)
    (reject capacity .contextCount EINVAL)
  let symbols ← lookupSymbols ops capacity 0 profile.symbols
  require (bannerMatches ops profile) (reject capacity .kernelRelease EINVAL)
  (readInitTask ops profile (symbols.getD 1 0)).mapError fun reason => reject capacity reason EINVAL
  pure ⟨profile, symbols, ops.readDfr0, ops.cpuCount⟩

end Validate

/-! ## KPatch -/

/-- The kernel that the module runs in. -/
structure Kernel where
  /-- `kallsyms_lookup_name`. -/
  lookup : List U8 → U64
  /-- What `copy_from_kernel_nofault` reads; `none` faults. -/
  memory : U64 → Option U8
  pageSize : U32
  dfr0 : U64

/-- `struct spz_kpatch_runtime_context`, as it is while the profile is validated. -/
structure RuntimeContext where
  kernel : Kernel
  /-- `module->profile`. -/
  profile : DeviceProfile
  nofaultAddress : U64

namespace RuntimeContext

/-- What `spz_kpatch_runtime_prepare` sets before it validates a profile. -/
def prepare (kernel : Kernel) (profile : DeviceProfile) : RuntimeContext where
  kernel := kernel
  profile := profile
  nofaultAddress := kernel.lookup (profile.symbols.getD 17 [])

variable (context : RuntimeContext)

/-- `spz_kpatch_nofault_read`. -/
def nofaultRead (address : U64) (length : ℕ) : Except Errno (List U8) :=
  if address = 0 then .error EINVAL
  else if context.nofaultAddress = 0 then .error ENOENT
  else
    match (List.range length).mapM fun i => context.kernel.memory (address + BitVec.ofNat 64 i) with
    | some bytes => .ok bytes
    | none => .error EFAULT

/-- The loop of `spz_kpatch_read_banner` from `index` on, with so many bytes to go before the last
one of the buffer. -/
def readBannerFrom (address : U64) : ℕ → ℕ → List U8 → Option Errno × List U8
  | 0, index, out => (some ENOSPC, out.set index 0)
  | left + 1, index, out =>
    if 2 ^ 64 - 1 - address.toNat < index then (some ERANGE, out)
    else
      match context.nofaultRead (address + BitVec.ofNat 64 index) 1 with
      | .error error => (some error, out)
      | .ok bytes =>
        if bytes.headD 0 = 0 then (none, out.set index 0)
        else readBannerFrom address left (index + 1) (out.set index (bytes.headD 0))

/-- `spz_kpatch_read_banner`. -/
def readBanner (out : List U8) (capacity : ℕ) : Option Errno × List U8 :=
  let address := context.kernel.lookup (context.profile.symbols.getD 0 [])
  if capacity = 0 ∨ address = 0 then (some EINVAL, out)
  else context.readBannerFrom address (capacity - 1) 0 out

/-- `spz_kpatch_cpu_count`. -/
def cpuCount : U32 :=
  let address := context.kernel.lookup (context.profile.symbols.getD 10 [])
  if address = 0 then 0
  else
    match context.nofaultRead address 4 with
    | .ok bytes => leWord 32 bytes
    | .error _ => 0

/-- The operations that `spz_kpatch_runtime_prepare` passes on. -/
def ops : RuntimeOps where
  lookupSymbol := context.kernel.lookup
  readMemory := context.nofaultRead
  readKernelBanner := context.readBanner
  pageSize := context.kernel.pageSize
  cpuCount := context.cpuCount
  readDfr0 := context.kernel.dfr0

end RuntimeContext

end Spz.Profile
