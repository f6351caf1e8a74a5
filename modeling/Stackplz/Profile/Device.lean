import Stackplz.Profile.Generator
import Stackplz.Text

/-!
# Profiles of devices

`struct spz_device_profile`, as `render_c` of the generator writes it, and `core/profile.c`, which
checks a profile against the running kernel before it is used.  Fields that `profile.c` does not
read are left out.
-/

namespace Spz.Profile

/-! ## The structure -/

structure KernelProfile where
  /-- Without the terminator. -/
  release : List U8
  pageSize : U32
  vaBits : U32
  taskStructSize : U32
  credSize : U32
  perfEventSize : U32
  taskCommLen : U32
  linuxBannerCapacity : U32
deriving DecidableEq, Repr

structure TaskProfile where
  threadInfoFlags : U32
  cpu : U32
  state : U32
  usage : U32
  tasks : U32
  mm : U32
  activeMm : U32
  exitState : U32
  pid : U32
  tgid : U32
  realParent : U32
  parent : U32
  threadPid : U32
  pidLinks : U32
  threadNode : U32
  startTime : U32
  startBoottime : U32
  realCred : U32
  cred : U32
  comm : U32
  signal : U32
  perfEventCtxp : U32
  perfEventList : U32
  thread : U32
  signalThreadHead : U32
deriving DecidableEq, Repr

structure CredProfile where
  uid : U32
deriving DecidableEq, Repr

structure PerfEventProfile where
  state : U32
  attr : U32
  attrBpType : U32
  attrBpAddr : U32
  attrBpLen : U32
  hw : U32
  archAddress : U32
  archTrigger : U32
  archCtrl : U32
  hwTarget : U32
  ctx : U32
  oncpu : U32
  cpu : U32
  owner : U32
  contextTask : U32
deriving DecidableEq, Repr

structure DebugProfile where
  dfr0 : U64
  debugArch : U32
  brps : U32
  wrps : U32
  ctxCmps : U32
  maxCpus : U32
deriving DecidableEq, Repr

structure LayoutProfile where
  workStructSize : U32
  workData : U32
  workEntry : U32
  workFunc : U32
  ptRegsSize : U32
  ptRegsRegs : U32
  ptRegsSp : U32
  ptRegsPc : U32
  ptRegsPstate : U32
  perCpuPointerStride : U32
deriving DecidableEq, Repr

structure HooksProfile where
  finishTaskSwitchArgs : U32
  doExitArgs : U32
  breakpointHandlerArgs : U32
  watchpointHandlerArgs : U32
  singleStepHandlerArgs : U32
deriving DecidableEq, Repr

/-- `struct spz_device_profile`.  The symbols are those that are looked up, in the order of
`enum spz_runtime_symbol`. -/
structure DeviceProfile where
  id : List U8
  kernel : KernelProfile
  task : TaskProfile
  cred : CredProfile
  perfEvent : PerfEventProfile
  debug : DebugProfile
  layout : LayoutProfile
  symbols : List (List U8)
  hooks : HooksProfile
  linuxBannerPrefixOk : Bool
deriving DecidableEq, Repr

/-! ## Generated C -/

/-- `quoted`, as a literal of C.  JSON writes most control characters as `\u00xx`, which C does not
allow in a string. -/
def cString (points : List ℕ) : Option (List U8) :=
  if points.all fun c => 32 ≤ c || c ∈ [8, 9, 10, 12, 13] then some (points.map (BitVec.ofNat 8))
    else none

/-- All strings of the profile are literals of C. -/
def Rendered (profile : Json) : Prop :=
  ∀ part ∈ sectionFields, ∀ field ∈ part.2, field.2 = .string →
    (cString (points profile part.1 field.1)).isSome
deriving Decidable

section Denotes

variable (profile : Json)

section

variable (name field : String)

/-- `UINT32_C(value)`. -/
def u32 : U32 := BitVec.ofInt 32 (num profile name field)

/-- `UINT64_C(value)`. -/
def u64 : U64 := BitVec.ofInt 64 (num profile name field)

def cText : List U8 := (points profile name field).map (BitVec.ofNat 8)

def cBool : Bool :=
  match (profile.get name).get field with
  | .bool b => b
  | _ => false

end

def symbolNames : List String :=
  ["linux_banner", "init_task", "finish_task_switch", "do_exit", "breakpoint_handler",
    "watchpoint_handler", "single_step_handler", "bp_on_reg", "wp_on_reg", "per_cpu_offset",
    "nr_cpu_ids", "system_unbound_wq", "queue_work_on", "flush_work", "synchronize_rcu_tasks",
    "schedule_on_each_cpu", "ktime_get_mono_fast_ns", "copy_from_kernel_nofault"]

/-- The entry of `SPZ_DEVICE_PROFILES` that `render_c` writes. -/
def device : DeviceProfile :=
  let kernel := u32 profile "kernel"
  let task := u32 profile "task"
  let perfEvent := u32 profile "perf_event"
  let layout := u32 profile "layout"
  let hooks := u32 profile "hooks"
  let debug := u32 profile "debug"
  { id := (profile.get "id").points.map (BitVec.ofNat 8)
    kernel := {
      release := cText profile "kernel" "release"
      pageSize := kernel "page_size"
      vaBits := kernel "va_bits"
      taskStructSize := kernel "task_struct_size"
      credSize := kernel "cred_size"
      perfEventSize := kernel "perf_event_size"
      taskCommLen := kernel "task_comm_len"
      linuxBannerCapacity := kernel "linux_banner_capacity" }
    task := {
      threadInfoFlags := task "thread_info_flags"
      cpu := task "cpu"
      state := task "state"
      usage := task "usage"
      tasks := task "tasks"
      mm := task "mm"
      activeMm := task "active_mm"
      exitState := task "exit_state"
      pid := task "pid"
      tgid := task "tgid"
      realParent := task "real_parent"
      parent := task "parent"
      threadPid := task "thread_pid"
      pidLinks := task "pid_links"
      threadNode := task "thread_node"
      startTime := task "start_time"
      startBoottime := task "start_boottime"
      realCred := task "real_cred"
      cred := task "cred"
      comm := task "comm"
      signal := task "signal"
      perfEventCtxp := task "perf_event_ctxp"
      perfEventList := task "perf_event_list"
      thread := task "thread"
      signalThreadHead := task "signal_thread_head" }
    cred := { uid := u32 profile "cred" "uid" }
    perfEvent := {
      state := perfEvent "state"
      attr := perfEvent "attr"
      attrBpType := perfEvent "attr_bp_type"
      attrBpAddr := perfEvent "attr_bp_addr"
      attrBpLen := perfEvent "attr_bp_len"
      hw := perfEvent "hw"
      archAddress := perfEvent "arch_address"
      archTrigger := perfEvent "arch_trigger"
      archCtrl := perfEvent "arch_ctrl"
      hwTarget := perfEvent "hw_target"
      ctx := perfEvent "ctx"
      oncpu := perfEvent "oncpu"
      cpu := perfEvent "cpu"
      owner := perfEvent "owner"
      contextTask := perfEvent "context_task" }
    debug := {
      dfr0 := u64 profile "debug" "dfr0"
      debugArch := debug "debug_arch"
      brps := debug "brps"
      wrps := debug "wrps"
      ctxCmps := debug "ctx_cmps"
      maxCpus := debug "max_cpus" }
    layout := {
      workStructSize := layout "work_struct_size"
      workData := layout "work_data"
      workEntry := layout "work_entry"
      workFunc := layout "work_func"
      ptRegsSize := layout "pt_regs_size"
      ptRegsRegs := layout "pt_regs_regs"
      ptRegsSp := layout "pt_regs_sp"
      ptRegsPc := layout "pt_regs_pc"
      ptRegsPstate := layout "pt_regs_pstate"
      perCpuPointerStride := layout "per_cpu_pointer_stride" }
    symbols := symbolNames.map (cText profile "symbols")
    hooks := {
      finishTaskSwitchArgs := hooks "finish_task_switch_args"
      doExitArgs := hooks "do_exit_args"
      breakpointHandlerArgs := hooks "breakpoint_handler_args"
      watchpointHandlerArgs := hooks "watchpoint_handler_args"
      singleStepHandlerArgs := hooks "single_step_handler_args" }
    linuxBannerPrefixOk := cBool profile "quirks" "linux_banner_prefix_ok" }

/-- The same, if it is C. -/
def denotes : Option DeviceProfile := if Rendered profile then some (device profile) else none

end Denotes

/-! ## Bounds -/

def bannerCapacityMax : U32 := 512

structure OffsetWidth where
  offset : U32
  width : U32
deriving DecidableEq, Repr

def fieldFits (total : U32) (field : OffsetWidth) : Bool :=
  field.offset ≤ total && field.width ≤ total - field.offset

section Bounds

variable (profile : DeviceProfile)

/-- `task_fields`. -/
def taskFieldWidths : List OffsetWidth :=
  [⟨profile.task.threadInfoFlags, 8⟩, ⟨profile.task.cpu, 4⟩, ⟨profile.task.state, 8⟩,
    ⟨profile.task.usage, 4⟩, ⟨profile.task.tasks, 16⟩, ⟨profile.task.mm, 8⟩,
    ⟨profile.task.activeMm, 8⟩, ⟨profile.task.exitState, 4⟩, ⟨profile.task.pid, 4⟩,
    ⟨profile.task.tgid, 4⟩, ⟨profile.task.realParent, 8⟩, ⟨profile.task.parent, 8⟩,
    ⟨profile.task.threadPid, 8⟩, ⟨profile.task.pidLinks, 16⟩, ⟨profile.task.threadNode, 16⟩,
    ⟨profile.task.startTime, 8⟩, ⟨profile.task.startBoottime, 8⟩, ⟨profile.task.realCred, 8⟩,
    ⟨profile.task.cred, 8⟩, ⟨profile.task.comm, profile.kernel.taskCommLen⟩,
    ⟨profile.task.signal, 8⟩, ⟨profile.task.perfEventCtxp, 8⟩, ⟨profile.task.perfEventList, 16⟩,
    ⟨profile.task.thread, 1⟩]

/-- `perf_fields`. -/
def perfFieldWidths : List OffsetWidth :=
  [⟨profile.perfEvent.state, 4⟩, ⟨profile.perfEvent.attr, 1⟩, ⟨profile.perfEvent.attrBpType, 4⟩,
    ⟨profile.perfEvent.attrBpAddr, 8⟩, ⟨profile.perfEvent.attrBpLen, 8⟩, ⟨profile.perfEvent.hw, 1⟩,
    ⟨profile.perfEvent.archAddress, 8⟩, ⟨profile.perfEvent.archTrigger, 8⟩,
    ⟨profile.perfEvent.archCtrl, 4⟩, ⟨profile.perfEvent.hwTarget, 8⟩, ⟨profile.perfEvent.ctx, 8⟩,
    ⟨profile.perfEvent.oncpu, 4⟩, ⟨profile.perfEvent.cpu, 4⟩, ⟨profile.perfEvent.owner, 8⟩,
    ⟨profile.perfEvent.contextTask, 8⟩]

def kernelValid : Bool :=
  profile.kernel.taskStructSize ≠ 0 && profile.kernel.credSize ≠ 0 &&
    profile.kernel.perfEventSize ≠ 0 &&
    profile.kernel.taskCommLen = BitVec.ofNat 32 commLen &&
    64 ≤ profile.kernel.linuxBannerCapacity &&
    profile.kernel.linuxBannerCapacity ≤ bannerCapacityMax &&
    (profile.kernel.pageSize = 4096 || profile.kernel.pageSize = 16384 ||
      profile.kernel.pageSize = 65536) &&
    32 ≤ profile.kernel.vaBits && profile.kernel.vaBits ≤ 52

def offsetsValid : Bool :=
  (taskFieldWidths profile).all (fieldFits profile.kernel.taskStructSize) &&
    fieldFits profile.kernel.credSize ⟨profile.cred.uid, 4⟩ &&
    (perfFieldWidths profile).all (fieldFits profile.kernel.perfEventSize) &&
    profile.task.signalThreadHead ≤ 4096 - 16

def layoutValid : Bool :=
  32 ≤ profile.layout.workStructSize && profile.layout.workStructSize ≤ 256 &&
    fieldFits profile.layout.workStructSize ⟨profile.layout.workData, 8⟩ &&
    fieldFits profile.layout.workStructSize ⟨profile.layout.workEntry, 16⟩ &&
    fieldFits profile.layout.workStructSize ⟨profile.layout.workFunc, 8⟩ &&
    272 ≤ profile.layout.ptRegsSize && profile.layout.ptRegsSize ≤ 1024 &&
    fieldFits profile.layout.ptRegsSize ⟨profile.layout.ptRegsRegs, 31 * 8⟩ &&
    fieldFits profile.layout.ptRegsSize ⟨profile.layout.ptRegsSp, 8⟩ &&
    fieldFits profile.layout.ptRegsSize ⟨profile.layout.ptRegsPc, 8⟩ &&
    fieldFits profile.layout.ptRegsSize ⟨profile.layout.ptRegsPstate, 8⟩ &&
    profile.layout.perCpuPointerStride = 8

/-- `(uint32_t)((dfr0 >> shift) & 0xfU)`. -/
def dfr0Bits (dfr0 : U64) (shift : ℕ) : U32 := ((dfr0 >>> shift) &&& 0xf).setWidth 32

def debugValid : Bool :=
  6 ≤ profile.debug.debugArch && profile.debug.debugArch ≤ 15 &&
    profile.debug.brps ≠ 0 && profile.debug.brps ≤ 16 &&
    profile.debug.wrps ≠ 0 && profile.debug.wrps ≤ 16 &&
    profile.debug.ctxCmps ≤ 16 && profile.debug.maxCpus ≠ 0 &&
    profile.debug.maxCpus ≤ BitVec.ofNat 32 maxCpus &&
    dfr0Bits profile.debug.dfr0 0 = profile.debug.debugArch &&
    dfr0Bits profile.debug.dfr0 12 + 1 = profile.debug.brps &&
    dfr0Bits profile.debug.dfr0 20 + 1 = profile.debug.wrps &&
    dfr0Bits profile.debug.dfr0 28 + 1 = profile.debug.ctxCmps

def hookArgs (count : U32) : Bool := count = 1 || count = 3

def hooksValid : Bool :=
  hookArgs profile.hooks.finishTaskSwitchArgs && hookArgs profile.hooks.doExitArgs &&
    hookArgs profile.hooks.breakpointHandlerArgs && hookArgs profile.hooks.watchpointHandlerArgs &&
    hookArgs profile.hooks.singleStepHandlerArgs

/-- `spz_profile_bounds_valid`. -/
def boundsValid : Bool :=
  kernelValid profile && offsetsValid profile && layoutValid profile && debugValid profile &&
    hooksValid profile

end Bounds

end Spz.Profile
