import Stackplz.Lib.Checks
import Stackplz.Abi

/-!
# The generator of profiles

`validate_profile` of `tools/gen_kpm_profiles.py`: what the table of devices has to look like before
C and Go are generated from it.  The profile is what the JSON parser returns; only the values that
the generator looks into are told apart.
-/

namespace Spz.Profile

open Check (require)

/-! ## Values -/

/-- A value of the table.  A string is the list of its code points. -/
inductive Json
  | bool (b : Bool)
  | int (z : ℤ)
  | str (points : List ℕ)
  | dict (entries : List (String × Json))
  /-- `null`, lists, and numbers that are not integers. -/
  | other

namespace Json

def get (value : Json) (key : String) : Json :=
  match value with
  | .dict entries => (entries.lookup key).getD .other
  | _ => .other

/-- An integer that was checked to be one. -/
def num (value : Json) : ℤ :=
  match value with
  | .int z => z
  | _ => 0

/-- A string that was checked to be one. -/
def points (value : Json) : List ℕ :=
  match value with
  | .str points => points
  | _ => []

end Json

/-- The code points of a text of the source. -/
def codes (s : String) : List ℕ := s.toList.map Char.toNat

/-! ## Fields -/

inductive Kind
  | string
  | bool
  | u32
  | u64
deriving DecidableEq, Repr

def productFields : List (String × Kind) :=
  [("manufacturer", .string), ("model", .string), ("device", .string), ("fingerprint", .string),
    ("android_release", .string), ("sdk", .u32), ("security_patch", .string)]

def kernelFields : List (String × Kind) :=
  [("release", .string), ("build_id", .string), ("ack_commit", .string), ("btf_sha256", .string),
    ("page_size", .u32), ("va_bits", .u32), ("task_struct_size", .u32), ("cred_size", .u32),
    ("perf_event_size", .u32), ("task_comm_len", .u32), ("linux_banner_capacity", .u32)]

def kpatchFields : List (String × Kind) :=
  [("kpver", .string), ("kver", .string), ("sdk_version", .string), ("sdk_commit", .string),
    ("control_path", .string), ("module_name", .string), ("safe_unload_symbol", .string),
    ("memcpy_kfunc", .string), ("memset_kfunc", .string), ("kfunc_exports_are_pointers", .bool)]

def taskFields : List (String × Kind) :=
  ["thread_info_flags", "cpu", "state", "usage", "tasks", "mm", "active_mm", "exit_state", "pid",
    "tgid", "real_parent", "parent", "thread_pid", "pid_links", "thread_node", "start_time",
    "start_boottime", "real_cred", "cred", "comm", "signal", "perf_event_ctxp", "perf_event_list",
    "thread", "signal_thread_head"].map (·, .u32)

def credFields : List (String × Kind) := [("uid", .u32)]

def perfEventFields : List (String × Kind) :=
  ["state", "attr", "attr_bp_type", "attr_bp_addr", "attr_bp_len", "hw", "arch_address",
    "arch_trigger", "arch_ctrl", "hw_target", "ctx", "oncpu", "cpu", "owner",
    "context_task"].map (·, .u32)

def debugFields : List (String × Kind) :=
  [("dfr0", .u64), ("debug_arch", .u32), ("brps", .u32), ("wrps", .u32), ("ctx_cmps", .u32),
    ("max_cpus", .u32)]

def layoutFields : List (String × Kind) :=
  [("work_struct_size", .u32), ("work_data", .u32), ("work_entry", .u32), ("work_func", .u32),
    ("work_data_init", .u64), ("pt_regs_size", .u32), ("pt_regs_regs", .u32), ("pt_regs_sp", .u32),
    ("pt_regs_pc", .u32), ("pt_regs_pstate", .u32), ("per_cpu_pointer_stride", .u32)]

def mapsFields : List (String × Kind) :=
  [("max_snapshot_bytes", .u32), ("max_chunk_bytes", .u32), ("seq_file_size", .u32),
    ("seq_buf", .u32), ("seq_size", .u32), ("seq_from", .u32), ("seq_count", .u32),
    ("seq_pad_until", .u32), ("seq_private", .u32), ("proc_maps_private_size", .u32),
    ("proc_task", .u32), ("proc_mm", .u32), ("proc_iter", .u32), ("vma_iterator_size", .u32),
    ("mas_tree", .u32), ("mas_index", .u32), ("mas_last", .u32), ("mas_node", .u32),
    ("mas_status", .u32), ("mm_struct_size", .u32), ("mm_mt", .u32), ("vma_struct_size", .u32),
    ("vma_start", .u32), ("vma_end", .u32), ("mas_start_node", .u64), ("ma_start_status", .u32),
    ("show_map_vma_args", .u32)]

def symbolFields : List (String × Kind) :=
  ["linux_banner", "init_task", "finish_task_switch", "do_exit", "breakpoint_handler",
    "watchpoint_handler", "single_step_handler", "bp_on_reg", "wp_on_reg", "per_cpu_offset",
    "nr_cpu_ids", "system_unbound_wq", "queue_work_on", "flush_work", "synchronize_rcu_tasks",
    "schedule_on_each_cpu", "ktime_get_mono_fast_ns", "copy_from_kernel_nofault", "show_map_vma",
    "find_vma", "mas_walk", "get_task_mm", "mmput", "mmap_read_lock_killable", "mmap_read_unlock",
    "rust_helper_get_task_struct", "rust_helper_put_task_struct", "vmalloc_noprof",
    "vfree"].map (·, .string)

def hookFields : List (String × Kind) :=
  ["finish_task_switch_args", "do_exit_args", "breakpoint_handler_args", "watchpoint_handler_args",
    "single_step_handler_args"].map (·, .u32)

def quirkFields : List (String × Kind) :=
  ["control_under_rcu", "unload_requires_quiescent", "cpu_hotplug_while_armed",
    "safe_unload_required", "linux_banner_prefix_ok"].map (·, .bool)

def sectionFields : List (String × List (String × Kind)) :=
  [("product", productFields), ("kernel", kernelFields), ("kpatch", kpatchFields),
    ("task", taskFields), ("cred", credFields), ("perf_event", perfEventFields),
    ("debug", debugFields), ("layout", layoutFields), ("maps", mapsFields),
    ("symbols", symbolFields), ("hooks", hookFields), ("quirks", quirkFields)]

def profileKeys : List String := "id" :: sectionFields.map Prod.fst

/-! ## Checks of values -/

def exactKeys (value : Json) (expected : List String) (path : String) : Check Unit :=
  match value with
  | .dict entries =>
    let actual := entries.map Prod.fst
    match ((actual.filter (· ∉ expected)).mergeSort),
      ((expected.filter (· ∉ actual)).mergeSort) with
    | unknown :: _, _ => throw ("unknown key at " ++ path ++ ": " ++ unknown)
    | [], missing :: _ => throw ("missing key at " ++ path ++ ": " ++ missing)
    | [], [] => pure ()
  | _ => throw (path ++ " must be an object")

section

variable (value : Json) (path : String)

def integer (minimum maximum : ℤ) : Check ℤ :=
  match value with
  | .int z => if z < minimum ∨ z > maximum then throw (path ++ " out of range") else pure z
  | _ => throw (path ++ " must be an integer")

def text (maximum : ℕ) : Check (List ℕ) :=
  match value with
  | .str points =>
    if points = [] ∨ points.length > maximum then throw (path ++ " must be a non-empty string")
    else if points.all (· < 128) then pure points
    else throw (path ++ " must be ASCII")
  | _ => throw (path ++ " must be a non-empty string")

def checkField : Kind → Check Unit
  | .string => do
    let _ ← text value path 256
    pure ()
  | .bool =>
    match value with
    | .bool _ => pure ()
    | _ => throw (path ++ " must be boolean")
  | .u64 => do
    let _ ← integer value path 0 0xffffffffffffffff
    pure ()
  | .u32 => do
    let _ ← integer value path 0 0xffffffff
    pure ()

end

def checkSection (profile : Json) (name : String) (fields : List (String × Kind)) : Check Unit := do
  exactKeys (profile.get name) (fields.map Prod.fst) name
  forM fields fun field =>
    checkField ((profile.get name).get field.1) (name ++ "." ++ field.1) field.2

/-- An integer field with bounds of its own. -/
def inRange (profile : Json) (name field : String) (minimum maximum : ℤ) : Check Unit := do
  let _ ← integer ((profile.get name).get field) (name ++ "." ++ field) minimum maximum
  pure ()

/-- A field of a structure that has so many bytes. -/
def fits (profile : Json) (name field : String) (width total : ℤ) : Check Unit := do
  let offset ← integer ((profile.get name).get field) (name ++ "." ++ field) 0 0xffffffff
  require (offset + width ≤ total) (name ++ "." ++ field ++ " out of range")

/-! ## Patterns -/

def isLower (c : ℕ) : Bool := 97 ≤ c && c ≤ 122
def isUpper (c : ℕ) : Bool := 65 ≤ c && c ≤ 90
def isDigit (c : ℕ) : Bool := 48 ≤ c && c ≤ 57

/-- `[._-]`. -/
def isMark (c : ℕ) : Bool := c == 46 || c == 95 || c == 45

/-- `[a-z0-9][a-z0-9._-]*`. -/
def matchesId : List ℕ → Bool
  | [] => false
  | c :: rest => (isLower c || isDigit c) && rest.all fun c => isLower c || isDigit c || isMark c

/-- `\d{4}-\d{2}-\d{2}`. -/
def matchesDate (points : List ℕ) : Bool :=
  points.length == 10 && ((points.zipIdx).all fun (c, i) =>
    if i = 4 ∨ i = 7 then c == 45 else isDigit c)

/-- `[0-9a-f]{length}`. -/
def matchesDigest (length : ℕ) (points : List ℕ) : Bool :=
  points.length == length && points.all fun c => isDigit c || (97 ≤ c && c ≤ 102)

/-- `[A-Za-z0-9._-]{1,64}`. -/
def matchesModuleName (points : List ℕ) : Bool :=
  1 ≤ points.length && points.length ≤ 64 &&
    points.all fun c => isUpper c || isLower c || isDigit c || isMark c

/-! ## Sections -/

section Sections

variable (profile : Json)

def num (name field : String) : ℤ := ((profile.get name).get field).num

def points (name field : String) : List ℕ := ((profile.get name).get field).points

def checkProduct : Check Unit := do
  inRange profile "product" "sdk" 1 1000
  require (matchesDate (points profile "product" "security_patch"))
    "product.security_patch has invalid format"

def checkKernel : Check Unit := do
  forM [("build_id", 40), ("ack_commit", 40), ("btf_sha256", 64)] fun (key, length) =>
    require (matchesDigest length (points profile "kernel" key))
      ("kernel." ++ key ++ " has invalid digest")
  require (num profile "kernel" "page_size" ∈ [4096, 16384, 65536])
    "kernel.page_size is unsupported"
  inRange profile "kernel" "va_bits" 32 52
  forM ["task_struct_size", "cred_size", "perf_event_size"] fun key =>
    inRange profile "kernel" key 1 65536
  inRange profile "kernel" "task_comm_len" 16 16
  inRange profile "kernel" "linux_banner_capacity" 64 512
  -- `len("Linux version ") + len(release) + 2`.
  require (14 + (points profile "kernel" "release").length + 2 ≤
    num profile "kernel" "linux_banner_capacity")
    "kernel.linux_banner_capacity too small for kernel.release"

def checkKpatch : Check Unit := do
  require ((points profile "kpatch" "control_path").head? = some 47)
    "kpatch.control_path must be an absolute path"
  require (matchesModuleName (points profile "kpatch" "module_name"))
    "kpatch.module_name has invalid characters"

def checkTask : Check Unit := do
  forM taskFields fun field => inRange profile "task" field.1 0
    ((if field.1 ≠ "signal_thread_head" then num profile "kernel" "task_struct_size" else 4096) - 1)
  require (num profile "task" "comm" + num profile "kernel" "task_comm_len" ≤
    num profile "kernel" "task_struct_size") "task.comm out of range"

def checkCred : Check Unit := inRange profile "cred" "uid" 0 (num profile "kernel" "cred_size" - 4)

def checkPerfEvent : Check Unit :=
  forM perfEventFields fun field => inRange profile "perf_event" field.1 0
    (num profile "kernel" "perf_event_size" - 1)

/-- `(dfr0 >> shift) & 0xF`. -/
def dfr0Field (shift : ℕ) : ℤ := (num profile "debug" "dfr0" >>> shift) % 16

def checkDebug : Check Unit := do
  inRange profile "debug" "debug_arch" 6 15
  inRange profile "debug" "brps" 1 16
  inRange profile "debug" "wrps" 1 16
  inRange profile "debug" "ctx_cmps" 0 16
  inRange profile "debug" "max_cpus" 1 64
  require (dfr0Field profile 0 = num profile "debug" "debug_arch")
    "debug.dfr0 debug architecture mismatch"
  require (dfr0Field profile 12 + 1 = num profile "debug" "brps") "debug.dfr0 BRP count mismatch"
  require (dfr0Field profile 20 + 1 = num profile "debug" "wrps") "debug.dfr0 WRP count mismatch"
  require (dfr0Field profile 28 + 1 = num profile "debug" "ctx_cmps")
    "debug.dfr0 context comparator mismatch"

def checkLayout : Check Unit := do
  inRange profile "layout" "work_struct_size" 32 256
  forM [("work_data", 8), ("work_entry", 16), ("work_func", 8)] fun (name, width) =>
    fits profile "layout" name width (num profile "layout" "work_struct_size")
  inRange profile "layout" "pt_regs_size" 272 1024
  forM [("pt_regs_regs", 31 * 8), ("pt_regs_sp", 8), ("pt_regs_pc", 8), ("pt_regs_pstate", 8)]
    fun (name, width) => fits profile "layout" name width (num profile "layout" "pt_regs_size")
  require (num profile "layout" "per_cpu_pointer_stride" = 8)
    "layout.per_cpu_pointer_stride must be 8 on ARM64"

def checkMaps : Check Unit := do
  inRange profile "maps" "max_snapshot_bytes" 4096 (16 * 1024 * 1024)
  inRange profile "maps" "max_chunk_bytes" 1 1536
  inRange profile "maps" "seq_file_size" 64 256
  forM ["seq_buf", "seq_size", "seq_from", "seq_count", "seq_pad_until", "seq_private"] fun name =>
    fits profile "maps" name 8 (num profile "maps" "seq_file_size")
  inRange profile "maps" "proc_maps_private_size" 32 512
  inRange profile "maps" "vma_iterator_size" 32 256
  forM ["proc_task", "proc_mm"] fun name =>
    fits profile "maps" name 8 (num profile "maps" "proc_maps_private_size")
  fits profile "maps" "proc_iter" (num profile "maps" "vma_iterator_size")
    (num profile "maps" "proc_maps_private_size")
  forM [("mas_tree", 8), ("mas_index", 8), ("mas_last", 8), ("mas_node", 8), ("mas_status", 4)]
    fun (name, width) => fits profile "maps" name width (num profile "maps" "vma_iterator_size")
  inRange profile "maps" "mm_struct_size" 64 65536
  let mmMt ← integer ((profile.get "maps").get "mm_mt") "maps.mm_mt" 0 0xffffffff
  require (mmMt < num profile "maps" "mm_struct_size") "maps.mm_mt out of range"
  inRange profile "maps" "vma_struct_size" 32 4096
  forM ["vma_start", "vma_end"] fun name =>
    fits profile "maps" name 8 (num profile "maps" "vma_struct_size")
  inRange profile "maps" "mas_start_node" 1 0xffffffffffffffff
  inRange profile "maps" "ma_start_status" 0 7
  inRange profile "maps" "show_map_vma_args" 2 2

def checkHooks : Check Unit :=
  forM hookFields fun field => do
    let value ← integer ((profile.get "hooks").get field.1) ("hooks." ++ field.1) 1 3
    require (value = 1 ∨ value = 3) ("hooks." ++ field.1 ++ " must be 1 or 3")

def validateProfile : Check Unit := do
  exactKeys profile profileKeys "profile"
  let profileId ← text (profile.get "id") "profile.id" 128
  require (matchesId profileId) "profile.id has invalid characters"
  forM sectionFields fun (name, fields) => checkSection profile name fields
  checkProduct profile
  checkKernel profile
  checkKpatch profile
  checkTask profile
  checkCred profile
  checkPerfEvent profile
  checkDebug profile
  checkLayout profile
  checkMaps profile
  checkHooks profile

end Sections

end Spz.Profile
