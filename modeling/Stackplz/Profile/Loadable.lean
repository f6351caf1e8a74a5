import Stackplz.Profile.Device

/-!
# Generated profiles and their bounds

The generator checks most offsets of `struct task_struct` and `struct perf_event` only to be inside
of the structure, and allows more CPUs than the module has room for; `spz_profile_bounds_valid`
wants room for the whole field.  `boundsValid_iff` says which of the profiles that the generator
accepts are loadable: everything else that is checked by both is checked alike.
-/

namespace Spz.Profile

open Check BitVec

open Check (require)

/-! ## What the checks mean -/

variable {path : String} {width : U32} {fields : List (String × Kind)}

variable {minimum maximum : ℤ} {u : Unit}

lemma integer_eq_ok {value : Json} {z : ℤ} :
    integer value path minimum maximum = .ok z ↔ value = .int z ∧ minimum ≤ z ∧ z ≤ maximum := by
  cases value with
  | int z' =>
    by_cases hrange : z' < minimum ∨ z' > maximum
    · rw [integer, if_pos hrange]
      refine iff_of_false (fun hok => by cases hok) ?_
      rintro ⟨heq, hle⟩
      obtain rfl := Json.int.inj heq
      omega
    · rw [integer, if_neg hrange]
      constructor
      · intro hok
        cases hok
        exact ⟨rfl, by omega⟩
      · rintro ⟨heq, -⟩
        rw [Json.int.inj heq]
        rfl
  | _ => exact iff_of_false (fun hok => by cases hok) fun ⟨heq, _⟩ => by cases heq

variable {profile : Json} {name field : String}

lemma inRange_eq_ok (h : inRange profile name field minimum maximum = .ok u) :
    minimum ≤ num profile name field ∧ num profile name field ≤ maximum := by
  simp only [inRange, bind_eq_ok, integer_eq_ok] at h
  obtain ⟨z, ⟨hvalue, hle⟩, -⟩ := h
  rw [num, hvalue]
  exact hle

lemma fits_eq_ok {width total : ℤ} (h : fits profile name field width total = .ok u) :
    num profile name field + width ≤ total := by
  simp only [fits, bind_eq_ok, integer_eq_ok, require_eq_ok] at h
  obtain ⟨z, ⟨hvalue, -⟩, hle⟩ := h
  rw [num, hvalue]
  exact hle

lemma checkField_of_checkSection {kind : Kind}
    (h : checkSection profile name fields = .ok ()) (hfield : (field, kind) ∈ fields) :
    checkField ((profile.get name).get field) (name ++ "." ++ field) kind = .ok () := by
  simp only [checkSection, bind_eq_ok, exists_unit, forM_eq_ok] at h
  exact h.2 _ hfield

lemma checkField_u32 (h : checkField ((profile.get name).get field) path .u32 = .ok ()) :
    0 ≤ num profile name field ∧ num profile name field ≤ 0xffffffff := by
  simp only [checkField, bind_eq_ok, integer_eq_ok] at h
  obtain ⟨z, ⟨hvalue, hle⟩, -⟩ := h
  rw [num, hvalue]
  exact hle

lemma checkField_u64 (h : checkField ((profile.get name).get field) path .u64 = .ok ()) :
    0 ≤ num profile name field ∧ num profile name field ≤ 0xffffffffffffffff := by
  simp only [checkField, bind_eq_ok, integer_eq_ok] at h
  obtain ⟨z, ⟨hvalue, hle⟩, -⟩ := h
  rw [num, hvalue]
  exact hle

/-! ## Accepted profiles -/

/-- The parts of `validate_profile` that are about what `profile.c` reads. -/
structure Accepted (profile : Json) : Prop where
  sections : ∀ part ∈ sectionFields, checkSection profile part.1 part.2 = .ok ()
  kernel : checkKernel profile = .ok ()
  task : checkTask profile = .ok ()
  cred : checkCred profile = .ok ()
  perfEvent : checkPerfEvent profile = .ok ()
  debug : checkDebug profile = .ok ()
  layout : checkLayout profile = .ok ()
  hooks : checkHooks profile = .ok ()

lemma accepted_of_validateProfile (h : validateProfile profile = .ok ()) : Accepted profile := by
  simp only [validateProfile, bind_eq_ok, exists_unit, forM_eq_ok] at h
  obtain ⟨-, -, -, -, hsections, -, hkernel, -, htask, hcred, hperf, hdebug, hlayout, -, hhooks⟩ :=
    h
  exact ⟨hsections, hkernel, htask, hcred, hperf, hdebug, hlayout, hhooks⟩

lemma Accepted.toNat_u32 (h : Accepted profile)
    (hpart : (name, fields) ∈ sectionFields) (field : String)
    (hfield : (field, Kind.u32) ∈ fields) :
    ((u32 profile name field).toNat : ℤ) = num profile name field := by
  have hsection : checkSection profile name fields = .ok () := h.sections _ hpart
  obtain ⟨hpos, hle⟩ := checkField_u32 (checkField_of_checkSection hsection hfield)
  rw [u32, toNat_ofInt]
  omega

lemma Accepted.toNat_u64 (h : Accepted profile)
    (hpart : (name, fields) ∈ sectionFields) (field : String)
    (hfield : (field, Kind.u64) ∈ fields) :
    ((u64 profile name field).toNat : ℤ) = num profile name field := by
  have hsection : checkSection profile name fields = .ok () := h.sections _ hpart
  obtain ⟨hpos, hle⟩ := checkField_u64 (checkField_of_checkSection hsection hfield)
  rw [u64, toNat_ofInt]
  omega

lemma fieldFits_iff {total offset : U32} :
    fieldFits total ⟨offset, width⟩ = true ↔ offset.toNat + width.toNat ≤ total.toNat := by
  simp only [fieldFits, Bool.and_eq_true, decide_eq_true_eq, le_def]
  by_cases hle : offset.toNat ≤ total.toNat
  · rw [toNat_sub_of_le (le_def.mpr hle)]
    omega
  · omega

lemma Accepted.fieldFits_iff (h : Accepted profile) {part total : String}
    {fields' : List (String × Kind)} (hpart : (name, fields) ∈ sectionFields)
    (hfield : (field, Kind.u32) ∈ fields) (hpart' : (part, fields') ∈ sectionFields)
    (htotal : (total, Kind.u32) ∈ fields') :
    fieldFits (u32 profile part total) ⟨u32 profile name field, width⟩ = true ↔
      num profile name field + width.toNat ≤ num profile part total := by
  rw [Profile.fieldFits_iff, ← h.toNat_u32 hpart field hfield, ← h.toNat_u32 hpart' total htotal]
  omega

/-! ## Checks that agree -/

lemma kernel_mem : ("kernel", kernelFields) ∈ sectionFields := by simp [sectionFields]
lemma task_mem : ("task", taskFields) ∈ sectionFields := by simp [sectionFields]
lemma cred_mem : ("cred", credFields) ∈ sectionFields := by simp [sectionFields]
lemma perfEvent_mem : ("perf_event", perfEventFields) ∈ sectionFields := by simp [sectionFields]
lemma debug_mem : ("debug", debugFields) ∈ sectionFields := by simp [sectionFields]
lemma layout_mem : ("layout", layoutFields) ∈ sectionFields := by simp [sectionFields]
lemma hooks_mem : ("hooks", hookFields) ∈ sectionFields := by simp [sectionFields]

section

variable (h : Accepted profile)
include h

lemma Accepted.kernelValid : kernelValid (device profile) = true := by
  have hkernel := h.kernel
  simp only [checkKernel, bind_eq_ok, exists_unit, forM_eq_ok, require_eq_ok] at hkernel
  obtain ⟨-, hpage, hva, hsizes, hcomm, hcapacity, -⟩ := hkernel
  have hsize := fun key hkey => (inRange_eq_ok (hsizes key hkey)).1
  have htask := hsize "task_struct_size" (by simp)
  have hcred := hsize "cred_size" (by simp)
  have hperf := hsize "perf_event_size" (by simp)
  have hva' := inRange_eq_ok hva
  have hcomm' := inRange_eq_ok hcomm
  have hcapacity' := inRange_eq_ok hcapacity
  rw [← h.toNat_u32 kernel_mem _ (by decide)] at hpage htask hcred hperf hva' hcomm' hcapacity'
  simp only [List.mem_cons, List.not_mem_nil, or_false] at hpage
  simp only [Profile.kernelValid, Bool.and_eq_true, Bool.or_eq_true, decide_eq_true_eq]
  simp only [device, bannerCapacityMax, commLen]
  bv_omega

lemma Accepted.layoutFits {total : String}
    (hfield : (field, Kind.u32) ∈ layoutFields) (htotal : (total, Kind.u32) ∈ layoutFields)
    (hfits : fits profile "layout" field width.toNat (num profile "layout" total) = .ok ()) :
    fieldFits (u32 profile "layout" total) ⟨u32 profile "layout" field, width⟩ = true :=
  (h.fieldFits_iff layout_mem hfield layout_mem htotal).mpr (fits_eq_ok hfits)

/-- A profile that the generator accepts passes the module's check of the layout. -/
lemma Accepted.layoutValid : layoutValid (device profile) = true := by
  have hlayout := h.layout
  simp only [checkLayout, bind_eq_ok, exists_unit, forM_eq_ok, require_eq_ok] at hlayout
  obtain ⟨hwork, hworks, hregs, hregss, hstride⟩ := hlayout
  have hwork' := inRange_eq_ok hwork
  have hregs' := inRange_eq_ok hregs
  rw [← h.toNat_u32 layout_mem _ (by decide)] at hwork' hregs' hstride
  simp only [Profile.layoutValid, Bool.and_eq_true, decide_eq_true_eq]
  refine ⟨⟨⟨⟨⟨⟨⟨⟨⟨⟨⟨?_, ?_⟩, ?_⟩, ?_⟩, ?_⟩, ?_⟩, ?_⟩, ?_⟩, ?_⟩, ?_⟩, ?_⟩, ?_⟩
  · simp only [device]
    bv_omega
  · simp only [device]
    bv_omega
  · exact h.layoutFits (by decide) (by decide) (hworks ("work_data", 8) (by simp))
  · exact h.layoutFits (by decide) (by decide) (hworks ("work_entry", 16) (by simp))
  · exact h.layoutFits (by decide) (by decide) (hworks ("work_func", 8) (by simp))
  · simp only [device]
    bv_omega
  · simp only [device]
    bv_omega
  · have hwidth : ((31 * 8 : U32).toNat : ℤ) = 31 * 8 := by decide
    exact h.layoutFits (by decide) (by decide) (hwidth ▸ hregss ("pt_regs_regs", 31 * 8) (by simp))
  · exact h.layoutFits (by decide) (by decide) (hregss ("pt_regs_sp", 8) (by simp))
  · exact h.layoutFits (by decide) (by decide) (hregss ("pt_regs_pc", 8) (by simp))
  · exact h.layoutFits (by decide) (by decide) (hregss ("pt_regs_pstate", 8) (by simp))
  · simp only [device]
    bv_omega

lemma Accepted.hookArgs (hfield : (field, Kind.u32) ∈ hookFields) :
    hookArgs (u32 profile "hooks" field) = true := by
  have hhooks := h.hooks
  simp only [checkHooks, forM_eq_ok, bind_eq_ok, integer_eq_ok, require_eq_ok] at hhooks
  obtain ⟨z, ⟨hvalue, -⟩, hz⟩ := hhooks _ hfield
  have hnum : num profile "hooks" field = z := by rw [num, hvalue]; rfl
  rw [← hnum, ← h.toNat_u32 hooks_mem _ hfield] at hz
  simp only [Profile.hookArgs, Bool.or_eq_true, decide_eq_true_eq]
  bv_omega

lemma Accepted.hooksValid : hooksValid (device profile) = true := by
  simp only [Profile.hooksValid, Bool.and_eq_true]
  exact ⟨⟨⟨⟨h.hookArgs (by decide), h.hookArgs (by decide)⟩, h.hookArgs (by decide)⟩,
    h.hookArgs (by decide)⟩,
    h.hookArgs (by decide)⟩

end

/-! ## Debug registers -/

lemma toNat_dfr0Bits (dfr0 : U64) (shift : ℕ) :
    (dfr0Bits dfr0 shift).toNat = dfr0.toNat / 2 ^ shift % 16 := by
  have hmask : (dfr0 >>> shift &&& 0xf).toNat = dfr0.toNat / 2 ^ shift % 16 := by
    rw [toNat_and, toNat_ushiftRight, Nat.shiftRight_eq_div_pow]
    exact Nat.and_two_pow_sub_one_eq_mod _ 4
  rw [dfr0Bits, toNat_setWidth, hmask]
  omega

lemma Accepted.dfr0Bits (h : Accepted profile) (shift : ℕ) :
    ((dfr0Bits (u64 profile "debug" "dfr0") shift).toNat : ℤ) = dfr0Field profile shift := by
  rw [toNat_dfr0Bits, dfr0Field, ← h.toNat_u64 debug_mem "dfr0" (by decide),
    Int.shiftRight_eq_div_pow]
  norm_cast

lemma Accepted.debugValid_iff (h : Accepted profile) :
    debugValid (device profile) = true ↔ num profile "debug" "max_cpus" ≤ maxCpus := by
  have hdebug := h.debug
  simp only [checkDebug, bind_eq_ok, exists_unit, require_eq_ok] at hdebug
  obtain ⟨harch, hbrps, hwrps, hctx, hcpus, hdfr0, hdfr12, hdfr20, hdfr28⟩ := hdebug
  have harch' := inRange_eq_ok harch
  have hbrps' := inRange_eq_ok hbrps
  have hwrps' := inRange_eq_ok hwrps
  have hctx' := inRange_eq_ok hctx
  have hcpus' := inRange_eq_ok hcpus
  rw [← h.toNat_u32 debug_mem _ (by decide)] at harch' hbrps' hwrps' hctx' hcpus'
  rw [← h.toNat_u32 debug_mem _ (by decide), ← h.dfr0Bits] at hdfr0 hdfr12 hdfr20 hdfr28
  rw [← h.toNat_u32 debug_mem _ (by decide)]
  simp only [debugValid, Bool.and_eq_true, decide_eq_true_eq]
  simp only [device, maxCpus]
  bv_omega

/-! ## Offsets -/

/-- The widths of the fields of `struct task_struct`. -/
def taskWidths : List (String × ℕ) :=
  [("thread_info_flags", 8), ("cpu", 4), ("state", 8), ("usage", 4), ("tasks", 16), ("mm", 8),
    ("active_mm", 8), ("exit_state", 4), ("pid", 4), ("tgid", 4), ("real_parent", 8), ("parent", 8),
    ("thread_pid", 8), ("pid_links", 16), ("thread_node", 16), ("start_time", 8),
    ("start_boottime", 8), ("real_cred", 8), ("cred", 8), ("comm", commLen), ("signal", 8),
    ("perf_event_ctxp", 8), ("perf_event_list", 16), ("thread", 1)]

/-- The widths of the fields of `struct perf_event`. -/
def perfEventWidths : List (String × ℕ) :=
  [("state", 4), ("attr", 1), ("attr_bp_type", 4), ("attr_bp_addr", 8), ("attr_bp_len", 8),
    ("hw", 1), ("arch_address", 8), ("arch_trigger", 8), ("arch_ctrl", 4), ("hw_target", 8),
    ("ctx", 8), ("oncpu", 4), ("cpu", 4), ("owner", 8), ("context_task", 8)]

/-- What `spz_profile_bounds_valid` asks for and `validate_profile` does not. -/
structure Roomy (profile : Json) : Prop where
  task : ∀ field ∈ taskWidths,
    num profile "task" field.1 + field.2 ≤ num profile "kernel" "task_struct_size"
  perfEvent : ∀ field ∈ perfEventWidths,
    num profile "perf_event" field.1 + field.2 ≤ num profile "kernel" "perf_event_size"
  signalThreadHead : num profile "task" "signal_thread_head" ≤ 4096 - 16
  cpus : num profile "debug" "max_cpus" ≤ maxCpus

/-- The fields of a structure, from the table. -/
def offsetWidths (profile : Json) (name : String) (widths : List (String × ℕ)) : List OffsetWidth :=
  widths.map fun field => ⟨u32 profile name field.1, BitVec.ofNat 32 field.2⟩

lemma Accepted.taskFieldWidths (h : Accepted profile) :
    taskFieldWidths (device profile) = offsetWidths profile "task" taskWidths := by
  have hkernel := h.kernel
  simp only [checkKernel, bind_eq_ok, exists_unit] at hkernel
  obtain ⟨-, -, -, -, hcomm, -, -⟩ := hkernel
  have hcomm' := inRange_eq_ok hcomm
  rw [← h.toNat_u32 kernel_mem _ (by decide)] at hcomm'
  -- The width of the name is a field of the profile; all others are constants.
  have hlen : (device profile).kernel.taskCommLen = BitVec.ofNat 32 commLen := by
    simp only [device, commLen]
    bv_omega
  rw [Profile.taskFieldWidths, hlen]
  rfl

lemma perfFieldWidths_device :
    perfFieldWidths (device profile) = offsetWidths profile "perf_event" perfEventWidths :=
  rfl

lemma Accepted.all_fieldFits (h : Accepted profile)
    (hpart : (name, fields) ∈ sectionFields) (widths : List (String × ℕ))
    (hwidths : ∀ field ∈ widths, (field.1, Kind.u32) ∈ fields ∧ field.2 < 2 ^ 32)
    (size : String) (hsize : (size, Kind.u32) ∈ kernelFields) :
    (offsetWidths profile name widths).all (fieldFits (u32 profile "kernel" size)) = true ↔
      ∀ field ∈ widths, num profile name field.1 + field.2 ≤ num profile "kernel" size := by
  rw [offsetWidths, List.all_map, List.all_eq_true]
  refine forall₂_congr fun field hmem => ?_
  obtain ⟨hfield, hlt⟩ := hwidths field hmem
  rw [Function.comp_apply, h.fieldFits_iff hpart hfield kernel_mem hsize, toNat_ofNat,
    Nat.mod_eq_of_lt hlt]

/-- What the module checks beyond the generator: fields end inside their structures. -/
lemma Accepted.offsetsValid_iff (h : Accepted profile) : offsetsValid (device profile) = true ↔
    (∀ field ∈ taskWidths,
      num profile "task" field.1 + field.2 ≤ num profile "kernel" "task_struct_size") ∧
      (∀ field ∈ perfEventWidths,
        num profile "perf_event" field.1 + field.2 ≤ num profile "kernel" "perf_event_size") ∧
      num profile "task" "signal_thread_head" ≤ 4096 - 16 := by
  have htask := h.all_fieldFits task_mem taskWidths (by decide) "task_struct_size" (by decide)
  have hperf := h.all_fieldFits perfEvent_mem perfEventWidths
    (by decide) "perf_event_size" (by decide)
  have hcred : fieldFits (u32 profile "kernel" "cred_size")
      ⟨u32 profile "cred" "uid", 4⟩ = true := by
    have hle := (inRange_eq_ok h.cred).2
    refine (h.fieldFits_iff cred_mem (by decide) kernel_mem (by decide)).mpr ?_
    show num profile "cred" "uid" + 4 ≤ _
    omega
  have hhead : u32 profile "task" "signal_thread_head" ≤ 4096 - 16 ↔
      num profile "task" "signal_thread_head" ≤ 4096 - 16 := by
    rw [← h.toNat_u32 task_mem _ (by decide)]
    bv_omega
  simp only [offsetsValid, Bool.and_eq_true, decide_eq_true_eq]
  rw [h.taskFieldWidths, perfFieldWidths_device]
  simp only [device]
  rw [htask, hperf, hhead]
  exact ⟨fun ⟨⟨⟨ht, _⟩, hp⟩, hs⟩ => ⟨ht, hp, hs⟩, fun ⟨ht, hp, hs⟩ => ⟨⟨⟨ht, hcred⟩, hp⟩, hs⟩⟩

/-! ## Loadable profiles -/

lemma denotes_eq_some {device : DeviceProfile} (h : denotes profile = some device) :
    Rendered profile ∧ Profile.device profile = device := by
  obtain ⟨hrendered, heq⟩ := Option.ite_none_right_eq_some.mp h
  exact ⟨hrendered, Option.some.inj heq⟩

/-- A profile that the generator accepts passes the check of bounds if and only if every field of
the two structures has room and there are not too many CPUs. -/
theorem boundsValid_iff {device : DeviceProfile} (haccepted : validateProfile profile = .ok ())
    (hdenotes : denotes profile = some device) : boundsValid device = true ↔ Roomy profile := by
  have h := accepted_of_validateProfile haccepted
  obtain ⟨-, rfl⟩ := denotes_eq_some hdenotes
  simp only [boundsValid, Bool.and_eq_true, h.offsetsValid_iff, h.debugValid_iff]
  constructor
  · rintro ⟨⟨⟨⟨-, htask, hperf, hhead⟩, -⟩, hcpus⟩, -⟩
    exact ⟨htask, hperf, hhead, hcpus⟩
  · intro hroomy
    exact ⟨⟨⟨⟨h.kernelValid, hroomy.task, hroomy.perfEvent, hroomy.signalThreadHead⟩,
      h.layoutValid⟩,
      hroomy.cpus⟩, h.hooksValid⟩

/-- The numbers of the entry of `profiles.json`, with an offset of `pid` and a number of CPUs; the
texts are short ones. -/
def sample (pid maxCpus : ℤ) : Json :=
  let letter := .str (codes "a")
  let digest := fun length => .str (List.replicate length 97)
  let ints := fun fields : List (String × ℤ) => fields.map fun (name, n) => (name, .int n)
  .dict [
    ("id", letter),
    ("product", .dict [
      ("manufacturer", letter), ("model", letter), ("device", letter), ("fingerprint", letter),
      ("android_release", letter), ("sdk", .int 36),
      ("security_patch", .str (codes "2026-06-01"))]),
    ("kernel", .dict [
      ("release", .str (codes "6.12.23-4k")), ("build_id", digest 40), ("ack_commit", digest 40),
      ("btf_sha256", digest 64), ("page_size", .int 4096), ("va_bits", .int 39),
      ("task_struct_size", .int 5184), ("cred_size", .int 184), ("perf_event_size", .int 1120),
      ("task_comm_len", .int 16), ("linux_banner_capacity", .int 256)]),
    ("kpatch", .dict [
      ("kpver", letter), ("kver", letter), ("sdk_version", letter), ("sdk_commit", letter),
      ("control_path", .str (codes "/kpatch")), ("module_name", letter),
      ("safe_unload_symbol", letter), ("memcpy_kfunc", letter), ("memset_kfunc", letter),
      ("kfunc_exports_are_pointers", .bool true)]),
    ("task", .dict (ints [
      ("thread_info_flags", 0), ("cpu", 40), ("state", 48), ("usage", 64), ("tasks", 1592),
      ("mm", 1672), ("active_mm", 1680), ("exit_state", 1696), ("pid", pid), ("tgid", 1804),
      ("real_parent", 1816), ("parent", 1824), ("thread_pid", 1904), ("pid_links", 1912),
      ("thread_node", 1976), ("start_time", 2104), ("start_boottime", 2112), ("real_cred", 2296),
      ("cred", 2304), ("comm", 2320), ("signal", 2392), ("perf_event_ctxp", 2992),
      ("perf_event_list", 3048), ("thread", 3488), ("signal_thread_head", 16)])),
    ("cred", .dict (ints [
      ("uid", 8)])),
    ("perf_event", .dict (ints [
      ("state", 168), ("attr", 216), ("attr_bp_type", 268), ("attr_bp_addr", 272),
      ("attr_bp_len", 280), ("hw", 360), ("arch_address", 360), ("arch_trigger", 368),
      ("arch_ctrl", 376), ("hw_target", 456), ("ctx", 552), ("oncpu", 664), ("cpu", 668),
      ("owner", 688), ("context_task", 152)])),
    ("debug", .dict (ints [
      ("dfr0", 19722761426713), ("debug_arch", 9), ("brps", 6), ("wrps", 4), ("ctx_cmps", 2),
      ("max_cpus", maxCpus)])),
    ("layout", .dict (ints [
      ("work_struct_size", 32), ("work_data", 0), ("work_entry", 8), ("work_func", 24),
      ("work_data_init", 4503599625273344), ("pt_regs_size", 336), ("pt_regs_regs", 0),
      ("pt_regs_sp", 248), ("pt_regs_pc", 256), ("pt_regs_pstate", 264),
      ("per_cpu_pointer_stride", 8)])),
    ("maps", .dict (ints [
      ("max_snapshot_bytes", 2097152), ("max_chunk_bytes", 1536), ("seq_file_size", 136),
      ("seq_buf", 0), ("seq_size", 8), ("seq_from", 16), ("seq_count", 24), ("seq_pad_until", 32),
      ("seq_private", 128), ("proc_maps_private_size", 120), ("proc_task", 8), ("proc_mm", 16),
      ("proc_iter", 24), ("vma_iterator_size", 72), ("mas_tree", 0), ("mas_index", 8),
      ("mas_last", 16), ("mas_node", 24), ("mas_status", 56), ("mm_struct_size", 1216),
      ("mm_mt", 64), ("vma_struct_size", 256), ("vma_start", 0), ("vma_end", 8),
      ("mas_start_node", 1), ("ma_start_status", 1), ("show_map_vma_args", 2)])),
    ("symbols", .dict (symbolFields.zipIdx.map fun (field, index) => (field.1, .str [97 + index]))),
    ("hooks", .dict (ints [
      ("finish_task_switch_args", 1), ("do_exit_args", 1), ("breakpoint_handler_args", 3),
      ("watchpoint_handler_args", 3), ("single_step_handler_args", 3)])),
    ("quirks", .dict [
      ("control_under_rcu", .bool true), ("unload_requires_quiescent", .bool true),
      ("cpu_hotplug_while_armed", .bool false), ("safe_unload_required", .bool false),
      ("linux_banner_prefix_ok", .bool true)])]

lemma validateProfile_sample : validateProfile (sample 1800 8) = .ok () := by decide +kernel

lemma denotes_sample : denotes (sample 1800 8) = some (device (sample 1800 8)) :=
  if_pos (by decide +kernel)

theorem sample_boundsValid : Roomy (sample 1800 8) ∧ boundsValid (device (sample 1800 8)) = true :=
  have hroomy : Roomy (sample 1800 8) :=
    ⟨by decide +kernel, by decide +kernel, by decide +kernel, by decide +kernel⟩
  ⟨hroomy, (boundsValid_iff validateProfile_sample denotes_sample).mpr hroomy⟩

/-- The last byte of the structure as the offset of `pid`, and more CPUs than there are slots: the
generator accepts both. -/
theorem accepted_not_boundsValid :
    (validateProfile (sample 5183 8) = .ok () ∧
      denotes (sample 5183 8) = some (device (sample 5183 8)) ∧
      boundsValid (device (sample 5183 8)) = false) ∧
    (validateProfile (sample 1800 64) = .ok () ∧
      denotes (sample 1800 64) = some (device (sample 1800 64)) ∧
      boundsValid (device (sample 1800 64)) = false) :=
  ⟨⟨by decide +kernel, if_pos (by decide +kernel), by decide +kernel⟩,
    by decide +kernel, if_pos (by decide +kernel), by decide +kernel⟩

end Spz.Profile
