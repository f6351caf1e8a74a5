import Stackplz.Profile.Validate

/-!
# Loading and unloading

`spz_hooks_install` and `spz_hooks_remove` of `hooks.c`, and around them `spz_kpm_init` and
`spz_kpm_exit` of `main.c`.  The loader frees the image when `spz_kpm_init` fails or `spz_kpm_exit`
succeeds: by then no hook may lead into it.
-/

namespace Spz.Loading

open Errno List Function
open Profile (DeviceProfile Runtime)

/-! ## Hooks -/

/-- `enum spz_hook_id`. -/
inductive HookId
  | finishTaskSwitch | doExit | breakpoint | watchpoint | singleStep
deriving DecidableEq, Repr

def HookId.all : List HookId := [finishTaskSwitch, doExit, breakpoint, watchpoint, singleStep]

/-- `struct spz_hook_callbacks`; `none` is the null pointer. -/
structure HookCallbacks (P : Type) where
  finishBefore : Option P := none
  finishAfter : Option P := none
  exitBefore : Option P := none
  breakBefore : Option P := none
  watchBefore : Option P := none
  stepBefore : Option P := none

/-- `struct spz_hook_set`; the backend is passed on separately. -/
structure HookSet (P : Type) where
  callbacks : HookCallbacks P := {}
  targets : HookId → U64 := fun _ => 0
  installed : HookId → Bool := fun _ => false

/-- What `wrap` adds to the chain of a function and `unwrap` takes away. -/
structure Hook (P : Type) where
  target : U64
  before : Option P
  after : Option P
deriving DecidableEq, Repr

/-- The calls of `struct spz_hook_backend`, and the barrier on every CPU. -/
inductive Call (P : Type)
  | wrap (hook : Hook P) (argumentCount : U32) (result : ℤ)
  | unwrap (hook : Hook P)
  | quiesce
  | barrier (result : ℤ)
deriving DecidableEq, Repr

variable {P : Type}

/-- `spz_hook_callbacks_for`. -/
def hookCallbacksFor (callbacks : HookCallbacks P) : HookId → Option P × Option P
  | .finishTaskSwitch => (callbacks.finishBefore, callbacks.finishAfter)
  | .doExit => (callbacks.exitBefore, none)
  | .breakpoint => (callbacks.breakBefore, none)
  | .watchpoint => (callbacks.watchBefore, none)
  | .singleStep => (callbacks.stepBefore, none)

/-- `spz_hook_argument_count`. -/
def hookArgumentCount (profile : DeviceProfile) : HookId → U32
  | .finishTaskSwitch => profile.hooks.finishTaskSwitchArgs
  | .doExit => profile.hooks.doExitArgs
  | .breakpoint => profile.hooks.breakpointHandlerArgs
  | .watchpoint => profile.hooks.watchpointHandlerArgs
  | .singleStep => profile.hooks.singleStepHandlerArgs

/-- `spz_hook_symbol`, as a number. -/
def hookSymbol : HookId → ℕ
  | .finishTaskSwitch => 2
  | .doExit => 3
  | .breakpoint => 4
  | .watchpoint => 5
  | .singleStep => 6

def HookSet.hook (hooks : HookSet P) (id : HookId) : Hook P :=
  ⟨hooks.targets id, (hookCallbacksFor hooks.callbacks id).1,
    (hookCallbacksFor hooks.callbacks id).2⟩

/-- The loop of `spz_hooks_remove` and the calls it makes. -/
def removeLoop (hooks : HookSet P) : List HookId → HookSet P × List (Call P)
  | [] => (hooks, [])
  | id :: ids =>
    if hooks.installed id then
      let out := removeLoop { hooks with installed := update hooks.installed id false } ids
      (out.1, .unwrap (hooks.hook id) :: out.2)
    else removeLoop hooks ids

/-- `spz_hooks_remove`. -/
def hooksRemove (hooks : HookSet P) : HookSet P × List (Call P) :=
  let out := removeLoop hooks HookId.all.reverse
  (out.1, if out.2.isEmpty then [] else out.2 ++ [.quiesce])

/-- What `spz_hooks_install` leaves, and all calls up to its return. -/
structure Installed (P : Type) where
  result : ℤ
  hooks : HookSet P
  log : List (Call P)

/-- A return of `spz_hooks_install` with an error. -/
def installFailed (hooks : HookSet P) (log : List (Call P)) (result : ℤ) : Installed P :=
  ⟨result, (hooksRemove hooks).1, log ++ (hooksRemove hooks).2⟩

section Install

-- What `wrap` returns may depend on every call before.
variable (wrap : List (Call P) → Hook P → U32 → ℤ) (runtime : Runtime)

/-- `hooks->targets[index] = runtime->symbols[spz_hook_symbol(id)]`. -/
def HookSet.aim (hooks : HookSet P) (id : HookId) : HookSet P :=
  { hooks with targets := update hooks.targets id (runtime.symbols.getD (hookSymbol id) 0) }

/-- Why `spz_hooks_install` does not wrap a hook. -/
def hookError (hook : Hook P) (id : HookId) : Option Errno :=
  let count := hookArgumentCount runtime.profile id
  if hook.target = 0 then some ENOENT
  else if hook.before.isNone ∨ (id = .finishTaskSwitch ∧ hook.after.isNone) ∨
    (count ≠ 1 ∧ count ≠ 3) then
    some EINVAL
  else none

/-- The loop of `spz_hooks_install`. -/
def installLoop (hooks : HookSet P) (log : List (Call P)) : List HookId → Installed P
  | [] => ⟨0, hooks, log⟩
  | id :: ids =>
    let hooks := hooks.aim runtime id
    let hook := hooks.hook id
    match hookError runtime hook id with
    | some error => installFailed hooks log error.code
    | none =>
      let count := hookArgumentCount runtime.profile id
      let result := wrap log hook count
      let log := log ++ [.wrap hook count result]
      if result = 0 then
        installLoop { hooks with installed := update hooks.installed id true } log ids
      else installFailed hooks log (if result < 0 then result else EIO.code)

/-- `spz_hooks_install`, for a profile that is ready. -/
def hooksInstall (callbacks : HookCallbacks P) : Installed P :=
  installLoop wrap runtime { callbacks } [] HookId.all

end Install

/-! ## The image -/

/-- The gates of `struct spz_module_state`. -/
structure Gates where
  acceptingCommands : Bool := false
  ready : Bool := false
  /-- `active_handlers` is `SPZ_GATE_CLOSED`. -/
  handlersClosed : Bool := false

/-- The state of `main.c`, and the calls that were made. -/
structure Image (P : Type) where
  initialized : Bool := false
  exitStarted : Bool := false
  gates : Gates := {}
  hooks : HookSet P := {}
  log : List (Call P) := []

/-- `spz_kpm_init`: `checks` is the result of the tests before `spz_kpatch_runtime_prepare`, which
    gives the runtime; `barrier` is the result of the barrier. -/
def kpmInit (wrap : List (Call P) → Hook P → U32 → ℤ) (callbacks : HookCallbacks P) (checks : ℤ)
    (prepared : Except Errno Runtime) (barrier : ℤ) : ℤ × Image P :=
  if checks ≠ 0 then (checks, {})
  else
    match prepared with
    | .error error => (error.code, {})
    | .ok runtime =>
      let out := hooksInstall wrap runtime callbacks
      if out.result ≠ 0 then
        let log := out.log ++ [.barrier barrier]
        if barrier ≠ 0 then
          (0, { initialized := true, exitStarted := true, gates := { handlersClosed := true },
                hooks := out.hooks, log })
        else (out.result, { log })
      else
        (0, { initialized := true, gates := { acceptingCommands := true, ready := true },
              hooks := out.hooks, log := out.log })

/-- What `spz_module_begin_exit` and the barrier do in a call of `spz_kpm_exit`. -/
structure Attempt where
  beginExit : Gates → ℤ × Gates
  barrier : ℤ

/-- The part of `spz_kpm_exit` from the barrier on. -/
def finishExit (barrier : ℤ) (image : Image P) : ℤ × Image P :=
  let log := image.log ++ [.barrier barrier]
  if barrier ≠ 0 then (barrier, { image with log }) else (0, { log })

/-- `spz_kpm_exit`. -/
def kpmExit (attempt : Attempt) (image : Image P) : ℤ × Image P :=
  if image.initialized = false then (0, image)
  else if image.exitStarted then finishExit attempt.barrier image
  else
    let (result, gates) := attempt.beginExit image.gates
    if result ≠ 0 then (result, { image with gates })
    else
      let (hooks, calls) := hooksRemove image.hooks
      finishExit attempt.barrier
        { image with exitStarted := true, gates, hooks, log := image.log ++ calls }

/-- The image after some calls of `spz_kpm_exit`. -/
def unload (image : Image P) (attempts : List Attempt) : Image P :=
  attempts.foldl (fun image attempt => (kpmExit attempt image).2) image

/-! ## The kernel -/

/-- What the kernel knows of the image: the hooks in its chains, the newest one first; whether a
    task or a CPU may still run a callback that was unwrapped; whether a hook was unwrapped that was
    not there. -/
@[ext] structure Kernel (P : Type) where
  chains : List (Hook P) := []
  tasks : Bool := false
  cpus : Bool := false
  stray : Bool := false

variable [DecidableEq P] {done ids : List HookId} {id : HookId} {hooks : HookSet P}
  {log : List (Call P)}
  {count : U32} {result : ℤ}

def Kernel.call (kernel : Kernel P) : Call P → Kernel P
  | .wrap hook _ result =>
    if result = 0 then { kernel with chains := hook :: kernel.chains } else kernel
  | .unwrap hook =>
    ⟨kernel.chains.erase hook, true, true, kernel.stray || !kernel.chains.contains hook⟩
  | .quiesce => { kernel with tasks := false }
  | .barrier result => if result = 0 then { kernel with cpus := false } else kernel

def kernel (log : List (Call P)) : Kernel P := log.foldl Kernel.call {}

lemma kernel_append (log calls : List (Call P)) :
    kernel (log ++ calls) = calls.foldl Kernel.call (kernel log) :=
  foldl_append

/-- Nothing is wrapped, and every task has left the callbacks. -/
structure Unhooked (kernel : Kernel P) : Prop where
  chains : kernel.chains = []
  tasks : kernel.tasks = false
  stray : kernel.stray = false

lemma Unhooked.barrier (h : Unhooked (kernel log)) : kernel (log ++ [.barrier 0]) = {} := by
  rw [kernel_append]
  exact Kernel.ext h.chains h.tasks rfl h.stray

lemma Unhooked.barrier_failed (h : Unhooked (kernel log)) (hresult : result ≠ 0) :
    Unhooked (kernel (log ++ [.barrier result])) := by
  rw [kernel_append]
  simpa [Kernel.call, hresult] using h

/-- The hooks that are marked are those in the chains, and nothing was unwrapped yet. -/
structure Hooked (done : List HookId) (hooks : HookSet P) (log : List (Call P)) : Prop where
  installed : ∀ id, hooks.installed id = true ↔ id ∈ done
  kernel : kernel log = { chains := done.reverse.map hooks.hook }

/-! ## Removing the hooks -/

/-- The loop takes the hooks from the front of the chain. -/
lemma removeLoop_chains (hids : ids.Nodup) {k : Kernel P}
    (hk : k.chains = (ids.filter hooks.installed).map hooks.hook) :
    ((removeLoop hooks ids).2.foldl Kernel.call k).chains = [] ∧
      ((removeLoop hooks ids).2.foldl Kernel.call k).stray = k.stray := by
  induction ids generalizing hooks k with
  | nil => exact ⟨hk, rfl⟩
  | cons id ids ih =>
    obtain ⟨hid, hids⟩ := nodup_cons.mp hids
    rw [removeLoop]
    split_ifs with hinstalled
    · rw [filter_cons_of_pos hinstalled, map_cons] at hk
      have hrest : ids.filter (update hooks.installed id false) = ids.filter hooks.installed :=
        filter_congr fun other hother => update_of_ne (ne_of_mem_of_not_mem hother hid) _ _
      have hcall : (k.call (.unwrap (hooks.hook id))).chains =
          (ids.filter hooks.installed).map hooks.hook := by
        rw [Kernel.call, hk, erase_cons_head]
      rw [← hrest] at hcall
      obtain ⟨hchains, hstray⟩ :=
        @ih { hooks with installed := update hooks.installed id false } hids _ hcall
      exact ⟨hchains, hstray.trans (by simp [Kernel.call, hk])⟩
    · rw [filter_cons_of_neg hinstalled] at hk
      exact ih hids hk

lemma Hooked.filter_installed (h : Hooked done hooks log) (hall : HookId.all = done ++ ids) :
    HookId.all.reverse.filter hooks.installed = done.reverse := by
  have hnodup : (done ++ ids).Nodup := hall ▸ by decide
  rw [filter_reverse, hall, filter_append,
    filter_eq_self.mpr fun id hid => (h.installed id).mpr hid,
    filter_eq_nil_iff.mpr fun id hid hinstalled =>
      (nodup_append.mp hnodup).2.2 id ((h.installed id).mp hinstalled) id hid rfl,
    append_nil]

lemma Hooked.remove (h : Hooked done hooks log) (hall : HookId.all = done ++ ids) :
    Unhooked (Loading.kernel (log ++ (hooksRemove hooks).2)) := by
  have hk := congrArg Kernel.chains h.kernel
  rw [← h.filter_installed hall] at hk
  obtain ⟨hchains, hstray⟩ := removeLoop_chains (by decide) hk
  rw [kernel_append, hooksRemove]
  rw [h.kernel] at hchains hstray ⊢
  split_ifs with hempty
  · rw [isEmpty_iff.mp hempty] at hchains
    exact ⟨hchains, rfl, rfl⟩
  · rw [foldl_append]
    exact ⟨hchains, rfl, hstray⟩

/-! ## Installing the hooks -/

lemma Hooked.aim (h : Hooked done hooks log) (runtime : Runtime) (hid : id ∉ done) :
    Hooked done (hooks.aim runtime id) log := by
  refine ⟨h.installed, h.kernel.trans ?_⟩
  congr 1
  refine map_congr_left fun other hother => ?_
  have hne : other ≠ id := ne_of_mem_of_not_mem (mem_reverse.mp hother) hid
  simp [HookSet.hook, HookSet.aim, hne]

lemma Hooked.wrap (h : Hooked done hooks log) (hresult : result = 0) :
    Hooked (done ++ [id]) { hooks with installed := update hooks.installed id true }
      (log ++ [.wrap (hooks.hook id) count result]) := by
  refine ⟨fun other => ?_, ?_⟩
  · by_cases heq : other = id
    · simp [heq]
    · simp [heq, h.installed]
  · rw [kernel_append, h.kernel, reverse_concat]
    exact if_pos hresult

lemma Hooked.wrap_failed {hook : Hook P} (h : Hooked done hooks log) (hresult : result ≠ 0) :
    Hooked done hooks (log ++ [.wrap hook count result]) := by
  refine ⟨h.installed, ?_⟩
  rw [kernel_append, h.kernel]
  exact if_neg hresult

/-- What `spz_hooks_install` leaves in the kernel. -/
structure Installed.Sound (out : Installed P) : Prop where
  hooked : out.result = 0 → Hooked HookId.all out.hooks out.log
  failed : out.result ≠ 0 → Unhooked (kernel out.log)

lemma Hooked.installFailed (h : Hooked done hooks log) (hall : HookId.all = done ++ ids)
    (hresult : result ≠ 0) : (installFailed hooks log result).Sound :=
  ⟨fun heq => absurd heq hresult, fun _ => h.remove hall⟩

/-- By induction on the hooks that are left; those before are `done`. -/
lemma installLoop_sound {wrap : List (Call P) → Hook P → U32 → ℤ} {runtime : Runtime}
    (h : Hooked done hooks log) (hall : HookId.all = done ++ ids) :
    (installLoop wrap runtime hooks log ids).Sound := by
  induction ids generalizing done hooks log with
  | nil =>
    rw [append_nil] at hall
    exact ⟨fun _ => hall ▸ h, fun hne => absurd rfl hne⟩
  | cons id ids ih =>
    have hnodup : (done ++ id :: ids).Nodup := hall ▸ by decide
    have hid : id ∉ done := fun hmem => (nodup_append.mp hnodup).2.2 id hmem id (.head _) rfl
    have h := h.aim runtime hid
    rw [installLoop]
    generalize hooks.aim runtime id = hooks at h
    split
    · exact h.installFailed hall (Errno.code_ne_zero _)
    · extract_lets count result log'
      split_ifs with hresult hneg
      · exact ih (h.wrap hresult) (by simpa using hall)
      · exact (h.wrap_failed hresult).installFailed hall hresult
      · exact (h.wrap_failed hresult).installFailed hall (by decide)

/-! ## Runs -/

/-- What holds between the calls of the loader. -/
structure Image.Sound (image : Image P) : Prop where
  gone : image.initialized = false → kernel image.log = {}
  active : image.initialized = true → image.exitStarted = false →
    Hooked HookId.all image.hooks image.log
  leaving : image.initialized = true → image.exitStarted = true → Unhooked (kernel image.log)

/-- A load leaves a sound module, and one that fails does not initialise it. -/
lemma kpmInit_sound (wrap : List (Call P) → Hook P → U32 → ℤ)
    (callbacks : HookCallbacks P) (checks : ℤ) (prepared : Except Errno Runtime) (barrier : ℤ) :
    (kpmInit wrap callbacks checks prepared barrier).2.Sound ∧
      ((kpmInit wrap callbacks checks prepared barrier).1 ≠ 0 →
        (kpmInit wrap callbacks checks prepared barrier).2.initialized = false) := by
  have hzero : (({} : Image P)).Sound := ⟨fun _ => rfl, nofun, nofun⟩
  unfold kpmInit
  cases prepared with
  | error error =>
    split_ifs <;> exact ⟨hzero, fun _ => rfl⟩
  | ok runtime =>
    have hsound : (hooksInstall wrap runtime callbacks).Sound :=
      installLoop_sound ⟨fun id => by simp, rfl⟩ (nil_append _).symm
    dsimp only
    split_ifs with hchecks hresult hbarrier
    · exact ⟨hzero, fun _ => rfl⟩
    · have hleaving := (hsound.failed hresult).barrier_failed hbarrier
      exact ⟨⟨nofun, nofun, fun _ _ => hleaving⟩, fun h => absurd rfl h⟩
    · rw [not_not.mp hbarrier]
      exact ⟨⟨fun _ => (hsound.failed hresult).barrier, nofun, nofun⟩, fun _ => rfl⟩
    · exact ⟨⟨nofun, fun _ _ => hsound.hooked (not_not.mp hresult), nofun⟩, fun h => absurd rfl h⟩

lemma finishExit_sound {image : Image P} (barrier : ℤ) (h : Unhooked (kernel image.log))
    (hexit : image.exitStarted = true) (hinit : image.initialized = true) :
    (finishExit barrier image).2.Sound ∧
      ((finishExit barrier image).1 = 0 → (finishExit barrier image).2.initialized = false) := by
  unfold finishExit
  split_ifs with hbarrier
  · refine ⟨⟨fun hnot => ?_, fun _ hnot => ?_, fun _ _ => h.barrier_failed hbarrier⟩,
      fun h => absurd h hbarrier⟩
    · cases hinit.symm.trans hnot
    · cases hexit.symm.trans hnot
  · rw [not_not.mp hbarrier]
    exact ⟨⟨fun _ => h.barrier, nofun, nofun⟩, fun _ => rfl⟩

lemma kpmExit_sound {image : Image P} (attempt : Attempt) (h : image.Sound) :
    (kpmExit attempt image).2.Sound ∧
      ((kpmExit attempt image).1 = 0 → (kpmExit attempt image).2.initialized = false) := by
  unfold kpmExit
  split_ifs with hinit hexit
  · exact ⟨h, fun _ => hinit⟩
  · rw [Bool.not_eq_false] at hinit
    exact finishExit_sound _ (h.leaving hinit hexit) hexit hinit
  · rw [Bool.not_eq_false] at hinit
    rw [Bool.not_eq_true] at hexit
    dsimp only
    split_ifs with hbegin
    · exact ⟨⟨h.gone, h.active, h.leaving⟩, fun h => absurd h hbegin⟩
    · exact finishExit_sound _ ((h.active hinit hexit).remove (append_nil _).symm) rfl hinit

lemma unload_sound {image : Image P} (h : image.Sound) (attempts : List Attempt) :
    (unload image attempts).Sound := by
  induction attempts generalizing image with
  | nil => exact h
  | cons attempt attempts ih => exact ih (kpmExit_sound attempt h).1

/-- When the loader may free the image, the kernel has left it: no hook is in a chain, and after the
    last one was unwrapped every task and every CPU was waited for.  Until the exit begins, each
    hook is in a chain exactly once. -/
theorem freed_unhooked (wrap : List (Call P) → Hook P → U32 → ℤ) (callbacks : HookCallbacks P)
    (checks : ℤ) (prepared : Except Errno Runtime) (barrier : ℤ) (attempts : List Attempt)
    (attempt : Attempt) :
    let loaded := kpmInit wrap callbacks checks prepared barrier
    let image := unload loaded.2 attempts
    let left := kpmExit attempt image
    (loaded.1 ≠ 0 → kernel loaded.2.log = {}) ∧ (left.1 = 0 → kernel left.2.log = {}) ∧
      (image.initialized = true → image.exitStarted = false →
        kernel image.log = { chains := HookId.all.reverse.map image.hooks.hook }) := by
  intro loaded image left
  obtain ⟨hloaded, hfailed⟩ := kpmInit_sound wrap callbacks checks prepared barrier
  have himage : image.Sound := unload_sound hloaded attempts
  obtain ⟨hleft, hdone⟩ := kpmExit_sound attempt himage
  exact ⟨fun h => hloaded.gone (hfailed h), fun h => hleft.gone (hdone h),
    fun hinit hexit => (himage.active hinit hexit).kernel⟩

end Spz.Loading
