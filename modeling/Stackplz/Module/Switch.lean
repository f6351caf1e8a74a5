import Stackplz.Module.Exceptions

/-!
# The switch and the CPUs

`breakpoint_enabled` is one word, the armed slots are in the registers of the CPUs.  While register
operations succeed, nobody else changes a register and `run_each_cpu` reaches the CPUs, the word
tells the truth (`Settled`): with the switch off the only active CPUs are those the worker is just
about to restore, so there is none whenever the worker has nothing to do.

A slot is active for the bound task and the configured request, and the task runs on one CPU at a
time: that is why a hit that was to be the only one may turn the switch off without a look at the
other CPUs.
-/

namespace Spz

open Fallible Errno Transition Function ModuleState

/-- Quiet, and `run_each_cpu` reaches the CPUs. -/
def Reaching (w : World) (a : Action) : Prop :=
  Quiet w a ∧ ∀ input, a = .workerStep input → input.transport = .ok ()

/-! ## One CPU -/

/-- After the step the CPU is active for the same target and request as before, if at all. -/
structure Keeps (st st' : CpuState) : Prop where
  active : st'.state.Active → st.state.Active
  target : st'.state.Active → st'.target = st.target
  request : st'.state.Active → st'.request = st.request

lemma Keeps.refl (st : CpuState) : Keeps st st := ⟨id, fun _ => rfl, fun _ => rfl⟩

lemma Keeps.of_inactive {st st' : CpuState} (h : ¬ st'.state.Active) : Keeps st st' :=
  ⟨fun ha => absurd ha h, fun ha => absurd ha h, fun ha => absurd ha h⟩

variable {s t : CpuDebug} {active : Bool}

lemma CpuQuiet.restoreCpu_inactive (ops : DebugOps) (h : CpuQuiet s.cpu s.regs active)
    (hw : s.writes = []) : ¬ ((debugRestoreCpu ops).exec .succeed s).2.cpu.state.Active := by
  have hempty : ((debugRestoreCpu ops).exec .succeed s).2.cpu.state = .empty := by
    rcases (exec_debugRestoreCpu ops hw h.intact).2 with ⟨hs, heq⟩ | ⟨-, -, -, hcpu, -⟩
    · rw [heq]
      exact hs
    · rw [hcpu]
      rfl
  rw [hempty]
  decide

section

variable {concerned : Prop} {frame : DebugFrame} {observed : U64} {event : Event}
  {out : DebugResult × DebugFrame × Event} (h : HitDone concerned frame observed event s out t)
include h

lemma HitDone.keeps (harmed : concerned → s.cpu.state = .armed) : Keeps s.cpu t.cpu := by
  cases h with
  | notOwned => exact .refl _
  | ended _ _ _ hcpu =>
    refine .of_inactive ?_
    rw [hcpu]
    simp [debugTransition, DebugState.Active]
  | stepping hc _ _ hcpu =>
    rw [hcpu]
    exact ⟨fun _ => .inl (harmed hc), fun _ => rfl, fun _ => rfl⟩

lemma HitDone.once_inactive (hout : out.1 = .consumed)
    (honce : concerned → s.cpu.request.mode = .once) : concerned ∧ ¬ t.cpu.state.Active := by
  cases h with
  | notOwned => cases hout
  | ended hc _ _ hcpu =>
    refine ⟨hc, ?_⟩
    rw [hcpu]
    simp [debugTransition, DebugState.Active]
  | stepping hc _ hends => exact absurd (.inl (honce hc)) hends

end

lemma StepDone.keeps {current : DebugTarget} {frame : DebugFrame}
    {out : DebugResult × DebugFrame} (h : StepDone current frame s out t) : Keeps s.cpu t.cpu := by
  cases h with
  | notOwned => exact .refl _
  | rearmed hc _ hcpu =>
    rw [hcpu]
    exact ⟨fun _ => .inr hc.1, fun _ => rfl, fun _ => rfl⟩

lemma handleException_keeps (kind : ExceptionKind) (target : DebugTarget)
    (frame : DebugFrame) (h : CpuQuiet s.cpu s.regs active) (hw : s.writes = []) :
    Keeps s.cpu ((handleException kind target frame).exec .succeed s).2.cpu := by
  cases kind with
  | breakpoint =>
    obtain ⟨out, -, hdone⟩ := exec_debugHandleBreak target frame {} hw h.intact
    exact hdone.keeps BreakConcerns.armed
  | watchpoint =>
    obtain ⟨out, -, hdone⟩ := exec_debugHandleWatch target frame {} hw h.intact
    exact hdone.keeps WatchConcerns.armed
  | singleStep =>
    obtain ⟨out, -, hdone⟩ := exec_debugHandleStep target frame hw h.intact
    unfold handleException
    rw [exec_bind_pure]
    exact hdone.keeps

lemma handleException_once {kind : ExceptionKind} {target : DebugTarget}
    {frame frame' : DebugFrame} {event : Event} (h : CpuQuiet s.cpu s.regs active)
    (hw : s.writes = []) (hkind : kind ≠ .singleStep)
    (hr : ((handleException kind target frame).exec .succeed s).1 = .ok (.consumed, frame', event))
    (honce : s.cpu.state = .armed → s.cpu.request.mode = .once) :
    ¬ ((handleException kind target frame).exec .succeed s).2.cpu.state.Active := by
  cases kind with
  | breakpoint =>
    obtain ⟨out, hout, hdone⟩ := exec_debugHandleBreak target frame {} hw h.intact
    obtain rfl : out = _ := Except.ok.inj (hout.symm.trans hr)
    exact (hdone.once_inactive rfl fun hc => honce hc.armed).2
  | watchpoint =>
    obtain ⟨out, hout, hdone⟩ := exec_debugHandleWatch target frame {} hw h.intact
    obtain rfl : out = _ := Except.ok.inj (hout.symm.trans hr)
    exact (hdone.once_inactive rfl fun hc => honce hc.armed).2
  | singleStep => exact absurd rfl hkind

/-! ## The invariant -/

/-- Some task has been found for the binding. -/
def Binding.Taken (b : Binding) : Prop := b.state ≠ .empty ∧ b.state ≠ .pending

lemma BindingEffect.taken_kept {b b' : Binding} {task : KernelTask} (h : BindingEffect b task b')
    (hb : b.Taken) : b'.identity = b.identity ∧ b'.Taken := by
  cases h with
  | same => exact ⟨rfl, hb⟩
  | ended _ hstate =>
    rcases hstate with rfl | rfl
    all_goals exact ⟨rfl, by simp [Binding.Taken]⟩
  | taken hpending => exact absurd hpending hb.2

/-- The CPU is set up as it should be: for the bound task, which runs on it, and for the
configured request. -/
structure SetUp (w : World) (cpu : ℕ) : Prop where
  current : (w.m.debug cpu).target.identity.strong = (w.current cpu).strong
  bound : (w.m.debug cpu).target.identity.strong = w.m.binding.identity.strong
  taken : w.m.binding.Taken
  request : (w.m.debug cpu).request = w.m.breakpoint
  configured : w.m.breakpointConfigured = true
  notIdle : ¬ (w.m.debug cpu).target.identity.strong.Idle

/-- The CPUs that still have to be restored, with the switch off already. -/
def ExecPc.toRestore : ExecPc → List ℕ
  | .enableRestore left _ => left
  | .disableCpus _ left _ => left
  | _ => []

/-- The worker has turned the switch off in this execution. -/
def ExecPc.switchedOff : ExecPc → Bool
  | .enableRestore _ _ => true
  | .disableCpus _ _ _ => true
  | .clearWait => true
  | .clearCheck => true
  | .clearMaps => true
  | .clearBinding => true
  | .clearBreakpoint => true
  | .clearRing => true
  | _ => false

def World.toRestore (w : World) : List ℕ := (w.exec.map ExecPc.toRestore).getD []

variable {cfg : Config} {w w' : World} {a : Action}

/-- No two CPUs run the same task. -/
def Apart (cfg : Config) (w : World) : Prop :=
  ∀ i < cfg.cpuCount, ∀ j < cfg.cpuCount, i ≠ j → (w.current i).strong = (w.current j).strong →
    (w.current i).strong.Idle

/-- The switch tells the truth: an active CPU is set up as it should be, and with the switch off
the active CPUs are those the worker is about to restore. -/
structure Truthful (cfg : Config) (w : World) : Prop where
  setUp : ∀ cpu < cfg.cpuCount, (w.m.debug cpu).state.Active → SetUp w cpu
  off : w.m.breakpointEnabled = false →
    ∀ cpu < cfg.cpuCount, (w.m.debug cpu).state.Active → cpu ∈ w.toRestore
  stored : ∀ pc, w.exec = some pc → pc.switchedOff = true → w.m.breakpointEnabled = false

/-- The invariant. -/
structure Settled (cfg : Config) (w : World) : Prop where
  quiet : QuietInv w
  worker : WorkerInv w
  apart : Apart cfg w
  truthful : Truthful cfg w

lemma Truthful.inactive (h : Truthful cfg w) (hoff : w.m.breakpointEnabled = false)
    (hleft : w.toRestore = []) {cpu : ℕ} (hcpu : cpu < cfg.cpuCount) :
    ¬ (w.m.debug cpu).state.Active := by
  intro hactive
  have hmem := h.off hoff cpu hcpu hactive
  simp [hleft] at hmem

/-! ## What keeps a CPU set up -/

/-- What the module is bound to and looks for is the same. -/
structure SameTarget (w w' : World) : Prop where
  binding : w.m.binding.Taken →
    w'.m.binding.identity = w.m.binding.identity ∧ w'.m.binding.Taken
  request : w'.m.breakpoint = w.m.breakpoint
  configured : w'.m.breakpointConfigured = w.m.breakpointConfigured

lemma SameTarget.of_eq (hb : w'.m.binding = w.m.binding) (hr : w'.m.breakpoint = w.m.breakpoint)
    (hc : w'.m.breakpointConfigured = w.m.breakpointConfigured) : SameTarget w w' :=
  ⟨fun h => by rw [hb]; exact ⟨rfl, h⟩, hr, hc⟩

lemma SetUp.keeps {cpu : ℕ} (h : SetUp w cpu) (hsame : SameTarget w w')
    (hkeeps : Keeps (w.m.debug cpu) (w'.m.debug cpu)) (hactive : (w'.m.debug cpu).state.Active)
    (hcur : (w'.current cpu).strong = (w.current cpu).strong) : SetUp w' cpu := by
  obtain ⟨hid, htaken⟩ := hsame.binding h.taken
  have htarget := hkeeps.target hactive
  exact ⟨by rw [htarget, hcur, h.current], by rw [htarget, hid, h.bound], htaken,
    by rw [hkeeps.request hactive, h.request, hsame.request], hsame.configured.trans h.configured,
    by rw [htarget]; exact h.notIdle⟩

section

variable (h : Truthful cfg w) (hsame : SameTarget w w')
include h hsame

/-- The frame rule: the active CPUs after a step were active before it for the same target, on
which the module's target has not changed; nothing else is asked of the step but that it does not
turn the switch off. -/
lemma Truthful.frame
    (hcpus : ∀ cpu < cfg.cpuCount, (w'.m.debug cpu).state.Active →
      Keeps (w.m.debug cpu) (w'.m.debug cpu) ∧ (w'.current cpu).strong = (w.current cpu).strong)
    (hswitch : w'.m.breakpointEnabled = w.m.breakpointEnabled) (hexec : w'.exec = w.exec) :
    Truthful cfg w' := by
  refine ⟨fun cpu hcpu hactive => ?_, fun hoff cpu hcpu hactive => ?_, fun pc hpc hpost => ?_⟩
  · obtain ⟨hkeeps, hcur⟩ := hcpus cpu hcpu hactive
    exact (h.setUp cpu hcpu (hkeeps.active hactive)).keeps hsame hkeeps hactive hcur
  · obtain ⟨hkeeps, -⟩ := hcpus cpu hcpu hactive
    have hmem := h.off (hswitch ▸ hoff) cpu hcpu (hkeeps.active hactive)
    rwa [World.toRestore, hexec]
  · rw [hswitch]
    exact h.stored pc (hexec ▸ hpc) hpost

lemma Truthful.of_debug_eq (hdebug : w'.m.debug = w.m.debug)
    (hcur : ∀ cpu, (w'.current cpu).strong = (w.current cpu).strong)
    (hswitch : w'.m.breakpointEnabled = w.m.breakpointEnabled) (hexec : w'.exec = w.exec) :
    Truthful cfg w' :=
  h.frame hsame (fun cpu _ _ => ⟨by rw [hdebug]; exact .refl _, hcur cpu⟩) hswitch hexec

lemma Truthful.moved (hdebug : w'.m.debug = w.m.debug) (hcur : w'.current = w.current)
    (hswitch : w'.m.breakpointEnabled = w.m.breakpointEnabled) (hleft : w.toRestore = [])
    (hstored : ∀ pc, w'.exec = some pc → pc.switchedOff = true →
      w.m.breakpointEnabled = false) : Truthful cfg w' := by
  refine ⟨fun cpu hcpu hactive => ?_, fun hoff cpu hcpu hactive => ?_, fun pc hpc hpost => ?_⟩
  · have hkeeps : Keeps (w.m.debug cpu) (w'.m.debug cpu) := by rw [hdebug]; exact .refl _
    exact (h.setUp cpu hcpu (hkeeps.active hactive)).keeps hsame hkeeps hactive (by rw [hcur])
  · rw [hdebug] at hactive
    exact absurd hactive (h.inactive (hswitch.symm.trans hoff) hleft hcpu)
  · exact hswitch.trans (hstored pc hpc hpost)

end

lemma Truthful.of_inactive (hnone : ∀ cpu < cfg.cpuCount, ¬ (w.m.debug cpu).state.Active)
    (hstored : ∀ pc, w.exec = some pc → pc.switchedOff = true → w.m.breakpointEnabled = false) :
    Truthful cfg w :=
  ⟨fun cpu hcpu hactive => absurd hactive (hnone cpu hcpu),
    fun _ cpu hcpu hactive => absurd hactive (hnone cpu hcpu), hstored⟩

lemma Armed.setUp {cpu : ℕ} {target : DebugTarget} {enc : Encoding} {slot : ℕ}
    (h : Armed cfg.ops w.m.breakpoint target s t enc slot) (hdebug : w.m.debug cpu = t.cpu)
    (htarget : target.identity.strong = (w.current cpu).strong)
    (hbound : w.m.binding.state = .bound)
    (hid : w.m.binding.identity.strong = (w.current cpu).strong)
    (hconf : w.m.breakpointConfigured = true) : SetUp w cpu := by
  have hst : (w.m.debug cpu).target = target ∧ (w.m.debug cpu).request = w.m.breakpoint := by
    rw [hdebug, h.cpu]
    exact ⟨rfl, rfl⟩
  have hvalid := h.valid
  simp only [debugValidTarget, Bool.and_eq_true, Bool.or_eq_true, bne_iff_ne] at hvalid
  refine ⟨by rw [hst.1, htarget], by rw [hst.1, htarget, hid], ?_, hst.2, hconf, ?_⟩
  · simp [Binding.Taken, hbound]
  · rw [hst.1]
    rintro ⟨hpid, htgid⟩
    exact hvalid.2.elim (fun h => h hpid) fun h => h htgid

/-- Arming a CPU for the current target.  The switch is on, so there is no more to it than
that the CPU is set up as it should be. -/
lemma Truthful.arm (h : Truthful cfg w) (hsame : SameTarget w w') (cpu : ℕ) (target : DebugTarget)
    (hdebug : w'.m.debug = (w.m.withCpu cpu ((debugArmCurrent cfg.ops w.m.breakpoint target).exec
      .succeed (w.m.onCpu cpu)).2).debug)
    (hcur : w'.current = w.current) (htarget : target.identity.strong = (w.current cpu).strong)
    (hbound : w'.m.binding.state = .bound)
    (hid : w'.m.binding.identity.strong = (w.current cpu).strong)
    (hconf : w.m.breakpointConfigured = true) (hon : w'.m.breakpointEnabled = true)
    (hexec : ∀ pc, w'.exec = some pc → pc.switchedOff = false) : Truthful cfg w' := by
  refine ⟨fun i hi hactive => ?_, fun hoff => by simp [hon] at hoff, fun pc hpc hpost => ?_⟩
  · have hkept : w'.m.debug i = w.m.debug i → SetUp w' i := fun heq => by
      have hkeeps : Keeps (w.m.debug i) (w'.m.debug i) := heq ▸ .refl _
      exact (h.setUp i hi (hkeeps.active hactive)).keeps hsame hkeeps hactive (by rw [hcur])
    by_cases hne : i = cpu
    · subst hne
      rw [withCpu] at hdebug
      have hself : w'.m.debug i = ((debugArmCurrent cfg.ops w.m.breakpoint target).exec .succeed
          (w.m.onCpu i)).2.cpu := by rw [hdebug]; exact update_self ..
      rcases exec_debugArmCurrent (s := w.m.onCpu i) cfg.ops w.m.breakpoint target rfl with
        ⟨enc, slot, -, harmed⟩ | ⟨e, heq⟩
      · rw [← hsame.request] at harmed hself
        exact harmed.setUp hself (by rw [hcur]; exact htarget) hbound (by rw [hcur]; exact hid)
          (hsame.configured.trans hconf)
      · exact hkept (by rw [hself, heq]; rfl)
    · exact hkept (by rw [hdebug, withCpu_debug_of_ne hne])
  · simp [hexec pc hpc] at hpost

/-! ## The hooks -/

lemma Truthful.finishBefore (h : Truthful cfg w) (hquiet : QuietInv w) (cpu : ℕ)
    (task : KernelTask) {env : HookEnv} (hφ : env.φ = .succeed) :
    Truthful cfg { w with
      m := finishBefore cfg w.m cpu env, current := update w.current cpu task } := by
  obtain ⟨s, ring, heq, hs⟩ := finishBefore_cases cfg w.m cpu env
  rw [heq]
  refine h.frame (.of_eq rfl rfl rfl) (fun i hi hactive => ?_) rfl rfl
  by_cases hne : i = cpu
  · -- the CPU whose task goes has just been restored
    subst hne
    rcases hs with ⟨hle, -⟩ | ⟨-, rfl⟩
    · omega
    · refine absurd hactive ?_
      rw [hφ]
      simpa using (hquiet i).restoreCpu_inactive cfg.ops rfl
  · refine ⟨?_, by simp [update_of_ne hne]⟩
    show Keeps _ ((w.m.withCpu cpu s).debug i)
    rw [withCpu_debug_of_ne hne]
    exact .refl _

lemma Truthful.switchedIn (h : Truthful cfg w) {cpu : ℕ} {env : HookEnv} {m : ModuleState}
    (hφ : env.φ = .succeed) (hin : SwitchedIn cfg w.m cpu (w.current cpu) env m) :
    Truthful cfg { w with m := m } := by
  cases hin with
  | unarmed ring hb hb' _ =>
    refine h.of_debug_eq ⟨fun htaken => ?_, rfl, rfl⟩ rfl (fun _ => rfl) rfl rfl
    obtain ⟨hid, htaken⟩ := hb.taken_kept htaken
    obtain ⟨hid', htaken'⟩ := hb'.taken_kept htaken
    exact ⟨hid'.trans hid, htaken'⟩
  | @armed b maps target ring hon hconf hb hbound hid htarget _ =>
    refine h.arm ⟨hb.taken_kept, rfl, rfl⟩ cpu target (by rw [hφ]) rfl htarget hbound hid hconf
      hon fun pc hpc => ?_
    by_contra hpost
    have hoff := h.stored pc hpc (by simpa using hpost)
    simp [hon] at hoff

/-- An exception.  If it switches the breakpoint off it was the one hit of the CPU on which the
bound task runs, and no other CPU is set up for that task. -/
lemma Truthful.exceptionDone (h : Truthful cfg w) (hquiet : QuietInv w) (hapart : Apart cfg w)
    {cpu : ℕ} {kind : ExceptionKind} {fargs : HookFargs} {env : HookEnv}
    {out : HookFargs × ModuleState} (hφ : env.φ = .succeed)
    (hdone : ExceptionDone cfg w.m cpu (w.current cpu) kind fargs env out)
    (stepActive : ℕ → Bool) : Truthful cfg { w with m := out.2, stepActive := stepActive } := by
  cases hdone with
  | ignored hb => exact h.of_debug_eq ⟨hb.taken_kept, rfl, rfl⟩ rfl (fun _ => rfl) rfl rfl
  | @handled target regs hon hcpu htarget hregs =>
    obtain ⟨ring, enabled, heq, hswitch⟩ :=
      deliverException_eq cfg w.m cpu kind target regs fargs env
    rw [hφ] at heq hswitch
    rw [heq]
    have hkeeps : ∀ i, Keeps (w.m.debug i) ((w.m.withCpu cpu ((handleException kind target
        (frameFromRegs regs fargs.far fargs.esr)).exec .succeed (w.m.onCpu cpu)).2).debug i) := by
      intro i
      by_cases hne : i = cpu
      · subst hne
        rw [withCpu_debug_self]
        exact handleException_keeps (s := w.m.onCpu i) kind target _ (hquiet i) rfl
      · rw [withCpu_debug_of_ne hne]
        exact .refl _
    rcases hswitch with rfl | ⟨rfl, honce, hkind, frame, event, hr⟩
    · exact h.frame (.of_eq rfl rfl rfl) (fun i _ _ => ⟨hkeeps i, rfl⟩) rfl rfl
    · refine .of_inactive (fun i hi hactive => ?_) fun _ _ _ => rfl
      have hwas := (hkeeps i).active hactive
      by_cases hne : i = cpu
      · subst hne
        refine handleException_once (s := w.m.onCpu i) (hquiet i) rfl hkind hr
          (fun harmed => ?_) (by simpa using hactive)
        have hrequest := (h.setUp i hi (.inl harmed)).request
        show (w.m.debug i).request.mode = .once
        rw [hrequest, honce]
      · -- CPU `i` would be set up for the task that runs on `cpu`
        have hset := h.setUp i hi hwas
        obtain ⟨-, -, -, hid⟩ := currentTarget_some htarget
        have hsame : (w.current i).strong = (w.current cpu).strong := by
          rw [← hset.current, hset.bound, hid]
        have hidle := hapart i hi cpu hcpu hne hsame
        rw [← hset.current] at hidle
        exact hset.notIdle hidle

/-! ## The worker -/

section Worker

variable {pc pc' : ExecPc} {m : ModuleState} {input : ExecInput}

variable (h : Truthful cfg w)
include h

lemma Truthful.movedTo (hexec : w.exec = some pc)
    (hsame : SameTarget w { w with exec := some pc', m := m }) (hdebug : m.debug = w.m.debug)
    (hswitch : m.breakpointEnabled = w.m.breakpointEnabled) (hleft : pc.toRestore = [])
    (hpost : pc'.switchedOff = true → pc.switchedOff = true) :
    Truthful cfg { w with exec := some pc', m := m } := by
  refine h.moved hsame hdebug rfl hswitch (by simp [World.toRestore, hexec, hleft]) ?_
  intro pc'' hpc hoff
  cases hpc
  exact h.stored pc hexec (hpost hoff)

lemma Truthful.turnedOff (hleft : pc'.toRestore = allCpus cfg) :
    Truthful cfg { w with exec := some pc', m := { w.m with breakpointEnabled := false } } := by
  refine ⟨fun cpu hcpu hactive => ?_, fun _ cpu hcpu _ => ?_, fun _ _ _ => rfl⟩
  · exact (h.setUp cpu hcpu hactive).keeps (.of_eq rfl rfl rfl) (.refl _) hactive rfl
  · simp [World.toRestore, hleft, allCpus, hcpu]

lemma Truthful.restoreTurn (hquiet : QuietInv w) (hexec : w.exec = some pc)
    (hoff : pc.switchedOff = true) {cpu : ℕ} (hleft : pc'.toRestore = pc.toRestore.erase cpu) :
    Truthful cfg { w with
      exec := some pc', m := (restoreCpuCallback cfg w.m cpu .succeed).2 } := by
  have hcpus : ∀ i, (((restoreCpuCallback cfg w.m cpu .succeed).2).debug i).state.Active →
      i ≠ cpu ∧ ((restoreCpuCallback cfg w.m cpu .succeed).2).debug i = w.m.debug i := by
    intro i hactive
    have hne : i ≠ cpu := by
      rintro rfl
      refine CpuQuiet.restoreCpu_inactive (s := w.m.onCpu i) cfg.ops (hquiet i) rfl ?_
      simpa [restoreCpuCallback, runDebug] using hactive
    exact ⟨hne, withCpu_debug_of_ne hne⟩
  refine ⟨fun i hi hactive => ?_, fun _ i hi hactive => ?_, fun _ _ _ => h.stored pc hexec hoff⟩
  · obtain ⟨-, heq⟩ := hcpus i hactive
    have hwas : (w.m.debug i).state.Active := heq ▸ hactive
    exact (h.setUp i hi hwas).keeps (.of_eq rfl rfl rfl) (heq ▸ .refl _) hactive rfl
  · obtain ⟨hne, heq⟩ := hcpus i hactive
    have hwas : (w.m.debug i).state.Active := heq ▸ hactive
    have hmem := h.off (h.stored pc hexec hoff) i hi hwas
    simp only [World.toRestore, hexec, Option.map_some, Option.getD_some] at hmem ⊢
    rw [hleft]
    exact (List.mem_erase_of_ne hne).mpr hmem

/-- A step of the worker. -/
lemma Truthful.execEffect (hquiet : QuietInv w) (hφ : input.φ = .succeed)
    (htransport : input.transport = .ok ()) (hexec : w.exec = some pc)
    (heff : ExecEffect cfg w.current w.m input pc pc' m) :
    Truthful cfg { w with exec := some pc', m := m } := by
  -- the places of CLEAR at which it forgets the target: no CPU is active there
  have hcleared : ∀ {pc}, w.exec = some pc → pc.switchedOff = true → pc.toRestore = [] →
      ∀ cpu < cfg.cpuCount, ¬ (w.m.debug cpu).state.Active := fun hexec hoff hleft cpu hcpu =>
    h.inactive (h.stored _ hexec hoff) (by simp [World.toRestore, hexec, hleft]) hcpu
  cases heff with
  | enableStored =>
    rw [htransport]
    refine ⟨fun cpu hcpu hactive => ?_, fun hoff => by simp at hoff, fun pc hpc hpost => ?_⟩
    · exact (h.setUp cpu hcpu hactive).keeps (.of_eq rfl rfl rfl) (.refl _) hactive rfl
    · cases hpc
      cases hpost
  | @enableTurn left status hmem =>
    unfold enableCpuCallback
    rcases armLiveCurrent_cases cfg w.m input.cpu (w.current input.cpu) input.φ with
      ⟨b, hb, harm⟩ | ⟨hon, hconf, target, htarget, harm⟩
    · rw [harm]
      exact h.movedTo hexec ⟨hb.taken_kept, rfl, rfl⟩ rfl rfl rfl id
    · obtain ⟨-, hbound, htid, hid⟩ := currentTarget_some htarget
      rw [harm, hφ]
      refine h.arm (.of_eq rfl rfl rfl) input.cpu target rfl rfl htid hbound hid hconf hon ?_
      intro pc hpc
      cases hpc
      rfl
  | enableUndone | disableStored =>
    rw [htransport]
    exact h.turnedOff rfl
  | restoreTurn | disableTurn =>
    rw [hφ]
    exact h.restoreTurn hquiet hexec rfl rfl
  | bindingCleared | breakpointCleared =>
    exact .of_inactive (hcleared hexec rfl rfl) fun _ _ _ => h.stored _ hexec rfl
  | auditStarted =>
    rw [htransport]
    exact h.movedTo hexec (.of_eq rfl rfl rfl) rfl rfl rfl
      (by simp [runEachCpu, ExecPc.switchedOff])
  | @enableDone status =>
    refine h.movedTo hexec (.of_eq rfl rfl rfl) rfl rfl rfl ?_
    cases status <;> simp [enableResult, ExecPc.switchedOff]
  | disableDone | mapsCleared | clearWaited | clearChecked =>
    exact h.movedTo hexec (.of_eq rfl rfl rfl) rfl rfl rfl fun _ => rfl
  | clearGaveUp hpc =>
    refine h.movedTo hexec (.of_eq rfl rfl rfl) rfl rfl ?_ (by simp [ExecPc.switchedOff])
    rcases hpc with rfl | rfl <;> rfl
  | _ =>
    exact h.movedTo hexec (.of_eq rfl rfl rfl) rfl rfl rfl (by simp [ExecPc.switchedOff])

end Worker

/-! ## Whole runs -/

lemma WorkerInv.exec_none (h : WorkerInv w) (hidle : asyncBusy w.m.async = false) :
    w.exec = none := by
  cases hexec : w.exec with
  | none => rfl
  | some pc => simp [h.busy hexec] at hidle

lemma Truthful.command (h : Truthful cfg w) (hworker : WorkerInv w) {env : ControlEnv}
    {command : Command} {m : ModuleState} (hcmd : CommandEffect w.m env command m) :
    Truthful cfg { w with m := m } := by
  cases hcmd with
  | bound _ _ hconf =>
    refine .of_inactive (fun cpu hcpu hactive => ?_) h.stored
    have := (h.setUp cpu hcpu hactive).configured
    simp [hconf] at this
  | configured hidle hoff =>
    have hnone : w.toRestore = [] := by simp [World.toRestore, hworker.exec_none hidle]
    exact .of_inactive (fun cpu hcpu => h.inactive hoff hnone hcpu) h.stored
  | _ => exact h.of_debug_eq (.of_eq rfl rfl rfl) rfl (fun _ => rfl) rfl rfl

/-- No step brings one task to two CPUs. -/
lemma Apart.step (h : Apart cfg w) (hstep : WorldStep cfg w a w') : Apart cfg w' := by
  cases hstep with
  | @switch cpu task env hmay =>
    intro i hi j hj hne heq
    have hother : ∀ k < cfg.cpuCount, k ≠ cpu → (w.current k).strong = task.strong →
        task.strong.Idle := fun k hk hkc hsame =>
      hmay.elim id fun hfree => absurd hsame (hfree k hk hkc)
    by_cases hic : i = cpu
    · subst hic
      simp only [update_self, update_of_ne hne.symm] at heq ⊢
      exact hother j hj hne.symm heq.symm
    · by_cases hjc : j = cpu
      · subst hjc
        simp only [update_self, update_of_ne hic] at heq ⊢
        rw [heq]
        exact hother i hi hic heq
      · simp only [update_of_ne hic, update_of_ne hjc] at heq ⊢
        exact h i hi j hj hne heq
  | @touch cpu task hsame =>
    have hstrong : ∀ i, (update w.current cpu task i).strong = (w.current i).strong := by
      intro i
      by_cases hi : i = cpu
      · subst hi
        rw [update_self, hsame]
      · rw [update_of_ne hi]
    intro i hi j hj hne heq
    simp only [hstrong] at heq ⊢
    exact h i hi j hj hne heq
  | _ => exact h

/-- Every action keeps the invariant. -/
lemma Settled.step (h : Settled cfg w) (hreach : Reaching w a) (hstep : WorldStep cfg w a w') :
    Settled cfg w' := by
  obtain ⟨hquiet, htransport⟩ := hreach
  refine ⟨h.quiet.step hquiet hstep, hstep.workerInv h.worker, h.apart.step hstep, ?_⟩
  have htruth := h.truthful
  cases hstep with
  | switch => exact htruth.finishBefore h.quiet _ _ hquiet
  | @touch cpu task hsame =>
    refine htruth.of_debug_eq (.of_eq rfl rfl rfl) rfl (fun i => ?_) rfl rfl
    by_cases hi : i = cpu
    · subst hi
      simpa using hsame
    · simp [update_of_ne hi]
  | finishAfter hin => exact htruth.switchedIn hquiet hin
  | exitBefore hb =>
    exact htruth.of_debug_eq ⟨hb.taken_kept, rfl, rfl⟩ rfl (fun _ => rfl) rfl rfl
  | exception hdone => exact htruth.exceptionDone h.quiet h.apart hquiet hdone _
  | command hcmd => exact htruth.command h.worker hcmd
  | workerStart hexec _ =>
    refine htruth.moved (.of_eq rfl rfl rfl) rfl rfl rfl (by simp [World.toRestore, hexec]) ?_
    intro pc hpc hpost
    cases hpc
    cases hpost
  | workerStep hexec hexecStep =>
    exact htruth.execEffect h.quiet hquiet (htransport _ rfl) hexec (execStep_effect hexecStep)
  | workerFinish hexec =>
    exact htruth.moved (.of_eq rfl rfl rfl) rfl rfl rfl
      (by simp [World.toRestore, hexec, ExecPc.toRestore]) fun pc hpc => by simp at hpc
  | foreign => exact hquiet.elim

lemma WorldInit.settled (h : WorldInit cfg w) : Settled cfg w := by
  refine ⟨h.quietInv, h.workerInv, fun i hi j hj hne heq => ?_, .of_inactive (fun cpu _ => ?_) ?_⟩
  · exact (h.2.2 i hi).elim id fun hfree => absurd heq.symm (hfree j hj hne.symm)
  · obtain ⟨⟨backend, hm⟩, -⟩ := h
    rw [hm]
    simp [moduleInit, DebugState.Active]
  · intro pc hpc
    rw [h.2.1] at hpc
    cases hpc

lemma settled_of_reachable (hw : ((moduleSystem cfg).restrict Reaching).Reachable w) :
    Settled cfg w :=
  module_invariant (fun _ hinit => hinit.settled)
    (fun _ _ _ hI hreach hstep => hI.step hreach hstep) hw

end Spz
