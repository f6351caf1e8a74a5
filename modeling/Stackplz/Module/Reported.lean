import Stackplz.Module.System

/-!
# What there is to report

Facts about the binding and the maps store that hold in every reachable state of the module and that
whoever reads a status relies on: a bound task has a generation, a pid, a tgid and a name that ends
(`Binding.Reported`); a store that is not supported is empty, and a rendering is as long as it says
(`Maps.Reported`).

Two things are assumed of the surroundings (`Ordinary`): a task has a pid if and only if it has a
tgid, and the backend delivers at least as many bytes as it announces.
-/

namespace Spz

open Errno Transition

/-! ## The binding -/

/-- The idle tasks have neither a pid nor a tgid, the other tasks have both. -/
def KernelTask.Paired (task : KernelTask) : Prop := task.pid = 0 ↔ task.tgid = 0

/-- What is known of a binding. -/
structure Binding.Reported (b : Binding) : Prop where
  pending : b.state = .pending → b.request.pid ≠ 0 ∧ b.generation ≠ 0
  bound : b.state = .bound → b.generation ≠ 0 ∧ b.identity.generation = b.generation ∧
    b.identity.pid ≠ 0 ∧ b.identity.tgid ≠ 0 ∧ 0 ∈ b.identity.comm.toList

lemma nextGeneration_ne_zero (generation : U64) : nextGeneration generation ≠ 0 := by
  unfold nextGeneration
  split_ifs with hlast hzero
  · decide
  · decide
  · exact hzero

lemma selectorMatches_pid {request : BindingRequest} {identity : TaskIdentity}
    (h : selectorMatches request identity = true) :
    identity.pid = request.pid ∨ identity.tgid = request.pid := by
  simp only [selectorMatches, Bool.and_eq_true] at h
  have hmode := h.1.1.1
  split at hmode
  · exact .inl (by simpa using hmode)
  · exact .inr (by simpa using hmode)
  · simpa using hmode

namespace Binding.Reported

variable {b b' : Binding} {task : KernelTask}

lemma effect (h : b.Reported) (hpaired : task.Paired) (heff : BindingEffect b task b') :
    b'.Reported := by
  cases heff with
  | same => exact h
  | ended _ hstate =>
    rcases hstate with rfl | rfl
    all_goals exact ⟨by simp, by simp⟩
  | @taken identity hpending hstrong hgen hcomm hselected =>
    obtain ⟨hpid, hne⟩ := h.pending hpending
    have hpid' : identity.pid = task.pid := congrArg StrongIdentity.pid hstrong
    have htgid' : identity.tgid = task.tgid := congrArg StrongIdentity.tgid hstrong
    have hiff : identity.pid = 0 ↔ identity.tgid = 0 := by
      rw [hpid', htgid']
      exact hpaired
    refine ⟨by simp, fun _ => ⟨hne, hgen, ?_⟩⟩
    rcases selectorMatches_pid hselected with heq | heq
    · have hzero : identity.pid ≠ 0 := by rwa [heq]
      exact ⟨hzero, fun h => hzero (hiff.mpr h), hcomm⟩
    · have hzero : identity.tgid ≠ 0 := by rwa [heq]
      exact ⟨fun h => hzero (hiff.mp h), hzero, hcomm⟩

lemma set {request : BindingRequest} (hvalid : requestValid request = true) (generation : U64) :
    Reported
      { generation := nextGeneration generation, state := .pending, request := request } := by
  refine ⟨fun _ => ⟨fun hzero => ?_, nextGeneration_ne_zero generation⟩, by simp⟩
  simp [requestValid, show request.pid = 0 from hzero] at hvalid

lemma clear (b : Binding) : (bindingClear b).Reported :=
  ⟨by simp [bindingClear], by simp [bindingClear]⟩

end Binding.Reported

/-! ## The maps store -/

/-- The rendering has as many bytes as it announces. -/
def Rendering.Filled (rendering : Rendering) : Prop :=
  ∀ bytes, rendering.data = some bytes → rendering.length.toNat ≤ bytes.length

/-- What is known of the store. -/
structure Maps.Reported (m : Maps) : Prop where
  unsupported : m.state = .unsupported → m.snapshot = 0 ∧ m.length = 0
  backend : m.state ≠ .unsupported → mapsBackendSupported m.backend = true
  length : m.length.toNat ≤ mapsMaxSnapshotBytes.toNat
  filled : ∀ bytes, m.data = some bytes → m.length.toNat ≤ bytes.length

lemma mapsBackendSupported_limits {backend : MapsBackend}
    (h : mapsBackendSupported backend = true) :
    backend.maxSnapshotBytes ≤ mapsMaxSnapshotBytes ∧ backend.maxChunkBytes ≠ 0 ∧
      backend.maxChunkBytes ≤ mapsMaxChunkBytes := by
  simp only [mapsBackendSupported, Bool.and_eq_true, bne_iff_ne, decide_eq_true_eq] at h
  exact ⟨h.1.1.2, h.1.2, h.2⟩

namespace Maps.Reported

variable {m : Maps}

lemma init (backend : MapsBackend) : (mapsInit backend).Reported := by
  refine ⟨fun _ => ⟨rfl, rfl⟩, fun h => ?_, Nat.zero_le _, by simp [mapsInit]⟩
  simp only [mapsInit] at h ⊢
  split_ifs at h with hsupported
  · exact hsupported
  · simp at h

lemma snapshot (h : m.Reported) (generation snapshot : U64) (busy : Bool)
    {render : Except Errno Rendering} (hfilled : ∀ r, render = .ok r → r.Filled) :
    (mapsSnapshot m generation snapshot busy render).2.Reported := by
  unfold mapsSnapshot
  split_ifs with harg hsup hbusy hstale
  · exact h
  · exact h
  · exact h
  · exact h
  · cases render with
    | error e => exact h
    | ok rendering =>
      cases hstore : (mapsStore m snapshot rendering).1 with
      | error e =>
        dsimp only
        rw [mapsStore_error hstore]
        exact h
      | ok _ =>
        obtain ⟨bytes, hdata, -, hle, heq⟩ := mapsStore_ok hstore
        have hlimits := mapsBackendSupported_limits
          (h.backend (by simpa [mapsSupported] using hsup))
        dsimp only
        rw [heq]
        refine ⟨by simp, fun _ => h.backend (by simpa [mapsSupported] using hsup), ?_, ?_⟩
        · exact Nat.le_trans (BitVec.le_def.mp hle) (BitVec.le_def.mp hlimits.1)
        · intro bytes' hbytes
          cases hbytes
          exact hfilled rendering rfl bytes hdata

lemma cleared (h : m.Reported) (busy : Bool) : (mapsClear m busy).2.Reported := by
  rcases mapsClear_effect m busy with heq | ⟨hsup, heq⟩
  · rw [heq]
    exact h
  · rw [heq]
    exact ⟨by simp, fun _ => h.backend (by simpa [mapsSupported] using hsup), Nat.zero_le _,
      by simp⟩

/-- A chunk of the snapshot is not empty and fits the answer. -/
lemma chunk (h : m.Reported) {snapshot : U64} {offset : U32} {busy : Bool} {read : MapsRead}
    (hread : mapsReadBegin m snapshot offset busy = .ok read) :
    read.data ≠ [] ∧ read.data.length ≤ 1536 := by
  obtain ⟨-, -, -, hready, -, hoffset, bytes, hdata, rfl⟩ := mapsReadBegin_ok.mp hread
  have hlimits := mapsBackendSupported_limits (h.backend (by rw [hready]; simp))
  have hmax : m.backend.maxChunkBytes.toNat ≤ 1536 := BitVec.le_def.mp hlimits.2.2
  have hpos : 0 < m.backend.maxChunkBytes.toNat :=
    Nat.pos_of_ne_zero fun heq => hlimits.2.1 (BitVec.eq_of_toNat_eq heq)
  have hlt : offset.toNat < m.length.toNat := BitVec.lt_def.mp hoffset
  have hremaining : (m.length - offset).toNat = m.length.toNat - offset.toNat :=
    BitVec.toNat_sub_of_le (BitVec.le_of_lt hoffset)
  have hfilled := h.filled bytes hdata
  have hlength : 0 < (chunkLength m offset).toNat ∧ (chunkLength m offset).toNat ≤ 1536 := by
    unfold chunkLength
    split_ifs with hsmall
    · have := BitVec.lt_def.mp hsmall
      omega
    · exact ⟨hpos, hmax⟩
  dsimp only
  constructor
  · rw [ne_eq, ← List.length_eq_zero_iff, List.length_take, List.length_drop]
    omega
  · rw [List.length_take]
    omega

end Maps.Reported

/-! ## The module -/

/-- What is assumed of the surroundings. -/
def Ordinary (w : World) (a : Action) : Prop :=
  (∀ cpu, (w.current cpu).Paired) ∧
    ∀ input, a = .workerStep input → ∀ rendering, input.render = .ok rendering → rendering.Filled

/-- What is known of the module. -/
structure ModuleState.Reported (m : ModuleState) : Prop where
  binding : m.binding.Reported
  maps : m.maps.Reported

variable {m m' : ModuleState}

lemma ModuleState.Reported.of_eq (h : m.Reported)
    (hbinding : m'.binding = m.binding) (hmaps : m'.maps = m.maps) : m'.Reported :=
  ⟨hbinding ▸ h.binding, hmaps ▸ h.maps⟩

lemma MapsAfterSwitch.reported {task : KernelTask} {env : HookEnv} {maps : Maps}
    (h : MapsAfterSwitch m task env maps) (hm : m.maps.Reported) : maps.Reported := by
  cases h with
  | same => exact hm
  | captured hwould _ =>
    exact ⟨by simp, fun _ => hm.backend (by simpa [mapsSupported] using hwould.supported),
      hm.length, hm.filled⟩

variable {cfg : Config} {w w' : World} {a : Action}

lemma ExecEffect.reported {current : ℕ → KernelTask} {input : ExecInput}
    {pc pc' : ExecPc} (h : ExecEffect cfg current m input pc pc' m') (hm : m.Reported)
    (hpaired : ∀ cpu, (current cpu).Paired)
    (hfilled : ∀ rendering, input.render = .ok rendering → rendering.Filled) : m'.Reported := by
  cases h with
  | rendered hmaps =>
    subst hmaps
    exact ⟨hm.binding, hm.maps.snapshot _ _ _ hfilled⟩
  | enableTurn hmem =>
    rcases armLiveCurrent_cases cfg m input.cpu (current input.cpu) input.φ with
      ⟨b, hb, heq⟩ | ⟨-, -, target, -, heq⟩
    · rw [enableCpuCallback, heq]
      exact ⟨hm.binding.effect (hpaired input.cpu) hb, hm.maps⟩
    · rw [enableCpuCallback, heq]
      exact hm.of_eq rfl rfl
  | mapsCleared => exact ⟨hm.binding, hm.maps.cleared _⟩
  | bindingCleared => exact ⟨.clear _, hm.maps⟩
  | _ => exact hm.of_eq rfl rfl

/-- Every action keeps it. -/
lemma WorldStep.reported (h : WorldStep cfg w a w') (hordinary : Ordinary w a)
    (hw : w.m.Reported) : w'.m.Reported := by
  cases h with
  | @switch cpu task env hmay =>
    obtain ⟨s, ring, heq, -⟩ := finishBefore_cases cfg w.m cpu env
    show (finishBefore cfg w.m cpu env).Reported
    rw [heq]
    exact hw.of_eq rfl rfl
  | touch => exact hw
  | @finishAfter cpu env m hin =>
    have hmaps := hin.maps.reported hw.maps
    cases hin with
    | unarmed ring hb hb' _ =>
      exact ⟨(hw.binding.effect (hordinary.1 cpu) hb).effect (hordinary.1 cpu) hb', hmaps⟩
    | armed ring _ _ hb => exact ⟨hw.binding.effect (hordinary.1 cpu) hb, hmaps⟩
  | @exitBefore cpu b hb => exact ⟨hw.binding.effect (hordinary.1 cpu) hb, hw.maps⟩
  | @exception cpu kind fargs env out hdone =>
    cases hdone with
    | ignored hb => exact ⟨hw.binding.effect (hordinary.1 cpu) hb, hw.maps⟩
    | @handled target regs _ _ _ _ =>
      obtain ⟨ring, enabled, heq, -⟩ := deliverException_eq cfg w.m cpu kind target regs fargs env
      show ModuleState.Reported (deliverException cfg w.m cpu kind target regs fargs env).2
      rw [heq]
      exact hw.of_eq rfl rfl
  | command hcmd =>
    cases hcmd with
    | bound _ _ _ hb hvalid =>
      subst hb
      exact ⟨.set hvalid _, hw.maps⟩
    | _ => exact hw.of_eq rfl rfl
  | workerStep hexec hstep =>
    exact (execStep_effect hstep).reported hw hordinary.1 (hordinary.2 _ rfl)
  | _ => exact hw.of_eq rfl rfl

/-- It holds in every reachable state. -/
theorem reported_of_reachable (hw : ((moduleSystem cfg).restrict Ordinary).Reachable w) :
    w.m.Reported := by
  refine module_invariant (I := fun w => w.m.Reported) (fun w hinit => ?_)
    (fun w a w' hI hC hstep => hstep.reported hC hI) hw
  obtain ⟨⟨backend, hm⟩, -, -⟩ := hinit
  rw [hm]
  exact ⟨⟨by simp [moduleInit], by simp [moduleInit]⟩, .init backend⟩

end Spz
