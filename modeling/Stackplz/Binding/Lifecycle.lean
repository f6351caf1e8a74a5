import Stackplz.Binding.Steps

/-!
# The life of a binding

What holds in every interleaving of the calls of `core/task.c` (`binding_lifecycle`), short of the
wrap-around of the generation.  The invariant has two parts: what the binding itself says, where a
bound task was selected under the generation it carries; and what a CPU carries from its snapshot
to its write section, which is true of the binding only as long as the generation is the same.
-/

namespace Spz

open Errno Transition BindingWorld Function List

/-! ## The invariant -/

/-- The bytes of a name up to its first NUL. -/
def Comm.text (comm : Comm) : List U8 := comm.toList.takeWhile (· ≠ 0)

/-- What the request of a binding asks of a task: the pid or tgid, as the mode says, and the
user, name and start time if they were given. -/
structure Selected (request : BindingRequest) (identity : TaskIdentity) : Prop where
  pid : request.mode = .pid → identity.pid = request.pid
  tgid : request.mode = .tgid → identity.tgid = request.pid
  either : request.mode = .either → identity.pid = request.pid ∨ identity.tgid = request.pid
  uid : request.hasUid ≠ 0 → identity.uid = request.uid
  comm : request.hasComm ≠ 0 → identity.comm.text = request.comm.text
  startBootTime : request.hasStartBootTime ≠ 0 → identity.startBootTime = request.startBootTime

lemma strncmpEq_takeWhile {left right : List U8} (hlength : left.length = right.length)
    (h : strncmpEq left right = true) : left.takeWhile (· ≠ 0) = right.takeWhile (· ≠ 0) := by
  induction left generalizing right with
  | nil => rw [length_eq_zero_iff.mp hlength.symm]
  | cons a left ih =>
    obtain ⟨b, right, rfl⟩ := exists_cons_of_length_eq_add_one hlength.symm
    unfold strncmpEq at h
    split_ifs at h with hne hzero
    · obtain rfl : a = b := not_not.mp hne
      simp [hzero]
    · obtain rfl : a = b := not_not.mp hne
      rw [takeWhile_cons, takeWhile_cons, ih (by simpa using hlength) h]

lemma selected_of_selectorMatches {request : BindingRequest} {identity : TaskIdentity}
    (h : selectorMatches request identity = true) : Selected request identity := by
  simp only [selectorMatches, Bool.and_eq_true, Bool.not_eq_true', Bool.and_eq_false_iff,
    bne_eq_false_iff_eq, Bool.not_eq_false'] at h
  obtain ⟨⟨⟨hid, huid⟩, hcomm⟩, hstart⟩ := h
  refine ⟨fun hmode => ?_, fun hmode => ?_, fun hmode => ?_, fun hhas => ?_, fun hhas => ?_,
    fun hhas => ?_⟩
  · simpa [hmode] using hid
  · simpa [hmode] using hid
  · simpa [hmode] using hid
  · exact huid.resolve_left hhas
  · exact strncmpEq_takeWhile (by simp) (hcomm.resolve_left hhas)
  · exact hstart.resolve_left hhas

namespace BindingWorld

/-- What a CPU carries from its snapshot, or has returned. -/
def Carries (s : BindingWorld) : BindingPc → Prop
  | .commit generation identity => identity.generation = generation ∧
      generation.toNat ≤ s.binding.generation.toNat ∧
      (generation = s.binding.generation → Selected s.binding.request identity)
  | .observed (.ok (some identity)) => (identity.generation, identity.strong) ∈ s.bound
  | pc => pc.plain

/-- The invariant.  Generations are in order, a bound task was selected under the generation it
carries and has been noted, under one generation at most one task was bound, and a CPU that is
about to commit holds a task that the binding selects unless it is another binding by now. -/
structure Sound (s : BindingWorld) : Prop where
  current : s.binding.generation ∈ s.used
  order : ∀ generation ∈ s.used, generation.toNat ≤ s.binding.generation.toNat
  noted : ∀ p ∈ s.bound, p.1.toNat ≤ s.binding.generation.toNat
  unique : ∀ p ∈ s.bound, ∀ q ∈ s.bound, p.1 = q.1 → p.2 = q.2
  pending : s.binding.state = .pending → ∀ p ∈ s.bound, p.1 ≠ s.binding.generation
  taken : s.binding.state = .bound → s.binding.identity.generation = s.binding.generation ∧
    Selected s.binding.request s.binding.identity ∧
    (s.binding.generation, s.binding.identity.strong) ∈ s.bound
  cpus : ∀ cpu, s.Carries (s.cpus cpu)

variable {s s' : BindingWorld}

variable {pc : BindingPc} {a : BindingAct} {contended : Bool}

lemma Carries.of_plain (h : pc.plain) : s.Carries pc := by
  cases pc with
  | commit generation identity => exact h.elim
  | observed result =>
    rcases result with e | ⟨⟩ | identity
    · exact h
    · exact h
    · exact h.elim
  | _ => exact h

/-- What a CPU carries stays true when the binding is renewed or ends, and when a task is noted. -/
lemma Carries.mono (h : s.Carries pc)
    (hle : s.binding.generation.toNat ≤ s'.binding.generation.toNat)
    (hsame : s'.binding.generation.toNat = s.binding.generation.toNat →
      s'.binding.request = s.binding.request)
    (hbound : ∀ p ∈ s.bound, p ∈ s'.bound) : s'.Carries pc := by
  cases pc with
  | commit generation identity =>
    obtain ⟨hgen, hold, hselected⟩ := h
    refine ⟨hgen, Nat.le_trans hold hle, fun hnow => ?_⟩
    have hnat : s'.binding.generation.toNat = s.binding.generation.toNat := by
      rw [hnow] at hold
      omega
    rw [hsame hnat]
    exact hselected (hnow.trans (BitVec.eq_of_toNat_eq hnat))
  | observed result =>
    rcases result with e | ⟨⟩ | identity
    · exact h
    · exact h
    · exact hbound _ h
  | _ => exact h

namespace Sound

lemma init : Sound {} := by
  refine ⟨by simp, ?_, by simp, by simp, by simp, ?_, fun _ => trivial⟩
  · intro generation hmem
    obtain rfl := mem_singleton.mp hmem
    exact Nat.le_refl 0
  · intro h
    cases h

variable {b : Binding}

lemma fresh (h : s.Sound) (hb : s.binding.generation.toNat < b.generation.toNat) :
    b.generation ∉ s.used := by
  intro hmem
  have := h.order _ hmem
  omega

lemma renewed (h : s.Sound) (hb : s.binding.generation.toNat < b.generation.toNat)
    (hstate : b.state ≠ .bound) : (s.renewed b).Sound := by
  refine ⟨mem_cons_self, ?_, ?_, h.unique, ?_, fun hbound => absurd hbound hstate, ?_⟩
  · intro generation hmem
    rcases mem_cons.mp hmem with rfl | hmem
    · exact Nat.le_refl _
    · exact Nat.le_of_lt (Nat.lt_of_le_of_lt (h.order _ hmem) hb)
  · intro p hp
    exact Nat.le_of_lt (Nat.lt_of_le_of_lt (h.noted p hp) hb)
  · intro _ p hp heq
    have := h.noted p hp
    rw [heq] at this
    exact absurd this (Nat.not_le.mpr hb)
  · intro cpu
    refine (h.cpus cpu).mono (Nat.le_of_lt hb) (fun heq => ?_) fun p hp => hp
    exact absurd heq (Nat.ne_of_gt hb)

lemma setCpu (h : s.Sound) (cpu : ℕ) (hpc : s.Carries pc) :
    Sound { s with cpus := update s.cpus cpu pc } := by
  refine ⟨h.current, h.order, h.noted, h.unique, h.pending, h.taken, fun i => ?_⟩
  by_cases hi : i = cpu
  · subst hi
    dsimp only
    rw [update_self]
    exact hpc.mono (Nat.le_refl _) (fun _ => rfl) fun p hp => hp
  · dsimp only
    rw [update_of_ne hi]
    exact (h.cpus i).mono (Nat.le_refl _) (fun _ => rfl) fun p hp => hp

lemma begun (h : s.Sound) {cpu : ℕ} (hstep : s.begin cpu pc = some s')
    (hpc : pc.plain) : s'.Sound := by
  unfold begin at hstep
  split_ifs at hstep
  cases hstep
  exact h.setCpu cpu (.of_plain hpc)

lemma stepped_same (cpu : ℕ) (pc : BindingPc) :
    s.stepped cpu (s.binding, pc) = { s with cpus := update s.cpus cpu pc } := by
  have hno : ¬ (s.binding.state = .pending ∧ s.binding.state = .bound) := by
    rintro ⟨hpending, hbound⟩
    rw [hpending] at hbound
    cases hbound
  rw [stepped, if_neg hno]

/-- A step of a call. -/
lemma stepped (h : s.Sound) (cpu : ℕ) {out : Binding × BindingPc}
    (heff : StepEffect s.binding (s.cpus cpu) out) : (s.stepped cpu out).Sound := by
  cases heff with
  | plain hpc =>
    rw [stepped_same]
    exact h.setCpu cpu (.of_plain hpc)
  | same =>
    rw [stepped_same]
    exact h.setCpu cpu (h.cpus cpu)
  | selected hgen hmatch =>
    rw [stepped_same]
    exact h.setCpu cpu ⟨hgen, Nat.le_refl _, fun _ => selected_of_selectorMatches hmatch⟩
  | recognised hbound hgen hstrong =>
    rw [stepped_same]
    refine h.setCpu cpu ?_
    show (_, _) ∈ s.bound
    rw [hgen, hstrong]
    exact (h.taken hbound).2.2
  | ended hbound hstate hpc =>
    -- nothing is noted, since the binding was bound before
    have hno : ∀ state : BindingState, ¬ (s.binding.state = .pending ∧ state = .bound) := by
      intro state hboth
      rw [hbound] at hboth
      cases hboth.1
    rw [BindingWorld.stepped, if_neg (hno _)]
    refine ⟨h.current, h.order, h.noted, h.unique, ?_, ?_, fun i => ?_⟩
    · rintro rfl
      rcases hstate with hstate | hstate <;> cases hstate
    · rintro rfl
      rcases hstate with hstate | hstate <;> cases hstate
    · by_cases hi : i = cpu
      · subst hi
        dsimp only
        rw [update_self]
        exact .of_plain hpc
      · dsimp only
        rw [update_of_ne hi]
        exact (h.cpus i).mono (Nat.le_refl _) (fun _ => rfl) fun p hp => hp
  | taken hpending hcommit =>
    rename_i identity
    have hcarried := h.cpus cpu
    rw [hcommit] at hcarried
    obtain ⟨hgen, -, hselected⟩ := hcarried
    rw [BindingWorld.stepped, if_pos ⟨hpending, rfl⟩]
    refine ⟨h.current, h.order, ?_, ?_, ?_, ?_, fun i => ?_⟩
    · intro p hp
      rcases mem_cons.mp hp with rfl | hp
      · exact Nat.le_refl _
      · exact h.noted p hp
    · -- nobody was bound under this generation before
      have hnew := h.pending hpending
      intro p hp q hq heq
      rcases mem_cons.mp hp with rfl | hp
      · rcases mem_cons.mp hq with rfl | hq
        · rfl
        · exact absurd heq.symm (hnew q hq)
      · rcases mem_cons.mp hq with rfl | hq
        · exact absurd heq (hnew p hp)
        · exact h.unique p hp q hq heq
    · intro hstate
      cases hstate
    · exact fun _ => ⟨hgen, hselected rfl, mem_cons_self⟩
    · by_cases hi : i = cpu
      · subst hi
        dsimp only
        rw [update_self]
        show (_, _) ∈ _ :: s.bound
        rw [hgen]
        exact mem_cons_self
      · dsimp only
        rw [update_of_ne hi]
        exact (h.cpus i).mono (Nat.le_refl _) (fun _ => rfl) fun p hp => mem_cons_of_mem _ hp

lemma mark (h : s.Sound) (cpu : ℕ) : ∀ generation replacement answer,
    s.cpus cpu = .mark generation replacement answer →
      replacement = .stale ∨ replacement = .exited := by
  intro generation replacement answer hpc
  have hcarried := h.cpus cpu
  rw [hpc] at hcarried
  exact hcarried

end Sound

/-! ## Setting and clearing -/

lemma nextGeneration_toNat {generation : U64} (h : generation ≠ BitVec.allOnes 64) :
    (nextGeneration generation).toNat = generation.toNat + 1 := by
  rw [nextGeneration, if_neg h, if_neg (add_one_ne_zero_of_ne h), toNat_add_one h]

/-- A set or clear renews the binding with a larger generation. -/
lemma renews_effect (ha : a.renews) (hwrap : ShortOfWrap s a)
    (hstep : s.next a = some s') : ∃ b : Binding, s' = s.renewed b ∧
      s.binding.generation.toNat < b.generation.toNat ∧ b.state ≠ .bound := by
  have hnext := nextGeneration_toNat (hwrap ha)
  cases a with
  | set request contended =>
    obtain ⟨rfl, hvalid⟩ := ha
    simp only [next, bindingSet, hvalid, Bool.not_true, Bool.false_eq_true, if_false] at hstep
    cases hstep
    refine ⟨_, rfl, ?_, by simp⟩
    dsimp only
    omega
  | clear contended =>
    cases ha
    cases hstep
    refine ⟨_, rfl, ?_, by simp [bindingClear]⟩
    dsimp only [bindingClear]
    omega
  | _ => exact ha.elim

lemma set_of_not_renews {request : BindingRequest}
    (ha : ¬ (BindingAct.set request contended).renews)
    (hstep : s.next (.set request contended) = some s') : s' = s := by
  cases contended with
  | true =>
    cases hstep
    rfl
  | false =>
    have hinvalid : requestValid request = false := by
      simpa [BindingAct.renews] using ha
    simp only [next, bindingSet, hinvalid, Bool.not_false, if_true,
      Bool.false_eq_true, if_false] at hstep
    cases hstep
    rfl

lemma clear_of_not_renews (ha : ¬ (BindingAct.clear contended).renews)
    (hstep : s.next (.clear contended) = some s') : s' = s := by
  cases contended with
  | true =>
    cases hstep
    rfl
  | false => exact absurd rfl ha

/-- Every action keeps the invariant. -/
lemma Sound.step (h : s.Sound) (hwrap : ShortOfWrap s a)
    (hstep : s.next a = some s') : s'.Sound := by
  by_cases ha : a.renews
  · obtain ⟨b, rfl, hlt, hstate⟩ := renews_effect ha hwrap hstep
    exact h.renewed hlt hstate
  · cases a with
    | set request contended => exact set_of_not_renews ha hstep ▸ h
    | clear contended => exact clear_of_not_renews ha hstep ▸ h
    | step cpu contended =>
      cases hstep
      exact h.stepped cpu (bindingStep_effect contended (h.mark cpu))
    | _ => exact h.begun hstep trivial

/-- Where a binding can go: nowhere, from `PENDING` to `BOUND`, from `BOUND` to the end. -/
def Moves (b b' : Binding) : Prop :=
  b'.generation = b.generation ∧ b'.request = b.request ∧
    (b' = b ∨ b.state = .pending ∧ b'.state = .bound ∨
      b.state = .bound ∧ b'.identity = b.identity ∧ (b'.state = .stale ∨ b'.state = .exited))

/-- Whatever else happens than set and clear, the binding only moves on. -/
lemma Sound.moves (h : s.Sound) (ha : ¬ a.renews) (hstep : s.next a = some s') :
    Moves s.binding s'.binding := by
  have hbegin : ∀ {cpu pc}, s.begin cpu pc = some s' → Moves s.binding s'.binding := by
    intro cpu pc hbegin
    unfold begin at hbegin
    split_ifs at hbegin
    cases hbegin
    exact ⟨rfl, rfl, .inl rfl⟩
  cases a with
  | set request contended => exact set_of_not_renews ha hstep ▸ ⟨rfl, rfl, .inl rfl⟩
  | clear contended => exact clear_of_not_renews ha hstep ▸ ⟨rfl, rfl, .inl rfl⟩
  | step cpu contended =>
    cases hstep
    have heff := bindingStep_effect (b := s.binding) contended (h.mark cpu)
    generalize bindingStep contended (s.binding, s.cpus cpu) = out at heff
    cases heff with
    | ended hbound hstate hpc => exact ⟨rfl, rfl, .inr (.inr ⟨hbound, rfl, hstate⟩)⟩
    | taken hpending hcommit => exact ⟨rfl, rfl, .inr (.inl ⟨hpending, rfl⟩)⟩
    | _ => exact ⟨rfl, rfl, .inl rfl⟩
  | _ => exact hbegin hstep

end BindingWorld

/-! ## The result -/

open BindingWorld

/-- The life of a binding, over every interleaving short of the wrap-around of the generation:
a set or clear that takes effect gives the binding a generation it never had; a bound task carries
the current generation and is one that the request selects; everything else only moves the
binding on; and a call that recognises the current task returns the identity of the one task that
was bound under the generation it reports. -/
theorem binding_lifecycle {s : BindingWorld}
    (h : (bindingSystem.restrict ShortOfWrap).Reachable s) :
    (∀ a s', (bindingSystem.restrict ShortOfWrap).step s a s' → a.renews →
        s'.binding.generation ∉ s.used ∧ s.binding.generation ∈ s.used) ∧
      (s.binding.state = .bound → s.binding.identity.generation = s.binding.generation ∧
        Selected s.binding.request s.binding.identity) ∧
      (∀ a s', (bindingSystem.restrict ShortOfWrap).step s a s' → ¬ a.renews →
        Moves s.binding s'.binding) ∧
      (∀ cpu identity, s.cpus cpu = .observed (.ok (some identity)) →
        (identity.generation, identity.strong) ∈ s.bound ∧
          ∀ p ∈ s.bound, p.1 = identity.generation → p.2 = identity.strong) := by
  have hsound : s.Sound := by
    refine System.Reachable.invariant (I := Sound) (fun s hs => ?_) (fun s a s' hI hstep => ?_) h
    · rw [hs]
      exact .init
    · exact hI.step hstep.1 hstep.2
  refine ⟨fun a s' hstep ha => ?_, fun hbound => ?_, fun a s' hstep ha => ?_,
    fun cpu identity hpc => ?_⟩
  · obtain ⟨b, rfl, hlt, -⟩ := renews_effect ha hstep.1 hstep.2
    exact ⟨hsound.fresh hlt, hsound.current⟩
  · exact ⟨(hsound.taken hbound).1, (hsound.taken hbound).2.1⟩
  · exact hsound.moves ha hstep.2
  · have hcarried := hsound.cpus cpu
    rw [hpc] at hcarried
    exact ⟨hcarried, fun p hp heq => hsound.unique p hp _ hcarried heq⟩

/-- Two CPUs see the task with pid 100 at the same time: CPU 0 commits, CPU 1 comes too late and
recognises the task when it looks again. -/
theorem binding_lifecycle_taken :
    let task : KernelTask :=
      ⟨0x1000, 100, 100, 7, 7, Vector.replicate 16 0, 0, some 1000⟩
    let s := runFrom (guarded ShortOfWrap next) {}
      [.set { bindingId := 1, pid := 100, mode := .pid } false, .observe 0 task, .observe 1 task,
        .step 0 false, .step 1 false, .step 0 false, .step 1 false, .observe 1 task, .step 1 false,
        .step 1 false]
    (s.binding.state = .bound ∧ s.bound = [(1, task.strong)]) ∧
      (∀ a s', (bindingSystem.restrict ShortOfWrap).step s a s' → a.renews →
        s'.binding.generation ∉ s.used ∧ s.binding.generation ∈ s.used) ∧
      (s.binding.state = .bound → s.binding.identity.generation = s.binding.generation ∧
        Selected s.binding.request s.binding.identity) ∧
      (∀ a s', (bindingSystem.restrict ShortOfWrap).step s a s' → ¬ a.renews →
        Moves s.binding s'.binding) ∧
      (∀ cpu identity, s.cpus cpu = .observed (.ok (some identity)) →
        (identity.generation, identity.strong) ∈ s.bound ∧
          ∀ p ∈ s.bound, p.1 = identity.generation → p.2 = identity.strong) := by
  refine ⟨by decide +kernel, binding_lifecycle ?_⟩
  exact .steps (.init rfl) (guarded_steps _ _ (by decide +kernel))

end Spz
