import Mathlib.Logic.Function.Iterate
import Stackplz.Binding
import Stackplz.Lib.Transition

/-!
# The binding, step by step

The functions of `core/task.c` on any number of CPUs at once, cut where other CPUs can come in
between: a snapshot is one step and a write section is one step.  `spz_binding_observe_current`
decides on a snapshot and commits in a later write section, and `spz_binding_matches_current` and
`spz_binding_mark_exit` mark the binding in one; in between it may have been set anew any number
of times.  What protects them is that the write section tests the generation again and that no
generation comes twice.

`calls_alone` says that a call nobody interferes with does what the function of `Stackplz.Binding`
does.  `bindingStep_effect` says everything that one step of a call can do, whatever has happened to
the binding since the step before.
-/

namespace Spz

open Errno Transition

/-! ## The steps -/

/-- Where a CPU stands in a call; the name says what it does next. -/
inductive BindingPc
  | idle
  /-- The snapshot of `spz_binding_observe_current`. -/
  | observe (task : KernelTask)
  /-- The write section of `spz_binding_observe_current`. -/
  | commit (generation : U64) (identity : TaskIdentity)
  /-- The snapshot of `spz_binding_matches_current`. -/
  | compare (task : KernelTask) (expected : U64)
  /-- Its write section, whose result is ignored; the call returns `answer`. -/
  | mark (generation : U64) (replacement : BindingState) (answer : Errno)
  /-- The snapshot of `spz_binding_mark_exit`. -/
  | markExit (task : KernelTask)
  /-- The write section of `spz_binding_mark_exit`. -/
  | exit (generation : U64)
  /-- What `spz_binding_observe_current` or `spz_binding_matches_current` returned. -/
  | observed (result : Except Errno (Option TaskIdentity))
  /-- What `spz_binding_mark_exit` returned. -/
  | marked (result : Except Errno Bool)

/-- Between two calls. -/
def BindingPc.resting : BindingPc → Bool
  | .idle | .observed _ | .marked _ => true
  | .observe _ | .commit _ _ | .compare _ _ | .mark _ _ _ | .markExit _ | .exit _ => false

section

variable (b : Binding)

/-- `spz_binding_observe_current` after its snapshot. -/
def observeSnapshot (task : KernelTask) : BindingPc :=
  match b.state with
  | .bound => .compare task b.generation
  | .stale => .observed (.error ESTALE)
  | .exited => .observed (.error ESRCH)
  | .empty => .observed (.ok none)
  | .pending =>
    match extractIdentity task with
    | .error e => .observed (.error e)
    | .ok extracted =>
      if task.exitState ≠ 0 ∨ !selectorMatches b.request extracted then .observed (.ok none)
      else .commit b.generation { extracted with generation := b.generation }

def commitSection (generation : U64) (identity : TaskIdentity) : Binding × BindingPc :=
  if b.generation ≠ generation ∨ b.state ≠ .pending then (b, .observed (.error ESTALE))
  else ({ b with identity := identity, state := .bound }, .observed (.ok (some identity)))

/-- `spz_binding_matches_current` after its snapshot. -/
def compareSnapshot (task : KernelTask) (expected : U64) : BindingPc :=
  if b.generation ≠ expected then .observed (.error ESTALE)
  else
    match b.state with
    | .stale => .observed (.error ESTALE)
    | .exited => .observed (.error ESRCH)
    | .empty => .observed (.ok none)
    | .pending => .observed (.ok none)
    | .bound =>
      match extractIdentity task with
      | .error e => .observed (.error e)
      | .ok current =>
        if current.pid ≠ b.identity.pid then .observed (.ok none)
        else if !sameStrongIdentity b.identity current then .mark b.generation .stale ESTALE
        else if task.exitState ≠ 0 then .mark b.generation .exited ESRCH
        else .observed (.ok (some { current with generation := b.generation }))

/-- `spz_binding_mark_exit` after its snapshot. -/
def exitSnapshot (task : KernelTask) : BindingPc :=
  if b.state ≠ .bound then .marked (.ok false)
  else
    match extractIdentity task with
    | .error e => .marked (.error e)
    | .ok current =>
      if !sameStrongIdentity b.identity current then .marked (.ok false)
      else .exit b.generation

def exitSection (generation : U64) : Binding × BindingPc :=
  match markStateIfGeneration b generation .bound .exited with
  | (.ok (), b') => (b', .marked (.ok true))
  | (.error e, b') => (b', .marked (.error e))

end

/-- The next step of a call.  A caller that has tried 32 times to get a snapshot, or 128 times
to begin a write section, gives up: that is `contended`. -/
def bindingStep (contended : Bool) : Binding × BindingPc → Binding × BindingPc
  | (b, .observe task) =>
    (b, if contended then .observed (.error EAGAIN) else observeSnapshot b task)
  | (b, .commit generation identity) =>
    if contended then (b, .observed (.error EAGAIN)) else commitSection b generation identity
  | (b, .compare task expected) =>
    (b, if contended then .observed (.error EAGAIN) else compareSnapshot b task expected)
  | (b, .mark generation replacement answer) =>
    (if contended then b else (markStateIfGeneration b generation .bound replacement).2,
      .observed (.error answer))
  | (b, .markExit task) => (b, if contended then .marked (.error EAGAIN) else exitSnapshot b task)
  | (b, .exit generation) =>
    if contended then (b, .marked (.error EAGAIN)) else exitSection b generation
  | (b, .idle) => (b, .idle)
  | (b, .observed result) => (b, .observed result)
  | (b, .marked result) => (b, .marked result)

/-! ## Calls without interference -/

section

variable (b : Binding) (task : KernelTask)

theorem matches_alone (expected : U64) : (bindingStep false)^[2] (b, .compare task expected) =
    ((bindingMatchesCurrent b task expected).2,
      .observed (bindingMatchesCurrent b task expected).1) := by
  change bindingStep false (b, compareSnapshot b task expected) = _
  unfold compareSnapshot bindingMatchesCurrent
  by_cases hgen : b.generation ≠ expected
  · rw [if_pos hgen, if_pos hgen]
    rfl
  · rw [if_neg hgen, if_neg hgen]
    cases hstate : b.state with
    | bound =>
      cases extractIdentity task with
      | error e => rfl
      | ok current =>
        dsimp only
        split_ifs <;> rfl
    | _ => rfl

/-- A call nobody interferes with does what the function does in one piece. -/
lemma calls_alone :
    (bindingStep false)^[3] (b, .observe task) =
      ((bindingObserveCurrent b task).2, .observed (bindingObserveCurrent b task).1) ∧
    (∀ expected, (bindingStep false)^[2] (b, .compare task expected) =
      ((bindingMatchesCurrent b task expected).2,
        .observed (bindingMatchesCurrent b task expected).1)) ∧
    (bindingStep false)^[2] (b, .markExit task) =
      ((bindingMarkExit b task).2, .marked (bindingMarkExit b task).1) := by
  refine ⟨?_, matches_alone b task, ?_⟩
  · change (bindingStep false)^[2] (b, observeSnapshot b task) = _
    unfold observeSnapshot bindingObserveCurrent
    cases hstate : b.state with
    | bound => exact matches_alone b task b.generation
    | pending =>
      cases extractIdentity task with
      | error e => rfl
      | ok extracted =>
        dsimp only
        split_ifs
        · rfl
        · change bindingStep false (commitSection b b.generation _) = _
          rw [commitSection, if_neg (by simp [hstate])]
          rfl
    | _ => rfl
  · change bindingStep false (b, exitSnapshot b task) = _
    unfold exitSnapshot bindingMarkExit
    by_cases hbound : b.state ≠ .bound
    · rw [if_pos hbound, if_pos hbound]
      rfl
    · rw [if_neg hbound, if_neg hbound]
      cases extractIdentity task with
      | error e => rfl
      | ok current =>
        dsimp only
        split_ifs
        · rfl
        · change exitSection b b.generation = _
          unfold exitSection
          rw [markStateIfGeneration_self (not_not.mp hbound)]

end

/-! ## All of them together -/

/-- The binding, the CPUs, and what has been so far: the generations of the binding, and the task
that was bound under a generation. -/
structure BindingWorld where
  binding : Binding := {}
  cpus : ℕ → BindingPc := fun _ => .idle
  used : List U64 := [0]
  bound : List (U64 × StrongIdentity) := []

/-- What can happen.  `spz_binding_set` and `spz_binding_clear` are one write section each. -/
inductive BindingAct
  | set (request : BindingRequest) (contended : Bool)
  | clear (contended : Bool)
  | observe (cpu : ℕ) (task : KernelTask)
  | compare (cpu : ℕ) (task : KernelTask) (expected : U64)
  | markExit (cpu : ℕ) (task : KernelTask)
  | step (cpu : ℕ) (contended : Bool)

/-- The action sets or clears the binding: it is not an `spz_binding_set` that returns `-EINVAL`,
and it gets its write section. -/
def BindingAct.renews : BindingAct → Prop
  | .set request contended => contended = false ∧ requestValid request = true
  | .clear contended => contended = false
  | .observe _ _ | .compare _ _ _ | .markExit _ _ | .step _ _ => False

namespace BindingWorld

variable (s : BindingWorld)

def renewed (b : Binding) : BindingWorld :=
  { s with binding := b, used := b.generation :: s.used }

/-- A CPU that stands between two calls begins one. -/
def begin (cpu : ℕ) (pc : BindingPc) : Option BindingWorld :=
  if (s.cpus cpu).resting then some { s with cpus := Function.update s.cpus cpu pc } else none

/-- A CPU has made a step.  If the binding was taken up, that is noted. -/
def stepped (cpu : ℕ) (out : Binding × BindingPc) : BindingWorld :=
  { s with
    binding := out.1
    cpus := Function.update s.cpus cpu out.2
    bound := if s.binding.state = .pending ∧ out.1.state = .bound then
        (out.1.generation, out.1.identity.strong) :: s.bound
      else s.bound }

def next : BindingAct → Option BindingWorld
  | .set request contended =>
    if contended then some s
    else
      match bindingSet s.binding request with
      | (.error _, _) => some s
      | (.ok _, b) => some (s.renewed b)
  | .clear contended => if contended then some s else some (s.renewed (bindingClear s.binding))
  | .observe cpu task => s.begin cpu (.observe task)
  | .compare cpu task expected => s.begin cpu (.compare task expected)
  | .markExit cpu task => s.begin cpu (.markExit task)
  | .step cpu contended => some (s.stepped cpu (bindingStep contended (s.binding, s.cpus cpu)))

end BindingWorld

/-- The binding from `spz_binding_init` on. -/
def bindingSystem : System BindingWorld BindingAct := .ofStep (· = {}) BindingWorld.next

instance : DecidablePred BindingAct.renews
  | .set _ _ => inferInstanceAs (Decidable (_ ∧ _))
  | .clear _ => inferInstanceAs (Decidable (_ = _))
  | .observe _ _ | .compare _ _ _ | .markExit _ _ | .step _ _ => inferInstanceAs (Decidable False)

/-- The generation is not about to wrap around. -/
def ShortOfWrap (s : BindingWorld) (a : BindingAct) : Prop :=
  a.renews → s.binding.generation ≠ BitVec.allOnes 64
deriving Decidable

/-! ## What one step can do -/

/-- A place that promises nothing about a task; a mark ends the binding. -/
def BindingPc.plain : BindingPc → Prop
  | .commit _ _ | .observed (.ok (some _)) => False
  | .mark _ replacement _ => replacement = .stale ∨ replacement = .exited
  | .idle | .observe _ | .compare _ _ | .markExit _ | .exit _ | .observed (.ok none) |
      .observed (.error _) | .marked _ => True

/-- Everything a step of a call can do.  The binding changes in the last two cases only, and
both have tested it. -/
inductive StepEffect (b : Binding) (pc : BindingPc) : Binding × BindingPc → Prop
  | plain {pc' : BindingPc} : pc'.plain → StepEffect b pc (b, pc')
  /-- The call keeps waiting for its next step, or has returned before. -/
  | same : StepEffect b pc (b, pc)
  /-- The current task is selected by the pending binding. -/
  | selected {identity : TaskIdentity} : identity.generation = b.generation →
      selectorMatches b.request identity = true → StepEffect b pc (b, .commit b.generation identity)
  /-- The current task is the bound one. -/
  | recognised {identity : TaskIdentity} : b.state = .bound → identity.generation = b.generation →
      identity.strong = b.identity.strong → StepEffect b pc (b, .observed (.ok (some identity)))
  | ended {state : BindingState} {pc' : BindingPc} : b.state = .bound →
      state = .stale ∨ state = .exited → pc'.plain →
      StepEffect b pc ({ b with state := state }, pc')
  | taken {identity : TaskIdentity} : b.state = .pending → pc = .commit b.generation identity →
      StepEffect b pc ({ b with identity := identity, state := .bound },
        .observed (.ok (some identity)))

variable {b : Binding} {pc : BindingPc}

lemma selectorMatches_generation (request : BindingRequest) (identity : TaskIdentity)
    (generation : U64) : selectorMatches request { identity with generation := generation } =
      selectorMatches request identity := rfl

lemma observeSnapshot_effect (task : KernelTask) : StepEffect b pc (b, observeSnapshot b task) := by
  unfold observeSnapshot
  cases b.state with
  | pending =>
    cases extractIdentity task with
    | error e => exact .plain trivial
    | ok extracted =>
      dsimp only
      split_ifs with hno
      · exact .plain trivial
      · refine .selected rfl ?_
        rw [selectorMatches_generation]
        simpa using (not_or.mp hno).2
  | _ => exact .plain trivial

lemma compareSnapshot_effect (task : KernelTask) (expected : U64) :
    StepEffect b pc (b, compareSnapshot b task expected) := by
  unfold compareSnapshot
  by_cases hgen : b.generation ≠ expected
  · rw [if_pos hgen]
    exact .plain trivial
  · rw [if_neg hgen]
    cases hstate : b.state with
    | bound =>
      cases extractIdentity task with
      | error e => exact .plain trivial
      | ok current =>
        dsimp only
        split_ifs with hpid hsame hexit
        · exact .plain trivial
        · exact .plain (.inl rfl)
        · exact .plain (.inr rfl)
        · have hstrong : sameStrongIdentity b.identity current = true := by simpa using hsame
          exact .recognised hstate rfl (sameStrongIdentity_iff.mp hstrong).symm
    | _ => exact .plain trivial

lemma exitSnapshot_effect (task : KernelTask) : StepEffect b pc (b, exitSnapshot b task) := by
  unfold exitSnapshot
  by_cases hbound : b.state ≠ .bound
  · rw [if_pos hbound]
    exact .plain trivial
  · rw [if_neg hbound]
    cases extractIdentity task with
    | error e => exact .plain trivial
    | ok current =>
      dsimp only
      split_ifs
      all_goals exact .plain trivial

/-- A write section that marks the binding ends it, or finds that it is not the one it knew. -/
lemma markStateIfGeneration_effect (generation : U64) {replacement : BindingState} {pc' : BindingPc}
    (hrep : replacement = .stale ∨ replacement = .exited) (hpc : pc'.plain) :
    StepEffect b pc ((markStateIfGeneration b generation .bound replacement).2, pc') := by
  unfold markStateIfGeneration
  split_ifs with hother
  · exact .plain hpc
  · exact .ended (not_not.mp (not_or.mp hother).2) hrep hpc

lemma exitSection_effect (generation : U64) : StepEffect b pc (exitSection b generation) := by
  have heff : ∀ pc' : BindingPc, pc'.plain → StepEffect b pc
      ((markStateIfGeneration b generation .bound .exited).2, pc') :=
    fun pc' hpc => markStateIfGeneration_effect generation (.inr rfl) hpc
  unfold exitSection
  generalize markStateIfGeneration b generation .bound .exited = out at heff
  obtain ⟨⟨e⟩ | ⟨⟩, b'⟩ := out
  all_goals exact heff _ trivial

/-- The inversion: what a step does, case by case. -/
lemma bindingStep_effect (contended : Bool)
    (hmark : ∀ generation replacement answer, pc = .mark generation replacement answer →
      replacement = .stale ∨ replacement = .exited) :
    StepEffect b pc (bindingStep contended (b, pc)) := by
  cases contended with
  | true => cases pc <;> first | exact .same | exact .plain trivial
  | false =>
    cases pc with
    | observe task => exact observeSnapshot_effect task
    | compare task expected => exact compareSnapshot_effect task expected
    | markExit task => exact exitSnapshot_effect task
    | exit generation => exact exitSection_effect generation
    | mark generation replacement answer =>
      exact markStateIfGeneration_effect generation (hmark _ _ _ rfl) trivial
    | commit generation identity =>
      change StepEffect b _ (commitSection b generation identity)
      unfold commitSection
      split_ifs with hother
      · exact .plain trivial
      · obtain ⟨hgen, hstate⟩ := not_or.mp hother
        exact .taken (not_not.mp hstate) (by rw [not_not.mp hgen])
    | _ => exact .same

end Spz
