import Stackplz.Abi

/-!
# The binding

`core/task.c`: which task the module is bound to.  A binding is requested for a pid or tgid with
optional further selectors (`PENDING`), taken up by the first task seen on a CPU that matches
(`BOUND`), and lost when the task exits (`EXITED`) or its pid turns up with another identity
(`STALE`).  Setting and clearing the binding advance its generation.

The functions are taken as a whole: a snapshot sees one binding, and the test a write section
repeats on what the snapshot showed holds.  The sequence lock that makes this so, and the `-EAGAIN`
of a caller that gives up waiting for it, are therefore not here.

A task is what `spz_extract_identity` can read of a `task_struct`; `uid` is `none` where the
credentials cannot be reached.
-/

namespace Spz

open Errno

inductive BindingState
  | empty | pending | bound | stale | exited
deriving DecidableEq, Repr

structure BindingRequest where
  bindingId : U32 := 0
  pid : U32 := 0
  mode : BindMode := .invalid
  uid : U32 := 0
  startBootTime : U64 := 0
  comm : Comm := Vector.replicate 16 0
  hasUid : U8 := 0
  hasComm : U8 := 0
  hasStartBootTime : U8 := 0
deriving DecidableEq

/-- `struct spz_binding`, which is also what a snapshot shows. -/
structure Binding where
  generation : U64 := 0
  state : BindingState := .empty
  request : BindingRequest := {}
  identity : TaskIdentity := {}
deriving DecidableEq

/-- A task as the module sees it. -/
structure KernelTask where
  address : U64
  pid : U32
  tgid : U32
  startTime : U64
  startBootTime : U64
  comm : Comm
  exitState : U32
  uid : Option U32
deriving DecidableEq

/-! ## Identities -/

/-- `spz_extract_identity`; the exit state it also delivers is the task's. -/
def extractIdentity (task : KernelTask) : Except Errno TaskIdentity :=
  match task.uid with
  | none => .error EFAULT
  | some uid => .ok
      { taskCookie := task.address
        pid := task.pid
        tgid := task.tgid
        uid := uid
        startTime := task.startTime
        startBootTime := task.startBootTime
        comm := task.comm.set 15 0 }

/-- The fields that tell one task from every other, pids being reused. -/
structure StrongIdentity where
  pid : U32
  tgid : U32
  startTime : U64
  startBootTime : U64
deriving DecidableEq

def TaskIdentity.strong (i : TaskIdentity) : StrongIdentity :=
  ⟨i.pid, i.tgid, i.startTime, i.startBootTime⟩

def KernelTask.strong (task : KernelTask) : StrongIdentity :=
  ⟨task.pid, task.tgid, task.startTime, task.startBootTime⟩

def sameStrongIdentity (left right : TaskIdentity) : Bool :=
  left.pid == right.pid && left.tgid == right.tgid && left.startTime == right.startTime &&
    left.startBootTime == right.startBootTime

lemma sameStrongIdentity_iff {left right : TaskIdentity} :
    sameStrongIdentity left right = true ↔ left.strong = right.strong := by
  simp [sameStrongIdentity, TaskIdentity.strong, and_assoc]

section

variable {task : KernelTask} {identity : TaskIdentity} (h : extractIdentity task = .ok identity)
include h

lemma extractIdentity_strong : identity.strong = task.strong := by
  unfold extractIdentity at h
  split at h
  · cases h
  · cases h
    rfl

lemma extractIdentity_comm : 0 ∈ identity.comm.toList := by
  unfold extractIdentity at h
  split at h
  · cases h
  · cases h
    rw [List.mem_iff_getElem]
    exact ⟨15, by simp, by simp⟩

end

def nextGeneration (generation : U64) : U64 :=
  if generation = BitVec.allOnes 64 then 1
  else if generation + 1 = 0 then 1 else generation + 1

/-! ## Requests -/

/-- The loop of `spz_safe_request_comm` from the given index on. -/
def safeCommFrom : ℕ → List U8 → Bool
  | _, [] => false
  | index, byte :: rest =>
    if byte = 0 then index != 0
    else if (0x61 ≤ byte ∧ byte ≤ 0x7a) ∨ (0x41 ≤ byte ∧ byte ≤ 0x5a) ∨
        (0x30 ≤ byte ∧ byte ≤ 0x39) ∨ byte = 0x2e ∨ byte = 0x5f ∨ byte = 0x3a ∨ byte = 0x2d then
      safeCommFrom (index + 1) rest
    else false

/-- `spz_safe_request_comm`: letters, digits, `.`, `_`, `:` and `-`, then a NUL. -/
def safeRequestComm (comm : Comm) : Bool := safeCommFrom 0 comm.toList

def requestValid (request : BindingRequest) : Bool :=
  if request.bindingId = 0 ∨ request.pid = 0 then false
  else if request.mode ≠ .pid ∧ request.mode ≠ .tgid ∧ request.mode ≠ .either then false
  else if request.hasUid > 1 ∨ request.hasComm > 1 ∨ request.hasStartBootTime > 1 then false
  else !(request.hasComm != 0 && !safeRequestComm request.comm)

/-- `strncmp(left, right, n) == 0` for buffers of `n` bytes. -/
def strncmpEq : List U8 → List U8 → Bool
  | a :: as, b :: bs => if a ≠ b then false else if a = 0 then true else strncmpEq as bs
  | _, _ => true

def selectorMatches (request : BindingRequest) (identity : TaskIdentity) : Bool :=
  (match request.mode with
    | .pid => identity.pid == request.pid
    | .tgid => identity.tgid == request.pid
    | _ => identity.pid == request.pid || identity.tgid == request.pid) &&
  !(request.hasUid != 0 && identity.uid != request.uid) &&
  !(request.hasComm != 0 && !strncmpEq identity.comm.toList request.comm.toList) &&
  !(request.hasStartBootTime != 0 && identity.startBootTime != request.startBootTime)

/-! ## The operations -/

section

variable (b : Binding)

/-- `spz_binding_set`; returns the new generation. -/
def bindingSet (request : BindingRequest) : Except Errno U64 × Binding :=
  if !requestValid request then (.error EINVAL, b)
  else
    (.ok (nextGeneration b.generation),
      { generation := nextGeneration b.generation, state := .pending, request := request })

def markStateIfGeneration (generation : U64) (required replacement : BindingState) :
    Except Errno Unit × Binding :=
  if b.generation ≠ generation ∨ b.state ≠ required then (.error ESTALE, b)
  else (.ok (), { b with state := replacement })

/-- `spz_binding_matches_current`: the identity if the current task is the bound one. -/
def bindingMatchesCurrent (task : KernelTask) (expectedGeneration : U64) :
    Except Errno (Option TaskIdentity) × Binding :=
  if b.generation ≠ expectedGeneration then (.error ESTALE, b)
  else
    match b.state with
    | .stale => (.error ESTALE, b)
    | .exited => (.error ESRCH, b)
    | .empty => (.ok none, b)
    | .pending => (.ok none, b)
    | .bound =>
      match extractIdentity task with
      | .error e => (.error e, b)
      | .ok current =>
        if current.pid ≠ b.identity.pid then (.ok none, b)
        else if !sameStrongIdentity b.identity current then
          (.error ESTALE, (markStateIfGeneration b b.generation .bound .stale).2)
        else if task.exitState ≠ 0 then
          (.error ESRCH, (markStateIfGeneration b b.generation .bound .exited).2)
        else (.ok (some { current with generation := b.generation }), b)

/-- `spz_binding_observe_current`: as above, and a pending binding is taken up by a task it
selects. -/
def bindingObserveCurrent (task : KernelTask) : Except Errno (Option TaskIdentity) × Binding :=
  match b.state with
  | .bound => bindingMatchesCurrent b task b.generation
  | .stale => (.error ESTALE, b)
  | .exited => (.error ESRCH, b)
  | .empty => (.ok none, b)
  | .pending =>
    match extractIdentity task with
    | .error e => (.error e, b)
    | .ok extracted =>
      if task.exitState ≠ 0 ∨ !selectorMatches b.request extracted then (.ok none, b)
      else
        let current := { extracted with generation := b.generation }
        (.ok (some current), { b with identity := current, state := .bound })

/-- `spz_binding_mark_exit`: whether the binding is now `EXITED`. -/
def bindingMarkExit (task : KernelTask) : Except Errno Bool × Binding :=
  if b.state ≠ .bound then (.ok false, b)
  else
    match extractIdentity task with
    | .error e => (.error e, b)
    | .ok current =>
      if !sameStrongIdentity b.identity current then (.ok false, b)
      else
        match markStateIfGeneration b b.generation .bound .exited with
        | (.ok (), b') => (.ok true, b')
        | (.error e, b') => (.error e, b')

def bindingClear : Binding := { generation := nextGeneration b.generation }

end

/-! ## What they do -/

/-- Everything the hooks can do to a binding: leave it, end it, or take it up. -/
inductive BindingEffect (b : Binding) (task : KernelTask) : Binding → Prop
  | same : BindingEffect b task b
  | ended {state : BindingState} : b.state = .bound → state = .stale ∨ state = .exited →
      BindingEffect b task { b with state := state }
  | taken {identity : TaskIdentity} : b.state = .pending → identity.strong = task.strong →
      identity.generation = b.generation → 0 ∈ identity.comm.toList →
      selectorMatches b.request identity = true →
      BindingEffect b task { b with identity := identity, state := .bound }

variable {b : Binding} {task : KernelTask} {identity : TaskIdentity}

lemma markStateIfGeneration_self (h : b.state = .bound) (replacement : BindingState) :
    markStateIfGeneration b b.generation .bound replacement =
      (.ok (), { b with state := replacement }) := by
  simp [markStateIfGeneration, h]

lemma BindingEffect.generation {b' : Binding} (h : BindingEffect b task b') :
    b'.generation = b.generation := by
  cases h <;> rfl

lemma BindingEffect.of_empty {b' : Binding} (h : BindingEffect b task b') (hb : b.state = .empty) :
    b' = b := by
  cases h with
  | same => rfl
  | ended hbound => simp [hb] at hbound
  | taken hpending => simp [hb] at hpending

lemma bindingMatchesCurrent_effect (generation : U64) :
    BindingEffect b task (bindingMatchesCurrent b task generation).2 := by
  unfold bindingMatchesCurrent
  split
  · exact .same
  · split
    · exact .same
    · exact .same
    · exact .same
    · exact .same
    next hbound =>
      split
      · exact .same
      · split_ifs
        · exact .same
        · rw [markStateIfGeneration_self hbound]
          exact .ended hbound (.inl rfl)
        · rw [markStateIfGeneration_self hbound]
          exact .ended hbound (.inr rfl)
        · exact .same

variable {generation : U64} {request : BindingRequest}

/-- A match: the binding is bound and unchanged, and the current task is the bound one. -/
lemma bindingMatchesCurrent_some
    (h : (bindingMatchesCurrent b task generation).1 = .ok (some identity)) :
    b.state = .bound ∧ (bindingMatchesCurrent b task generation).2 = b ∧
      identity.strong = task.strong ∧ b.identity.strong = task.strong ∧
      identity.generation = b.generation := by
  unfold bindingMatchesCurrent at h ⊢
  split at h
  · cases h
  next hgen =>
    rw [if_neg hgen]
    cases hstate : b.state with
    | bound =>
      simp only [hstate] at h ⊢
      cases hex : extractIdentity task with
      | error e => simp [hex] at h
      | ok current =>
        simp only [hex] at h ⊢
        have hstrong := extractIdentity_strong hex
        split_ifs at h ⊢ with hpid hsame hexit
        · cases h
        · simp only [Except.ok.injEq, Option.some.injEq] at h
          subst h
          have hsame : sameStrongIdentity b.identity current = true := by simpa using hsame
          exact ⟨trivial, rfl, hstrong, (sameStrongIdentity_iff.mp hsame).trans hstrong, rfl⟩
    | _ => simp [hstate] at h

lemma bindingMatchesCurrent_bound (hbound : b.state = .bound)
    (hstrong : b.identity.strong = task.strong) (halive : task.exitState = 0)
    (hid : extractIdentity task = .ok identity) :
    bindingMatchesCurrent b task b.generation =
      (.ok (some { identity with generation := b.generation }), b) := by
  have hsame : b.identity.strong = identity.strong :=
    hstrong.trans (extractIdentity_strong hid).symm
  have hpid : identity.pid = b.identity.pid := congrArg StrongIdentity.pid hsame.symm
  have hmatch := sameStrongIdentity_iff.mpr hsame
  simp [bindingMatchesCurrent, hbound, hid, hpid, hmatch, halive]

lemma bindingObserveCurrent_effect : BindingEffect b task (bindingObserveCurrent b task).2 := by
  unfold bindingObserveCurrent
  split
  · exact bindingMatchesCurrent_effect _
  · exact .same
  · exact .same
  · exact .same
  next hpending =>
    split
    · exact .same
    next extracted hex =>
      split
      · exact .same
      next hselected =>
        simp only [not_or, Bool.not_eq_true', Bool.not_eq_false] at hselected
        have hstrong := extractIdentity_strong hex
        have hcomm := extractIdentity_comm hex
        exact .taken hpending hstrong rfl hcomm hselected.2

lemma bindingObserveCurrent_state
    (h : (bindingObserveCurrent b task).1 = .ok (some identity)) : b.state ≠ .empty := by
  intro hempty
  simp [bindingObserveCurrent, hempty] at h

lemma bindingMarkExit_effect : BindingEffect b task (bindingMarkExit b task).2 := by
  unfold bindingMarkExit
  split
  · exact .same
  next hbound =>
    split
    · exact .same
    · split
      · exact .same
      · rw [markStateIfGeneration_self (not_not.mp hbound)]
        exact .ended (not_not.mp hbound) (.inr rfl)

lemma bindingSet_ok (h : (bindingSet b request).1 = .ok generation) : (bindingSet b request).2 =
      { generation := nextGeneration b.generation, state := .pending, request := request } := by
  unfold bindingSet at h ⊢
  split_ifs at h ⊢
  rfl

lemma bindingSet_valid
    (h : (bindingSet b request).1 = .ok generation) : requestValid request = true := by
  unfold bindingSet at h
  split_ifs at h with hvalid
  simpa using hvalid

lemma bindingSet_error {e : Errno} (h : (bindingSet b request).1 = .error e) :
    (bindingSet b request).2 = b ∧ e = EINVAL := by
  unfold bindingSet at h ⊢
  split_ifs at h ⊢
  cases h
  exact ⟨rfl, rfl⟩

end Spz
