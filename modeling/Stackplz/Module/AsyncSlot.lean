import Stackplz.Lib.Transition
import Stackplz.Module.State

/-!
# The asynchronous slot, step by step

`spz_async_submit`, `spz_async_run` and `spz_async_snapshot` of `async.c`, one access to the slot at
a time.  The control gate lets one control call through at a time, so submits and snapshots follow
each other; workers run at any time and as often as they like, also when nothing was queued.

The slot has one word for its state and plain fields beside it.  `RUNNING` serves twice as a lock:
a submit holds it while it writes the request, and a worker while it executes it.  The history is
kept beside the slot: the requests in the order in which they were published, those whose execution
was begun, and what became of them.

Whether the queue takes a request is known from the start of the submit here (`Submission.queue`),
which is how a worker run can be kept out of a submit that will fail.
-/

namespace Spz

open Errno Transition

/-! ## The steps -/

/-- The arguments of an `spz_async_submit`, and what the queue will answer. -/
structure Submission where
  operation : AsyncOperation
  targetId : U32
  queue : Except Errno Unit

structure AsyncSnapshot where
  state : AsyncState
  operation : AsyncOperation
  requestId : U64
  targetId : U32
  status : Except Errno Unit

/-- Where the control call stands; the name says what it does next. -/
inductive SlotPc
  | idle
  /-- The load of the state in `spz_async_submit`. -/
  | load (r : Submission)
  /-- The compare-and-swap to `RUNNING`. -/
  | swap (r : Submission) (observed : AsyncState)
  | setOperation (r : Submission)
  | setTarget (r : Submission)
  | setStatus (r : Submission)
  | nextId (r : Submission)
  | setId (r : Submission) (id : U64)
  /-- The store of `PENDING`. -/
  | publish (r : Submission) (id : U64)
  | queue (r : Submission)
  /-- The stores of a submit whose request was not queued. -/
  | failStatus (r : Submission) (e : Errno)
  | failDone (r : Submission) (e : Errno)
  /-- The load of the number that is answered. -/
  | answer
  | submitted (result : Except Errno U64)
  /-- The first load of the state in `spz_async_snapshot`, and the fields in turn. -/
  | look (attempt : ℕ)
  | lookOperation (attempt : ℕ) (state : AsyncState)
  | lookId (attempt : ℕ) (state : AsyncState) (operation : AsyncOperation)
  | lookTarget (attempt : ℕ) (state : AsyncState) (operation : AsyncOperation) (id : U64)
  | lookStatus (attempt : ℕ) (state : AsyncState) (operation : AsyncOperation) (id : U64)
      (target : U32)
  /-- The second load of the state. -/
  | lookAgain (attempt : ℕ) (snapshot : AsyncSnapshot)
  | snapped (result : Except Errno AsyncSnapshot)

/-- Where a run of `spz_async_run` stands; the number is that of the request it has taken. -/
inductive RunPc
  | idle
  /-- The loads of the arguments of the execution. -/
  | loadOperation (id : U64)
  | loadTarget (id : U64) (operation : AsyncOperation)
  /-- Between the two, `backend.execute` is in progress. -/
  | execute (id : U64) (operation : AsyncOperation) (target : U32)
  | executing (id : U64) (operation : AsyncOperation) (target : U32)
  | setStatus (id : U64) (status : Except Errno Unit)
  | setDone (id : U64) (status : Except Errno Unit)
  /-- The load of the status by a run that found the request done. -/
  | readStatus
  | returned (status : Except Errno Unit)

/-- The slot, who uses it, and what has happened. -/
structure AsyncWorld where
  slot : AsyncRequest := {}
  control : SlotPc := .idle
  workers : ℕ → RunPc := fun _ => .idle
  submitted : List (U64 × AsyncOperation × U32) := []
  executed : List (U64 × AsyncOperation × U32) := []
  /-- The executions that have returned, with their status. -/
  finished : List (U64 × Except Errno Unit) := []
  /-- The requests that were not queued, with the status for it. -/
  refused : List (U64 × Except Errno Unit) := []

/-- The head of the loop in `spz_async_submit`. -/
def submitLoop (r : Submission) (observed : AsyncState) : SlotPc :=
  match observed with
  | .pending | .running => .submitted (.error EBUSY)
  | .free | .done => .swap r observed

/-- The next attempt of `spz_async_snapshot`, which has 16. -/
def snapshotAgain (attempt : ℕ) : SlotPc :=
  if attempt + 1 < 16 then .look (attempt + 1) else .snapped (.error EAGAIN)

/-- The next step of the control call. -/
def AsyncWorld.controlStep (s : AsyncWorld) : AsyncWorld :=
  match s.control with
  | .load r => { s with control := submitLoop r s.slot.state }
  | .swap r observed =>
    if s.slot.state = observed then
      { s with slot := { s.slot with state := .running }, control := .setOperation r }
    else { s with control := submitLoop r s.slot.state }
  | .setOperation r =>
    { s with slot := { s.slot with operation := r.operation }, control := .setTarget r }
  | .setTarget r =>
    { s with slot := { s.slot with targetId := r.targetId }, control := .setStatus r }
  | .setStatus r =>
    { s with slot := { s.slot with status := .error EINPROGRESS }, control := .nextId r }
  | .nextId r =>
    { s with
      slot := { s.slot with nextRequestId := asyncNextId s.slot }
      control := .setId r (asyncNextId s.slot) }
  | .setId r id => { s with slot := { s.slot with requestId := id }, control := .publish r id }
  | .publish r id =>
    { s with
      slot := { s.slot with state := .pending }
      control := .queue r
      submitted := s.submitted ++ [(id, r.operation, r.targetId)] }
  | .queue r =>
    match r.queue with
    | .ok () => { s with control := .answer }
    | .error e =>
      { s with
        control := .failStatus r e
        refused := s.refused ++ [(s.slot.requestId, .error (transportError e))] }
  | .failStatus r e =>
    { s with
      slot := { s.slot with status := .error (transportError e) }
      control := .failDone r e }
  | .failDone _ e =>
    { s with
      slot := { s.slot with state := .done }
      control := .submitted (.error (transportError e)) }
  | .answer => { s with control := .submitted (.ok s.slot.requestId) }
  | .look attempt => { s with control := .lookOperation attempt s.slot.state }
  | .lookOperation attempt state => { s with control := .lookId attempt state s.slot.operation }
  | .lookId attempt state operation =>
    { s with control := .lookTarget attempt state operation s.slot.requestId }
  | .lookTarget attempt state operation id =>
    { s with control := .lookStatus attempt state operation id s.slot.targetId }
  | .lookStatus attempt state operation id target =>
    { s with control := .lookAgain attempt ⟨state, operation, id, target, s.slot.status⟩ }
  | .lookAgain attempt snapshot =>
    { s with
      control := if snapshot.state = s.slot.state then .snapped (.ok snapshot)
        else snapshotAgain attempt }
  | .idle | .submitted _ | .snapped _ => s

section

variable (s : AsyncWorld) (w : ℕ)

def AsyncWorld.setWorker (pc : RunPc) : AsyncWorld :=
  { s with workers := Function.update s.workers w pc }

/-- The first step of a run: the compare-and-swap from `PENDING` to `RUNNING`. -/
def AsyncWorld.take : AsyncWorld :=
  match s.slot.state with
  | .pending =>
    { s with slot := { s.slot with state := .running } }.setWorker w
      (.loadOperation s.slot.requestId)
  | .done => s.setWorker w .readStatus
  | .free | .running => s.setWorker w (.returned (.error EBUSY))

/-- Its other steps. -/
def AsyncWorld.runStep : AsyncWorld :=
  match s.workers w with
  | .loadOperation id => s.setWorker w (.loadTarget id s.slot.operation)
  | .loadTarget id operation => s.setWorker w (.execute id operation s.slot.targetId)
  | .execute id operation target =>
    { s with executed := s.executed ++ [(id, operation, target)] }.setWorker w
      (.executing id operation target)
  | .setStatus id status =>
    { s with slot := { s.slot with status := status } }.setWorker w (.setDone id status)
  | .setDone _ status =>
    { s with slot := { s.slot with state := .done } }.setWorker w (.returned status)
  | .readStatus => s.setWorker w (.returned s.slot.status)
  | .idle | .executing _ _ _ | .returned _ => s

/-- `backend.execute` returns. -/
def AsyncWorld.executeReturns (status : Except Errno Unit) : AsyncWorld :=
  match s.workers w with
  | .executing id _ _ =>
    { s with finished := s.finished ++ [(id, status)] }.setWorker w (.setStatus id status)
  | _ => s

end

namespace SlotPc

/-- Between two control calls. -/
def resting : SlotPc → Bool
  | .idle | .submitted _ | .snapped _ => true
  | .load _ | .swap _ _ | .setOperation _ | .setTarget _ | .setStatus _ | .nextId _ | .setId _ _
  | .publish _ _ | .queue _ | .failStatus _ _ | .failDone _ _ | .answer | .look _
  | .lookOperation _ _ | .lookId _ _ _ | .lookTarget _ _ _ _ | .lookStatus _ _ _ _ _
  | .lookAgain _ _ => false

def submission? : SlotPc → Option Submission
  | .load r | .swap r _ | .setOperation r | .setTarget r | .setStatus r | .nextId r | .setId r _
  | .publish r _ | .queue r | .failStatus r _ | .failDone r _ => some r
  | .idle | .submitted _ | .snapped _ | .answer | .look _ | .lookOperation _ _ | .lookId _ _ _
  | .lookTarget _ _ _ _ | .lookStatus _ _ _ _ _ | .lookAgain _ _ => none

end SlotPc

/-- Between two runs. -/
def RunPc.resting : RunPc → Bool
  | .idle | .returned _ => true
  | .loadOperation _ | .loadTarget _ _ | .execute _ _ _ | .executing _ _ _ | .setStatus _ _
  | .setDone _ _ | .readStatus => false

/-- What can happen: a control call begins, the control call makes its next step, a run begins with
its first step, a run makes its next step, an execution returns. -/
inductive AsyncAct
  | submit (r : Submission)
  | snapshot
  | control
  | run (w : ℕ)
  | worker (w : ℕ)
  | executed (w : ℕ) (status : Except Errno Unit)

def AsyncWorld.next (s : AsyncWorld) : AsyncAct → Option AsyncWorld
  | .submit r =>
    if s.control.resting then
      some { s with
        control := if r.operation = .none then .submitted (.error EINVAL) else .load r }
    else none
  | .snapshot => if s.control.resting then some { s with control := .look 0 } else none
  | .control => some s.controlStep
  | .run w => if (s.workers w).resting then some (s.take w) else none
  | .worker w => some (s.runStep w)
  | .executed w status => some (s.executeReturns w status)

/-- The slot from `spz_async_init` on. -/
def asyncSystem : System AsyncWorld AsyncAct := .ofStep (· = {}) AsyncWorld.next

/-- No run begins while a submit is under way that will not be queued. -/
def RunOutsideFailure (s : AsyncWorld) : AsyncAct → Prop
  | .run _ => ∀ r, s.control.submission? = some r → r.queue = .ok ()
  | _ => True

/-- The number of the next request is not about to wrap around. -/
def IdsLeft (s : AsyncWorld) (_ : AsyncAct) : Prop :=
  s.slot.nextRequestId ≠ BitVec.allOnes 64

end Spz
