import Stackplz.Module.State

/-!
# Control commands

`control.c` from the parsed command to the answer: what each command does to the module, and the
values its answer carries.  The text of commands and answers is not part of this.
-/

namespace Spz

open Errno

/-! ## Commands and answers -/

structure BindCommand where
  pid : U32
  mode : BindMode
  uid : U32 := 0
  startBootTime : U64 := 0
  comm : Comm := Vector.replicate 16 0
  hasUid : U8 := 0
  hasComm : U8 := 0
  hasStartBootTime : U8 := 0

structure BreakCommand where
  id : U32
  kind : BreakKind
  address : U64
  length : U8
  mode : BreakMode

inductive Command
  | status
  | profile
  | bind (command : BindCommand)
  | break (command : BreakCommand)
  | enable (id : U32)
  | disable (id : U32)
  | clear
  | poll (after : U64) (hasAfter : U8)
  | audit
  | maps
  | mapsRead (snapshot : U64) (offset : U32)

/-- What `spz_status_fields` reports. -/
structure StatusFields where
  binding : Binding
  configured : Bool
  enabled : Bool
  mapsState : MapsState
  mapsSnapshot : U64
  mapsLength : U32
  requestId : U64
  requestState : AsyncState
  requestStatus : Except Errno Unit

/-- The values of a successful answer. -/
inductive Reply
  | status (fields : StatusFields)
  | profile
  | bound (bindingId : U32) (generation : U64)
  | configured (id : U32) (encoding : Encoding)
  | request (id : U64)
  | event (event : Option Event)
  | chunk (read : MapsRead)

/-- What a command gets from its surroundings: the answer of the work queue, and whether somebody
is writing to the maps store. -/
structure ControlEnv where
  queue : Except Errno Unit := .ok ()
  mapsBusy : Bool := false

/-! ## The commands -/

def nextBindingId (counter : U32) : U32 := if counter + 1 = 0 then 1 else counter + 1

section

variable (m : ModuleState)

/-- The request `spz_control_bind` builds. -/
def bindRequest (command : BindCommand) : BindingRequest :=
  { bindingId := nextBindingId m.bindingCounter
    pid := command.pid
    mode := command.mode
    uid := command.uid
    startBootTime := command.startBootTime
    comm := command.comm
    hasUid := command.hasUid
    hasComm := command.hasComm
    hasStartBootTime := command.hasStartBootTime }

def controlBind (command : BindCommand) : Except Errno Reply × ModuleState :=
  if !m.acceptingCommands || asyncBusy m.async || mapsHasTask m.maps || m.breakpointConfigured then
    (.error EBUSY, m)
  else
    match bindingSet m.binding (bindRequest m command) with
    | (.error e, b) => (.error e, { m with binding := b })
    | (.ok generation, b) =>
      (.ok (.bound (nextBindingId m.bindingCounter) generation),
        { m with binding := b, bindingCounter := nextBindingId m.bindingCounter })

def controlBreak (command : BreakCommand) : Except Errno Reply × ModuleState :=
  if !m.acceptingCommands || asyncBusy m.async || m.breakpointEnabled then (.error EBUSY, m)
  else if m.binding.state = .empty then (.error ENOENT, m)
  else
    let request : DebugRequest :=
      { id := command.id
        kind := command.kind
        address := command.address
        length := command.length
        mode := command.mode }
    match debugValidateRequest request with
    | .error e => (.error e, m)
    | .ok encoding =>
      (.ok (.configured request.id encoding),
        { m with breakpoint := request, breakpointConfigured := true })

def controlAsync (operation : AsyncOperation) (targetId : U32) (env : ControlEnv) :
    Except Errno Reply × ModuleState :=
  if !m.acceptingCommands then (.error EBUSY, m)
  else
    let out := asyncSubmit m.async operation targetId env.queue
    (out.1.map .request, { m with async := out.2 })

def controlPoll (after : U64) (hasAfter : U8) : Except Errno Reply × ModuleState :=
  let out := ringPopAfter m.ring (if hasAfter ≠ 0 then after else 0)
  (out.1.map .event, { m with ring := out.2 })

/-- `spz_control_maps_read`, whose reader leaves before the command ends. -/
def controlMapsRead (snapshot : U64) (offset : U32) (env : ControlEnv) :
    Except Errno Reply × ModuleState :=
  ((mapsReadBegin m.maps snapshot offset env.mapsBusy).map .chunk, m)

def statusFields : StatusFields :=
  { binding := m.binding
    configured := m.breakpointConfigured
    enabled := m.breakpointEnabled
    mapsState := m.maps.state
    mapsSnapshot := m.maps.snapshot
    mapsLength := m.maps.length
    requestId := m.async.requestId
    requestState := m.async.state
    requestStatus := m.async.status }

def controlDispatch (env : ControlEnv) :
    Command → Except Errno Reply × ModuleState
  | .status => (.ok (.status (statusFields m)), m)
  | .profile => (.ok .profile, m)
  | .bind command => controlBind m command
  | .break command => controlBreak m command
  | .enable id => controlAsync m .enable id env
  | .disable id =>
    if !m.breakpointEnabled then (.ok (.request 0), m) else controlAsync m .disable id env
  | .clear => controlAsync m .clear 0 env
  | .poll after hasAfter => controlPoll m after hasAfter
  | .audit => controlAsync m .audit 0 env
  | .maps => if !mapsSupported m.maps then (.error EOPNOTSUPP, m) else controlAsync m .maps 0 env
  | .mapsRead snapshot offset => controlMapsRead m snapshot offset env

end

/-! ## What they do -/

/-- Everything a command can do to the module. -/
inductive CommandEffect (m : ModuleState) (env : ControlEnv) : Command → ModuleState → Prop
  | same (command : Command) : CommandEffect m env command m
  | bound {command : BindCommand} {b : Binding} : asyncBusy m.async = false →
      mapsHasTask m.maps = false → m.breakpointConfigured = false →
      b = { generation := nextGeneration m.binding.generation, state := .pending,
            request := bindRequest m command } →
      requestValid (bindRequest m command) = true →
      CommandEffect m env (.bind command)
        { m with binding := b, bindingCounter := nextBindingId m.bindingCounter }
  | configured {command : BreakCommand} {request : DebugRequest} {encoding : Encoding} :
      asyncBusy m.async = false → m.breakpointEnabled = false → m.binding.state ≠ .empty →
      debugValidateRequest request = .ok encoding →
      CommandEffect m env (.break command)
        { m with breakpoint := request, breakpointConfigured := true }
  | submitted {command : Command} {operation : AsyncOperation} {targetId : U32} :
      (operation = .enable → command = .enable targetId) →
      (operation = .disable → command = .disable targetId) →
      CommandEffect m env command
        { m with async := (asyncSubmit m.async operation targetId env.queue).2 }
  | polled {after : U64} {hasAfter : U8} (ring : Ring) :
      CommandEffect m env (.poll after hasAfter) { m with ring := ring }

variable {command : Command} {m m' : ModuleState} {env : ControlEnv}

section

variable (m env)

lemma controlAsync_effect {operation : AsyncOperation} {targetId : U32}
    (hen : operation = .enable → command = .enable targetId)
    (hdis : operation = .disable → command = .disable targetId) :
    CommandEffect m env command (controlAsync m operation targetId env).2 := by
  unfold controlAsync
  split_ifs
  · exact .same _
  · exact .submitted hen hdis

lemma controlBind_effect (command : BindCommand) :
    CommandEffect m env (.bind command) (controlBind m command).2 := by
  unfold controlBind
  split_ifs with hbusy
  · exact .same _
  · simp only [Bool.or_eq_true, not_or, Bool.not_eq_true] at hbusy
    obtain ⟨⟨⟨-, hasync⟩, htask⟩, hconf⟩ := hbusy
    cases hset : bindingSet m.binding (bindRequest m command) with
    | mk r b =>
      cases r with
      | error e =>
        have hb := (bindingSet_error (b := m.binding) (e := e) (by rw [hset])).1
        rw [hset] at hb
        obtain rfl : b = m.binding := hb
        exact .same _
      | ok generation =>
        have hok : (bindingSet m.binding (bindRequest m command)).1 = .ok generation := by
          rw [hset]
        have hb := bindingSet_ok hok
        rw [hset] at hb
        exact .bound hasync htask hconf hb (bindingSet_valid hok)

lemma controlBreak_effect (command : BreakCommand) :
    CommandEffect m env (.break command) (controlBreak m command).2 := by
  unfold controlBreak
  split_ifs with hbusy hempty
  · exact .same _
  · exact .same _
  · simp only [Bool.or_eq_true, not_or, Bool.not_eq_true] at hbusy
    dsimp only
    split
    · exact .same _
    next hvalid => exact .configured hbusy.1.2 hbusy.2 hempty hvalid

/-- Every command has such an effect. -/
lemma controlDispatch_effect :
    ∀ command : Command, CommandEffect m env command (controlDispatch m env command).2
  | .status => .same _
  | .profile => .same _
  | .bind command => controlBind_effect m env command
  | .break command => controlBreak_effect m env command
  | .enable id => controlAsync_effect m env (fun _ => rfl) (by simp)
  | .disable id => by
    simp only [controlDispatch]
    split_ifs
    · exact .same _
    · exact controlAsync_effect m env (by simp) fun _ => rfl
  | .clear => controlAsync_effect m env (by simp) (by simp)
  | .poll after hasAfter => .polled _
  | .audit => controlAsync_effect m env (by simp) (by simp)
  | .maps => by
    simp only [controlDispatch]
    split_ifs
    · exact .same _
    · exact controlAsync_effect m env (by simp) (by simp)
  | .mapsRead snapshot offset => .same _

end

section

variable (h : CommandEffect m env command m')
include h

lemma CommandEffect.busy (hbusy : asyncBusy m.async = true) :
    ∃ ring, m' = { m with ring := ring } := by
  cases h with
  | same => exact ⟨m.ring, rfl⟩
  | bound hidle => simp [hbusy] at hidle
  | configured hidle => simp [hbusy] at hidle
  | @submitted _ operation targetId _ _ =>
    obtain ⟨e, h⟩ := asyncSubmit_busy hbusy operation targetId env.queue
    rw [h]
    exact ⟨m.ring, rfl⟩
  | polled ring => exact ⟨ring, rfl⟩

lemma CommandEffect.accepting : m'.acceptingCommands = m.acceptingCommands := by
  cases h <;> rfl

lemma CommandEffect.not_running (hidle : m.async.state ≠ .running) : m'.async.state ≠ .running := by
  cases h with
  | @submitted _ operation targetId _ _ =>
    rcases asyncSubmit_effect m.async operation targetId env.queue with
      h | ⟨-, ⟨h, -⟩ | ⟨h, -, -⟩⟩
    · dsimp only
      rwa [h]
    all_goals simp [h]
  | _ => exact hidle

end

lemma controlBind_ready (hacc : m.acceptingCommands = true) (hidle : asyncBusy m.async = false)
    (htask : mapsHasTask m.maps = false) (hconf : m.breakpointConfigured = false)
    (command : BindCommand) : (controlBind m command).1 ≠ .error EBUSY := by
  unfold controlBind
  rw [if_neg (by simp [hacc, hidle, htask, hconf])]
  cases hset : bindingSet m.binding (bindRequest m command) with
  | mk r b =>
    cases r with
    | ok generation => simp
    | error e =>
      have he := (bindingSet_error (b := m.binding) (e := e) (by rw [hset])).2
      rw [he]
      simp [EINVAL, EBUSY]

/-- Commands given while a request is pending or running leave everything but the ring alone. -/
theorem commands_while_busy (commands : List (Command × ControlEnv))
    (hbusy : asyncBusy m.async = true) : ∃ ring,
      commands.foldl (fun m c => (controlDispatch m c.2 c.1).2) m = { m with ring := ring } := by
  induction commands generalizing m with
  | nil => exact ⟨m.ring, rfl⟩
  | cons c commands ih =>
    obtain ⟨ring, hring⟩ := (controlDispatch_effect m c.2 c.1).busy hbusy
    rw [List.foldl_cons, hring]
    exact ih hbusy

theorem commands_while_clearing :
    let m := (controlDispatch (moduleInit (fun _ => blankRegs) {}) {} .clear).2
    m.async.state = .pending ∧ ∃ ring,
      [(.bind { pid := 7, mode := .pid }, {}), (.enable 1, {})].foldl
        (fun m (c : Command × ControlEnv) => (controlDispatch m c.2 c.1).2) m =
          { m with ring := ring } :=
  ⟨rfl, commands_while_busy _ rfl⟩

lemma controlAsync_reply {operation : AsyncOperation} {targetId : U32} {reply : Reply}
    (h : (controlAsync m operation targetId env).1 = .ok reply) : ∃ id, reply = .request id := by
  unfold controlAsync at h
  split_ifs at h
  cases hout : (asyncSubmit m.async operation targetId env.queue).1 with
  | error e => simp [hout, Except.map] at h
  | ok id =>
    simp only [hout, Except.map, Except.ok.injEq] at h
    exact ⟨id, h.symm⟩

/-- A chunk is the answer to a `maps-read`. -/
lemma controlDispatch_chunk
    {read : MapsRead} (h : (controlDispatch m env command).1 = .ok (.chunk read)) :
    ∃ snapshot offset, mapsReadBegin m.maps snapshot offset env.mapsBusy = .ok read := by
  cases command with
  | bind command =>
    simp only [controlDispatch, controlBind] at h
    split_ifs at h
    split at h <;> cases h
  | «break» command =>
    simp only [controlDispatch, controlBreak] at h
    split_ifs at h
    split at h <;> cases h
  | poll after hasAfter =>
    simp only [controlDispatch, controlPoll] at h
    generalize (ringPopAfter m.ring (if hasAfter ≠ 0 then after else 0)).1 = out at h
    cases out <;> cases h
  | mapsRead snapshot offset =>
    refine ⟨snapshot, offset, ?_⟩
    simp only [controlDispatch, controlMapsRead] at h
    cases hout : mapsReadBegin m.maps snapshot offset env.mapsBusy with
    | error e => simp [hout, Except.map] at h
    | ok found =>
      simp only [hout, Except.map, Except.ok.injEq, Reply.chunk.injEq] at h
      rw [h]
  | disable id =>
    simp only [controlDispatch] at h
    split_ifs at h
    · cases h
    · obtain ⟨id, hid⟩ := controlAsync_reply h
      cases hid
  | maps =>
    simp only [controlDispatch] at h
    split_ifs at h
    obtain ⟨id, hid⟩ := controlAsync_reply h
    cases hid
  | enable id | clear | audit =>
    obtain ⟨id, hid⟩ := controlAsync_reply h
    cases hid
  | _ => cases h

end Spz
