import Stackplz.Text.Parse

/-!
# Answers

`control.c` from the result of a command to the text of its answer, and `spz_kpm_control` above it.
The fields of an answer are written to a scratch buffer while the command is executed; the answer is
then put together in the buffer of the caller, behind the status and the version.

Each writer appends the text of its fields (`replyText_appends`), so that an answer is its text if
that fits, and `-ENOSPC` if it does not (`controlOutput_eq`).  The command has been executed by
then.
-/

namespace Spz

open Errno Numerals Text Appends

def controlResponseMax : ℕ := 4096

/-! ## Names -/

def bindingStateName : BindingState → String
  | .empty => "none"
  | .pending => "pending"
  | .bound => "bound"
  | .stale => "stale"
  | .exited => "exited"

def asyncStateName : AsyncState → String
  | .free => "free"
  | .pending => "pending"
  | .running => "running"
  | .done => "done"

/-- The names of `spz_status_fields` for the states of the maps store. -/
def mapsStateName : MapsState → String
  | .unsupported => "unsupported"
  | .empty => "empty"
  | .taskCaptured => "task"
  | .ready => "ready"

/-- The cases of `spz_control_reason`, apart from 0 and the default. -/
def reasons : List (Errno × String) :=
  [(EINVAL, "invalid"), (ENOENT, "not_found"), (EBUSY, "busy"), (EAGAIN, "pending"),
    (ESTALE, "stale"), (ESRCH, "exited"), (ENOSPC, "no_space"), (EUCLEAN, "quarantined"),
    (ERANGE, "range"), (E2BIG, "too_large"), (EOPNOTSUPP, "unsupported")]

/-- `spz_control_reason`, for a status that is not 0. -/
def controlReason (status : Errno) : String := (reasons.lookup status).getD "failed"

/-- The `int` that a result is. -/
def statusCode {α : Type} : Except Errno α → ℤ
  | .ok _ => 0
  | .error e => e.code

lemma statusCode_int {α : Type} (status : Except Errno α) :
    -2 ^ 31 ≤ statusCode status ∧ statusCode status < 2 ^ 31 := by
  cases status with
  | ok _ =>
    show -2 ^ 31 ≤ (0 : ℤ) ∧ (0 : ℤ) < 2 ^ 31
    decide
  | error e => exact e.code_int

/-- What the module has been built for, and its `ready` flag. -/
structure ModuleNames where
  ready : Bool := true
  profile : List U8
  release : List U8
  kpver : List U8

/-! ## The fields of an answer -/

namespace Text

variable (text : Text) (key : String)

/-- `spz_text_token_string`. -/
def tokenString (value : List U8) : Text :=
  (((text.char space).bytes (ascii key)).char equals).bytes value

/-- `spz_text_token_hex`. -/
def tokenHex (value : List U8) : Text :=
  (((text.char space).bytes (ascii key)).char equals).hex value

/-- `spz_text_token_u64`. -/
def tokenU64 (value : U64) : Text :=
  (((text.char space).bytes (ascii key)).char equals).u64 value

end Text

/-- The fields of `spz_status_fields` for the task that is bound. -/
def identityText (identity : TaskIdentity) (text : Text) : Text :=
  (((((((text.tokenU64 "generation" identity.generation).tokenU64 "task_cookie"
    identity.taskCookie).tokenU64 "pid" (identity.pid.setWidth 64)).tokenU64 "tgid"
    (identity.tgid.setWidth 64)).tokenU64 "uid" (identity.uid.setWidth 64)).tokenU64 "start_time"
    identity.startTime).tokenU64 "start_boottime" identity.startBootTime).tokenHex "comm_hex"
    identity.comm.toList

/-- The fields of `spz_status_fields` for the breakpoint and the maps store. -/
def storesText (f : StatusFields) (text : Text) : Text :=
  (((((text.tokenU64 "configured" (if f.configured then 1 else 0)).tokenU64 "enabled"
    (if f.enabled then 1 else 0)).tokenU64 "maps_supported"
    (if f.mapsState = .unsupported then 0 else 1)).tokenString "maps_state"
    (ascii (mapsStateName f.mapsState))).tokenU64 "maps_snapshot" f.mapsSnapshot).tokenU64
    "maps_size" (f.mapsLength.setWidth 64)

/-- The fields of `spz_status_fields` for the asynchronous request. -/
def requestText (f : StatusFields) (text : Text) : Text :=
  ((((text.tokenU64 "request" f.requestId).tokenString "request_state"
    (ascii (asyncStateName f.requestState))).char space).bytes (ascii "request_status=")).i64
    (statusCode f.requestStatus)

/-- `spz_status_fields`. -/
def statusText (names : ModuleNames) (f : StatusFields) (text : Text) : Text :=
  let text := ((text.tokenString "state" (ascii (if names.ready then "ready" else "rejected"))
    ).tokenString "profile" names.profile).tokenString "binding"
    (ascii (bindingStateName f.binding.state))
  let text := if f.binding.state = .bound then identityText f.binding.identity text else text
  requestText f (storesText f text)

/-- What a successful command writes. -/
def replyText (names : ModuleNames) : Reply → Text → Text
  | .status fields, text => statusText names fields text
  | .profile, text =>
    ((text.tokenString "profile" names.profile).tokenString "kernel" names.release).tokenString
      "kpatch" names.kpver
  | .bound bindingId generation, text =>
    (text.tokenU64 "binding_id" (bindingId.setWidth 64)).tokenU64 "generation" generation
  | .configured id encoding, text =>
    (((text.tokenU64 "id" (id.setWidth 64)).tokenU64 "value" encoding.value).tokenU64 "control"
      (encoding.control.setWidth 64)).tokenU64 "bas" (encoding.bas.setWidth 64)
  | .request id, text => text.tokenU64 "request" id
  | .event none, text => text.tokenU64 "empty" 1
  | .event (some event), text => (text.bytes (ascii " event=")).hex event.wire
  | .chunk read, text =>
    (((((text.tokenU64 "snapshot" read.snapshot).tokenU64 "offset"
      (read.offset.setWidth 64)).tokenU64 "total" (read.total.setWidth 64)).tokenU64 "crc32"
      (read.crc32.setWidth 64)).tokenU64 "eof" (if read.eof then 1 else 0)).tokenHex "data"
      read.data

/-! ## The answer -/

/-- The command of `spz_control_execute`: its status, and the scratch buffer if that is 0. -/
def controlCommand (names : ModuleNames) (m : ModuleState) (env : ControlEnv) (command : List U8) :
    Except Errno (List U8) × ModuleState :=
  match parseCommand command none with
  | (.error e, _) => (.error e, m)
  -- the kind of a record of zeros is none of those that are dispatched
  | (.ok (), none) => (.error EINVAL, m)
  | (.ok (), some parsed) =>
    match controlDispatch m env parsed with
    | (.error e, m') => (.error e, m')
    | (.ok reply, m') =>
      let extra := replyText names reply { capacity := controlResponseMax }
      match extra.error with
      | some e => (.error e, m')
      | none => (.ok extra.data, m')

/-- The answer of `spz_control_execute` in a buffer of the given size. -/
def controlOutput (status : Except Errno (List U8)) (capacity : ℕ) : Except Errno (List U8) :=
  let head := ((({ capacity := capacity } : Text).bytes (ascii "status=")).i64
    (statusCode status)).bytes (ascii " version=1")
  let output := match status with
    | .ok extra => head.bytes extra
    | .error e => head.tokenString "reason" (ascii (controlReason e))
  match output.error with
  | some e => .error e
  | none => if output.data.length = output.capacity then .error ENOSPC else .ok output.data

section

variable (names : ModuleNames) (m : ModuleState) (env : ControlEnv) (controlBusy : Bool)

/-- `spz_control_execute`: the text of the answer, or the error, and the module.  `controlBusy` says
that another command is being executed. -/
def controlExecute (command : List U8) (capacity : ℕ) : Except Errno (List U8) × ModuleState :=
  if capacity = 0 ∨ capacity > controlResponseMax then (.error EINVAL, m)
  else
    let out := if controlBusy then (.error EBUSY, m) else controlCommand names m env command
    (controlOutput out.1 capacity, out.2)

/-- `spz_kpm_control` once the module is initialised: the bytes that are copied to the caller, or
the error, and the module.  `args` are the bytes before the first NUL, and `copies` says whether the
copy succeeds. -/
def kpmControl (args : List U8) (outlen : ℤ) (copies : Bool) :
    Except Errno (List U8) × ModuleState :=
  if outlen ≤ 0 then (.error EINVAL, m)
  else
    let command := if args.length > maxCommand then args.take maxCommand ++ [0] else args
    match controlExecute names m env controlBusy command controlResponseMax with
    | (.error e, m') => (.error e, m')
    | (.ok response, m') =>
      if response.length + 1 > outlen.toNat ∨ response.length + 1 > controlResponseMax then
        (.error ENOSPC, m')
      else if copies then (.ok (response ++ [0]), m') else (.error EFAULT, m')

end

/-! ## What is written -/

/-- The text of fields, each behind a space. -/
def fieldsText (fields : List (String × List U8)) : List U8 :=
  fields.flatMap fun field => space :: (ascii field.1 ++ equals :: field.2)

def number {w : ℕ} (value : BitVec w) : List U8 := numeral 10 value.toNat

lemma number_length {w : ℕ} (hw : 2 ^ w ≤ 10 ^ 20) (value : BitVec w) :
    (number value).length ≤ 20 :=
  numeral_length_le (by decide) (by decide) (Nat.lt_of_lt_of_le value.isLt hw)

namespace Text.Appends

lemma key (key : String) :
    Appends (fun text => ((text.char space).bytes (ascii key)).char equals)
      (space :: (ascii key ++ [equals])) :=
  (((char space).comp (bytes (ascii key))).comp (char equals)).congr (by simp)

lemma tokenString (key : String) (value : List U8) :
    Appends (fun text => text.tokenString key value) (fieldsText [(key, value)]) :=
  ((Appends.key key).comp (bytes value)).congr (by simp [fieldsText])

lemma tokenHex (key : String) (value : List U8) :
    Appends (fun text => text.tokenHex key value) (fieldsText [(key, encodeHex value)]) :=
  ((Appends.key key).comp (hex value)).congr (by simp [fieldsText])

lemma tokenU64 (key : String) (value : U64) :
    Appends (fun text => text.tokenU64 key value) (fieldsText [(key, number value)]) :=
  ((Appends.key key).comp (u64 value)).congr (by simp [fieldsText, number])

lemma tokenNarrow {w : ℕ} (key : String) (value : BitVec w) (hw : w ≤ 64) :
    Appends (fun text => text.tokenU64 key (value.setWidth 64))
      (fieldsText [(key, number value)]) :=
  (tokenU64 key (value.setWidth 64)).congr (by
    rw [number, number, BitVec.toNat_setWidth, Nat.mod_eq_of_lt]
    exact Nat.lt_of_lt_of_le value.isLt (Nat.pow_le_pow_right (by decide) hw))

end Text.Appends

lemma fieldsText_append (a b : List (String × List U8)) :
    fieldsText (a ++ b) = fieldsText a ++ fieldsText b := List.flatMap_append

def flag (b : Bool) : List U8 := number (if b then 1 else 0 : U64)

def identityFields (identity : TaskIdentity) : List (String × List U8) :=
  [("generation", number identity.generation), ("task_cookie", number identity.taskCookie),
    ("pid", number identity.pid), ("tgid", number identity.tgid), ("uid", number identity.uid),
    ("start_time", number identity.startTime), ("start_boottime", number identity.startBootTime),
    ("comm_hex", encodeHex identity.comm.toList)]

/-- The fields of the breakpoint and the maps store. -/
def storesFields (f : StatusFields) : List (String × List U8) :=
  [("configured", flag f.configured), ("enabled", flag f.enabled),
    ("maps_supported", flag (f.mapsState ≠ .unsupported)),
    ("maps_state", ascii (mapsStateName f.mapsState)), ("maps_snapshot", number f.mapsSnapshot),
    ("maps_size", number f.mapsLength)]

def requestFields (f : StatusFields) : List (String × List U8) :=
  [("request", number f.requestId), ("request_state", ascii (asyncStateName f.requestState)),
    ("request_status", signed (statusCode f.requestStatus))]

/-- The fields of a `status` answer. -/
def statusAnswer (names : ModuleNames) (f : StatusFields) : List (String × List U8) :=
  [("state", ascii (if names.ready then "ready" else "rejected")), ("profile", names.profile),
    ("binding", ascii (bindingStateName f.binding.state))] ++
    (if f.binding.state = .bound then identityFields f.binding.identity else []) ++
    storesFields f ++ requestFields f

def replyFields (names : ModuleNames) : Reply → List (String × List U8)
  | .status fields => statusAnswer names fields
  | .profile => [("profile", names.profile), ("kernel", names.release), ("kpatch", names.kpver)]
  | .bound bindingId generation =>
    [("binding_id", number bindingId), ("generation", number generation)]
  | .configured id encoding =>
    [("id", number id), ("value", number encoding.value), ("control", number encoding.control),
      ("bas", number encoding.bas)]
  | .request id => [("request", number id)]
  | .event none => [("empty", flag true)]
  | .event (some event) => [("event", encodeHex event.wire)]
  | .chunk read =>
    [("snapshot", number read.snapshot), ("offset", number read.offset),
      ("total", number read.total), ("crc32", number read.crc32), ("eof", flag read.eof),
      ("data", encodeHex read.data)]

section Writers

variable (names : ModuleNames) (f : StatusFields)

lemma identityText_appends (identity : TaskIdentity) :
    Appends (identityText identity) (fieldsText (identityFields identity)) :=
  ((((((((tokenU64 "generation" identity.generation).comp
    (.tokenU64 "task_cookie" identity.taskCookie)).comp
    (.tokenNarrow "pid" identity.pid (by decide))).comp
    (.tokenNarrow "tgid" identity.tgid (by decide))).comp
    (.tokenNarrow "uid" identity.uid (by decide))).comp
    (.tokenU64 "start_time" identity.startTime)).comp
    (.tokenU64 "start_boottime" identity.startBootTime)).comp
    (.tokenHex "comm_hex" identity.comm.toList)).congr (by
      simp only [← fieldsText_append]
      rfl)

lemma storesText_appends : Appends (storesText f) (fieldsText (storesFields f)) :=
  ((((((tokenU64 "configured" (if f.configured then 1 else 0)).comp
    (.tokenU64 "enabled" (if f.enabled then 1 else 0))).comp
    (.tokenU64 "maps_supported" (if f.mapsState = .unsupported then 0 else 1))).comp
    (.tokenString "maps_state" (ascii (mapsStateName f.mapsState)))).comp
    (.tokenU64 "maps_snapshot" f.mapsSnapshot)).comp
    (.tokenNarrow "maps_size" f.mapsLength (by decide))).congr (by
      simp only [← fieldsText_append, storesFields, flag]
      cases f.mapsState <;> rfl)

lemma requestText_appends : Appends (requestText f) (fieldsText (requestFields f)) := by
  have hint := statusCode_int f.requestStatus
  refine (((((tokenU64 "request" f.requestId).comp
    (.tokenString "request_state" (ascii (asyncStateName f.requestState)))).comp
    (.char space)).comp (.bytes (ascii "request_status="))).comp
    (.i64 (statusCode f.requestStatus) (by omega) (by omega))).congr ?_
  rw [show ascii "request_status=" = ascii "request_status" ++ [equals] from rfl]
  simp [fieldsText, requestFields]

lemma statusText_appends : Appends (statusText names f) (fieldsText (statusAnswer names f)) := by
  have hhead := (((tokenString "state"
    (ascii (if names.ready then "ready" else "rejected"))).comp
    (.tokenString "profile" names.profile)).comp
    (.tokenString "binding" (ascii (bindingStateName f.binding.state))))
  have hidentity : Appends
      (fun text => if f.binding.state = .bound then identityText f.binding.identity text else text)
      (fieldsText
        (if f.binding.state = .bound then identityFields f.binding.identity else [])) := by
    split_ifs
    · exact identityText_appends f.binding.identity
    · exact .nil
  refine (((hhead.comp hidentity).comp (storesText_appends f)).comp (requestText_appends f)).congr
    ?_
  simp only [← fieldsText_append]
  rfl

/-- A successful command writes its fields. -/
lemma replyText_appends (reply : Reply) :
    Appends (replyText names reply) (fieldsText (replyFields names reply)) := by
  cases reply with
  | status fields => exact statusText_appends names fields
  | profile =>
    refine (((tokenString "profile" names.profile).comp
      (.tokenString "kernel" names.release)).comp (.tokenString "kpatch" names.kpver)).congr ?_
    simp only [← fieldsText_append]
    rfl
  | bound bindingId generation =>
    refine ((tokenNarrow "binding_id" bindingId (by decide)).comp
      (.tokenU64 "generation" generation)).congr ?_
    simp only [← fieldsText_append]
    rfl
  | configured id encoding =>
    refine ((((tokenNarrow "id" id (by decide)).comp
      (.tokenU64 "value" encoding.value)).comp
      (.tokenNarrow "control" encoding.control (by decide))).comp
      (.tokenNarrow "bas" encoding.bas (by decide))).congr ?_
    simp only [← fieldsText_append]
    rfl
  | request id => exact .tokenU64 "request" id
  | event event =>
    cases event with
    | none => exact .tokenU64 "empty" 1
    | some event =>
      refine ((bytes (ascii " event=")).comp (.hex event.wire)).congr ?_
      rw [show ascii " event=" = space :: (ascii "event" ++ [equals]) from rfl]
      simp [fieldsText, replyFields]
  | chunk read =>
    refine ((((((tokenU64 "snapshot" read.snapshot).comp
      (.tokenNarrow "offset" read.offset (by decide))).comp
      (.tokenNarrow "total" read.total (by decide))).comp
      (.tokenNarrow "crc32" read.crc32 (by decide))).comp
      (.tokenU64 "eof" (if read.eof then 1 else 0))).comp
      (.tokenHex "data" read.data)).congr ?_
    simp only [← fieldsText_append]
    rfl

end Writers

/-! ## Whole answers -/

lemma Text.Appends.written {write : Text → Text} {value : List U8} (h : Appends write value)
    (capacity : ℕ) :
    if value.length ≤ capacity then
      write { capacity := capacity } = { capacity := capacity, data := value }
    else (write { capacity := capacity }).error = some ENOSPC := by
  split_ifs with hfits
  · have := h.fits { capacity := capacity } rfl (by simpa using hfits)
    simpa using this
  · exact h.full { capacity := capacity } rfl (Nat.zero_le _) (by simpa using hfits)

/-- The fields of an answer, by its status. -/
def answerFields : Except Errno (List (String × List U8)) → List (String × List U8)
  | .ok fields => fields
  | .error e => [("reason", ascii (controlReason e))]

def answerText (answer : Except Errno (List (String × List U8))) : List U8 :=
  ascii "status=" ++ signed (statusCode answer) ++ ascii " version=1" ++
    fieldsText (answerFields answer)

/-- An answer is its text, or there is no space for it. -/
lemma controlOutput_eq (answer : Except Errno (List (String × List U8))) (capacity : ℕ) :
    controlOutput (answer.map fieldsText) capacity =
      if (answerText answer).length < capacity then .ok (answerText answer) else .error ENOSPC := by
  have hint := statusCode_int answer
  have hhead := ((bytes (ascii "status=")).comp
    (.i64 (statusCode answer) (by omega) (by omega))).comp (.bytes (ascii " version=1"))
  have hall : Appends (fun text =>
      let head := ((text.bytes (ascii "status=")).i64 (statusCode (answer.map fieldsText))).bytes
        (ascii " version=1")
      match answer.map fieldsText with
      | .ok extra => head.bytes extra
      | .error e => head.tokenString "reason" (ascii (controlReason e))) (answerText answer) := by
    cases answer with
    | ok fields => exact hhead.comp (.bytes (fieldsText fields))
    | error e => exact hhead.comp (.tokenString "reason" (ascii (controlReason e)))
  have hwritten := hall.written capacity
  unfold controlOutput
  dsimp only at hwritten ⊢
  split_ifs at hwritten with hfits
  · rw [hwritten]
    dsimp only
    by_cases hfull : (answerText answer).length = capacity
    · rw [if_pos hfull, if_neg (by omega)]
    · rw [if_neg hfull, if_pos (by omega)]
  · rw [hwritten]
    dsimp only
    rw [if_neg (by omega)]

/-- The command that a text denotes, executed. -/
def executed (m : ModuleState) (env : ControlEnv) (command : List U8) :
    Except Errno Reply × ModuleState :=
  match parseCommand command none with
  | (.error e, _) => (.error e, m)
  | (.ok (), none) => (.error EINVAL, m)
  | (.ok (), some parsed) => controlDispatch m env parsed

/-- The fields of the answer to a result, if they fit in the scratch buffer. -/
def answerOf (names : ModuleNames) : Except Errno Reply → Except Errno (List (String × List U8))
  | .error e => .error e
  | .ok reply =>
    if (fieldsText (replyFields names reply)).length ≤ controlResponseMax then
      .ok (replyFields names reply)
    else .error ENOSPC

lemma controlCommand_eq (names : ModuleNames) (m : ModuleState) (env : ControlEnv)
    (command : List U8) : controlCommand names m env command =
      ((answerOf names (executed m env command).1).map fieldsText, (executed m env command).2) := by
  unfold controlCommand executed
  split
  · rfl
  · rfl
  next parsed _ =>
    cases hdispatch : controlDispatch m env parsed with
    | mk result m' =>
      cases result with
      | error e => rfl
      | ok reply =>
        have hwritten := (replyText_appends names reply).written controlResponseMax
        simp only [answerOf]
        split_ifs at hwritten ⊢
        all_goals
          rw [hwritten]
          rfl

/-- `spz_control_execute`: the command is executed, whether there is space for its answer or
not. -/
lemma controlExecute_eq (names : ModuleNames) (m : ModuleState) (env : ControlEnv)
    (command : List U8) {capacity : ℕ} (hpos : 0 < capacity) (hle : capacity ≤ controlResponseMax) :
    controlExecute names m env false command capacity =
      (if (answerText (answerOf names (executed m env command).1)).length < capacity then
        .ok (answerText (answerOf names (executed m env command).1))
      else .error ENOSPC, (executed m env command).2) := by
  rw [controlExecute, if_neg (by omega)]
  simp [controlCommand_eq, controlOutput_eq]

end Spz
