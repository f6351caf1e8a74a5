import Stackplz.Ring.Pending
import Stackplz.Text.Answer
import Stackplz.Text.Commands

/-!
# Answers that do not fit

A command is executed before it is known whether there is space for its answer.  Which calls that
return `-ENOSPC` have left the module alone is said here of the module before the call: the command
was one without an effect (`Harmless`), since the answer to any other has a size that the module
determines (`Fits`).
-/

namespace Spz

open Errno Numerals Text
open Bool hiding and_true false_or not_or

/-- What a call must not have changed. -/
structure SameStores (m m' : ModuleState) : Prop where
  binding : m'.binding = m.binding
  breakpoint : m'.breakpoint = m.breakpoint
  configured : m'.breakpointConfigured = m.breakpointConfigured
  enabled : m'.breakpointEnabled = m.breakpointEnabled
  async : m'.async = m.async
  maps : m'.maps = m.maps
  ring : m'.ring = m.ring

lemma SameStores.refl (m : ModuleState) : SameStores m m := ⟨rfl, rfl, rfl, rfl, rfl, rfl, rfl⟩

/-- The request `spz_control_break` builds. -/
def breakRequest (command : BreakCommand) : DebugRequest :=
  { id := command.id
    kind := command.kind
    address := command.address
    length := command.length
    mode := command.mode }

/-- The cursor of a `poll`. -/
def pollCursor (after : U64) (hasAfter : U8) : U64 := if hasAfter ≠ 0 then after else 0

section

variable (m : ModuleState)

/-- `spz_control_async` refuses every request. -/
def AsyncClosed : Prop :=
  m.acceptingCommands = false ∨ asyncBusy m.async = true

/-- The commands that leave the stores of a module alone. -/
def Harmless : Command → Prop
  | .status | .profile | .mapsRead _ _ => True
  | .bind command =>
    AsyncClosed m ∨ mapsHasTask m.maps = true ∨ m.breakpointConfigured = true ∨
      requestValid (bindRequest m command) = false
  | .break command =>
    AsyncClosed m ∨ m.breakpointEnabled = true ∨ m.binding.state = .empty ∨
      (debugValidateRequest (breakRequest command)).isOk = false ∨
      m.breakpointConfigured = true ∧ m.breakpoint = breakRequest command
  | .enable _ | .clear | .audit => AsyncClosed m
  | .disable _ => m.breakpointEnabled = false ∨ AsyncClosed m
  | .maps => mapsSupported m.maps = false ∨ AsyncClosed m
  | .poll after hasAfter => m.ring.Quiet (pollCursor after hasAfter)

/-- There is space for the answer of `spz_control_async` to a request that is taken: the number of
the request behind `status=0 version=1 request=`, or the status and the reason of the work queue. -/
def AsyncFits (env : ControlEnv) (capacity : ℕ) : Prop :=
  match env.queue with
  | .ok () => 27 + (number (asyncNextId m.async)).length < capacity
  | .error e =>
    25 + (signed (transportError e).code).length +
      (ascii (controlReason (transportError e))).length < capacity

/-- There is space for the answer to a command that is not harmless.  Its 18 first bytes are
`status=0 version=1`; an event has 432 bytes, and two letters for each. -/
def Fits (env : ControlEnv) (capacity : ℕ) : Command → Prop
  | .status | .profile | .mapsRead _ _ => True
  | .bind _ =>
    18 + (12 + (number (nextBindingId m.bindingCounter)).length) +
      (12 + (number (nextGeneration m.binding.generation)).length) < capacity
  | .break command => ∀ encoding, debugValidateRequest (breakRequest command) = .ok encoding →
      18 + (4 + (number command.id).length) + (7 + (number encoding.value).length) +
        (9 + (number encoding.control).length) + (5 + (number encoding.bas).length) < capacity
  | .enable _ | .disable _ | .clear | .audit | .maps => AsyncFits m env capacity
  | .poll after hasAfter =>
    18 + 8 < capacity ∧
      (m.ring.HoldsNext (pollCursor after hasAfter) → 18 + (7 + 864) < capacity)

end

/-! ## The size of an answer -/

lemma fieldsText_cons_length (key : String) (value : List U8) (fields : List (String × List U8)) :
    (fieldsText ((key, value) :: fields)).length =
      (ascii key).length + 2 + value.length + (fieldsText fields).length := by
  simp only [fieldsText, List.flatMap_cons, List.length_append, List.length_cons]
  omega

lemma fieldsText_nil_length : (fieldsText []).length = 0 := rfl

lemma answerText_ok_length (fields : List (String × List U8)) :
    (answerText (.ok fields)).length = 18 + (fieldsText fields).length := by
  have hstatus : (ascii "status=" ++ signed 0 ++ ascii " version=1").length = 18 := by decide
  rw [answerText, List.length_append]
  exact congrArg (· + _) hstatus

lemma answerText_error_length (e : Errno) : (answerText (.error e)).length =
    25 + (signed e.code).length + (ascii (controlReason e)).length := by
  have hstatus : (ascii "status=").length = 7 := by decide
  have hversion : (ascii " version=1").length = 10 := by decide
  have hreason : (ascii "reason").length = 6 := by decide
  rw [answerText, answerFields, statusCode, List.length_append, List.length_append,
    List.length_append, fieldsText_cons_length, fieldsText_nil_length, hstatus, hversion, hreason]
  omega

section

variable (names : ModuleNames)

lemma answerOf_ok {reply : Reply} {n : ℕ} (hn : (fieldsText (replyFields names reply)).length = n)
    (hle : n ≤ controlResponseMax) : (answerText (answerOf names (.ok reply))).length = 18 + n := by
  rw [answerOf, if_pos (by omega), answerText_ok_length, hn]

lemma boundAnswer_length (bindingId : U32) (generation : U64) :
    (answerText (answerOf names (.ok (.bound bindingId generation)))).length =
      18 + (12 + (number bindingId).length) + (12 + (number generation).length) := by
  have hid := number_length (by decide) bindingId
  have hgeneration := number_length (by decide) generation
  have hkeys : (ascii "binding_id").length = 10 ∧ (ascii "generation").length = 10 := by decide
  rw [answerOf_ok names (n := 24 + (number bindingId).length + (number generation).length)]
  · omega
  · rw [replyFields, fieldsText_cons_length, fieldsText_cons_length, fieldsText_nil_length, hkeys.1,
      hkeys.2]
    omega
  · rw [controlResponseMax]
    omega

lemma configuredAnswer_length (id : U32) (encoding : Encoding) :
    (answerText (answerOf names (.ok (.configured id encoding)))).length =
      18 + (4 + (number id).length) + (7 + (number encoding.value).length) +
        (9 + (number encoding.control).length) + (5 + (number encoding.bas).length) := by
  have hid := number_length (by decide) id
  have hvalue := number_length (by decide) encoding.value
  have hcontrol := number_length (by decide) encoding.control
  have hbas := number_length (by decide) encoding.bas
  have hkeys : (ascii "id").length = 2 ∧ (ascii "value").length = 5 ∧
      (ascii "control").length = 7 ∧ (ascii "bas").length = 3 := by decide
  obtain ⟨h₁, h₂, h₃, h₄⟩ := hkeys
  rw [answerOf_ok names (n := 25 + (number id).length + (number encoding.value).length +
    (number encoding.control).length + (number encoding.bas).length)]
  · omega
  · simp only [replyFields, fieldsText_cons_length, fieldsText_nil_length, h₁, h₂, h₃, h₄]
    omega
  · rw [controlResponseMax]
    omega

lemma requestAnswer_length (id : U64) :
    (answerText (answerOf names (.ok (.request id)))).length = 27 + (number id).length := by
  have hid := number_length (by decide) id
  have hkey : (ascii "request").length = 7 := by decide
  rw [answerOf_ok names (n := 9 + (number id).length)]
  · omega
  · rw [replyFields, fieldsText_cons_length, fieldsText_nil_length, hkey]
    omega
  · rw [controlResponseMax]
    omega

lemma emptyAnswer_length : (answerText (answerOf names (.ok (.event none)))).length = 18 + 8 := by
  refine answerOf_ok names ?_ (by decide)
  show (fieldsText [("empty", flag true)]).length = 8
  decide

lemma eventAnswer_length (event : Event) :
    (answerText (answerOf names (.ok (.event (some event))))).length = 18 + (7 + 864) := by
  refine answerOf_ok names ?_ (by decide)
  have hkey : (ascii "event").length = 5 := by decide
  have hwire : event.wire.length = 432 := event.wire_length
  rw [replyFields, fieldsText_cons_length, fieldsText_nil_length, hkey, encodeHex_length, hwire]

end

/-! ## What a command does to the stores -/

section Effects

variable (m : ModuleState) (env : ControlEnv)

lemma asyncNextId_ne (r : AsyncRequest) : asyncNextId r ≠ r.nextRequestId := by
  unfold asyncNextId
  split_ifs with hzero
  · intro heq
    rw [← heq] at hzero
    exact absurd hzero (by decide)
  · intro heq
    simp at heq

lemma nextGeneration_ne (generation : U64) : nextGeneration generation ≠ generation := by
  unfold nextGeneration
  split_ifs with hlast hzero
  · rw [hlast]
    decide
  · intro heq
    rw [← heq] at hzero
    exact absurd hzero (by decide)
  · intro heq
    simp at heq

lemma controlAsync_closed (h : AsyncClosed m) (operation : AsyncOperation) (targetId : U32) :
    SameStores m (controlAsync m operation targetId env).2 := by
  unfold controlAsync
  split_ifs with hacc
  · exact .refl m
  · rcases h with hoff | hbusy
    · simp [hoff] at hacc
    · obtain ⟨e, he⟩ := asyncSubmit_busy hbusy operation targetId env.queue
      rw [he]
      exact .refl m

/-- A request that is taken changes the slot, and its answer says so. -/
lemma controlAsync_open (names : ModuleNames) (h : ¬ AsyncClosed m) {operation : AsyncOperation}
    (hop : operation ≠ .none) (targetId : U32) :
    ¬ SameStores m (controlAsync m operation targetId env).2 ∧
      ∀ capacity, (answerText (answerOf names (controlAsync m operation targetId env).1)).length <
        capacity ↔ AsyncFits m env capacity := by
  rw [AsyncClosed, not_or, not_eq_false, not_eq_true] at h
  have hasync : controlAsync m operation targetId env =
      ((asyncSubmit m.async operation targetId env.queue).1.map .request,
        { m with async := (asyncSubmit m.async operation targetId env.queue).2 }) := by
    rw [controlAsync, if_neg (by simp [h.1])]
  have hmoved : (asyncSubmit m.async operation targetId env.queue).2.nextRequestId =
      asyncNextId m.async := by
    rw [asyncSubmit, if_neg hop, if_neg (by simp [h.2])]
    cases env.queue <;> rfl
  refine ⟨fun hsame => asyncNextId_ne m.async ?_, fun capacity => ?_⟩
  · have := congrArg AsyncRequest.nextRequestId hsame.async
    rw [hasync] at this
    exact hmoved.symm.trans this
  · rw [hasync, asyncSubmit, if_neg hop, if_neg (by simp [h.2]), AsyncFits]
    cases env.queue with
    | ok _ => exact (requestAnswer_length names _).symm ▸ Iff.rfl
    | error e => exact (answerText_error_length _).symm ▸ Iff.rfl

lemma controlBind_open (names : ModuleNames) {command : BindCommand}
    (h : ¬ Harmless m (.bind command)) :
    ¬ SameStores m (controlBind m command).2 ∧
      ∀ capacity, (answerText (answerOf names (controlBind m command).1)).length < capacity ↔
        Fits m env capacity (.bind command) := by
  simp only [Harmless, AsyncClosed, not_or, not_eq_false, not_eq_true] at h
  obtain ⟨⟨hacc, hbusy⟩, htask, hconf, hvalid⟩ := h
  have hbind : controlBind m command =
      (.ok (.bound (nextBindingId m.bindingCounter) (nextGeneration m.binding.generation)),
        { m with
          binding := { generation := nextGeneration m.binding.generation, state := .pending,
                       request := bindRequest m command }
          bindingCounter := nextBindingId m.bindingCounter }) := by
    rw [controlBind, if_neg (by simp [hacc, hbusy, htask, hconf]), bindingSet,
      if_neg (by simp [hvalid])]
  rw [hbind]
  refine ⟨fun hsame => ?_, fun capacity => ?_⟩
  · exact nextGeneration_ne m.binding.generation (congrArg Binding.generation hsame.binding)
  · rw [boundAnswer_length]
    rfl

variable {command : BreakCommand}

lemma controlBreak_harmless (h : Harmless m (.break command)) :
    SameStores m (controlBreak m command).2 := by
  unfold controlBreak
  split_ifs with hbusy hempty
  · exact .refl m
  · exact .refl m
  · simp only [or_eq_true, not_or, not_eq_true, not_eq_false'] at hbusy
    dsimp only
    split
    · exact .refl m
    next encoding hvalid =>
      rcases h with (hacc | hasync) | hen | hstate | herror | ⟨hconf, heq⟩
      · simp [hacc] at hbusy
      · simp [hasync] at hbusy
      · simp [hen] at hbusy
      · exact absurd hstate hempty
      · change debugValidateRequest (breakRequest command) = .ok encoding at hvalid
        rw [hvalid] at herror
        cases herror
      · -- the request that is configured already
        exact ⟨rfl, heq.symm, hconf.symm, rfl, rfl, rfl, rfl⟩

lemma controlBreak_open (names : ModuleNames) (h : ¬ Harmless m (.break command)) :
    ¬ SameStores m (controlBreak m command).2 ∧
      ∀ capacity, (answerText (answerOf names (controlBreak m command).1)).length < capacity ↔
        Fits m env capacity (.break command) := by
  simp only [Harmless, AsyncClosed, not_or, not_eq_false, not_eq_true] at h
  obtain ⟨⟨hacc, hbusy⟩, hen, hempty, hvalid, hnew⟩ := h
  cases hencoding : debugValidateRequest (breakRequest command) with
  | error e =>
    rw [hencoding] at hvalid
    cases hvalid
  | ok encoding =>
    have hbreak : controlBreak m command = (.ok (.configured command.id encoding),
        { m with breakpoint := breakRequest command, breakpointConfigured := true }) := by
      rw [controlBreak, if_neg (by simp [hacc, hbusy, hen]), if_neg hempty]
      unfold breakRequest at hencoding ⊢
      dsimp only
      rw [hencoding]
    rw [hbreak]
    refine ⟨fun hsame => hnew ⟨hsame.configured.symm, hsame.breakpoint.symm⟩, fun capacity => ?_⟩
    rw [configuredAnswer_length, Fits]
    constructor
    · intro hlt other hother
      obtain rfl : encoding = other := by
        rw [hencoding] at hother
        exact Except.ok.inj hother
      exact hlt
    · intro hfits
      exact hfits encoding hencoding

lemma controlPoll_same (after : U64) (hasAfter : U8) :
    SameStores m (controlPoll m after hasAfter).2 ↔ m.ring.Quiet (pollCursor after hasAfter) := by
  rw [← ringPopAfter_same_iff]
  exact ⟨fun h => h.ring, fun h => ⟨rfl, rfl, rfl, rfl, rfl, rfl, h⟩⟩

/-- `Fits` says whether there is room for the answer to a poll that finds something. -/
lemma controlPoll_size (names : ModuleNames) {after : U64} {hasAfter : U8}
    (h : ¬ m.ring.Quiet (pollCursor after hasAfter)) (capacity : ℕ) :
    (answerText (answerOf names (controlPoll m after hasAfter).1)).length < capacity ↔
      Fits m env capacity (.poll after hasAfter) := by
  obtain ⟨hge, hle, hlast⟩ := not_refuses (not_or.mp h).1
  have hnext : _ ↔ m.ring.HoldsNext (pollCursor after hasAfter) := ringSelect_isSome hlast
  show (answerText (answerOf names ((ringPopAfter m.ring (pollCursor after hasAfter)).1.map
    .event))).length < capacity ↔ _
  rw [ringPopAfter_eq hge hle hlast, Fits, ← hnext]
  cases ringSelect (ringDiscarded m.ring (pollCursor after hasAfter))
      (pollCursor after hasAfter + 1) with
  | none =>
    have hlen := emptyAnswer_length names
    simp only [Option.isSome_none, false_eq_true, false_imp_iff, and_true]
    exact hlen.symm ▸ Iff.rfl
  | some found =>
    have hlen := eventAnswer_length names found.2
    simp only [Option.isSome_some, true_imp_iff]
    show (answerText (answerOf names (.ok (.event (some found.2))))).length < capacity ↔ _
    rw [hlen]
    omega

/-- A harmless command leaves the stores alone. -/
lemma controlDispatch_harmless {command : Command} (h : Harmless m command) :
    SameStores m (controlDispatch m env command).2 := by
  cases command with
  | status | profile | mapsRead => exact .refl m
  | bind command =>
    simp only [controlDispatch, controlBind]
    split_ifs with hbusy
    · exact .refl m
    · simp only [or_eq_true, not_or, not_eq_true, not_eq_false'] at hbusy
      rcases h with (hacc | hasync) | htask | hconf | hvalid
      · simp [hacc] at hbusy
      · simp [hasync] at hbusy
      · simp [htask] at hbusy
      · simp [hconf] at hbusy
      · rw [bindingSet, if_pos (by simp [hvalid])]
        exact .refl m
  | «break» command => exact controlBreak_harmless m h
  | enable | clear | audit => exact controlAsync_closed m env h _ _
  | poll after hasAfter => exact (controlPoll_same m after hasAfter).mpr h
  | _ =>
    simp only [controlDispatch]
    split_ifs with hoff
    · exact .refl m
    · exact controlAsync_closed m env (h.resolve_left (by simpa using hoff)) _ _

/-- Any other command changes them, and has an answer of the size that is foreseen. -/
lemma controlDispatch_harmful (names : ModuleNames) {command : Command} (h : ¬ Harmless m command) :
    ¬ SameStores m (controlDispatch m env command).2 ∧
      ∀ capacity, (answerText (answerOf names (controlDispatch m env command).1)).length <
        capacity ↔ Fits m env capacity command := by
  cases command with
  | status | profile | mapsRead => exact absurd trivial h
  | bind command => exact controlBind_open m env names h
  | «break» command => exact controlBreak_open m env names h
  | enable | clear | audit => exact controlAsync_open m env names h (by decide) _
  | disable id =>
    rw [Harmless, not_or, not_eq_false] at h
    rw [controlDispatch, if_neg (by simp [h.1])]
    exact controlAsync_open m env names h.2 (by decide) id
  | maps =>
    rw [Harmless, not_or, not_eq_false] at h
    rw [controlDispatch, if_neg (by simp [h.1])]
    exact controlAsync_open m env names h.2 (by decide) 0
  | poll after hasAfter =>
    exact ⟨fun hsame => h ((controlPoll_same m after hasAfter).mp hsame),
      controlPoll_size m env names h⟩

end Effects

/-! ## Calls -/

/-- The answer to whatever the text says fits, or the command has no effect. -/
def Spared (m : ModuleState) (env : ControlEnv) (command : List U8) (capacity : ℕ) : Prop :=
  ∀ parsed, IsCommand command parsed → Harmless m parsed ∨ Fits m env capacity parsed

/-- A command keeps the stores or has an answer that fits exactly if it is spared. -/
lemma executed_spared (names : ModuleNames) (m : ModuleState) (env : ControlEnv)
    (command : List U8) (capacity : ℕ) :
    ((answerText (answerOf names (executed m env command).1)).length < capacity ∨
      SameStores m (executed m env command).2) ↔ Spared m env command capacity := by
  unfold executed
  rcases parseCommand_cases command none with ⟨parsed, heq, h⟩ | ⟨⟨e, herror, -⟩, hnot⟩
  · rw [heq]
    have hone : Spared m env command capacity ↔
        (Harmless m parsed ∨ Fits m env capacity parsed) := by
      refine ⟨fun hall => hall parsed h, fun hthis other hother => ?_⟩
      have hsame := parseCommand_ok hother none
      rw [heq] at hsame
      obtain rfl : parsed = other := by simpa using hsame
      exact hthis
    rw [hone]
    by_cases hharm : Harmless m parsed
    · exact iff_of_true (.inr (controlDispatch_harmless m env hharm)) (.inl hharm)
    · obtain ⟨hchanged, hsize⟩ := controlDispatch_harmful m env names hharm
      simp [hsize capacity, hchanged, hharm]
  · have hspared : Spared m env command capacity := fun parsed hp => absurd ⟨parsed, hp⟩ hnot
    cases hparse : parseCommand command none with
    | mk status out =>
      rw [hparse] at herror
      obtain rfl : status = .error e := herror
      exact iff_of_true (.inr (.refl m)) hspared

variable {outlen : ℤ}

/-- The module is as the command leaves it, whatever becomes of the answer. -/
lemma kpmControl_state (names : ModuleNames) (m : ModuleState) (env : ControlEnv)
    (controlBusy : Bool) (args : List U8) (hpos : ¬ outlen ≤ 0) (copies : Bool) :
    (kpmControl names m env controlBusy args outlen copies).2 =
      (controlExecute names m env controlBusy
        (if args.length > maxCommand then args.take maxCommand ++ [0] else args)
        controlResponseMax).2 := by
  rw [kpmControl, if_neg hpos]
  dsimp only
  generalize controlExecute names m env controlBusy
    (if args.length > maxCommand then args.take maxCommand ++ [0] else args)
    controlResponseMax = out
  obtain ⟨result, m'⟩ := out
  cases result with
  | error e => rfl
  | ok response =>
    dsimp only
    split_ifs <;> rfl

lemma spared_copied (m : ModuleState) (env : ControlEnv) (args : List U8) (capacity : ℕ) :
    Spared m env (if args.length > maxCommand then args.take maxCommand ++ [0] else args) capacity ↔
      Spared m env args capacity := by
  split_ifs with hlong
  · refine iff_of_true (fun parsed h => ?_) (fun parsed h => ?_)
    · have hlen := h.1
      rw [List.length_append, List.length_take, List.length_singleton] at hlen
      omega
    · have hlen := h.1
      omega
  · rfl

/-- An answer reaches the caller if there is space for it in both buffers. -/
lemma kpmControl_no_space (names : ModuleNames) (m : ModuleState) (env : ControlEnv)
    (args : List U8) (hpos : ¬ outlen ≤ 0) (copies : Bool) {answer : List U8}
    (hanswer : answer = answerText (answerOf names (executed m env
      (if args.length > maxCommand then args.take maxCommand ++ [0] else args)).1)) :
    (kpmControl names m env false args outlen copies).1 = .error ENOSPC ↔
      ¬ answer.length < min outlen.toNat controlResponseMax := by
  rw [kpmControl, if_neg hpos]
  dsimp only
  rw [controlExecute_eq names m env _ (by decide) (Nat.le_refl _), ← hanswer, Nat.lt_min]
  by_cases hfits : answer.length < controlResponseMax
  · rw [if_pos hfits]
    dsimp only
    by_cases hout : answer.length < outlen.toNat
    · rw [if_neg (by omega)]
      cases copies <;> simp [hfits, hout, EFAULT, ENOSPC]
    · rw [if_pos (by omega)]
      simp [hout]
  · rw [if_neg hfits]
    simp [hfits]

/-- Calls whose answer does not fit.  `spz_control_execute` that returns `-ENOSPC` has left the
binding, the breakpoint, the asynchronous slot, the maps store and the ring alone if and only if the
buffer has no valid size, another command is being executed, or the command is harmless or has an
answer that fits; `spz_kpm_control` in the same way, with the size the caller gives. -/
theorem no_space_effect (names : ModuleNames) (m : ModuleState) (env : ControlEnv)
    (controlBusy : Bool) (command : List U8) :
    (∀ capacity, ((controlExecute names m env controlBusy command capacity).1 = .error ENOSPC →
        SameStores m (controlExecute names m env controlBusy command capacity).2) ↔
      capacity = 0 ∨ controlResponseMax < capacity ∨ controlBusy = true ∨
        Spared m env command capacity) ∧
    ∀ outlen copies,
      ((kpmControl names m env controlBusy command outlen copies).1 = .error ENOSPC →
        SameStores m (kpmControl names m env controlBusy command outlen copies).2) ↔
      outlen ≤ 0 ∨ controlBusy = true ∨
        Spared m env command (min outlen.toNat controlResponseMax) := by
  refine ⟨fun capacity => ?_, fun outlen copies => ?_⟩
  · by_cases hsize : capacity = 0 ∨ capacity > controlResponseMax
    · rw [controlExecute, if_pos hsize]
      exact iff_of_true (fun _ => .refl m) (hsize.imp_right .inl)
    cases controlBusy with
    | true =>
      rw [controlExecute, if_neg hsize]
      exact iff_of_true (fun _ => .refl m) (.inr (.inr (.inl rfl)))
    | false =>
      rw [not_or, Nat.not_lt] at hsize
      rw [controlExecute_eq names m env command (by omega) hsize.2,
        ← executed_spared names m env command capacity]
      by_cases hfits : (answerText (answerOf names (executed m env command).1)).length < capacity
      · simp [hfits]
      · simp [hfits, hsize.1, Nat.not_lt.mpr hsize.2]
  · by_cases hout : outlen ≤ 0
    · rw [kpmControl, if_pos hout]
      exact iff_of_true (fun _ => .refl m) (.inl hout)
    cases controlBusy with
    | true =>
      rw [kpmControl_state names m env true command hout copies, controlExecute, if_neg (by decide)]
      exact iff_of_true (fun _ => .refl m) (.inr (.inl rfl))
    | false =>
      rw [kpmControl_no_space names m env command hout copies rfl,
        kpmControl_state names m env false command hout copies,
        controlExecute_eq names m env _ (by decide) (Nat.le_refl _), ← spared_copied,
        ← executed_spared names]
      simp only [hout, false_eq_true, false_or]
      exact or_iff_not_imp_left.symm

/-- An idle module whose ring holds one event. -/
def oneEventModule : ModuleState :=
  { regs := fun _ =>
      { value := fun _ _ => 0, control := fun _ _ => 0, owner := fun _ _ => 0, mdscr := 0 }
    ring := (ringPush ringInit 0 {}).2
    maps := mapsInit {} }

lemma oneEventModule_poll (names : ModuleNames) :
    controlExecute names oneEventModule {} false (ascii "poll") 64 =
      (.error ENOSPC, (controlPoll oneEventModule 0 0).2) := by
  have hpoll : executed oneEventModule {} (ascii "poll") = controlPoll oneEventModule 0 0 := rfl
  have hevent : (controlPoll oneEventModule 0 0).1 = .ok (.event (some (stampEvent 0 1 {}))) := rfl
  rw [controlExecute_eq _ _ _ _ (by decide) (by decide), hpoll, hevent, eventAnswer_length]
  rfl

/-- An event is lost and a request is submitted although the caller has been told that there is
no space: a `poll` with 64 bytes for the answer, and a `clear` with 20. -/
theorem no_space_effect_lost :
    (controlExecute ⟨true, [], [], []⟩ oneEventModule {} false (ascii "poll") 64).1 =
        .error ENOSPC ∧
      (controlExecute ⟨true, [], [], []⟩ oneEventModule {} false (ascii "poll") 64).2.ring ≠
        oneEventModule.ring ∧
    (kpmControl ⟨true, [], [], []⟩ oneEventModule {} false (ascii "clear") 20 true).1 =
        .error ENOSPC ∧
      (kpmControl ⟨true, [], [], []⟩ oneEventModule {} false (ascii "clear") 20 true).2.async ≠
        oneEventModule.async := by
  rw [oneEventModule_poll]
  refine ⟨rfl, fun heq => ?_, rfl, fun heq => ?_⟩
  · have hcursor : (1 : U64) = 0 := congrArg Ring.consumerAfter heq
    exact absurd hcursor (by decide)
  · have hstate : AsyncState.pending = .free := congrArg AsyncRequest.state heq
    cases hstate

end Spz
