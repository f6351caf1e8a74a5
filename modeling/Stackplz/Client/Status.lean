import Stackplz.Client.Response

/-!
# What the client makes of an answer

The decoders of `user/kpm/client.go` for the fields of an answer, and that they recover what a
`status` answer was written from.
-/

namespace Spz.Client

open Numerals List

/-! ## The decoders -/

structure Identity where
  generation : U64
  taskCookie : U64
  pid : U32
  tgid : U32
  uid : U32
  startTime : U64
  startBootTime : U64
  comm : List U8
deriving DecidableEq

/-- A value, or a malformed answer. -/
def present {α : Type} : Option α → Except ResponseError α
  | none => .error .malformed
  | some a => .ok a

/-- `ErrMalformedResponse`, unless the condition holds. -/
def require (condition : Bool) : Except ResponseError Unit :=
  if condition then .ok () else .error .malformed

section

variable (fields : Fields)

def parseUintField (key : String) (bits : ℕ) : Except ResponseError ℕ :=
  present ((fields.lookup (ascii key)).bind (parseUintAny bits))

def parseDecimalField (key : String) (bits : ℕ) : Except ResponseError ℕ :=
  present ((fields.lookup (ascii key)).bind (parseUint bits))

/-- The part of `identityFromFields` that reads the task name. -/
def commFromFields : Except ResponseError (List U8) :=
  match fields.lookup (ascii "comm_hex"), fields.lookup (ascii "comm") with
  | some commHex, none =>
    if commHex.length ≠ commLen * 2 then .error .malformed
    else
      match decodeHex commHex with
      | none => .error .malformed
      | some raw =>
        if raw.length ≠ commLen then .error .malformed
        -- the name ends at the first NUL, which there has to be
        else if 0 ∈ raw then .ok (raw.takeWhile (· != 0))
        else .error .malformed
  | none, some comm => if safeAtom comm (commLen - 1) then .ok comm else .error .malformed
  | _, _ => .error .malformed

def identityFromFields : Except ResponseError Identity := do
  let generation ← parseUintField fields "generation" 64
  require (generation != 0)
  let taskCookie ← parseUintField fields "task_cookie" 64
  let pid ← parseUintField fields "pid" 32
  require (pid != 0)
  let tgid ← parseUintField fields "tgid" 32
  require (tgid != 0)
  let uid ← parseUintField fields "uid" 32
  let startTime ← parseUintField fields "start_time" 64
  let startBootTime ← parseUintField fields "start_boottime" 64
  let comm ← commFromFields fields
  return {
    generation := BitVec.ofNat 64 generation
    taskCookie := BitVec.ofNat 64 taskCookie
    pid := BitVec.ofNat 32 pid
    tgid := BitVec.ofNat 32 tgid
    uid := BitVec.ofNat 32 uid
    startTime := BitVec.ofNat 64 startTime
    startBootTime := BitVec.ofNat 64 startBootTime
    comm := comm }

end

/-- The request part of `ModuleStatus`. -/
structure RequestStatus where
  id : U64
  state : List U8
  status : ℤ
deriving DecidableEq

/-- `requestFromFields`; `none` if there are no such fields. -/
def requestFromFields (fields : Fields) : Except ResponseError (Option RequestStatus) :=
  match fields.lookup (ascii "request"), fields.lookup (ascii "request_state"),
    fields.lookup (ascii "request_status") with
  | none, none, none => .ok none
  | some request, some state, some status => do
    let id ← present (parseUint 64 request)
    let code ← present (atoi status)
    return some { id := BitVec.ofNat 64 id, state := state, status := code }
  | _, _, _ => .error .malformed

/-- The maps part of `ModuleStatus`. -/
structure MapsStatus where
  supported : Bool
  state : List U8
  snapshot : U64
  size : U32
deriving DecidableEq

def maxMapsSnapshotBytes : ℕ := 16 * 1024 * 1024

/-- `mapsStatusFromFields`; `none` if there are no such fields. -/
def mapsStatusFromFields (fields : Fields) : Except ResponseError (Option MapsStatus) :=
  match fields.lookup (ascii "maps_supported"), fields.lookup (ascii "maps_state"),
    fields.lookup (ascii "maps_snapshot"), fields.lookup (ascii "maps_size") with
  | none, none, none, none => .ok none
  | some _, some state, some _, some _ => do
    let supported ← parseDecimalField fields "maps_supported" 8
    require (supported ≤ 1)
    require (safeAtom state 32)
    let snapshot ← parseDecimalField fields "maps_snapshot" 64
    let size ← parseDecimalField fields "maps_size" 32
    require (size ≤ maxMapsSnapshotBytes)
    require (!(supported == 0 && (state != ascii "unsupported" || snapshot != 0 || size != 0)))
    return some {
      supported := supported == 1
      state := state
      snapshot := BitVec.ofNat 64 snapshot
      size := BitVec.ofNat 32 size }
  | _, _, _, _ => .error .malformed

/-! ## Numbers read back -/

lemma underscore_notMem_numeral (n : ℕ) : underscore ∉ numeral 10 n := by
  intro hmem
  obtain ⟨d, hd, hbyte⟩ := mem_numeral (by decide) hmem
  have hrange := digitByte_range (d := d) (by omega)
  rw [← hbyte] at hrange
  simp [underscore] at hrange

lemma numberBase_numeral {n : ℕ} (hn : n ≠ 0) : numberBase (numeral 10 n) = (10, numeral 10 n) := by
  unfold numberBase
  split
  next rest heq => exact absurd rfl (numeral_head (by decide) (by decide) hn heq)
  next => rfl

lemma parseUintAny_numeral {bits n : ℕ} (h : n < 2 ^ bits) :
    parseUintAny bits (numeral 10 n) = some n := by
  rw [parseUintAny, if_neg (numeral_ne_nil n)]
  by_cases hn : n = 0
  · subst hn
    rfl
  · rw [numberBase_numeral hn]
    dsimp only
    rw [if_neg (fun hmem => underscore_notMem_numeral n hmem.1), filter_eq_self.mpr]
    · rw [scan_numeral (by decide) (by decide) (by omega)]
      rfl
    · intro b hb
      exact decide_eq_true fun heq => underscore_notMem_numeral n (heq ▸ hb)

/-! ## Looking up -/

def answerKeys : List String :=
  ["state", "profile", "binding", "generation", "task_cookie", "pid", "tgid", "uid", "start_time",
    "start_boottime", "comm_hex", "configured", "enabled", "maps_supported", "maps_state",
    "maps_snapshot", "maps_size", "request", "request_state", "request_status", "kernel", "kpatch",
    "binding_id", "id", "value", "control", "bas", "empty", "event", "snapshot", "offset", "total",
    "crc32", "eof", "data", "comm", "reason"]

lemma answerKeys_atoms : ∀ key ∈ answerKeys, safeAtom (ascii key) 14 = true := by
  decide

lemma answerKeys_nodup : (answerKeys.map ascii).Nodup := by
  decide

variable {fields : List (String × List U8)}

/-- Fields whose keys are keys of answers, each once, and whose values are printable. -/
lemma readable_of_keys
    (hkeys : ∀ field ∈ fields, field.1 ∈ answerKeys) (hnodup : (fields.map Prod.fst).Nodup)
    (hvalues : ∀ field ∈ fields, field.2 ≠ [] ∧ ∀ b ∈ field.2, Graphic b) : Readable fields := by
  refine ⟨?_, fun field hfield => ?_, hvalues⟩
  case refine_2 =>
    obtain ⟨hne, hshort, hatom⟩ := safeAtom_iff.mp (answerKeys_atoms _ (hkeys field hfield))
    exact safeAtom_iff.mpr ⟨hne, by omega, hatom⟩
  have hmap : (fields.map fun field => ascii field.1) = (fields.map Prod.fst).map ascii := by
    rw [map_map]
    rfl
  rw [hmap]
  refine hnodup.map_on fun a ha b hb heq => ?_
  obtain ⟨field, hfield, rfl⟩ := mem_map.mp ha
  obtain ⟨other, hother, rfl⟩ := mem_map.mp hb
  exact inj_on_of_nodup_map answerKeys_nodup (hkeys _ hfield) (hkeys _ hother) heq

variable {key : String}

lemma Readable.lookup (h : Readable fields) {value : List U8}
    (hmem : (key, value) ∈ fields) : (storedFields fields).lookup (ascii key) = some value := by
  have hnames := h.names
  clear h
  induction fields with
  | nil => cases hmem
  | cons field fields ih =>
    rw [map_cons, nodup_cons] at hnames
    rw [storedFields, map_cons, lookup_cons]
    rcases mem_cons.mp hmem with rfl | hmem
    · simp
    · have hne : ascii key ≠ ascii field.1 := fun heq =>
        hnames.1 (mem_map.mpr ⟨(key, value), hmem, heq⟩)
      rw [beq_false_of_ne hne]
      exact ih hmem hnames.2

lemma lookup_absent (hkey : key ∈ answerKeys) (hkeys : ∀ field ∈ fields, field.1 ∈ answerKeys)
    (hnone : key ∉ fields.map Prod.fst) : (storedFields fields).lookup (ascii key) = none := by
  refine lookup_none fun hmem => hnone ?_
  rw [storedFields, map_map] at hmem
  obtain ⟨field, hfield, heq⟩ := mem_map.mp hmem
  rw [← inj_on_of_nodup_map answerKeys_nodup (hkeys _ hfield) hkey heq]
  exact mem_map_of_mem hfield

section Read

variable {w : ℕ} {value : BitVec w}

lemma parseUintField_number (h : Readable fields) (hmem : (key, number value) ∈ fields) :
    parseUintField (storedFields fields) key w = .ok value.toNat := by
  rw [parseUintField, h.lookup hmem, Option.bind_some, number, parseUintAny_numeral value.isLt]
  rfl

lemma parseDecimalField_number (h : Readable fields) (hmem : (key, number value) ∈ fields) :
    parseDecimalField (storedFields fields) key w = .ok value.toNat := by
  rw [parseDecimalField, h.lookup hmem, Option.bind_some, number, parseUint_numeral value.isLt]
  rfl

lemma parseDecimalField_flag {b : Bool} (h : Readable fields) (hmem : (key, flag b) ∈ fields) :
    parseDecimalField (storedFields fields) key 8 = .ok (if b then 1 else 0) := by
  rw [parseDecimalField, h.lookup hmem, Option.bind_some, flag, number, parseUint_numeral]
  · cases b <;> rfl
  · cases b <;> decide

end Read

/-! ## Answers are readable -/

def IsValue (v : List U8) : Prop := v ≠ [] ∧ ∀ b ∈ v, Graphic b

lemma isValue_number {w : ℕ} (value : BitVec w) : IsValue (number value) := by
  refine ⟨numeral_ne_nil _, fun b hb => ?_⟩
  obtain ⟨d, hd, rfl⟩ := mem_numeral (by decide) hb
  exact graphic_digitByte (by omega)

lemma isValue_flag (b : Bool) : IsValue (flag b) := isValue_number _

lemma isValue_encodeHex {bytes : List U8} (hne : bytes ≠ []) : IsValue (encodeHex bytes) := by
  constructor
  · intro hnil
    have := encodeHex_length bytes
    rw [hnil, length_nil] at this
    exact hne (length_eq_zero_iff.mp (by omega))
  · intro b hb
    obtain ⟨d, hd, rfl⟩ := mem_encodeHex hb
    exact graphic_digitByte hd

/-- The values of answers but events and chunks. -/
def IsShort (v : List U8) : Prop := IsValue v ∧ v.length ≤ 128

variable {w : ℕ}

lemma isShort_number (hw : 2 ^ w ≤ 10 ^ 20) (value : BitVec w) : IsShort (number value) :=
  ⟨isValue_number value, Nat.le_trans (number_length hw value) (by decide)⟩

lemma signed_length {value : ℤ} (hlow : -2 ^ 31 ≤ value) (hhigh : value < 2 ^ 31) :
    (signed value).length ≤ 11 := by
  have hdigits : (numeral 10 value.natAbs).length ≤ 10 :=
    numeral_length_le (by decide) (by decide) (by omega)
  unfold signed
  split_ifs
  · rw [length_cons]
    omega
  · omega

lemma isShort_signed {value : ℤ} (hlow : -2 ^ 31 ≤ value) (hhigh : value < 2 ^ 31) :
    IsShort (signed value) := by
  refine ⟨⟨?_, signed_graphic value⟩, Nat.le_trans (signed_length hlow hhigh) (by decide)⟩
  unfold signed
  split_ifs
  · simp
  · exact numeral_ne_nil _

def answerWords : List String :=
  ["ready", "rejected", "none", "pending", "bound", "stale", "exited", "free", "running", "done",
    "unsupported", "empty", "task"]

lemma answerWords_atoms : ∀ word ∈ answerWords, safeAtom (ascii word) 11 = true := by
  decide

lemma isShort_word {word : String} (h : word ∈ answerWords) : IsShort (ascii word) := by
  obtain ⟨hne, hshort, hatom⟩ := safeAtom_iff.mp (answerWords_atoms word h)
  exact ⟨⟨hne, fun b hb => (atom_graphic (hatom b hb)).1⟩, by omega⟩

lemma bindingStateName_mem (state : BindingState) : bindingStateName state ∈ answerWords := by
  cases state <;> simp [bindingStateName, answerWords]

lemma asyncStateName_mem (state : AsyncState) : asyncStateName state ∈ answerWords := by
  cases state <;> simp [asyncStateName, answerWords]

lemma mapsStateName_mem (state : MapsState) : mapsStateName state ∈ answerWords := by
  cases state <;> simp [mapsStateName, answerWords]

/-- The texts that a module is built with are printable. -/
structure NamesPrintable (names : ModuleNames) : Prop where
  profile : IsValue names.profile ∧ names.profile.length ≤ 128
  release : IsValue names.release ∧ names.release.length ≤ 128
  kpver : IsValue names.kpver ∧ names.kpver.length ≤ 128

section Readable

variable {names : ModuleNames} (hnames : NamesPrintable names)
include hnames

/-- The values of a `status` answer have at most 128 bytes. -/
lemma statusAnswer_short (f : StatusFields) : ∀ field ∈ statusAnswer names f, IsShort field.2 := by
  have hready : (if names.ready then "ready" else "rejected") ∈ answerWords := by
    split_ifs <;> simp [answerWords]
  have hcomm : IsShort (encodeHex f.binding.identity.comm.toList) := by
    refine ⟨isValue_encodeHex fun hnil => ?_, by simp [encodeHex_length]⟩
    have := f.binding.identity.comm.length_toList
    rw [hnil] at this
    cases this
  have hidentity : ∀ field ∈ identityFields f.binding.identity, IsShort field.2 := by
    simp [identityFields, isShort_number, hcomm]
  have hstatus := isShort_signed (statusCode_int f.requestStatus).1 (statusCode_int _).2
  simp only [statusAnswer, storesFields, requestFields, forall_mem_append, forall_mem_cons, flag,
    not_mem_nil, false_imp_iff, implies_true, and_true]
  refine ⟨⟨⟨⟨isShort_word hready, hnames.profile, isShort_word (bindingStateName_mem _)⟩, ?_⟩,
    isShort_number (by decide) _, isShort_number (by decide) _, isShort_number (by decide) _,
    isShort_word (mapsStateName_mem _), isShort_number (by decide) _,
    isShort_number (by decide) _⟩,
    isShort_number (by decide) _, isShort_word (asyncStateName_mem _), hstatus⟩
  split_ifs
  · exact hidentity
  · simp

omit hnames in
lemma statusAnswer_keys (f : StatusFields) :
    ∀ field ∈ statusAnswer names f, field.1 ∈ answerKeys := by
  unfold statusAnswer identityFields storesFields requestFields
  split_ifs <;> simp [answerKeys]

lemma statusAnswer_readable (f : StatusFields) : Readable (statusAnswer names f) := by
  refine readable_of_keys (statusAnswer_keys f) ?_ fun field hfield =>
    (statusAnswer_short hnames f field hfield).1
  unfold statusAnswer identityFields storesFields requestFields
  split_ifs <;> simp

omit hnames in
lemma replyFields_keys (reply : Reply) :
    ∀ field ∈ replyFields names reply, field.1 ∈ answerKeys := by
  cases reply with
  | status fields => exact statusAnswer_keys fields
  | event event => cases event <;> simp [replyFields, answerKeys]
  | _ => simp [replyFields, answerKeys]

omit hnames in
lemma replyFields_nodup (reply : Reply) : ((replyFields names reply).map Prod.fst).Nodup := by
  cases reply with
  | status fields =>
    show ((statusAnswer names fields).map Prod.fst).Nodup
    unfold statusAnswer identityFields storesFields requestFields
    split_ifs <;> simp
  | event event => cases event <;> simp [replyFields]
  | _ => simp [replyFields]

/-- A chunk has some bytes, at most as many as a chunk may have. -/
def ChunkSized : Reply → Prop
  | .chunk read => read.data ≠ [] ∧ read.data.length ≤ 1536
  | _ => True

variable {reply : Reply}

/-- The answers that carry bytes in hex. -/
def Carries : Reply → Prop
  | .event (some _) | .chunk _ => True
  | _ => False

lemma replyFields_short (h : ¬ Carries reply) :
    ∀ field ∈ replyFields names reply, IsShort field.2 := by
  cases reply with
  | status fields => exact statusAnswer_short hnames fields
  | profile =>
    simp only [replyFields, forall_mem_cons]
    exact ⟨hnames.profile, hnames.release, hnames.kpver, by simp⟩
  | event event =>
    cases event with
    | none => simp [replyFields, flag, isShort_number]
    | some event => exact absurd trivial h
  | chunk read => exact absurd trivial h
  | _ => simp [replyFields, isShort_number]

lemma replyFields_values (hchunk : ChunkSized reply) :
    ∀ field ∈ replyFields names reply, IsValue field.2 := by
  by_cases h : Carries reply
  · cases reply with
    | event event =>
      cases event with
      | none => cases h
      | some event =>
        simp only [replyFields, forall_mem_singleton]
        refine isValue_encodeHex fun hnil => ?_
        have := event.wire_length
        rw [hnil] at this
        cases this
    | chunk read =>
      simp only [replyFields, forall_mem_cons, isValue_number, isValue_flag, true_and]
      exact ⟨isValue_encodeHex hchunk.1, by simp⟩
    | _ => cases h
  · exact fun field hfield => (replyFields_short hnames h field hfield).1

lemma replyFields_readable (hchunk : ChunkSized reply) : Readable (replyFields names reply) :=
  readable_of_keys (replyFields_keys reply) (replyFields_nodup reply)
    (replyFields_values hnames hchunk)

/-! ## Answers are short -/

omit hnames in
lemma replyFields_count (h : ¬ Carries reply) : (replyFields names reply).length ≤ 20 := by
  cases reply with
  | status fields =>
    show (statusAnswer names fields).length ≤ 20
    unfold statusAnswer identityFields storesFields requestFields
    split_ifs <;> simp
  | event event => cases event <;> simp [replyFields]
  | _ => simp [replyFields]

omit hnames in
lemma fieldsText_length {fields : List (String × List U8)} {k : ℕ}
    (hkeys : ∀ field ∈ fields, field.1 ∈ answerKeys)
    (hvalues : ∀ field ∈ fields, field.2.length ≤ k) :
    (fieldsText fields).length ≤ fields.length * (k + 16) := by
  induction fields with
  | nil => simp [fieldsText]
  | cons field fields ih =>
    rw [forall_mem_cons] at hkeys hvalues
    have hkey := (safeAtom_iff.mp (answerKeys_atoms _ hkeys.1)).2.1
    have hrest := ih hkeys.2 hvalues.2
    have hcons : (fieldsText (field :: fields)).length =
        (ascii field.1).length + field.2.length + 2 + (fieldsText fields).length := by
      simp only [fieldsText, flatMap_cons, length_append, length_cons]
      omega
    rw [hcons, length_cons, Nat.add_mul]
    omega

/-- Successful answers have at most 3400 bytes of fields. -/
lemma replyFields_length (hchunk : ChunkSized reply) :
    (fieldsText (replyFields names reply)).length ≤ 3400 := by
  have hkeys : ∀ field ∈ replyFields names reply, field.1 ∈ answerKeys := replyFields_keys reply
  by_cases h : Carries reply
  · cases reply with
    | event event =>
      cases event with
      | none => cases h
      | some event =>
        refine Nat.le_trans (fieldsText_length (k := 864) hkeys ?_) (by simp [replyFields])
        simp only [replyFields, forall_mem_singleton, encodeHex_length, Event.wire_length]
        decide
    | chunk read =>
      have hsplit : replyFields names (.chunk read) =
          [("snapshot", number read.snapshot), ("offset", number read.offset),
            ("total", number read.total), ("crc32", number read.crc32), ("eof", flag read.eof)] ++
          [("data", encodeHex read.data)] := rfl
      rw [hsplit, forall_mem_append] at hkeys
      rw [hsplit, fieldsText_append, length_append]
      have hhead := fieldsText_length (k := 20) hkeys.1 (by simp [flag, number_length])
      have hdata := fieldsText_length (k := 3072) hkeys.2 (by
        simp only [forall_mem_singleton, encodeHex_length]
        have := hchunk.2
        omega)
      simp only [length_cons, length_nil] at hhead hdata
      omega
    | _ => cases h
  · have hlen := fieldsText_length hkeys fun field hfield =>
      (replyFields_short hnames h field hfield).2
    exact Nat.le_trans hlen
      (Nat.le_trans (Nat.mul_le_mul_right _ (replyFields_count h)) (by decide))

/-! ## The decoders recover the state -/

variable {f : StatusFields}

/-- The identity is recovered, with the name cut at its first NUL. -/
lemma identityFromFields_status (hbound : f.binding.state = .bound)
    (hgen : f.binding.identity.generation ≠ 0) (hpid : f.binding.identity.pid ≠ 0)
    (htgid : f.binding.identity.tgid ≠ 0) (hnul : 0 ∈ f.binding.identity.comm.toList) :
    identityFromFields (storedFields (statusAnswer names f)) = .ok {
      generation := f.binding.identity.generation
      taskCookie := f.binding.identity.taskCookie
      pid := f.binding.identity.pid
      tgid := f.binding.identity.tgid
      uid := f.binding.identity.uid
      startTime := f.binding.identity.startTime
      startBootTime := f.binding.identity.startBootTime
      comm := f.binding.identity.comm.toList.takeWhile (· != 0) } := by
  have hread := statusAnswer_readable hnames f
  have hmem : ∀ field ∈ identityFields f.binding.identity, field ∈ statusAnswer names f := by
    intro field hfield
    simp only [statusAnswer, if_pos hbound, mem_append]
    exact .inl (.inl (.inr hfield))
  have hnum : ∀ {w : ℕ} (key : String) (value : BitVec w),
      (key, number value) ∈ identityFields f.binding.identity →
      parseUintField (storedFields (statusAnswer names f)) key w = .ok value.toNat :=
    fun _ _ h => parseUintField_number hread (hmem _ h)
  have hcomm : commFromFields (storedFields (statusAnswer names f)) =
      .ok (f.binding.identity.comm.toList.takeWhile (· != 0)) := by
    have hhex := hread.lookup (hmem ("comm_hex", encodeHex f.binding.identity.comm.toList)
      (by simp [identityFields]))
    have hnone : (storedFields (statusAnswer names f)).lookup (ascii "comm") = none := by
      refine lookup_absent (by simp [answerKeys]) (statusAnswer_keys f) ?_
      unfold statusAnswer identityFields storesFields requestFields
      rw [if_pos hbound]
      simp
    rw [commFromFields, hhex, hnone]
    dsimp only
    rw [if_neg (by rw [encodeHex_length, Vector.length_toList]; simp [commLen]),
      decodeHex_encodeHex]
    dsimp only
    rw [if_neg (by rw [Vector.length_toList]; simp [commLen]), if_pos hnul]
  have hne : ∀ {w : ℕ} {value : BitVec w}, value ≠ 0 → require (value.toNat != 0) = .ok () := by
    intro w value h
    rw [require, if_pos]
    simpa using fun heq => h (BitVec.eq_of_toNat_eq heq)
  generalize storedFields (statusAnswer names f) = fields at hnum hcomm
  generalize f.binding.identity = i at *
  have hgeneration := hnum "generation" i.generation (by simp [identityFields])
  have hcookie := hnum "task_cookie" i.taskCookie (by simp [identityFields])
  have hpid' := hnum "pid" i.pid (by simp [identityFields])
  have htgid' := hnum "tgid" i.tgid (by simp [identityFields])
  have huid := hnum "uid" i.uid (by simp [identityFields])
  have htime := hnum "start_time" i.startTime (by simp [identityFields])
  have hboot := hnum "start_boottime" i.startBootTime (by simp [identityFields])
  simp [identityFromFields, hgeneration, hcookie, hpid', htgid', huid, htime, hboot, hcomm,
    hne hgen, hne hpid, hne htgid, bind, Except.bind, pure, Except.pure]

lemma requestFromFields_status (f : StatusFields) :
    requestFromFields (storedFields (statusAnswer names f)) = .ok (some {
      id := f.requestId
      state := ascii (asyncStateName f.requestState)
      status := statusCode f.requestStatus }) := by
  have hread := statusAnswer_readable hnames f
  have hmem : ∀ field ∈ requestFields f, field ∈ statusAnswer names f :=
    fun field hfield => mem_append_right _ hfield
  have hint := statusCode_int f.requestStatus
  rw [requestFromFields,
    hread.lookup (hmem ("request", number f.requestId) (by simp [requestFields])),
    hread.lookup (hmem ("request_state", ascii (asyncStateName f.requestState))
      (by simp [requestFields])),
    hread.lookup (hmem ("request_status", signed (statusCode f.requestStatus))
      (by simp [requestFields]))]
  dsimp only
  rw [number, parseUint_numeral f.requestId.isLt, atoi_signed (by omega) (by omega)]
  simp [present, bind, Except.bind, pure, Except.pure]

/-- The state of the maps store is recovered. -/
lemma mapsStatusFromFields_status
    (hun : f.mapsState = .unsupported → f.mapsSnapshot = 0 ∧ f.mapsLength = 0)
    (hlen : f.mapsLength.toNat ≤ maxMapsSnapshotBytes) :
    mapsStatusFromFields (storedFields (statusAnswer names f)) = .ok (some {
      supported := f.mapsState ≠ .unsupported
      state := ascii (mapsStateName f.mapsState)
      snapshot := f.mapsSnapshot
      size := f.mapsLength }) := by
  have hread := statusAnswer_readable hnames f
  have hmem : ∀ field ∈ storesFields f, field ∈ statusAnswer names f :=
    fun field hfield => mem_append_left _ (mem_append_right _ hfield)
  have hsupported := hmem ("maps_supported", flag (f.mapsState ≠ .unsupported))
    (by simp [storesFields])
  have hsnapshot := hmem ("maps_snapshot", number f.mapsSnapshot) (by simp [storesFields])
  have hsize := hmem ("maps_size", number f.mapsLength) (by simp [storesFields])
  have hatom : safeAtom (ascii (mapsStateName f.mapsState)) 32 = true := by
    obtain ⟨hne, hshort, hatom⟩ :=
      safeAtom_iff.mp (answerWords_atoms _ (mapsStateName_mem f.mapsState))
    exact safeAtom_iff.mpr ⟨hne, by omega, hatom⟩
  rw [mapsStatusFromFields, hread.lookup hsupported,
    hread.lookup (hmem ("maps_state", ascii (mapsStateName f.mapsState)) (by simp [storesFields])),
    hread.lookup hsnapshot, hread.lookup hsize]
  dsimp only
  rw [parseDecimalField_flag hread hsupported, parseDecimalField_number hread hsnapshot,
    parseDecimalField_number hread hsize]
  by_cases hstate : f.mapsState = .unsupported
  · obtain ⟨hzero, hzero'⟩ := hun hstate
    rw [hstate, mapsStateName] at hatom
    simp [hstate, hzero, hzero', hatom, mapsStateName, require, bind, Except.bind, pure,
      Except.pure]
  · simp [hstate, hatom, hlen, require, bind, Except.bind, pure, Except.pure]

end Readable

end Spz.Client
