import Stackplz.Client.Status
import Stackplz.Client.Event
import Stackplz.Module.Reported

/-!
# From the module to the client

Every answer of the module is read back by the client as it was written, and the decoders recover
from a `status` answer the state that it describes (`response_round_trip`).

A task name reaches the client in two ways: in a `status` answer, where it is cut at its first NUL,
and in an event, where the NULs at its end are trimmed.  The two agree unless something follows the
first NUL (`comm_decoders`).
-/

namespace Spz.Client

open Numerals Transition List

/-! ## All answers -/

variable {cfg : Config} {w : World} {names : ModuleNames}

variable {m : ModuleState}

variable {env : ControlEnv} {command : List U8} {answer : Except Errno (List (String × List U8))}

lemma executed_chunk (hm : m.Reported)
    {reply : Reply} (h : (executed m env command).1 = .ok reply) : ChunkSized reply := by
  cases reply with
  | chunk read =>
    unfold executed at h
    split at h
    · cases h
    · cases h
    · obtain ⟨snapshot, offset, hread⟩ := controlDispatch_chunk h
      exact hm.maps.chunk hread
  | _ => trivial

lemma answerText_length (h : (fieldsText (answerFields answer)).length ≤ 3400) :
    (answerText answer).length < controlResponseMax := by
  obtain ⟨hlow, hhigh⟩ := statusCode_int answer
  have hstatus := signed_length hlow hhigh
  rw [answerText, length_append, length_append, length_append,
    show (ascii "status=").length = 7 from rfl, show (ascii " version=1").length = 10 from rfl,
    controlResponseMax]
  omega

/-- An answer in a buffer of full size: it is given, and it can be read back. -/
lemma answer_complete (hnames : NamesPrintable names)
    (hsized : ∀ reply, (executed m env command).1 = .ok reply → ChunkSized reply)
    (hanswer : (executed m env command).1.map (replyFields names) = answer) :
    controlExecute names m env false command controlResponseMax =
        (.ok (answerText answer), (executed m env command).2) ∧
      Readable (answerFields answer) ∧ (answerText answer).length ≤ maxResponseBytes := by
  have hfields : (fieldsText (answerFields answer)).length ≤ 3400 ∧
      Readable (answerFields answer) ∧
      answerOf names (executed m env command).1 = answer := by
    cases hresult : (executed m env command).1 with
    | error e =>
      rw [hresult] at hanswer
      subst hanswer
      have hshort := (controlReason_word e).2.2
      refine ⟨?_, readable_reason e, rfl⟩
      refine Nat.le_trans (fieldsText_length (k := 11) ?_ ?_) (by simp [answerFields, Except.map])
      · simp [answerFields, answerKeys, Except.map]
      · simpa [answerFields, Except.map] using hshort
    | ok reply =>
      rw [hresult] at hanswer
      subst hanswer
      have hchunk := hsized reply hresult
      have hlen := replyFields_length hnames hchunk
      refine ⟨hlen, replyFields_readable hnames hchunk, ?_⟩
      rw [answerOf, if_pos (Nat.le_trans hlen (by decide))]
      rfl
  obtain ⟨hlen, hread, hanswer⟩ := hfields
  have hshort := answerText_length hlen
  refine ⟨?_, hread, Nat.le_of_lt hshort⟩
  rw [controlExecute_eq names m env command (by decide) (Nat.le_refl _), hanswer, if_pos hshort]

lemma executed_status (m : ModuleState) (env : ControlEnv) :
    executed m env (ascii "status") = (.ok (.status (statusFields m)), m) := rfl

/-- The round trip of answers.  In every reachable state, and for every command text, the answer
is given, and the client recovers its status and its fields.  From a `status` answer it recovers the
binding, the identity of the bound task, the request and the state of the maps store. -/
theorem response_round_trip (hw : ((moduleSystem cfg).restrict Ordinary).Reachable w)
    (hnames : NamesPrintable names) (queue : Except Errno Unit) (command : List U8) :
    ∃ text fields,
      (controlExecute names w.m { queue := queue } false command controlResponseMax).1 = .ok text ∧
      fields = storedFields (answerFields
        ((executed w.m { queue := queue } command).1.map (replyFields names))) ∧
      parseResponse text =
        ({ status := statusCode (executed w.m { queue := queue } command).1
           version := 1
           fields := fields }, answerError (executed w.m { queue := queue } command).1) ∧
      (command = ascii "status" →
        fields.lookup (ascii "binding") = some (ascii (bindingStateName w.m.binding.state)) ∧
        (w.m.binding.state = .bound → identityFromFields fields = .ok {
          generation := w.m.binding.identity.generation
          taskCookie := w.m.binding.identity.taskCookie
          pid := w.m.binding.identity.pid
          tgid := w.m.binding.identity.tgid
          uid := w.m.binding.identity.uid
          startTime := w.m.binding.identity.startTime
          startBootTime := w.m.binding.identity.startBootTime
          comm := w.m.binding.identity.comm.toList.takeWhile (· != 0) }) ∧
        requestFromFields fields = .ok (some {
          id := w.m.async.requestId
          state := ascii (asyncStateName w.m.async.state)
          status := statusCode w.m.async.status }) ∧
        mapsStatusFromFields fields = .ok (some {
          supported := mapsSupported w.m.maps
          state := ascii (mapsStateName w.m.maps.state)
          snapshot := w.m.maps.snapshot
          size := w.m.maps.length })) := by
  have hm := reported_of_reachable hw
  obtain ⟨htext, hread, hlen⟩ := answer_complete hnames (fun reply h => executed_chunk hm h) rfl
  have hparse := parseResponse_answer hread hlen
  refine ⟨_, _, by rw [htext], rfl, ?_, ?_⟩
  · rw [hparse]
    cases (executed w.m { queue := queue } command).1 <;> rfl
  · rintro rfl
    rw [executed_status]
    show (storedFields (statusAnswer names (statusFields w.m))).lookup _ = _ ∧ _
    refine ⟨?_, fun hbound => ?_, requestFromFields_status hnames _, ?_⟩
    · exact (statusAnswer_readable hnames _).lookup (by simp [statusAnswer, statusFields])
    · obtain ⟨hgen, hsame, hpid, htgid, hcomm⟩ := hm.binding.bound hbound
      exact identityFromFields_status hnames hbound (by
        show w.m.binding.identity.generation ≠ 0
        rwa [hsame]) hpid htgid hcomm
    · have hmaps := mapsStatusFromFields_status hnames (f := statusFields w.m) hm.maps.unsupported
        hm.maps.length
      have hsupported : decide ((statusFields w.m).mapsState ≠ .unsupported) =
          mapsSupported w.m.maps := by
        by_cases h : w.m.maps.state = .unsupported <;> simp [statusFields, mapsSupported, h]
      rw [hsupported] at hmaps
      exact hmaps

def someNames : ModuleNames :=
  { profile := ascii "demo", release := ascii "6.1", kpver := ascii "1" }

lemma someNames_printable : NamesPrintable someNames := by
  constructor <;> simp [someNames, IsValue, ascii, Graphic]

/-- The small module bound to its task. -/
def boundWorld : World := worldAfter [.command bindSome {}, .finishAfter 0 {}]

lemma boundWorld_reachable :
    ((moduleSystem tinyConfig).restrict Ordinary).Reachable boundWorld := by
  have hpaired : ∀ cpu, (tinyWorld.current cpu).Paired := by
    intro cpu
    simp only [tinyWorld]
    split_ifs
    · simp [KernelTask.Paired, someTask, taskOf]
    · simp [KernelTask.Paired, workerTask, taskOf]
  exact .step (.step (.init tinyWorld_init) (a := .command bindSome {}) ⟨⟨hpaired, by simp⟩, rfl⟩)
    (a := .finishAfter 0 {}) ⟨⟨hpaired, by simp⟩, rfl⟩

/-- The `status` answer of a module that is bound. -/
theorem response_round_trip_bound : boundWorld.m.binding.state = .bound ∧ ∃ text fields,
    (controlExecute someNames boundWorld.m {} false (ascii "status") controlResponseMax).1 =
      .ok text ∧
    parseResponse text = ({ status := 0, version := 1, fields := fields }, none) ∧
    ∃ identity, identityFromFields fields = .ok identity ∧ identity.pid = 100 := by
  obtain ⟨text, fields, htext, -, hparse, hstatus⟩ :=
    response_round_trip boundWorld_reachable someNames_printable (.ok ()) (ascii "status")
  rw [executed_status] at hparse
  exact ⟨rfl, text, fields, htext, hparse, _, (hstatus rfl).2.1 rfl, rfl⟩

/-! ## Task names -/

/-- Trimming the NULs at the end leaves what is before the first NUL if nothing else follows it. -/
lemma trimNul_eq_takeWhile_iff (s : List U8) :
    trimNul s = s.takeWhile (· != 0) ↔ ∀ b ∈ s.dropWhile (· != 0), b = 0 := by
  have hsplit : s.takeWhile (· != 0) ++ s.dropWhile (· != 0) = s := takeWhile_append_dropWhile
  constructor
  · intro heq b hb
    obtain ⟨k, hk⟩ := (trimNul_spec s).1
    rw [heq] at hk
    have hrest : s.dropWhile (· != 0) = List.replicate k 0 := append_cancel_left (hsplit.trans hk)
    rw [hrest] at hb
    exact eq_of_mem_replicate hb
  · intro hzeros
    have hrev : (s.takeWhile (· != 0)).reverse.dropWhile (· == 0) =
        (s.takeWhile (· != 0)).reverse := by
      rw [dropWhile_eq_self_iff]
      intro hpos hhead
      have hmem := mem_reverse.mp (getElem_mem hpos)
      have hne := mem_takeWhile_imp hmem
      simp_all
    have hback : s.reverse = (s.dropWhile (· != 0)).reverse ++ (s.takeWhile (· != 0)).reverse := by
      rw [← reverse_append, hsplit]
    calc trimNul s = (s.reverse.dropWhile (· == 0)).reverse := rfl
      _ = ((s.takeWhile (· != 0)).reverse.dropWhile (· == 0)).reverse := by
          rw [hback, dropWhile_append_of_pos fun b hb => by
            simpa using hzeros b (mem_reverse.mp hb)]
      _ = s.takeWhile (· != 0) := by rw [hrev, reverse_reverse]

/-- The same, by places. -/
lemma dropWhile_zeros_iff (s : List U8) : (∀ b ∈ s.dropWhile (· != 0), b = 0) ↔
    ∀ (i j : ℕ) (b : U8), i < j → s[i]? = some 0 → s[j]? = some b → b = 0 := by
  induction s with
  | nil => simp
  | cons c s ih =>
    by_cases hc : c = 0
    · subst hc
      rw [dropWhile_cons_of_neg (by simp)]
      constructor
      · intro hall i j b _ _ hj
        exact hall b (mem_of_getElem? hj)
      · intro hplace b hb
        rcases mem_cons.mp hb with rfl | hb
        · rfl
        · obtain ⟨j, hj⟩ := mem_iff_getElem?.mp hb
          exact hplace 0 (j + 1) b (by omega) rfl hj
    · rw [dropWhile_cons_of_pos (by simpa using hc), ih]
      constructor
      · intro hplace i j b hij hi hj
        obtain ⟨j', rfl⟩ : ∃ j', j = j' + 1 := ⟨j - 1, by omega⟩
        cases i with
        | zero => exact absurd (Option.some.inj hi) hc
        | succ i => exact hplace i j' b (by omega) hi hj
      · intro hplace i j b hij hi hj
        exact hplace (i + 1) (j + 1) b (by omega) hi hj

lemma trimNul_agrees (comm : Comm) : trimNul comm.toList = comm.toList.takeWhile (· != 0) ↔
    ∀ i j : Fin 16, i < j → comm.get i = 0 → comm.get j = 0 := by
  rw [trimNul_eq_takeWhile_iff, dropWhile_zeros_iff]
  have hplace : ∀ (i : ℕ) (b : U8), comm.toList[i]? = some b ↔ ∃ h : i < 16, comm[i] = b := by
    intro i b
    rw [List.getElem?_eq_some_iff]
    simp
  constructor
  · intro h i j hij hi
    exact h i j _ hij ((hplace i 0).mpr ⟨i.isLt, hi⟩) ((hplace j _).mpr ⟨j.isLt, rfl⟩)
  · intro h i j b hij hi hj
    obtain ⟨hi', hi⟩ := (hplace i 0).mp hi
    obtain ⟨hj', rfl⟩ := (hplace j b).mp hj
    exact h ⟨i, hi'⟩ ⟨j, hj'⟩ hij hi

def storedHit (st : CpuState) (frame : DebugFrame) (observedAddress liveValue : U64)
    (liveControl : U32) (mdscr now : U64) (cpu : ℕ) (sequence : U64) : Event :=
  stampEvent cpu sequence
    { debugFillEvent st frame observedAddress liveValue liveControl mdscr with timestamp := now }

/-- The client ends the name in a `status` answer at its first NUL. -/
lemma status_comm (hnames : NamesPrintable names) (env : ControlEnv)
    (hbound : m.binding.state = .bound) (hgen : m.binding.identity.generation ≠ 0)
    (hpid : m.binding.identity.pid ≠ 0) (htgid : m.binding.identity.tgid ≠ 0)
    (hnul : 0 ∈ m.binding.identity.comm.toList) :
    ∃ text response identity,
      (controlExecute names m env false (ascii "status") controlResponseMax).1 = .ok text ∧
      parseResponse text = (response, none) ∧ identityFromFields response.fields = .ok identity ∧
      identity.comm = m.binding.identity.comm.toList.takeWhile (· != 0) := by
  have hsized : ∀ reply, (executed m env (ascii "status")).1 = .ok reply → ChunkSized reply := by
    intro reply h
    rw [executed_status] at h
    cases h
    trivial
  obtain ⟨htext, hread, hlen⟩ := answer_complete hnames hsized rfl
  have hparse := parseResponse_answer hread hlen
  have hidentity := identityFromFields_status hnames
    (f := statusFields m) hbound hgen hpid htgid hnul
  exact ⟨_, _, _, by rw [htext], hparse, hidentity, rfl⟩

lemma hit_comm (st : CpuState) (frame : DebugFrame) (observedAddress liveValue : U64)
    (liveControl : U32) (mdscr now : U64) (cpu : ℕ) (sequence : U64) :
    ∃ event, decodeEventHex (encodeHex (storedHit st frame observedAddress liveValue liveControl
      mdscr now cpu sequence).wire) = .ok event ∧
      event.comm = trimNul st.target.identity.comm.toList :=
  ⟨_, (IsStamped.wellStamped ⟨cpu, sequence, _, rfl⟩).decodes, rfl⟩

/-- Two ways to end a name.  A bound task's name in a `status` answer and in the event of one of
its hits are the same for the client if and only if nothing but NULs follows the first NUL. -/
theorem comm_decoders {m : ModuleState} (hnames : NamesPrintable names) (env : ControlEnv)
    (hbound : m.binding.state = .bound) (hgen : m.binding.identity.generation ≠ 0)
    (hpid : m.binding.identity.pid ≠ 0) (htgid : m.binding.identity.tgid ≠ 0)
    (hlast : m.binding.identity.comm.get 15 = 0) {st : CpuState}
    (hst : st.target.identity = m.binding.identity) (frame : DebugFrame)
    (observedAddress liveValue : U64) (liveControl : U32) (mdscr now : U64) (cpu : ℕ)
    (sequence : U64) :
    ∃ text response identity event,
      (controlExecute names m env false (ascii "status") controlResponseMax).1 = .ok text ∧
      parseResponse text = (response, none) ∧ identityFromFields response.fields = .ok identity ∧
      decodeEventHex (encodeHex (storedHit st frame observedAddress liveValue liveControl mdscr now
        cpu sequence).wire) = .ok event ∧
      (event.comm = identity.comm ↔
        ∀ i j : Fin 16, i < j → m.binding.identity.comm.get i = 0 →
          m.binding.identity.comm.get j = 0) := by
  have hnul : 0 ∈ m.binding.identity.comm.toList := by
    rw [mem_iff_getElem]
    refine ⟨15, by simp, ?_⟩
    rw [Vector.getElem_toList]
    exact hlast
  obtain ⟨text, response, identity, htext, hparse, hidentity, hcomm⟩ :=
    status_comm hnames env hbound hgen hpid htgid hnul
  obtain ⟨event, hevent, hname⟩ :=
    hit_comm st frame observedAddress liveValue liveControl mdscr now cpu sequence
  refine ⟨text, response, identity, event, htext, hparse, hidentity, hevent, ?_⟩
  rw [hcomm, hname, hst, trimNul_agrees]

/-- The small module bound to a task of the given name. -/
def namedModule (comm : Comm) : ModuleState :=
  { boundWorld.m with
    binding := { boundWorld.m.binding with
      identity := { boundWorld.m.binding.identity with comm := comm } } }

/-- A CPU set up for the task of that module. -/
def namedCpu (comm : Comm) : CpuState :=
  { target := { identity := (namedModule comm).binding.identity } }

/-- The name `app`. -/
def plainComm : Comm := (((Vector.replicate 16 0).set 0 0x61).set 1 0x70).set 2 0x70

theorem comm_decoders_plain : ∃ text response identity event,
    (controlExecute someNames (namedModule plainComm) {} false (ascii "status")
      controlResponseMax).1 = .ok text ∧
    parseResponse text = (response, none) ∧ identityFromFields response.fields = .ok identity ∧
    decodeEventHex (encodeHex (storedHit (namedCpu plainComm) {} 0 0 0 0 0 0 1).wire) = .ok event ∧
    event.comm = identity.comm := by
  obtain ⟨text, response, identity, event, htext, hparse, hidentity, hevent, hiff⟩ :=
    comm_decoders (m := namedModule plainComm) someNames_printable {} rfl (by decide) (by decide)
      (by decide) (by decide) (show (namedCpu plainComm).target.identity = _ from rfl)
      {} 0 0 0 0 0 0 1
  exact ⟨text, response, identity, event, htext, hparse, hidentity, hevent, hiff.mpr (by decide)⟩

/-- The letters `a` and `b` with a NUL between them. -/
def oddComm : Comm := ((Vector.replicate 16 0).set 0 0x61).set 2 0x62

/-- The name differs: the `status` answer ends it at the NUL inside, the event does not. -/
theorem comm_decoders_differ : (namedModule oddComm).binding.identity.comm.get 15 = 0 ∧
    ∃ text response identity event,
    (controlExecute someNames (namedModule oddComm) {} false (ascii "status")
      controlResponseMax).1 = .ok text ∧
    parseResponse text = (response, none) ∧ identityFromFields response.fields = .ok identity ∧
    decodeEventHex (encodeHex (storedHit (namedCpu oddComm) {} 0 0 0 0 0 0 1).wire) = .ok event ∧
    identity.comm = [0x61] ∧ event.comm = [0x61, 0, 0x62] := by
  obtain ⟨text, response, identity, htext, hparse, hidentity, hcomm⟩ :=
    status_comm (m := namedModule oddComm) someNames_printable {} rfl (by decide) (by decide)
      (by decide) (by decide)
  obtain ⟨event, hevent, hname⟩ := hit_comm (namedCpu oddComm) {} 0 0 0 0 0 0 1
  refine ⟨by decide, text, response, identity, event, htext, hparse, hidentity, hevent, ?_, ?_⟩
  · rw [hcomm]
    decide
  · rw [hname]
    decide

end Spz.Client
