import Stackplz.Bpf.EventBuffer
import Stackplz.Bpf.Emission

/-!
# The argument buffer while `read_args` runs

What an iteration of `read_args` does to the event is a few calls of save functions, with an empty
record or one with the magic length in place of what could not be saved.

* `run_inBounds` — any sequence of iterations stays inside the array, whatever codes they execute in
  whatever context and however their probe reads end;
* `run_iterations` — the iterations of `read_args` are such a sequence, and what it leaves below
  `buf_off` is the list that `Buffer` has.
-/

namespace Spz.Bpf

open SaveCall Machine

/-! ## Iterations -/

/-- The outcomes of the probe reads that an iteration saves: of a word, of a size, of bytes or a
string, and of a size and bytes for the record that stands in for them. -/
structure Outcomes where
  word : Option (List U8)
  sizeRead : Bool
  text : Option (List U8)
  standInSizeRead : Bool
  standIn : Option (List U8)

/-- The length that `OP_SAVE_STRUCT` asks for. -/
def askedLen (op : OpConfig) (ctx : OpCtx) : U32 :=
  cappedLen (if op.preCode = .setReadCount then ctx.readLen * op.value.setWidth 32 else ctx.readLen)

namespace EventData

/-- A save, and another one if it returns 0. -/
def saveOr (e : EventData) (call standIn : SaveCall) : Option EventData := do
  let (e, saved) ← call.run e
  if saved then some e else (standIn.run e).map Prod.fst

def perform (e : EventData) (o : Outcomes) (op : OpConfig) (code : OpCode) (ctx : OpCtx) :
    Option EventData :=
  match code with
  | .saveAddr | .saveReg | .savePointer => ((word o.word ctx.saveIndex).run e).map Prod.fst
  | .saveStruct =>
    e.saveOr (.bytes o.sizeRead o.text (askedLen op ctx) ctx.saveIndex)
      (.bytes o.standInSizeRead o.standIn 0 ctx.saveIndex)
  | .saveString =>
    e.saveOr (.str o.text ctx.saveIndex) (.bytes o.standInSizeRead o.standIn 0 ctx.saveIndex)
  | .saveString16 =>
    e.saveOr (.utf16 o.sizeRead o.text ctx.saveIndex)
      (.bytes o.standInSizeRead o.standIn 0 ctx.saveIndex)
  | .savePtrString => do
    let (e, _) ← (word o.word ctx.saveIndex).run e
    e.saveOr (.str o.text (ctx.saveIndex + 1))
      (.bytes o.standInSizeRead o.standIn strarrMagicLen (ctx.saveIndex + 1))
  | .savePtrString16 => do
    let (e, _) ← (word o.word ctx.saveIndex).run e
    e.saveOr (.utf16 o.sizeRead o.text (ctx.saveIndex + 1))
      (.bytes o.standInSizeRead o.standIn strarrMagicLen (ctx.saveIndex + 1))
  | _ => some e

/-- Iterations, each with the code it executes, the operation, the context and the outcomes. -/
def run (its : List (Outcomes × OpConfig × OpCode × OpCtx)) (e : EventData) : Option EventData :=
  its.foldlM (fun e it => e.perform it.1 it.2.1 it.2.2.1 it.2.2.2) e

variable {e : EventData}

lemma saveOr_inBounds (call standIn : SaveCall) (he : e.InBounds) :
    ∃ e', e.saveOr call standIn = some e' ∧ e'.InBounds := by
  obtain ⟨e₁, hrun, hsaves⟩ := call.save_contract he
  rw [saveOr, hrun]
  cases call.succeeds e with
  | true => exact ⟨e₁, rfl, hsaves.inBounds⟩
  | false =>
    obtain ⟨e₂, hrun₂, hsaves₂⟩ := standIn.save_contract hsaves.inBounds
    refine ⟨e₂, ?_, hsaves₂.inBounds⟩
    show (standIn.run e₁).map Prod.fst = _
    rw [hrun₂]
    rfl

lemma perform_inBounds (o : Outcomes) (op : OpConfig) (code : OpCode) (ctx : OpCtx)
    (he : e.InBounds) :
    ∃ e', e.perform o op code ctx = some e' ∧ e'.InBounds := by
  obtain ⟨e₁, hword, hsaves⟩ := (word o.word ctx.saveIndex).save_contract he
  have hone : ∃ e', ((word o.word ctx.saveIndex).run e).map Prod.fst = some e' ∧
      e'.InBounds := ⟨e₁, by rw [hword]; rfl, hsaves.inBounds⟩
  cases code with
  | saveAddr | saveReg | savePointer => exact hone
  | saveStruct | saveString | saveString16 => exact saveOr_inBounds _ _ he
  | savePtrString | savePtrString16 =>
    rw [perform, hword]
    exact saveOr_inBounds _ _ hsaves.inBounds
  | _ => exact ⟨e, rfl, he⟩

lemma run_inBounds (its : List (Outcomes × OpConfig × OpCode × OpCtx)) (he : e.InBounds) :
    ∃ e', e.run its = some e' ∧ e'.InBounds := by
  induction its generalizing e with
  | nil => exact ⟨e, rfl, he⟩
  | cons it its ih =>
    obtain ⟨e₁, hone, hin⟩ := e.perform_inBounds it.1 it.2.1 it.2.2.1 it.2.2.2 he
    obtain ⟨e₂, hmore, hin₂⟩ := ih hin
    refine ⟨e₂, ?_, hin₂⟩
    rw [run, List.foldlM_cons, hone]
    exact hmore

end EventData

/-! ## The iterations of `read_args` -/

/-- The event holds the buffer. -/
structure EventData.Shows (e : EventData) (args : List U8) : Prop where
  inBounds : e.InBounds
  sent : e.sent = args

/-- The call does to the event what the function does to the buffer. -/
def SaveCall.Does (call : SaveCall) (save : List U8 → Option (List U8)) : Prop :=
  ∀ (e : EventData) (args : List U8), e.Shows args →
    save args = if call.succeeds e then some (args ++ call.record) else none

namespace EventData

variable {e e' : EventData} {args : List U8} {mem : Memory} {ptr word : U64}
  {size : U32} {index : U8}
  {call standIn : SaveCall} {save save' : List U8 → Option (List U8)}

lemma Shows.length (h : e.Shows args) : e.bufOff.toNat = args.length := by
  have hin : e.bufOff.toNat ≤ argsBufSize := h.inBounds
  have hlen := congrArg List.length h.sent
  rwa [EventData.sent, List.length_take, e.size, Nat.min_eq_left hin] at hlen

lemma Shows.called (h : e.Shows args) (call : SaveCall) :
    ∃ e', call.run e = some (e', call.succeeds e) ∧
    e'.Shows (if call.succeeds e then args ++ call.record else args) := by
  obtain ⟨e', hrun, hsaves⟩ := call.save_contract h.inBounds
  refine ⟨e', hrun, hsaves.inBounds, ?_⟩
  split_ifs with hok
  · rw [(hsaves.done hok).2.2, h.sent]
  · rw [(hsaves.failed (Bool.eq_false_of_not_eq_true hok)).2.2, h.sent]

lemma fitted_some (bytes : List U8) : fitted bytes.length (some bytes) = bytes := by
  rw [fitted, Option.getD_some, List.takeD_eq_take _ (Nat.le_refl _), List.take_length]

lemma word_shows (word : U64) (index : U8) (h : e.Shows args) :
    ∃ e' ret, (SaveCall.word (some (leBytes 8 word)) index).run e = some (e', ret) ∧
      e'.Shows (Bpf.saveToSubmitBuf args word index) := by
  obtain ⟨e', hrun, hshows⟩ := h.called (.word (some (leBytes 8 word)) index)
  refine ⟨e', _, hrun, ?_⟩
  have hfitted := fitted_some (leBytes 8 word)
  rw [leBytes_length] at hfitted
  rw [SaveCall.succeeds, SaveCall.record, h.length, Option.isSome_some, Bool.and_true, hfitted]
    at hshows
  by_cases hroom : RoomForWord args
  · rw [saveToSubmitBuf_of_room hroom]
    rwa [if_pos (decide_eq_true (show args.length ≤ argsBufSize - (maxElementSize + 1) from hroom))]
      at hshows
  · rw [saveToSubmitBuf_full hroom]
    rwa [if_neg (by rw [decide_eq_true_iff]; exact hroom)] at hshows

lemma bytes_does (mem : Memory) (ptr : U64) (size : U32) (index : U8) :
    (bytes true (readBytes mem ptr (maskedCount size).toNat) size index).Does fun args =>
      Bpf.saveBytesToBuf mem args ptr size index := by
  intro e args h
  rw [SaveCall.succeeds, SaveCall.record, h.length, Bool.true_and]
  dsimp only
  by_cases hroom : RoomForBytes args
  · rw [decide_eq_true (show args.length ≤ argsBufSize - (maxBytesArrSize + 5) from hroom),
      Bool.true_and]
    -- Without bytes to read the read succeeds too.
    have hlist : Bpf.saveBytesToBuf mem args ptr size index =
        (readBytes mem ptr (maskedCount size).toNat).map fun bytes =>
          args ++ sizedRecord index size bytes := by
      rw [saveBytesToBuf_of_room hroom]
      by_cases hpos : size > 0
      · rw [if_pos hpos]
        rfl
      · obtain rfl : size = 0 := by bv_omega
        rfl
    have hok : (decide (size = 0) || (readBytes mem ptr (maskedCount size).toNat).isSome) =
        (readBytes mem ptr (maskedCount size).toNat).isSome := by
      by_cases hzero : size = 0
      · subst hzero
        rfl
      · rw [decide_eq_false hzero, Bool.false_or]
    rw [hok, hlist]
    cases hread : readBytes mem ptr (maskedCount size).toNat with
    | none => rfl
    | some bytes =>
      have hall := fitted_some bytes
      rw [readBytes_length hread] at hall
      rw [hall]
      rfl
  · rw [decide_eq_false (show ¬ args.length ≤ argsBufSize - (maxBytesArrSize + 5) from hroom),
      saveBytesToBuf_full hroom]
    rfl

lemma str_does (mem : Memory) (ptr : U64) (index : U8) :
    (str (readString mem ptr maxStringSize) index).Does fun args =>
      Bpf.saveStrToBuf mem args ptr index := by
  intro e args h
  rw [SaveCall.succeeds, SaveCall.record, h.length]
  dsimp only
  by_cases hroom : RoomForString args
  · rw [decide_eq_true (show args.length ≤ argsBufSize - (maxStringSize + 5) from hroom),
      Bool.true_and, saveStrToBuf_of_room hroom]
    cases hread : readString mem ptr maxStringSize with
    | none => rfl
    | some bytes =>
      have hshort : bytes.length ≤ maxStringSize := (readString_length hread).2
      have hall : fittedStr maxStringSize (some bytes) = bytes := List.take_of_length_le hshort
      rw [hall]
      rfl
  · rw [decide_eq_false (show ¬ args.length ≤ argsBufSize - (maxStringSize + 5) from hroom),
      saveStrToBuf_full hroom]
    rfl

lemma saveOr_shows (hcall : call.Does save) (hstand : standIn.Does save') (h : e.Shows args) :
    ∃ e', e.saveOr call standIn = some e' ∧
      e'.Shows ((save args).getD ((save' args).getD args)) := by
  obtain ⟨e₁, hrun, hshows⟩ := h.called call
  rw [saveOr, hrun, hcall e args h]
  cases hok : call.succeeds e with
  | true =>
    rw [hok] at hshows
    exact ⟨e₁, rfl, hshows⟩
  | false =>
    rw [hok] at hshows
    obtain ⟨e₂, hrun₂, hshows₂⟩ := Shows.called hshows standIn
    refine ⟨e₂, ?_, ?_⟩
    · show (standIn.run e₁).map Prod.fst = _
      rw [hrun₂]
      rfl
    · show e₂.Shows ((save' args).getD args)
      rw [hstand e₁ args hshows]
      cases hok₂ : standIn.succeeds e₁ with
      | true | false =>
        rw [hok₂] at hshows₂
        exact hshows₂

end EventData

namespace Machine

variable (m : Machine)

def outcomes (op : OpConfig) (code : OpCode) (ctx : OpCtx) : Outcomes :=
  let addr := untagged ctx.readAddr
  let pointed := probeReadWord m.memory addr
  { word := some (leBytes 8 (match code with
      | .saveAddr => ctx.readAddr
      | .saveReg => ctx.regValue
      | .savePointer => ctx.pointerValue
      | _ => pointed))
    sizeRead := true
    text := match code with
      | .saveStruct => readBytes m.memory addr (EventData.maskedCount (askedLen op ctx)).toNat
      | .saveString => readString m.memory addr maxStringSize
      | .saveString16 => readBytes m.memory addr 512
      | .savePtrString => readString m.memory (untagged pointed) maxStringSize
      | _ => readBytes m.memory (untagged pointed) 512
    standInSizeRead := true
    standIn := some [] }

/-- What the loop executes next. -/
def dispatch (p : PointArgs) (s : Scan) : Option (OpConfig × OpCode × Scan) :=
  match s.op with
  | some op => if s.ctx.postCode ≠ .skip then some (op, s.ctx.postCode, s.posted) else next
  | none => next
where
  next : Option (OpConfig × OpCode × Scan) :=
    if s.ctx.opKeyIndex ≥ p.maxOp then none
    else (m.opList (p.opKeyList.getD s.ctx.opKeyIndex 0)).map fun op => (op, op.code, s.fetched op)

/-- The iterations of the loop, as far as it gets. -/
def iterations (p : PointArgs) : ℕ → Scan → List (Outcomes × OpConfig × OpCode × OpCtx)
  | 0, _ => []
  | n + 1, s =>
    ((m.dispatch p s).toList.map fun d =>
      (m.outcomes d.1 d.2.1 d.2.2.ctx, d.1, d.2.1, d.2.2.ctx)) ++
      match m.step p s with
      | .ok s' => iterations p n s'
      | .error _ => []

end Machine

/-- The buffer that the loop ends with. -/
def argsOf : Except Halt Scan → List U8
  | .ok s => s.args
  | .error (_, s) => s.args

variable {m : Machine} {p : PointArgs} {op : OpConfig} {code : OpCode} {s : Scan} {e : EventData}

lemma filtered_args (apply : OpCtx → ArgFilter → OpCtx) :
    argsOf (m.filtered op s apply) = s.args := by
  unfold filtered
  split <;> rfl

lemma readReg_args : argsOf (m.readReg op s) = s.args := by
  unfold readReg
  dsimp only
  split_ifs <;> rfl

/-- A pointer and what it points to. -/
lemma savePtrText_shows {call standIn : SaveCall} {save : List U8 → U64 → U8 → Option (List U8)}
    (hcall : call.Does fun args =>
      save args (untagged (probeReadWord m.memory (untagged s.ctx.readAddr)))
      (s.ctx.saveIndex + 1))
    (hstand : standIn.Does fun args =>
      saveBytesToBuf m.memory args 0 strarrMagicLen (s.ctx.saveIndex + 1)) (h : e.Shows s.args) :
    ∃ e', (do
      let (e, _) ← (word (some (leBytes 8 (probeReadWord m.memory (untagged s.ctx.readAddr))))
        s.ctx.saveIndex).run e
      e.saveOr call standIn) = some e' ∧ e'.Shows (s.savePtrText m.memory save).args := by
  obtain ⟨e₁, ret, hword, hshows⟩ := e.word_shows (probeReadWord m.memory (untagged s.ctx.readAddr))
    s.ctx.saveIndex h
  obtain ⟨e₂, hrun, hshows₂⟩ := e₁.saveOr_shows hcall hstand hshows
  refine ⟨e₂, by rw [hword]; exact hrun, ?_⟩
  unfold Scan.savePtrText
  dsimp only
  split
  · rename_i args hsave
    dsimp only [Scan.savedWord] at hsave
    rw [hsave] at hshows₂
    exact hshows₂
  · rename_i hsave
    dsimp only [Scan.savedWord] at hsave
    rw [hsave] at hshows₂
    exact hshows₂

/-- The array goes on showing the output when a code is performed. -/
lemma perform_shows (h : e.Shows s.args) :
    ∃ e', e.perform (m.outcomes op code s.ctx) op code s.ctx = some e' ∧
      e'.Shows (argsOf (m.perform op code s)) := by
  have hword : ∀ word, ∃ e',
      ((SaveCall.word (some (leBytes 8 word)) s.ctx.saveIndex).run e).map Prod.fst =
      some e' ∧ e'.Shows (saveToSubmitBuf s.args word s.ctx.saveIndex) := by
    intro word
    obtain ⟨e', ret, hrun, hshows⟩ := e.word_shows word s.ctx.saveIndex h
    exact ⟨e', by rw [hrun]; rfl, hshows⟩
  have hzero := EventData.bytes_does m.memory 0 0 s.ctx.saveIndex
  have hmagic := EventData.bytes_does m.memory 0 strarrMagicLen (s.ctx.saveIndex + 1)
  cases code with
  | saveAddr => exact hword s.ctx.readAddr
  | saveReg => exact hword s.ctx.regValue
  | savePointer => exact hword s.ctx.pointerValue
  | saveStruct => exact e.saveOr_shows (EventData.bytes_does m.memory _ _ _) hzero h
  | saveString => exact e.saveOr_shows (EventData.str_does m.memory _ _) hzero h
  | saveString16 => exact e.saveOr_shows (EventData.bytes_does m.memory _ 512 _) hzero h
  | savePtrString => exact savePtrText_shows (EventData.str_does m.memory _ _) hmagic h
  | savePtrString16 => exact savePtrText_shows (EventData.bytes_does m.memory _ 512 _) hmagic h
  | readReg => exact ⟨e, rfl, readReg_args.symm ▸ h⟩
  | filterValue | filterBuffer | filterString => exact ⟨e, rfl, (filtered_args _).symm ▸ h⟩
  | _ => exact ⟨e, rfl, h⟩

lemma execute_args (m : Machine) (op : OpConfig) (code : OpCode) (s : Scan) :
    argsOf (m.execute op code s) = argsOf (m.perform op code s) ∨
      code = .skip ∧ argsOf (m.execute op code s) = s.args := by
  unfold execute
  split_ifs with hskip
  · exact .inr ⟨hskip, rfl⟩
  · refine .inl ?_
    cases m.perform op code s with
    | error halt => rfl
    | ok t =>
      show argsOf (if t.ctx.matchBlacklist = true then _ else _) = _
      split_ifs <;> rfl

lemma execute_shows (op : OpConfig) (code : OpCode) (h : e.Shows s.args) :
    ∃ e', e.perform (m.outcomes op code s.ctx) op code s.ctx = some e' ∧
      e'.Shows (argsOf (m.execute op code s)) := by
  rcases execute_args m op code s with hargs | ⟨rfl, hargs⟩
  · rw [hargs]
    exact perform_shows h
  · exact ⟨e, rfl, hargs.symm ▸ h⟩

/-- The loop executes what is dispatched, or is left. -/
lemma step_dispatch : (∃ op code t, m.dispatch p s = some (op, code, t) ∧ t.args = s.args ∧
      m.step p s = m.execute op code t) ∨
    m.dispatch p s = none ∧ ∃ stop t, m.step p s = .error (stop, t) ∧ t.args = s.args := by
  have hnext : (∃ op code t, dispatch.next m p s = some (op, code, t) ∧ t.args = s.args ∧
        step.next m p s = m.execute op code t) ∨
      dispatch.next m p s = none ∧
        ∃ stop t, step.next m p s = .error (stop, t) ∧ t.args = s.args := by
    unfold dispatch.next step.next
    split_ifs
    · exact .inr ⟨rfl, _, _, rfl, rfl⟩
    · cases m.opList (p.opKeyList.getD s.ctx.opKeyIndex 0) with
      | none => exact .inr ⟨rfl, _, _, rfl, rfl⟩
      | some op => exact .inl ⟨op, op.code, s.fetched op, rfl, rfl, rfl⟩
  unfold dispatch step
  cases s.op with
  | none => exact hnext
  | some op =>
    dsimp only
    split_ifs
    · exact .inl ⟨op, _, s.posted, rfl, rfl, rfl⟩
    · exact hnext

/-- The iterations of the loop do to the event what they do to the buffer. -/
lemma run_iterations (n : ℕ) : ∀ {s : Scan} {e : EventData}, e.Shows s.args →
    ∃ e', e.run (m.iterations p n s) = some e' ∧ e'.Shows (argsOf (m.loop p n s)) := by
  induction n with
  | zero => exact fun {s e} h => ⟨e, rfl, h⟩
  | succ n ih =>
    intro s e h
    rw [iterations, loop, Budget.run_succ]
    rcases step_dispatch (m := m) (p := p) (s := s) with
      ⟨op, code, t, hd, hargs, hstep⟩ | ⟨hd, stop, t, hstep, hargs⟩
    · obtain ⟨e₁, hone, hshows⟩ := execute_shows op code (hargs.symm ▸ h)
      rw [hd, hstep]
      cases hexec : m.execute op code t with
      | error halt =>
        rw [hexec] at hshows
        refine ⟨e₁, ?_, hshows⟩
        show (e.perform _ op code t.ctx >>= pure) = _
        rw [hone]
        rfl
      | ok u =>
        rw [hexec] at hshows
        obtain ⟨e₂, hmore, hshows₂⟩ := ih hshows
        refine ⟨e₂, ?_, hshows₂⟩
        show (e.perform _ op code t.ctx >>= EventData.run (m.iterations p n u)) = _
        rw [hone]
        exact hmore
    · rw [hd, hstep]
      refine ⟨e, rfl, ?_⟩
      rw [← hargs] at h
      exact h

/-- The argument buffer is never overrun: no sequence of iterations writes outside the array or
moves the offset past its end, those of `read_args` in particular, and every save adds its record or
leaves the offset and the count alone. -/
theorem argsBuffer_safe :
    (∀ (e : EventData) (its : List (Outcomes × OpConfig × OpCode × OpCtx)), e.InBounds →
      ∃ e', e.run its = some e' ∧ e'.InBounds) ∧
    (∀ (m : Machine) (p : PointArgs) (n : ℕ) (s : Scan) (e : EventData), e.Shows s.args →
      ∃ e', e.run (m.iterations p n s) = some e' ∧ e'.Shows (argsOf (m.loop p n s))) ∧
    ∀ (call : SaveCall) (e : EventData), e.InBounds → ∃ e' ret, call.run e = some (e', ret) ∧
      (ret = false → e'.bufOff = e.bufOff ∧ e'.argnum = e.argnum) ∧
      (ret = true → e'.bufOff.toNat = e.bufOff.toNat + call.record.length ∧
        e'.sent = e.sent ++ call.record) := by
  refine ⟨fun e its he => e.run_inBounds its he, fun m p n s e h => run_iterations n h, ?_⟩
  intro call e he
  obtain ⟨e', hrun, hsaves⟩ := call.save_contract he
  refine ⟨e', _, hrun, fun hret => ?_, fun hret => ?_⟩
  · exact ⟨(hsaves.failed hret).1, (hsaves.failed hret).2.1⟩
  · exact ⟨(hsaves.done hret).1, (hsaves.done hret).2.2⟩

/-- An event before anything is saved. -/
def emptyEvent : EventData :=
  { args := List.replicate argsBufSize 0, size := List.length_replicate, bufOff := 0, argnum := 0 }

/-- A `timespec` saved by `read_args`, three bytes that can be read and a struct that cannot. -/
theorem argsBuffer_safe_timespec :
    let arg := pointedArg (.struct .timespec)
    let m := argsMachine [arg] (fun _ => none) (fun _ => 0) (fun _ => some 0)
    (∃ e', emptyEvent.run (m.iterations (argsPoint 64 [arg]) 64 ⟨none, freshCtx 4096, []⟩) =
      some e' ∧
      e'.sent = wordRecord 0 4096 ++ bytesRecord 1 (List.replicate 16 0)) ∧
    (∃ e', (bytes true (some [1, 2, 3]) 3 5).run emptyEvent = some (e', true) ∧
      e'.bufOff.toNat = 8 ∧ e'.sent = [5, 3, 0, 0, 0, 1, 2, 3]) ∧
    ∃ e', (bytes true none 16 3).run emptyEvent = some (e', false) ∧
      e'.bufOff = 0 ∧ e'.argnum = 0 := by
  have hin : emptyEvent.InBounds := Nat.zero_le _
  have hret : ∀ {call : SaveCall} {e' ret}, call.run emptyEvent = some (e', ret) →
      ret = call.succeeds emptyEvent := by
    intro call e' ret hrun
    obtain ⟨e'', hrun', -⟩ := call.save_contract hin
    exact congrArg Prod.snd (Option.some.inj (hrun.symm.trans hrun'))
  intro arg m
  refine ⟨?_, ?_, ?_⟩
  · obtain ⟨e', hrun, hshows⟩ :=
      argsBuffer_safe.2.1 m (argsPoint 64 [arg]) 64 ⟨none, freshCtx 4096, []⟩ emptyEvent ⟨hin, rfl⟩
    exact ⟨e', hrun, hshows.sent.trans (by decide +kernel)⟩
  · obtain ⟨e', ret, hrun, -, hdone⟩ :=
      argsBuffer_safe.2.2 (.bytes true (some [1, 2, 3]) 3 5) emptyEvent hin
    obtain rfl : ret = true := hret hrun
    exact ⟨e', hrun, (hdone rfl).1, (hdone rfl).2⟩
  · obtain ⟨e', ret, hrun, hfailed, -⟩ := argsBuffer_safe.2.2 (.bytes true none 16 3) emptyEvent hin
    obtain rfl : ret = false := hret hrun
    exact ⟨e', hrun, hfailed rfl⟩

end Spz.Bpf
