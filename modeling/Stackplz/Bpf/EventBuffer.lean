import Stackplz.Bpf.Buffer
import Mathlib.Data.List.TakeDrop

/-!
# The argument buffer byte by byte

`Buffer` has the argument buffer as the list of the bytes below `buf_off`.  Here it is the array of
`event_data_t` itself, with the bytes that a save writes before it gives up, and a write outside the
array is an error of its own.  Probe reads may succeed or fail as they like: their outcomes are
arguments.

`save_contract` is what they keep to: a save function stays inside the array, and it either leaves
`buf_off` and `argnum` alone or adds one record.
-/

namespace Spz.Bpf

open List

/-! ## The array -/

/-- `event_data_t`, as far as it is written by the save functions. -/
structure EventData where
  args : List U8
  size : args.length = argsBufSize
  bufOff : U32
  argnum : U8

namespace EventData

variable {e e' : EventData} {off n : ℕ} {bytes : List U8}

section

variable (e)

def sent : List U8 := e.args.take e.bufOff.toNat

/-- The offset is inside the array, or right behind it. -/
def InBounds : Prop := e.bufOff.toNat ≤ argsBufSize

/-- A write at an offset; `none` if a byte of it lies outside the array. -/
def store (off : ℕ) (bytes : List U8) : Option EventData :=
  if h : off + bytes.length ≤ argsBufSize then
    some { e with
      args := e.args.take off ++ bytes ++ e.args.drop (off + bytes.length)
      size := by
        have hsize := e.size
        simp only [length_append, length_take, length_drop]
        omega }
  else none

def advance (count : U32) : EventData :=
  { e with bufOff := e.bufOff + count, argnum := e.argnum + 1 }

end

/-- What a write inside the array does. -/
structure Wrote (e : EventData) (off : ℕ) (bytes : List U8) (e' : EventData) : Prop where
  bufOff : e'.bufOff = e.bufOff
  argnum : e'.argnum = e.argnum
  upto : e'.args.take (off + bytes.length) = e.args.take off ++ bytes
  behind : e'.args.drop (off + bytes.length) = e.args.drop (off + bytes.length)

lemma store_inside (e : EventData) (h : off + bytes.length ≤ argsBufSize) :
    ∃ e', e.store off bytes = some e' ∧ Wrote e off bytes e' := by
  have hsize := e.size
  have hlen : (e.args.take off ++ bytes).length = off + bytes.length := by
    rw [length_append, length_take]
    omega
  exact ⟨_, dif_pos h, rfl, rfl, take_left' hlen, drop_left' hlen⟩

lemma Wrote.before (h : Wrote e off bytes e') (hle : n ≤ off) (hoff : off ≤ argsBufSize) :
    e'.args.take n = e.args.take n := by
  have hsize := e.size
  have htake := congrArg (List.take n) h.upto
  rwa [take_take, Nat.min_eq_left (by omega),
    take_append_of_le_length (by rw [length_take]; omega), take_take, Nat.min_eq_left hle] at htake

lemma Wrote.sent (h : Wrote e off bytes e') (hle : e.bufOff.toNat ≤ off)
    (hoff : off ≤ argsBufSize) :
    e'.sent = e.sent := by
  rw [EventData.sent, EventData.sent, h.bufOff]
  exact h.before hle hoff

variable {e₁ e₂ : EventData} {xs ys : List U8}

lemma Wrote.trans (h : Wrote e off xs e₁)
    (h' : Wrote e₁ (off + xs.length) ys e₂) : Wrote e off (xs ++ ys) e₂ where
  bufOff := h'.bufOff.trans h.bufOff
  argnum := h'.argnum.trans h.argnum
  upto := by rw [length_append, ← Nat.add_assoc, h'.upto, h.upto, append_assoc]
  behind := by
    rw [length_append, ← Nat.add_assoc, h'.behind, ← drop_drop, h.behind, drop_drop]

lemma Wrote.fill (h : Wrote e (off + xs.length) ys e₁)
    (h' : Wrote e₁ off xs e₂) (hoff : off + xs.length ≤ argsBufSize) :
    Wrote e off (xs ++ ys) e₂ where
  bufOff := h'.bufOff.trans h.bufOff
  argnum := h'.argnum.trans h.argnum
  upto := by
    have hsize := e.size
    have hlen : (e.args.take (off + xs.length)).length = off + xs.length := by
      rw [length_take]
      omega
    have hmiddle := congrArg (List.drop (off + xs.length)) h.upto
    rw [← take_drop, drop_left' hlen] at hmiddle
    rw [length_append, ← Nat.add_assoc, take_add, h'.upto, h'.behind, hmiddle,
      h.before (Nat.le_add_right off _) hoff, append_assoc]
  behind := by
    rw [length_append, ← Nat.add_assoc, ← drop_drop, h'.behind, drop_drop, h.behind]

/-! ## The save functions -/

/-- The bytes that `bpf_probe_read` of `n` bytes writes; zeros if it fails. -/
def fitted (n : ℕ) (outcome : Option (List U8)) : List U8 := (outcome.getD []).takeD n 0

/-- The bytes that `bpf_probe_read_str` into `n` bytes writes. -/
def fittedStr (n : ℕ) (outcome : Option (List U8)) : List U8 :=
  match outcome with
  | some bytes => bytes.take n
  | none => List.replicate n 0

def saveToSubmitBuf (e : EventData) (outcome : Option (List U8)) (size : U32) (index : U8) :
    Option (EventData × Bool) :=
  if size = 0 then some (e, false)
  else if e.bufOff.toNat > argsBufSize - 1 then some (e, false)
  else do
    let e ← e.store e.bufOff.toNat [index]
    if e.bufOff.toNat > argsBufSize - (maxElementSize + 1) then some (e, false)
    else
      let e ← e.store (e.bufOff.toNat + 1) (fitted size.toNat outcome)
      if outcome.isSome then some (e.advance (size + 1), true) else some (e, false)

/-- The number of bytes that `save_bytes_to_buf` reads for a size. -/
def maskedCount (size : U32) : U32 := if size ≠ 4096 then size &&& 4095 else size

/-- `save_bytes_to_buf`; `sizeRead` is the outcome of the read of `size` itself. -/
def saveBytesToBuf (e : EventData) (sizeRead : Bool) (outcome : Option (List U8)) (size : U32)
    (index : U8) : Option (EventData × Bool) :=
  if e.bufOff.toNat > argsBufSize - 1 then some (e, false)
  else do
    let e ← e.store e.bufOff.toNat [index]
    if e.bufOff.toNat > argsBufSize - 5 then some (e, false)
    else
      let e ← e.store (e.bufOff.toNat + 1) (if sizeRead then leBytes 4 size else List.replicate 4 0)
      if sizeRead = false then some (e, false)
      else if e.bufOff.toNat > argsBufSize - (maxBytesArrSize + 5) then some (e, false)
      else if size > 0 then
        let e ← e.store (e.bufOff.toNat + 5) (fitted (maskedCount size).toNat outcome)
        if outcome.isSome then some (e.advance (maskedCount size + 5), true) else some (e, false)
      else some (e.advance (size + 5), true)

def saveStrToBuf (e : EventData) (outcome : Option (List U8)) (index : U8) :
    Option (EventData × Bool) :=
  if e.bufOff.toNat > argsBufSize - 1 then some (e, false)
  else do
    let e ← e.store e.bufOff.toNat [index]
    if e.bufOff.toNat > argsBufSize - (maxStringSize + 5) then some (e, false)
    else
      let bytes := fittedStr maxStringSize outcome
      let e ← e.store (e.bufOff.toNat + 5) bytes
      if outcome.isSome then
        if e.bufOff.toNat > argsBufSize - (maxStringSize + 5) then some (e, false)
        else
          let sz : U32 := BitVec.ofNat 32 bytes.length
          let e ← e.store (e.bufOff.toNat + 1) (leBytes 4 sz)
          some (e.advance (sz + 5), true)
      else some (e, false)

def saveUtf16ToBuf (e : EventData) (sizeRead : Bool) (outcome : Option (List U8)) (index : U8) :
    Option (EventData × Bool) :=
  e.saveBytesToBuf sizeRead outcome 512 index

/-! ## What they may do -/

/-- The contract of a save function that is to write the record. -/
structure Saves (e : EventData) (record : List U8) (e' : EventData) (ret : Bool) : Prop where
  inBounds : e'.InBounds
  failed : ret = false → e'.bufOff = e.bufOff ∧ e'.argnum = e.argnum ∧ e'.sent = e.sent
  done : ret = true → e'.bufOff.toNat = e.bufOff.toNat + record.length ∧ e'.argnum = e.argnum + 1 ∧
    e'.sent = e.sent ++ record

/-- A call ends with the value it is to return and keeps to the contract. -/
def Ends (e : EventData) (record : List U8) (ok : Bool) (call : Option (EventData × Bool)) : Prop :=
  ∃ e', call = some (e', ok) ∧ Saves e record e' ok

section Rules

variable {record : List U8} {ok : Bool} {index : U8}
  {next : EventData → Option (EventData × Bool)}

lemma Ends.refused (he : e.InBounds) (hok : ok = false) : Ends e record ok (some (e, false)) := by
  subst hok
  exact ⟨e, rfl, he, fun _ => ⟨rfl, rfl, rfl⟩, fun h => by cases h⟩

lemma Ends.failed (he : e.InBounds) (hoff : e₁.bufOff = e.bufOff) (hnum : e₁.argnum = e.argnum)
    (hsent : e₁.sent = e.sent) (hok : ok = false) : Ends e record ok (some (e₁, false)) := by
  subst hok
  refine ⟨e₁, rfl, ?_, fun _ => ⟨hoff, hnum, hsent⟩, fun h => by cases h⟩
  rw [InBounds, hoff]
  exact he

lemma Wrote.failed (hwrote : Wrote e e.bufOff.toNat bytes e₁) (he : e.InBounds) (hok : ok = false) :
    Ends e record ok (some (e₁, false)) :=
  .failed he hwrote.bufOff hwrote.argnum (hwrote.sent (Nat.le_refl _) he) hok

lemma Wrote.done {count : U32} (hwrote : Wrote e e.bufOff.toNat record e₁)
    (hcount : count.toNat = record.length) (hfits : e.bufOff.toNat + record.length ≤ argsBufSize)
    (hok : ok = true) : Ends e record ok (some (e₁.advance count, true)) := by
  subst hok
  have hnew : (e₁.advance count).bufOff.toNat = e.bufOff.toNat + record.length := by
    show (e₁.bufOff + count).toNat = _
    rw [argsBufSize] at hfits
    rw [BitVec.toNat_add, hwrote.bufOff, hcount, Nat.mod_eq_of_lt (by omega)]
  refine ⟨_, rfl, ?_, fun h => (by cases h), fun _ => ⟨hnew, ?_, ?_⟩⟩
  · rw [InBounds, hnew]
    exact hfits
  · show e₁.argnum + 1 = _
    rw [hwrote.argnum]
  · show e₁.args.take (e₁.advance count).bufOff.toNat = _
    rw [hnew, hwrote.upto]
    rfl

lemma Ends.store (h : off + bytes.length ≤ argsBufSize)
    (hnext : ∀ e₂, Wrote e₁ off bytes e₂ → Ends e record ok (next e₂)) :
    Ends e record ok (e₁.store off bytes >>= next) := by
  obtain ⟨e₂, hstore, hwrote⟩ := e₁.store_inside h
  rw [hstore]
  exact hnext e₂ hwrote

lemma Ends.storeIndex (he : e.InBounds) (hfull : e.bufOff.toNat > argsBufSize - 1 → ok = false)
    (hnext : ∀ e₁, Wrote e e.bufOff.toNat [index] e₁ → Ends e record ok (next e₁)) :
    Ends e record ok (if e.bufOff.toNat > argsBufSize - 1 then some (e, false)
      else e.store e.bufOff.toNat [index] >>= next) := by
  have hsize : argsBufSize = 32000 := rfl
  split_ifs with h
  · exact .refused he (hfull h)
  · exact .store (by rw [length_singleton]; omega) hnext

/-- A further test of the room. -/
lemma Wrote.guard {limit : ℕ} {call : Option (EventData × Bool)}
    (hwrote : Wrote e e.bufOff.toNat bytes e₁) (he : e.InBounds)
    (hfull : e.bufOff.toNat > limit → ok = false)
    (hnext : ¬ e.bufOff.toNat > limit → Ends e record ok call) :
    Ends e record ok (if e₁.bufOff.toNat > limit then some (e₁, false) else call) := by
  rw [hwrote.bufOff]
  split_ifs with h
  · exact hwrote.failed he (hfull h)
  · exact hnext h

end Rules

variable {outcome : Option (List U8)} {sizeRead : Bool} {size : U32} {index : U8}

@[simp] lemma fitted_length (n : ℕ) (outcome : Option (List U8)) : (fitted n outcome).length = n :=
  takeD_length _ _ _

lemma fittedStr_length_le (n : ℕ) (outcome : Option (List U8)) :
    (fittedStr n outcome).length ≤ n := by
  cases outcome with
  | none => exact Nat.le_of_eq (length_replicate ..)
  | some bytes => exact length_take_le n bytes

lemma saveToSubmitBuf_ends (he : e.InBounds) :
    Ends e (index :: fitted 8 outcome)
      (decide (e.bufOff.toNat ≤ argsBufSize - (maxElementSize + 1)) && outcome.isSome)
      (e.saveToSubmitBuf outcome 8 index) := by
  have hsize : argsBufSize = 32000 := rfl
  have helement : maxElementSize = 110 := rfl
  rw [saveToSubmitBuf, if_neg (by decide)]
  refine Ends.storeIndex he (fun h => ?_) fun e₁ hwrote₁ =>
    hwrote₁.guard he (fun h => ?_) fun htight => ?_
  · rw [decide_eq_false (by omega), Bool.false_and]
  · rw [decide_eq_false (by omega), Bool.false_and]
  rw [hwrote₁.bufOff, decide_eq_true (by omega), Bool.true_and, show (8 : U32).toNat = 8 from rfl]
  refine .store (by rw [fitted_length]; omega) fun e₂ hwrote₂ => ?_
  have hwrote : Wrote e e.bufOff.toNat (index :: fitted 8 outcome) e₂ := hwrote₁.trans hwrote₂
  cases outcome.isSome with
  | false => exact hwrote.failed he rfl
  | true =>
    refine hwrote.done ?_ ?_ rfl
    · rw [length_cons, fitted_length]
      rfl
    · rw [length_cons, fitted_length]
      omega

/-- The number of bytes that a size stands for is small, whatever the size. -/
lemma maskedCount_le (size : U32) : (maskedCount size).toNat ≤ 4096 := by
  unfold maskedCount
  split_ifs with h
  · rw [BitVec.toNat_and]
    exact Nat.and_le_right.trans (by decide)
  · rw [not_not.mp h]
    decide

/-- `save_bytes_to_buf` writes one record with its size, and reports success exactly if there was
room and both the size and the bytes could be read. -/
lemma saveBytesToBuf_ends (he : e.InBounds) :
    Ends e (sizedRecord index size (fitted (maskedCount size).toNat outcome))
      (decide (e.bufOff.toNat ≤ argsBufSize - (maxBytesArrSize + 5)) &&
        (sizeRead && (decide (size = 0) || outcome.isSome)))
      (e.saveBytesToBuf sizeRead outcome size index) := by
  have hsize : argsBufSize = 32000 := rfl
  have hbytes : maxBytesArrSize = 4096 := rfl
  refine Ends.storeIndex he (fun h => ?_) fun e₁ hwrote₁ =>
    hwrote₁.guard he (fun h => ?_) fun hshort => ?_
  · rw [decide_eq_false (by omega), Bool.false_and]
  · rw [decide_eq_false (by omega), Bool.false_and]
  rw [hwrote₁.bufOff]
  have hfour : (if sizeRead then leBytes 4 size else List.replicate 4 0).length = 4 := by
    split_ifs
    · exact leBytes_length 4 size
    · rfl
  refine .store (by rw [hfour]; omega) fun e₂ hwrote₂ => ?_
  have hhead := hwrote₁.trans hwrote₂
  cases sizeRead with
  | false =>
    rw [if_pos rfl]
    exact hhead.failed he (Bool.and_false _)
  | true =>
    rw [if_neg (by decide)]
    refine hhead.guard he (fun h => ?_) fun htight => ?_
    · rw [decide_eq_false (by omega), Bool.false_and]
    rw [hhead.bufOff, decide_eq_true (by omega), Bool.true_and, Bool.true_and]
    have hmask := maskedCount_le size
    by_cases hpos : size > 0
    · rw [if_pos hpos, decide_eq_false (by rintro rfl; exact absurd hpos (by decide)),
        Bool.false_or]
      refine .store (by rw [fitted_length]; omega) fun e₃ hwrote₃ => ?_
      have hlen : ([index] ++ leBytes 4 size).length = 5 := by
        rw [length_append, leBytes_length, length_singleton]
      have hwrote : Wrote e e.bufOff.toNat
          (sizedRecord index size (fitted (maskedCount size).toNat outcome)) e₃ := by
        refine hhead.trans ?_
        rw [if_pos rfl, hlen]
        exact hwrote₃
      cases outcome.isSome with
      | false => exact hwrote.failed he rfl
      | true =>
        refine hwrote.done ?_ ?_ rfl
        · rw [sizedRecord_length, fitted_length, BitVec.toNat_add,
            show (5 : U32).toNat = 5 from rfl]
          omega
        · rw [sizedRecord_length, fitted_length]
          omega
    · obtain rfl : size = 0 := by bv_omega
      rw [if_neg hpos]
      refine Wrote.done hhead rfl ?_ rfl
      rw [sizedRecord_length, fitted_length]
      omega

/-- `save_str_to_buf`: the size is written last, and only if the string could be read. -/
lemma saveStrToBuf_ends (he : e.InBounds) :
    Ends e (sizedRecord index (BitVec.ofNat 32 (fittedStr maxStringSize outcome).length)
        (fittedStr maxStringSize outcome))
      (decide (e.bufOff.toNat ≤ argsBufSize - (maxStringSize + 5)) && outcome.isSome)
      (e.saveStrToBuf outcome index) := by
  have hsize : argsBufSize = 32000 := rfl
  have hstring : maxStringSize = 16384 := rfl
  have hlen := fittedStr_length_le maxStringSize outcome
  refine Ends.storeIndex he (fun h => ?_) fun e₁ hwrote₁ =>
    hwrote₁.guard he (fun h => ?_) fun htight => ?_
  · rw [decide_eq_false (by omega), Bool.false_and]
  · rw [decide_eq_false (by omega), Bool.false_and]
  rw [hwrote₁.bufOff, decide_eq_true (by omega), Bool.true_and]
  refine .store (by omega) fun e₂ hwrote₂ => ?_
  have hoff := hwrote₂.bufOff.trans hwrote₁.bufOff
  cases outcome.isSome with
  | false =>
    refine .failed he hoff (hwrote₂.argnum.trans hwrote₁.argnum) ?_ rfl
    rw [hwrote₂.sent (by rw [hwrote₁.bufOff]; omega) (by omega), hwrote₁.sent (Nat.le_refl _) he]
  | true =>
    rw [if_pos rfl, hoff, if_neg htight]
    refine .store (by rw [leBytes_length]; omega) fun e₃ hwrote₃ => ?_
    -- The size is written last, between the index and the string.
    have hwrote : Wrote e e.bufOff.toNat
        (sizedRecord index (BitVec.ofNat 32 (fittedStr maxStringSize outcome).length)
          (fittedStr maxStringSize outcome)) e₃ := by
      refine hwrote₁.trans (Wrote.fill ?_ hwrote₃ (by rw [leBytes_length]; omega))
      rw [leBytes_length]
      exact hwrote₂
    refine hwrote.done ?_ ?_ rfl
    · rw [sizedRecord_length, BitVec.toNat_add, BitVec.toNat_ofNat,
        show (5 : U32).toNat = 5 from rfl]
      omega
    · rw [sizedRecord_length]
      omega

end EventData

/-- A call of a save function, with the outcomes of its probe reads. -/
inductive SaveCall
  | word (outcome : Option (List U8)) (index : U8)
  | bytes (sizeRead : Bool) (outcome : Option (List U8)) (size : U32) (index : U8)
  | str (outcome : Option (List U8)) (index : U8)
  | utf16 (sizeRead : Bool) (outcome : Option (List U8)) (index : U8)

namespace SaveCall

def run : SaveCall → EventData → Option (EventData × Bool)
  | word outcome index, e => e.saveToSubmitBuf outcome 8 index
  | bytes sizeRead outcome size index, e => e.saveBytesToBuf sizeRead outcome size index
  | str outcome index, e => e.saveStrToBuf outcome index
  | utf16 sizeRead outcome index, e => e.saveUtf16ToBuf sizeRead outcome index

/-- The record that the call writes if it succeeds. -/
def record : SaveCall → List U8
  | word outcome index => index :: EventData.fitted 8 outcome
  | bytes _ outcome size index =>
    sizedRecord index size (EventData.fitted (EventData.maskedCount size).toNat outcome)
  | str outcome index =>
    sizedRecord index (BitVec.ofNat 32 (EventData.fittedStr maxStringSize outcome).length)
      (EventData.fittedStr maxStringSize outcome)
  | utf16 _ outcome index => sizedRecord index 512 (EventData.fitted 512 outcome)

def succeeds (e : EventData) : SaveCall → Bool
  | word outcome _ =>
    decide (e.bufOff.toNat ≤ argsBufSize - (maxElementSize + 1)) && outcome.isSome
  | bytes sizeRead outcome size _ =>
    decide (e.bufOff.toNat ≤ argsBufSize - (maxBytesArrSize + 5)) &&
      (sizeRead && (decide (size = 0) || outcome.isSome))
  | str outcome _ => decide (e.bufOff.toNat ≤ argsBufSize - (maxStringSize + 5)) && outcome.isSome
  | utf16 sizeRead outcome _ =>
    decide (e.bufOff.toNat ≤ argsBufSize - (maxBytesArrSize + 5)) && (sizeRead && outcome.isSome)

lemma save_contract (call : SaveCall) {e : EventData} (he : e.InBounds) :
    e.Ends call.record (call.succeeds e) (call.run e) := by
  cases call with
  | word outcome index => exact e.saveToSubmitBuf_ends he
  | str outcome index => exact e.saveStrToBuf_ends he
  | _ => exact e.saveBytesToBuf_ends he

end SaveCall

end Spz.Bpf
