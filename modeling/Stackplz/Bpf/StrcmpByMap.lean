import Stackplz.Bpf.ReadArgs
import Stackplz.Lib.BoundedMap
import Stackplz.Lib.Transition

/-!
# String filters on several CPUs

`strcmp_by_map` of `src/common/buffer.h` compares two strings with a map: it enters the text of the
filter, looks up what it has read, and takes the text out again.  Alone it is exact
(`strcmpByMap_iff`). The map is one for all CPUs, so between the three steps of a call there are the
steps of others: another call with the same text may have taken it out before the lookup, and a call
with another text may have entered the very string that was read.

`string_filters_exact` says that these two are all that can happen.
-/

namespace Spz.Bpf

open List BoundedMap

/-! ## Calls -/

/-- What `AddFilter` makes of a text. -/
structure ArgFilter.Textual (filter : ArgFilter) (text : List U8) : Prop where
  strVal : filter.strVal = text ++ List.replicate (256 - text.length) 0
  strLen : filter.strLen = BitVec.ofNat 32 text.length
  short : text.length ≤ 256

/-- A call of `strcmp_by_map` on a string that can be read and was saved before. -/
structure StrCall where
  mem : Memory
  ctx : OpCtx
  filter : ArgFilter
  text : List U8
  string : List U8
  textual : filter.Textual text
  readable : readString mem ctx.readAddr maxStringSize = some string
  saved : ctx.strLen = BitVec.ofNat 32 string.length

namespace StrCall

variable (call : StrCall)

/-- The key that the call enters and takes out. -/
abbrev key : List U8 := call.filter.strVal

def readStrLen : ℕ := min call.filter.strLen.toNat 256

/-- The key that the call looks up. -/
def strValue : List U8 :=
  (readBytes call.mem call.ctx.readAddr call.readStrLen).getD (List.replicate call.readStrLen 0) ++
    List.replicate (256 - call.readStrLen) 0

/-- What the call returns if nobody else uses the map. -/
def result : Bool := strcmpByMap call.mem call.ctx call.filter

lemma result_eq (h : ¬ call.ctx.strLen < call.filter.strLen) :
    call.result = decide (call.strValue = call.key) := if_neg h

end StrCall

/-- The bytes of a string, read again. -/
lemma readBytes_of_readString {mem : Memory} {n : ℕ} : ∀ {addr : U64} {bytes : List U8} {k : ℕ},
    readString mem addr (n + 1) = some bytes → k ≤ bytes.length → k ≤ n →
      readBytes mem addr k = some (bytes.take k) := by
  induction n with
  | zero =>
    intro addr bytes k _ _ hk
    obtain rfl := Nat.le_zero.mp hk
    rfl
  | succ n ih =>
    intro addr bytes k h hlength hk
    cases k with
    | zero => rfl
    | succ k =>
      rw [readString, Option.bind_eq_bind] at h
      obtain ⟨b, hb, h⟩ := Option.bind_eq_some_iff.mp h
      by_cases hend : b = 0
      · -- The NUL itself is the last byte that may be wanted.
        rw [if_pos (.inl hend)] at h
        cases h
        obtain rfl : k = 0 := by simpa using hlength
        simp [readBytes, hb, hend]
      · rw [if_neg (by simpa using hend), Option.bind_eq_bind] at h
        obtain ⟨rest, hrest, h⟩ := Option.bind_eq_some_iff.mp h
        cases h
        have htail := ih hrest (by simpa using hlength) (Nat.le_of_succ_le_succ hk)
        rw [readBytes, hb, htail]
        rfl

/-- A call that is alone is exact. -/
lemma StrCall.result_iff (call : StrCall) : call.result = true ↔ call.text <+: call.string := by
  have hshort := call.textual.short
  have htext : call.filter.strLen.toNat = call.text.length := by
    rw [call.textual.strLen, BitVec.toNat_ofNat, Nat.mod_eq_of_lt (by omega)]
  have hstring : call.ctx.strLen.toNat = call.string.length := by
    have hle : call.string.length ≤ 16384 := (readString_length call.readable).2
    rw [call.saved, BitVec.toNat_ofNat, Nat.mod_eq_of_lt (by omega)]
  by_cases hlt : call.ctx.strLen < call.filter.strLen
  · have hfalse : call.result = false := if_pos hlt
    rw [hfalse]
    rw [BitVec.lt_def, htext, hstring] at hlt
    simp only [Bool.false_eq_true, false_iff]
    exact fun hle => absurd hle.length_le (Nat.not_le.mpr hlt)
  · rw [call.result_eq hlt, decide_eq_true_iff]
    rw [BitVec.lt_def, htext, hstring, Nat.not_lt] at hlt
    have hcount : call.readStrLen = call.text.length := by
      rw [readStrLen, htext, Nat.min_eq_left hshort]
    have hread : call.strValue =
        call.string.take call.text.length ++ List.replicate (256 - call.text.length) 0 := by
      rw [strValue, hcount, readBytes_of_readString call.readable hlt (by omega)]
      rfl
    rw [hread, key, call.textual.strVal, append_left_inj, eq_comm, ← prefix_iff_eq_take]

/-! ## The steps of a call -/

/-- How far a call has come. -/
inductive StrPc where
  | start
  | updated
  | looked (found : Bool)
  | returned (result : Bool)
deriving DecidableEq, Repr

/-- Between the update and the delete. -/
def StrPc.InSection : StrPc → Prop
  | .updated => True
  | .looked _ => True
  | _ => False

instance (pc : StrPc) : Decidable pc.InSection :=
  match pc with
  | .start => isFalse id
  | .updated => isTrue trivial
  | .looked _ => isTrue trivial
  | .returned _ => isFalse id

abbrev StrBuf := BoundedMap (List U8) U32 256

def StrCall.step (call : StrCall) (strBuf : StrBuf) : StrPc → Option (StrBuf × StrPc)
  | .start =>
    if call.ctx.strLen < call.filter.strLen then some (strBuf, .returned false)
    else some (strBuf.put call.key (BitVec.ofNat 32 call.readStrLen), .updated)
  | .updated => some (strBuf, .looked (strBuf.lookup call.strValue).isSome)
  | .looked found => some (strBuf.delete call.key, .returned found)
  | .returned _ => none

structure StrState where
  strBuf : StrBuf
  calls : List (StrCall × StrPc)

/-- A CPU enters the function, or a call that has not returned goes on. -/
inductive StrAction where
  | enter (call : StrCall)
  | step (i : ℕ)

/-- The filters are those of the map `arg_filter`. -/
def strNext (filters : List ArgFilter) (s : StrState) : StrAction → Option StrState
  | .enter call =>
    if call.filter ∈ filters then some { s with calls := s.calls ++ [(call, .start)] } else none
  | .step i =>
    s.calls[i]?.bind fun (call, pc) => (call.step s.strBuf pc).map fun (strBuf, pc) =>
      { strBuf := strBuf, calls := s.calls.set i (call, pc) }

def strStart : StrState := { strBuf := .empty, calls := [] }

def strSystem (filters : List ArgFilter) : Transition.System StrState StrAction :=
  .ofStep (· = strStart) (strNext filters)

/-- Every call that has returned has returned whether its string starts with its text. -/
def StrState.Exact (s : StrState) : Prop :=
  ∀ call result, (call, StrPc.returned result) ∈ s.calls →
    (result = true ↔ call.text <+: call.string)

/-! ## What disturbs a call -/

/-- The next step of the call and the other calls leave each other alone.  At the lookup, no call in
its section has the string that was read for its text, unless the texts are the same; at the delete,
no call with the same text that should find it still has its lookup before it. -/
def StrCall.Alone (call : StrCall) (calls : List (StrCall × StrPc)) : StrPc → Prop
  | .updated => ∀ c ∈ calls, c.2.InSection → c.1.key = call.strValue → c.1.key = call.key
  | .looked _ => ∀ c ∈ calls, c.2 = .updated → c.1.strValue = c.1.key → c.1.key ≠ call.key
  | _ => True

def StrState.Undisturbed (s : StrState) : StrAction → Prop
  | .enter _ => True
  | .step i => ∀ c ∈ s.calls[i]?, c.1.Alone s.calls c.2

instance (call : StrCall) (calls : List (StrCall × StrPc)) (pc : StrPc) :
    Decidable (call.Alone calls pc) :=
  match pc with
  | .start => isTrue trivial
  | .updated => inferInstanceAs (Decidable (∀ c ∈ calls, _))
  | .looked _ => inferInstanceAs (Decidable (∀ c ∈ calls, _))
  | .returned _ => isTrue trivial

instance (s : StrState) (a : StrAction) : Decidable (s.Undisturbed a) :=
  match a with
  | .enter _ => isTrue trivial
  | .step i => inferInstanceAs (Decidable (∀ c ∈ s.calls[i]?, _))

/-! ## The invariant -/

def StrCall.At (call : StrCall) (strBuf : StrBuf) : StrPc → Prop
  | .start => True
  | .updated => call.result = decide (call.strValue = call.key) ∧
    (call.strValue = call.key → (strBuf.lookup call.key).isSome)
  | .looked found => found = call.result
  | .returned result => result = call.result

structure StrState.Sound (filters : List ArgFilter) (s : StrState) : Prop where
  known : ∀ c ∈ s.calls, c.1.filter ∈ filters
  calls : ∀ c ∈ s.calls, c.1.At s.strBuf c.2
  owned : ∀ k, (s.strBuf.lookup k).isSome → ∃ c ∈ s.calls, c.2.InSection ∧ c.1.key = k

variable {filters : List ArgFilter} {s s' : StrState}

/-- The map has room, since it holds texts of filters only. -/
lemma StrState.Sound.room (h : s.Sound filters) (hfilters : filters.length ≤ 40) :
    s.strBuf.Room := by
  have hkeys : s.strBuf.entries.keys.length ≤ (filters.map (·.strVal)).length := by
    refine length_keys_le fun k hk => ?_
    obtain ⟨c, hc, -, rfl⟩ := h.owned k hk
    exact mem_map.mpr ⟨_, h.known c hc, rfl⟩
  rw [length_map] at hkeys
  show s.strBuf.entries.keys.length < 256
  omega

lemma mem_set_of_mem {α : Type} {l : List α} {i : ℕ} {old new x : α} (hold : l[i]? = some old)
    (hx : x ∈ l) : x = old ∨ x ∈ l.set i new := by
  obtain ⟨j, hj⟩ := List.getElem?_of_mem hx
  by_cases hij : i = j
  · subst hij
    exact .inl (Option.some.inj (hj.symm.trans hold))
  · refine .inr (mem_of_getElem? (i := j) ?_)
    rw [List.getElem?_set_ne hij, hj]

/-- One step of a call, as far as the others are concerned: the rule for its cases. -/
lemma StrState.Sound.replace (h : s.Sound filters) {i : ℕ} {call : StrCall} {pc pc' : StrPc}
    {strBuf : StrBuf} (hi : s.calls[i]? = some (call, pc)) (hat : call.At strBuf pc')
    (hothers : ∀ c ∈ s.calls, c.2 = .updated → c.1.strValue = c.1.key →
      (strBuf.lookup c.1.key).isSome)
    (hmap : ∀ k, (strBuf.lookup k).isSome → pc'.InSection ∧ call.key = k ∨
      (s.strBuf.lookup k).isSome ∧ (pc.InSection → call.key ≠ k)) :
    StrState.Sound filters { strBuf := strBuf, calls := s.calls.set i (call, pc') } where
  known c hc := by
    rcases mem_or_eq_of_mem_set hc with hmem | rfl
    · exact h.known c hmem
    · exact h.known (call, pc) (mem_of_getElem? hi)
  calls c hc := by
    rcases mem_or_eq_of_mem_set hc with hmem | rfl
    · have hold := h.calls c hmem
      obtain ⟨other, otherPc⟩ := c
      cases otherPc with
      | updated => exact ⟨hold.1, hothers _ hmem rfl⟩
      | start => trivial
      | _ => exact hold
    · exact hat
  owned k hk := by
    have hnew : (call, pc') ∈ s.calls.set i (call, pc') :=
      mem_set (List.getElem?_eq_some_iff.mp hi).1 _
    rcases hmap k hk with ⟨hin, hkey⟩ | ⟨hold, hne⟩
    · exact ⟨_, hnew, hin, hkey⟩
    · obtain ⟨c, hc, hin, hkey⟩ := h.owned k hold
      rcases mem_set_of_mem hi hc with rfl | hmem
      · exact absurd hkey (hne hin)
      · exact ⟨c, hmem, hin, hkey⟩

/-- A step that is left alone keeps the invariant. -/
lemma StrState.Sound.step (h : s.Sound filters) (hfilters : filters.length ≤ 40) {i : ℕ}
    {call : StrCall} {pc pc' : StrPc} {strBuf : StrBuf} (hi : s.calls[i]? = some (call, pc))
    (halone : call.Alone s.calls pc) (hstep : call.step s.strBuf pc = some (strBuf, pc')) :
    StrState.Sound filters { strBuf := strBuf, calls := s.calls.set i (call, pc') } := by
  have hmem := mem_of_getElem? hi
  have hat := h.calls _ hmem
  have hheld : ∀ c ∈ s.calls, c.2 = .updated → c.1.strValue = c.1.key →
      (s.strBuf.lookup c.1.key).isSome := by
    rintro ⟨other, otherPc⟩ hc rfl
    exact (h.calls _ hc).2
  cases pc with
  | start =>
    simp only [StrCall.step] at hstep
    split_ifs at hstep with hlt
    · cases hstep
      refine h.replace hi ?_ hheld fun k hk => .inr ⟨hk, nofun⟩
      exact (if_pos hlt : call.result = false).symm
    · cases hstep
      have hput := lookup_put (k := call.key)
        (v := BitVec.ofNat 32 call.readStrLen) (.inr (h.room hfilters))
      refine h.replace hi ⟨call.result_eq hlt, fun _ => ?_⟩ ?_ ?_
      · rw [hput, if_pos rfl]
        rfl
      · exact fun c hc hpc hhit => isSome_lookup_put (hheld c hc hpc hhit)
      · intro k hk
        rw [hput] at hk
        split_ifs at hk with hkey
        · exact .inl ⟨trivial, hkey.symm⟩
        · exact .inr ⟨hk, nofun⟩
  | updated =>
    cases hstep
    refine h.replace hi ?_ hheld fun k hk => ?_
    · -- What is found is the own text, or that of somebody in a section.
      show _ = call.result
      rw [hat.1, Bool.eq_iff_iff, decide_eq_true_iff]
      constructor
      · intro hfound
        obtain ⟨c, hc, hin, hkey⟩ := h.owned _ hfound
        rw [← hkey]
        exact halone c hc hin hkey
      · intro hsame
        rw [hsame]
        exact hat.2 hsame
    · by_cases hkey : call.key = k
      · exact .inl ⟨trivial, hkey⟩
      · exact .inr ⟨hk, fun _ => hkey⟩
  | looked found =>
    cases hstep
    refine h.replace hi hat ?_ ?_
    · intro c hc hpc hhit
      rw [lookup_delete, if_neg (halone c hc hpc hhit)]
      exact hheld c hc hpc hhit
    · intro k hk
      rw [lookup_delete] at hk
      split_ifs at hk with hkey
      · cases hk
      · exact .inr ⟨hk, fun _ => Ne.symm hkey⟩
  | returned result => cases hstep

lemma StrState.Sound.next (h : s.Sound filters) (hfilters : filters.length ≤ 40) {a : StrAction}
    (halone : s.Undisturbed a) (hnext : strNext filters s a = some s') : s'.Sound filters := by
  cases a with
  | enter call =>
    simp only [strNext] at hnext
    split_ifs at hnext with hknown
    cases hnext
    refine ⟨?_, ?_, ?_⟩
    · intro c hc
      rcases mem_append.mp hc with hold | hnew
      · exact h.known c hold
      · rw [mem_singleton.mp hnew]
        exact hknown
    · intro c hc
      rcases mem_append.mp hc with hold | hnew
      · exact h.calls c hold
      · rw [mem_singleton.mp hnew]
        trivial
    · intro k hk
      obtain ⟨c, hc, hin, hkey⟩ := h.owned k hk
      exact ⟨c, mem_append_left _ hc, hin, hkey⟩
  | step i =>
    simp only [strNext] at hnext
    obtain ⟨⟨call, pc⟩, hi, hnext⟩ := Option.bind_eq_some_iff.mp hnext
    obtain ⟨⟨strBuf, pc'⟩, hstep, rfl⟩ := Option.map_eq_some_iff.mp hnext
    exact h.step hfilters hi (halone _ hi) hstep

lemma strStart_sound (filters : List ArgFilter) : strStart.Sound filters where
  known _ hc := absurd hc not_mem_nil
  calls _ hc := absurd hc not_mem_nil
  owned _ hk := by
    rw [strStart, lookup_empty] at hk
    cases hk

/-- In every run whose steps are all left alone, every call is exact. -/
theorem string_filters_exact (hfilters : filters.length ≤ 40)
    (h : ((strSystem filters).restrict StrState.Undisturbed).Reachable s) : s.Exact := by
  have hsound : s.Sound filters := by
    refine h.invariant ?_ ?_
    · intro s hstart
      rw [show s = strStart from hstart]
      exact strStart_sound filters
    · rintro s a s' hs ⟨halone, hnext⟩
      exact hs.next hfilters halone hnext
  intro call result hcall
  rw [show result = call.result from hsound.calls _ hcall]
  exact call.result_iff

/-- The filter `w:text`. -/
def whiteFilter (text : List U8) : ArgFilter where
  filterType := .whitelist
  strVal := text ++ List.replicate (256 - text.length) 0
  strLen := BitVec.ofNat 32 text.length
  numVal := 0

def onlyString (string : List U8) : Memory := fun addr => string[addr.toNat]?

/-- The text `ab` and the string `abc`. -/
def abCall : StrCall where
  mem := onlyString [0x61, 0x62, 0x63, 0]
  ctx := { postCode := .skip, strLen := 4 }
  filter := whiteFilter [0x61, 0x62]
  text := [0x61, 0x62]
  string := [0x61, 0x62, 0x63, 0]
  textual := ⟨rfl, rfl, by decide⟩
  readable := by decide +kernel
  saved := rfl

/-- The text `cd` and the string `cd`. -/
def cdCall : StrCall where
  mem := onlyString [0x63, 0x64, 0]
  ctx := { postCode := .skip, strLen := 3 }
  filter := whiteFilter [0x63, 0x64]
  text := [0x63, 0x64]
  string := [0x63, 0x64, 0]
  textual := ⟨rfl, rfl, by decide⟩
  readable := by decide +kernel
  saved := rfl

def twoFilters : List ArgFilter := [abCall.filter, cdCall.filter]

/-- Two calls with different texts, one inside the other. -/
theorem string_filters_exact_nested :
    let s := Transition.runFrom
      (Transition.guarded StrState.Undisturbed (strNext twoFilters)) strStart
      [.enter abCall, .enter cdCall, .step 0, .step 1, .step 1, .step 1, .step 0, .step 0]
    s.calls.map (·.2) = [.returned true, .returned true] ∧ s.Exact := by
  refine ⟨by decide +kernel, string_filters_exact (show twoFilters.length ≤ 40 by decide) ?_⟩
  exact .steps (.init (show strStart = strStart from rfl))
    (Transition.guarded_steps _ _ (by decide +kernel))

/-- Two calls with one text: the first takes the text out before the second has looked it up. -/
theorem same_text_missed :
    ∃ s, (strSystem twoFilters).Reachable s ∧
      s.calls.map (·.2) = [.returned true, .returned false] ∧
      (∀ c ∈ s.calls, c.1.text <+: c.1.string) ∧ ¬ s.Exact := by
  have hrun : (Transition.run (strNext twoFilters) strStart
      [.enter abCall, .enter abCall, .step 0, .step 1, .step 0, .step 0, .step 1, .step 1]).map
        (fun s => (s.calls.map (·.2), decide (∀ c ∈ s.calls, c.1.text <+: c.1.string))) =
      some ([.returned true, .returned false], true) := by
    decide +kernel
  obtain ⟨s, hs, hcalls⟩ := Option.map_eq_some_iff.mp hrun
  obtain ⟨hpcs, hstarts⟩ := Prod.mk.inj hcalls
  have hstarts := of_decide_eq_true hstarts
  refine ⟨s, Transition.run_reachable rfl _ hs, hpcs, hstarts, fun hexact => ?_⟩
  have hmem : StrPc.returned false ∈ s.calls.map (·.2) := by
    rw [hpcs]
    simp
  obtain ⟨⟨call, pc⟩, hc, rfl⟩ := mem_map.mp hmem
  exact absurd ((hexact call false hc).mpr (hstarts _ hc)) Bool.false_ne_true

end Spz.Bpf
