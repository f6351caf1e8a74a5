import Stackplz.Bpf.BufferFilters

/-!
# The table of filters

`FilterHelper` of `user/config/config_filter.go`: `AddFilter` enters a filter under the next number
and `GetFilterByName` finds it by that number.  `AddFilter` first looks for an entry with the text
it is given, but the text of an entry is never set, so a text that is given again is entered again
(`addFilters_eq`).
-/

namespace Spz.Bpf

open Numerals
open List hiding Vector

/-- `':'`. -/
def colon : U8 := 0x3a

/-- `ArgFilter`: what goes to the kernel, with the text and the number it is known by. -/
structure NamedFilter where
  filterStr : List U8 := []
  filterIndex : U32
  value : ArgFilter

/-- `"f%d"`. -/
def filterName (index : ℕ) : List U8 := ascii "f" ++ numeral 10 index

def NamedFilter.Match (f : NamedFilter) (name : List U8) : Bool :=
  f.filterIndex != 0 && name == filterName (f.filterIndex - 1).toNat

/-- `GetFilterByName`; it panics if there is none. -/
def getFilterByName (filters : List NamedFilter) (name : List U8) : Option NamedFilter :=
  filters.find? (·.Match name)

def numberFilter (filterType : FilterType) (text : List U8) : Option ArgFilter :=
  (Client.parseUintAny 64 text).map fun number =>
    ⟨filterType, replicate 256 0, 0, BitVec.ofNat 64 number⟩

def textFilter (filterType : FilterType) (text : List U8) : Option ArgFilter :=
  if text.length > 256 then none
  else some ⟨filterType, text ++ replicate (256 - text.length) 0, BitVec.ofNat 32 text.length, 0⟩

section

variable (parseIP : List U8 → Option (Vector U8 4))

/-- The filter that `AddFilter` builds from a text; nothing if it panics.  `net.ParseIP(…).To4()` is
    a parameter. -/
def buildFilter (filter : List U8) : Option ArgFilter :=
  let kind := filter.takeWhile (· != colon)
  match filter.dropWhile (· != colon) with
  | [] => none
  | _ :: text =>
    if kind = ascii "addr" then (parseIP text).map addrFilter
    else if kind = ascii "bx" ∨ kind = ascii "bufhex" then hexFilter text
    else if kind = ascii "eq" ∨ kind = ascii "equal" then numberFilter .equal text
    else if kind = ascii "gt" ∨ kind = ascii "greater" then numberFilter .greater text
    else if kind = ascii "lt" ∨ kind = ascii "less" then numberFilter .less text
    else if kind = ascii "w" ∨ kind = ascii "white" then textFilter .whitelist text
    else if kind = ascii "b" ∨ kind = ascii "black" then textFilter .blacklist text
    else none

def addFilter (filters : List NamedFilter) (filter : List U8) : Option (U32 × List NamedFilter) :=
  match filters.find? (·.filterStr == filter) with
  | some f => some (f.filterIndex, filters)
  | none =>
    (buildFilter parseIP filter).map fun value =>
      let index := BitVec.ofNat 32 (filters.length + 1)
      (index, filters ++ [{ filterIndex := index, value := value }])

/-- Calls of `AddFilter` one after another: what they return, and the table then. -/
def addFilters (filters : List NamedFilter) :
    List (List U8) → Option (List U32 × List NamedFilter)
  | [] => some ([], filters)
  | filter :: rest => do
    let (index, filters) ← addFilter parseIP filters filter
    let (indices, filters) ← addFilters filters rest
    return (index :: indices, filters)

/-- The registration of texts is stable: numbers are as different as the texts, there is one entry
    for each text, and a number leads to the filter of its text, by position and by name. -/
structure Stable (texts : List (List U8)) (indices : List U32)
    (filters : List NamedFilter) : Prop where
  same : ∀ i < texts.length, ∀ j < texts.length, indices[i]? = indices[j]? ↔ texts[i]? = texts[j]?
  single : filters.length = texts.dedup.length
  found : ∀ (i : ℕ) text, texts[i]? = some text → ∃ (index : U32) (f : NamedFilter),
    indices[i]? = some index ∧ index ≠ 0 ∧ filters[index.toNat - 1]? = some f ∧
      buildFilter parseIP text = some f.value ∧
      getFilterByName filters (filterName (index.toNat - 1)) = some f

/-- The entries that texts get from a position on. -/
structure Entered (start : ℕ) (texts : List (List U8)) (entries : List NamedFilter) : Prop where
  length : entries.length = texts.length
  entry : ∀ (i : ℕ) text, texts[i]? = some text → ∃ f : NamedFilter, entries[i]? = some f ∧
    f.filterIndex = BitVec.ofNat 32 (start + i + 1) ∧ buildFilter parseIP text = some f.value

variable {parseIP} {filters entries : List NamedFilter} {texts : List (List U8)}

/-- Each text is entered, whether or not it was before. -/
lemma addFilters_eq (hvalid : ∀ text ∈ texts, (buildFilter parseIP text).isSome)
    (hblank : ∀ f ∈ filters, f.filterStr = []) :
    ∃ entries, Entered parseIP filters.length texts entries ∧
      addFilters parseIP filters texts =
        some (entries.map (·.filterIndex), filters ++ entries) := by
  induction texts generalizing filters with
  | nil => exact ⟨[], ⟨rfl, by simp⟩, by simp [addFilters]⟩
  | cons text texts ih =>
    obtain ⟨htext, htexts⟩ := forall_mem_cons.mp hvalid
    obtain ⟨value, hvalue⟩ := Option.isSome_iff_exists.mp htext
    have hnone : filters.find? (·.filterStr == text) = none := by
      refine find?_eq_none.mpr fun f hf heq => ?_
      rw [hblank f hf] at heq
      rw [← eq_of_beq heq] at hvalue
      cases hvalue
    set e : NamedFilter := { filterIndex := BitVec.ofNat 32 (filters.length + 1), value := value }
    have hadd : addFilter parseIP filters text = some (e.filterIndex, filters ++ [e]) := by
      simp [addFilter, hnone, hvalue, e]
    have hblank' : ∀ f ∈ filters ++ [e], f.filterStr = [] := by
      intro f hf
      rcases mem_append.mp hf with hf | hf
      · exact hblank f hf
      · rw [mem_singleton.mp hf]
    obtain ⟨entries, hentered, hadds⟩ := ih htexts hblank'
    refine ⟨e :: entries, ⟨by simp [hentered.length], fun i t ht => ?_⟩, ?_⟩
    · cases i with
      | zero =>
        cases ht
        exact ⟨e, rfl, rfl, hvalue⟩
      | succ i =>
        obtain ⟨f, hf, hindex, hbuilt⟩ := hentered.entry i t ht
        refine ⟨f, hf, ?_, hbuilt⟩
        rw [hindex, length_append, length_singleton, Nat.add_right_comm filters.length 1]
        rfl
    · simp [addFilters, hadd, hadds]

lemma Entered.index (h : Entered parseIP 0 texts entries) {i : ℕ} (hi : i < texts.length) :
    (entries.map (·.filterIndex))[i]? = some (BitVec.ofNat 32 (i + 1)) := by
  obtain ⟨f, hf, hindex, -⟩ := h.entry i _ (getElem?_eq_getElem hi)
  simp [hf, hindex]

lemma filterName_inj {i j : ℕ} (h : filterName i = filterName j) : i = j := by
  have hi := denotes_numeral (show 1 < 10 by decide) (by decide) i
  rw [append_cancel_left h] at hi
  exact hi.unique (denotes_numeral (by decide) (by decide) j)

lemma NamedFilter.match_filterName {f : NamedFilter} {i j : ℕ} (hj : j + 1 < 2 ^ 32)
    (hindex : f.filterIndex = BitVec.ofNat 32 (j + 1)) : f.Match (filterName i) = true ↔ i = j := by
  have hne : f.filterIndex ≠ 0 := by
    rw [hindex]
    bv_omega
  have hsub : (f.filterIndex - 1).toNat = j := by
    rw [hindex]
    bv_omega
  simp only [Match, hsub, Bool.and_eq_true, bne_iff_ne, beq_iff_eq]
  exact ⟨fun h => filterName_inj h.2, fun h => ⟨hne, h ▸ rfl⟩⟩

/-- The registration is stable exactly if no text is given twice, as long as numbers last. -/
theorem addFilters_stable_iff (parseIP : List U8 → Option (Vector U8 4)) (texts : List (List U8))
    (hvalid : ∀ text ∈ texts, (buildFilter parseIP text).isSome) :
    (∃ indices filters, addFilters parseIP [] texts = some (indices, filters) ∧
      Stable parseIP texts indices filters) ↔ texts.Nodup ∧ texts.length < 2 ^ 32 := by
  obtain ⟨entries, hentered, hadds⟩ :=
    addFilters_eq hvalid (forall_mem_nil fun f : NamedFilter => f.filterStr = [])
  change Entered parseIP 0 texts entries at hentered
  rw [hadds, nil_append]
  constructor
  · rintro ⟨indices, filters, heq, hstable⟩
    cases heq
    have hdedup : texts.dedup = texts :=
      (dedup_sublist texts).eq_of_length (hstable.single.symm.trans hentered.length)
    refine ⟨hdedup ▸ nodup_dedup texts, ?_⟩
    by_contra hlong
    obtain ⟨index, f, hindex, hne, -⟩ :=
      hstable.found (2 ^ 32 - 1) _ (getElem?_eq_getElem (by omega))
    rw [hentered.index (by omega)] at hindex
    exact hne (Option.some.inj hindex).symm
  · rintro ⟨hnodup, hlen⟩
    refine ⟨_, _, rfl, ?_, ?_, ?_⟩
    · intro i hi j hj
      rw [hentered.index hi, hentered.index hj, getElem?_inj hi hnodup]
      refine ⟨fun h => ?_, fun h => h ▸ rfl⟩
      have := congrArg BitVec.toNat (Option.some.inj h)
      simp only [BitVec.toNat_ofNat] at this
      omega
    · rw [hnodup.dedup]
      exact hentered.length
    · intro i text htext
      have hi : i < texts.length := (List.getElem?_eq_some_iff.mp htext).1
      obtain ⟨f, hf, hindex, hbuilt⟩ := hentered.entry i text htext
      rw [Nat.zero_add] at hindex
      have hpos : (BitVec.ofNat 32 (i + 1)).toNat - 1 = i := by
        rw [BitVec.toNat_ofNat]
        omega
      refine ⟨_, f, hentered.index hi, by bv_omega, by rwa [hpos], hbuilt, ?_⟩
      obtain ⟨hentry, hget⟩ := List.getElem?_eq_some_iff.mp hf
      rw [hpos, getFilterByName, List.find?_eq_some_iff_getElem]
      refine ⟨(f.match_filterName (by omega) hindex).mpr rfl, i, hentry, hget, fun j hj => ?_⟩
      -- an entry before it has a smaller number
      obtain ⟨g, hg, hindex', -⟩ := hentered.entry j _ (getElem?_eq_getElem (by omega))
      rw [Nat.zero_add] at hindex'
      have hother : g.Match (filterName i) = false :=
        Bool.eq_false_iff.mpr fun h =>
          (Nat.ne_of_lt hj) ((g.match_filterName (by omega) hindex').mp h).symm
      rw [(List.getElem?_eq_some_iff.mp hg).2, hother]
      rfl

end

/-- A filter that is given twice has two entries with two numbers. -/
theorem addFilters_twice :
    (addFilters (fun _ => none) [] [ascii "w:a", ascii "w:a"]).map (·.1) = some [1, 2] := by
  decide

/-- Two different filters are registered as they should be. -/
theorem addFilters_stable_sample :
    ∃ indices filters, addFilters (fun _ => none) [] [ascii "w:a", ascii "b:a"] =
      some (indices, filters) ∧
        Stable (fun _ => none) [ascii "w:a", ascii "b:a"] indices filters :=
  (addFilters_stable_iff _ _ (by decide)).mpr (by decide)

end Spz.Bpf
