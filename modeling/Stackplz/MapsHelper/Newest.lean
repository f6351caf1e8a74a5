import Stackplz.MapsHelper

/-!
# Lookups after several contents

`ParseMapsContent` without `del_old` adds what it reads to what is there: regions that are gone
stay, and of the regions of a path with the same start the oldest stays.  What is known then is told
by the contents: `kept`.

The lookups range over a Go map.  `GetRegionInfo` gives the answer of the last region it meets that
contains the address, `GetOffset` all different answers in the order in which it meets them.  So
they depend on the order only through the answers of each path, `placesAt`, and one order is as good
as another exactly if the paths agree on their last answer, and of two lists of different answers
one begins with the other (`followsNewest_iff`).
-/

namespace Spz.MapsHelper

open Firsts Tokens List

/-! ## Texts of places -/

/-- `','`. -/
def comma : U8 := 0x2c

/-- The answer for a region whose name has no blank. -/
def IsPlace (place : Str) : Prop := ∃ name value, space ∉ name ∧ place = located name value

lemma comma_notMem_hex (value : U64) : comma ∉ hex value := by
  intro hmem
  obtain ⟨d, hd, heq⟩ := Numerals.mem_numeral (by decide) hmem
  have hrange := Numerals.digitByte_range hd
  rw [← heq] at hrange
  revert hrange
  decide

lemma IsPlace.append_inj {x y xs ys : Str} (hx : IsPlace x) (hy : IsPlace y)
    (h : x ++ comma :: xs = y ++ comma :: ys) : x = y ∧ xs = ys := by
  obtain ⟨name, value, hname, rfl⟩ := hx
  obtain ⟨name', value', hname', rfl⟩ := hy
  have hplus : ascii " + 0x" = space :: ascii "+ 0x" := rfl
  simp only [located, hplus, append_assoc, cons_append] at h ⊢
  obtain ⟨rfl, hrest⟩ := append_sep_inj hname hname' h
  obtain ⟨hhex, hxs⟩ := append_sep_inj (comma_notMem_hex _) (comma_notMem_hex _)
    (append_cancel_left hrest)
  exact ⟨by rw [hhex], hxs⟩

lemma intercalate_inj {xs ys : List Str} (hx : ∀ x ∈ xs, IsPlace x) (hy : ∀ y ∈ ys, IsPlace y)
    (hxs : xs ≠ []) (hys : ys ≠ [])
    (h : (ascii ",").intercalate xs = (ascii ",").intercalate ys) : xs = ys := by
  have hflat : xs.flatMap (· ++ [comma]) = ys.flatMap (· ++ [comma]) := by
    rw [← intercalate_append_sep hxs, ← intercalate_append_sep hys]
    exact congrArg (· ++ [comma]) h
  clear h hxs hys
  induction xs generalizing ys with
  | nil =>
    cases ys with
    | nil => rfl
    | cons y ys => simp at hflat
  | cons x xs ih =>
    cases ys with
    | nil => simp at hflat
    | cons y ys =>
      rw [forall_mem_cons] at hx hy
      simp only [flatMap_cons, append_assoc, singleton_append] at hflat
      obtain ⟨rfl, hrest⟩ := hx.1.append_inj hy.1 hflat
      rw [ih hx.2 hy.2 hrest]

/-! ## The answers of a path -/

/-- The answers of the regions of an entry. -/
def placesOf (addr : U64) (e : Σ _ : Str, List LibInfo) : List Str :=
  (e.2.filter (·.contains addr)).map (·.locate addr)

section Order

variable {order order' : Order} {addr : U64} {e : Σ _ : Str, List LibInfo}

lemma map_regionsAt :
    (regionsAt order addr).map (·.locate addr) = order.flatMap (placesOf addr) := by
  simp only [regionsAt, filter_flatMap, map_flatMap]
  rfl

lemma offList_eq : offList order addr = firsts (· == ·) (order.flatMap (placesOf addr)) := by
  rw [offList, map_regionsAt]

lemma getRegionInfo_eq : getRegionInfo order addr =
    regionText addr ((order.flatMap (placesOf addr)).getLast?.getD (ascii "unknown")) := by
  rw [← map_regionsAt, getRegionInfo]
  rcases eq_nil_or_concat (regionsAt order addr) with hnil | ⟨infos, info, hconcat⟩
  · rw [hnil]
    rfl
  · rw [hconcat]
    simp

lemma regionText_inj {place place' : Str} (h : regionText addr place = regionText addr place') :
    place = place' :=
  append_cancel_left (append_cancel_right h)

/-- Two entries whose answers can be met in either order. -/
structure Agree (addr : U64) (e e' : Σ _ : Str, List LibInfo) : Prop where
  last : placesOf addr e ≠ [] → placesOf addr e' ≠ [] →
    (placesOf addr e).getLast? = (placesOf addr e').getLast?
  begins : firsts (· == ·) (placesOf addr e) <+: firsts (· == ·) (placesOf addr e') ∨
    firsts (· == ·) (placesOf addr e') <+: firsts (· == ·) (placesOf addr e)

lemma getLast?_flatMap : (order.flatMap (placesOf addr)).getLast? =
    order.foldl (fun last e => (placesOf addr e).getLast?.or last) none := by
  have hall : ∀ last : Option Str, (order.flatMap (placesOf addr)).getLast?.or last =
      order.foldl (fun last e => (placesOf addr e).getLast?.or last) last := by
    induction order with
    | nil => simp
    | cons e order ih =>
      intro last
      rw [flatMap_cons, List.getLast?_append, foldl_cons, ← ih, Option.or_assoc]
  rw [← hall, Option.or_none]

/-- If all entries agree, the order does not matter. -/
lemma answers_eq_of_agree (hperm : order.Perm order')
    (h : ∀ e ∈ order, ∀ e' ∈ order, Agree addr e e') :
    offList order addr = offList order' addr ∧
      getRegionInfo order addr = getRegionInfo order' addr := by
  constructor
  · rw [offList_eq, offList_eq, firsts, firsts, foldl_flatMap, foldl_flatMap]
    refine hperm.foldl_eq' (fun e he e' he' kept => ?_) []
    rw [← foldl_append, ← foldl_append]
    exact foldl_keep_swap (h e he e' he').begins
  · have hlast : (order.flatMap (placesOf addr)).getLast? =
        (order'.flatMap (placesOf addr)).getLast? := by
      rw [getLast?_flatMap, getLast?_flatMap]
      refine hperm.foldl_eq' (fun e he e' he' last => ?_) none
      have hsame := (h e he e' he').last
      cases hp : (placesOf addr e).getLast? with
      | none => simp
      | some place =>
        cases hp' : (placesOf addr e').getLast? with
        | none => simp
        | some place' =>
          rw [hp, hp'] at hsame
          simpa using (hsame (by rintro hnil; simp [hnil] at hp)
            (by rintro hnil; simp [hnil] at hp')).symm
    rw [getRegionInfo_eq, getRegionInfo_eq, hlast]

lemma firsts_prefix_offList (h : e ∈ order) : ∃ order', order'.Perm order ∧
    firsts (· == ·) (placesOf addr e) <+: offList order' addr := by
  obtain ⟨before, after, rfl⟩ := append_of_mem h
  refine ⟨e :: (before ++ after), perm_middle.symm, ?_⟩
  rw [offList_eq, flatMap_cons, firsts, firsts, foldl_append]
  exact foldl_keep_begins

lemma getRegionInfo_last (h : e ∈ order) {place : Str}
    (hplace : (placesOf addr e).getLast? = some place) :
    ∃ order', order'.Perm order ∧ getRegionInfo order' addr = regionText addr place := by
  obtain ⟨before, after, rfl⟩ := append_of_mem h
  refine ⟨(before ++ after) ++ [e], ?_, ?_⟩
  · rw [append_assoc]
    exact (perm_append_singleton e after).append_left before
  · rw [getRegionInfo_eq, flatMap_append, flatMap_singleton, List.getLast?_append, hplace]
    rfl

end Order

/-! ## Several contents -/

/-- Contents that are parsed one after another. -/
def parseAll (pid : U32) (contents : List Str) : PidMaps :=
  contents.foldl (fun maps content => parseMapsContent maps pid content false) fun _ => none

/-- What is known of a path then: of all its regions with the same start the first. -/
def kept (contents : List Str) (path : Str) : List LibInfo :=
  firsts (fun new old => old.baseAddr == new.baseAddr)
    ((contents.flatMap contentInfos).filter (·.libPath = path))

def placesAt (contents : List Str) (addr : U64) (path : Str) : List Str :=
  placesOf addr ⟨path, kept contents path⟩

def contentsMaps (contents : List Str) : ProcMaps :=
  (contents.flatMap contentInfos).foldl ProcMaps.record ∅

lemma known_contentsMaps {contents : List Str} {path : Str} :
    (contentsMaps contents).known path = kept contents path := by
  rw [contentsMaps, ProcMaps.known_foldl_record, ProcMaps.known_empty]
  rfl

lemma parseAll_concat {pid : U32} {contents : List Str} {last : Str} :
    parseAll pid (contents ++ [last]) pid = some (contentsMaps (contents ++ [last])) := by
  have hall : ∀ contents, (parseAll pid contents pid).getD ∅ = contentsMaps contents := by
    intro contents
    induction contents using List.reverseRecOn with
    | nil => rfl
    | append_singleton contents last ih =>
      rw [parseAll, foldl_append]
      show (parseMapsContent (parseAll pid contents) pid last false pid).getD ∅ = _
      simp [parseMapsContent, ih, contentsMaps]
  rw [← hall]
  simp [parseAll, parseMapsContent]

/-- The answers after the last content: the same in every order, and those of its regions. -/
structure FollowsNewest (maps : PidMaps) (pid : U32) (last : Str) (addr : U64) : Prop where
  offset_same : ∀ r r' proc proc',
    (getOffset r proc maps pid addr).1 = (getOffset r' proc' maps pid addr).1
  region_same : ∀ m, maps pid = some m → ∀ r r' : Ranging,
    getRegionInfo (r.order m) addr = getRegionInfo (r'.order m) addr
  offset_newest : ∀ info ∈ contentInfos last, info.contains addr = true → ∀ r proc,
    (getOffset r proc maps pid addr).1 = info.locate addr
  region_newest : ∀ m, maps pid = some m → ∀ info ∈ contentInfos last, info.contains addr = true →
    ∀ r : Ranging, getRegionInfo (r.order m) addr = regionText addr (info.locate addr)

/-- What the regions that are kept owe each other and the last content. -/
structure Settled (contents : List Str) (last : Str) (addr : U64) : Prop where
  agree : ∀ path path', Agree addr ⟨path, kept contents path⟩ ⟨path', kept contents path'⟩
  newest : ∀ info ∈ contentInfos last, info.contains addr = true →
    (∃ path, placesAt contents addr path ≠ []) ∧
      ∀ path, ∀ place ∈ placesAt contents addr path, place = info.locate addr

lemma exists_ranging {m : ProcMaps} {order : Order} (h : order.Perm m.entries) :
    ∃ r : Ranging, r.order m = order := by
  classical
  refine ⟨⟨Function.update AList.entries m order, fun m' => ?_⟩, Function.update_self _ _ _⟩
  by_cases hm : m' = m
  · rw [hm, Function.update_self]
    exact h
  · rw [Function.update_of_ne hm]

section Contents

variable {contents : List Str} {addr : U64} {path place : Str} {order : Order}

lemma isPlace_locate {content : Str} {info : LibInfo} (h : info ∈ contentInfos content) :
    IsPlace (info.locate addr) := by
  obtain ⟨line, -, hscan⟩ := mem_filterMap.mp h
  obtain ⟨hpath, hname⟩ := scanLine_some hscan
  refine ⟨info.libName, _, fun hspace => ?_, rfl⟩
  have hin : space ∈ info.libPath := by
    rw [hname, baseName, getLastD_eq_getLast?] at hspace
    cases hlast : (info.libPath.splitOn slash).getLast? with
    | none =>
      rw [hlast] at hspace
      cases hspace
    | some part =>
      rw [hlast] at hspace
      exact (mem_splitOn (mem_of_getLast? hlast) hspace).1
  exact absurd (hpath _ hin) (by decide)

lemma isPlace_of_mem (h : place ∈ placesAt contents addr path) : IsPlace place := by
  obtain ⟨info, hinfo, rfl⟩ := mem_map.mp h
  rcases mem_foldl_keep (mem_filter.mp hinfo).1 with hnil | hmem
  · cases hnil
  · obtain ⟨content, -, hcontent⟩ := mem_flatMap.mp (mem_filter.mp hmem).1
    exact isPlace_locate hcontent

lemma entry_eq {e : Σ _ : Str, List LibInfo} (h : e ∈ (contentsMaps contents).entries) :
    e = ⟨e.1, kept contents e.1⟩ := by
  rw [← known_contentsMaps, ProcMaps.known_of_mem h]

lemma mem_entries_of_places (h : placesAt contents addr path ≠ []) :
    ⟨path, kept contents path⟩ ∈ (contentsMaps contents).entries := by
  rw [ProcMaps.mem_entries]
  have hknown : (contentsMaps contents).known path = kept contents path := known_contentsMaps
  unfold ProcMaps.known at hknown
  cases hlook : (contentsMaps contents).lookup path with
  | none =>
    rw [hlook] at hknown
    rw [placesAt, ← hknown] at h
    exact absurd rfl h
  | some infos =>
    rw [hlook] at hknown
    rw [← hknown]
    rfl

section

variable (h : order.Perm (contentsMaps contents).entries)
include h

lemma mem_flatMap_places :
    place ∈ order.flatMap (placesOf addr) ↔ ∃ path, place ∈ placesAt contents addr path := by
  rw [mem_flatMap]
  constructor
  · rintro ⟨e, he, hplace⟩
    rw [entry_eq (h.mem_iff.mp he)] at hplace
    exact ⟨e.1, hplace⟩
  · rintro ⟨path, hplace⟩
    exact ⟨_, h.mem_iff.mpr (mem_entries_of_places (ne_nil_of_mem hplace)), hplace⟩

lemma isPlace_of_mem_offList (hplace : place ∈ offList order addr) : IsPlace place := by
  rw [offList_eq, mem_firsts, mem_flatMap_places h] at hplace
  exact isPlace_of_mem hplace.choose_spec

lemma offsetText_inj {order' : Order}
    (h' : order'.Perm (contentsMaps contents).entries) (hne : offList order addr ≠ [])
    (hne' : offList order' addr ≠ []) (heq : offsetText order addr = offsetText order' addr) :
    offList order addr = offList order' addr := by
  rw [offsetText, offsetText, if_neg hne, if_neg hne'] at heq
  exact intercalate_inj (fun _ => isPlace_of_mem_offList h)
    (fun _ => isPlace_of_mem_offList h') hne hne' heq

end

lemma getOffset_parseAll {pid : U32} {earlier : List Str} {last : Str} (r : Ranging)
    (proc : U32 → Option Str) : (getOffset r proc (parseAll pid (earlier ++ [last])) pid addr).1 =
      offsetText (r.order (contentsMaps (earlier ++ [last]))) addr := by
  rw [getOffset, cachedMaps, parseAll_concat]

/-- If every order gives the same texts, the paths agree. -/
lemma agree_of_same
    (hoffset : ∀ r r' : Ranging, offsetText (r.order (contentsMaps contents)) addr =
      offsetText (r'.order (contentsMaps contents)) addr)
    (hregion : ∀ r r' : Ranging, getRegionInfo (r.order (contentsMaps contents)) addr =
      getRegionInfo (r'.order (contentsMaps contents)) addr) (path path' : Str) :
    Agree addr ⟨path, kept contents path⟩ ⟨path', kept contents path'⟩ := by
  by_cases hne : placesAt contents addr path = []
  · refine ⟨fun h => absurd hne h, .inl ?_⟩
    rw [show placesOf addr ⟨path, kept contents path⟩ = [] from hne]
    exact nil_prefix
  by_cases hne' : placesAt contents addr path' = []
  · refine ⟨fun _ h => absurd hne' h, .inr ?_⟩
    rw [show placesOf addr ⟨path', kept contents path'⟩ = [] from hne']
    exact nil_prefix
  have hmem := mem_entries_of_places hne
  have hmem' := mem_entries_of_places hne'
  constructor
  · intro _ _
    -- let each of the two have the last word
    obtain ⟨place, hplace⟩ := Option.ne_none_iff_exists'.mp (mt List.getLast?_eq_none_iff.mp hne)
    obtain ⟨place', hplace'⟩ := Option.ne_none_iff_exists'.mp (mt List.getLast?_eq_none_iff.mp hne')
    obtain ⟨order, hperm, htext⟩ := getRegionInfo_last hmem hplace
    obtain ⟨order', hperm', htext'⟩ := getRegionInfo_last hmem' hplace'
    obtain ⟨r, rfl⟩ := exists_ranging hperm
    obtain ⟨r', rfl⟩ := exists_ranging hperm'
    rw [hregion r r', htext'] at htext
    exact hplace.trans ((congrArg some (regionText_inj htext).symm).trans hplace'.symm)
  · -- let each of the two begin
    obtain ⟨order, hperm, hbegin⟩ := firsts_prefix_offList hmem
    obtain ⟨order', hperm', hbegin'⟩ := firsts_prefix_offList hmem'
    obtain ⟨r, rfl⟩ := exists_ranging hperm
    obtain ⟨r', rfl⟩ := exists_ranging hperm'
    have hlist : ∀ {path : Str} {r : Ranging}, placesAt contents addr path ≠ [] →
        firsts (· == ·) (placesOf addr ⟨path, kept contents path⟩) <+:
          offList (r.order (contentsMaps contents)) addr →
        offList (r.order (contentsMaps contents)) addr ≠ [] := by
      intro path r hplaces hprefix hnil
      obtain ⟨place, hplace⟩ := exists_mem_of_ne_nil _ hplaces
      have hin := hprefix.subset (mem_firsts.mpr hplace)
      rw [hnil] at hin
      cases hin
    rw [offsetText_inj hperm hperm' (hlist hne hbegin) (hlist hne' hbegin') (hoffset r r')]
      at hbegin
    exact prefix_or_prefix_of_prefix hbegin hbegin'

/-- If every order gives one place, it is the answer of all paths. -/
lemma places_of_texts {r : Ranging} (hplace : IsPlace place)
    (hoffset : offsetText (r.order (contentsMaps contents)) addr = place)
    (hregion : getRegionInfo (r.order (contentsMaps contents)) addr = regionText addr place) :
    (∃ path, placesAt contents addr path ≠ []) ∧
      ∀ path, ∀ other ∈ placesAt contents addr path, other = place := by
  have hperm := r.perm (contentsMaps contents)
  rw [getRegionInfo_eq] at hregion
  have hlast := regionText_inj hregion
  have hne : (r.order (contentsMaps contents)).flatMap (placesOf addr) ≠ [] := by
    intro hnil
    rw [hnil] at hlast
    obtain ⟨name, value, -, rfl⟩ := hplace
    have hspace : space ∈ ascii "unknown" := by
      rw [show ascii "unknown" = located name value from hlast]
      simp [located, show ascii " + 0x" = space :: ascii "+ 0x" from rfl]
    revert hspace
    decide
  have hmem : ∀ other, other ∈ offList (r.order (contentsMaps contents)) addr ↔
      ∃ path, other ∈ placesAt contents addr path := by
    intro other
    rw [offList_eq, mem_firsts, mem_flatMap_places hperm]
  obtain ⟨first, hfirst⟩ := exists_mem_of_ne_nil _ hne
  obtain ⟨path, hpath⟩ := (mem_flatMap_places hperm).mp hfirst
  refine ⟨⟨path, ne_nil_of_mem hpath⟩, fun path other hother => ?_⟩
  have hlist : offList (r.order (contentsMaps contents)) addr ≠ [] :=
    ne_nil_of_mem ((hmem first).mpr ⟨_, hpath⟩)
  rw [offsetText, if_neg hlist] at hoffset
  have hone : offList (r.order (contentsMaps contents)) addr = [place] :=
    intercalate_inj (fun _ => isPlace_of_mem_offList hperm) (by simpa using hplace) hlist (by simp)
      (by simpa using hoffset)
  simpa [hone] using (hmem other).mpr ⟨path, hother⟩

/-- One answer of all paths is that of every order. -/
lemma texts_of_places (r : Ranging) (hsome : ∃ path, placesAt contents addr path ≠ [])
    (hall : ∀ path, ∀ other ∈ placesAt contents addr path, other = place) :
    offsetText (r.order (contentsMaps contents)) addr = place ∧
      getRegionInfo (r.order (contentsMaps contents)) addr = regionText addr place := by
  have hperm := r.perm (contentsMaps contents)
  have heach : ∀ other ∈ (r.order (contentsMaps contents)).flatMap (placesOf addr),
      other = place := by
    intro other hother
    obtain ⟨path, hpath⟩ := (mem_flatMap_places hperm).mp hother
    exact hall path other hpath
  have hne : (r.order (contentsMaps contents)).flatMap (placesOf addr) ≠ [] := by
    obtain ⟨path, hpath⟩ := hsome
    obtain ⟨other, hother⟩ := exists_mem_of_ne_nil _ hpath
    exact ne_nil_of_mem ((mem_flatMap_places hperm).mpr ⟨path, hother⟩)
  constructor
  · have hlist : offList (r.order (contentsMaps contents)) addr = [place] := by
      rw [offList_eq, firsts_eq_singleton hne heach]
    rw [offsetText, hlist]
    simp
  · rw [getRegionInfo_eq, List.getLast?_eq_some_getLast hne, heach _ (getLast_mem hne)]
    rfl

end Contents

/-- Lookups follow the newest content exactly if what is kept agrees. -/
theorem followsNewest_iff (pid : U32) (earlier : List Str) (last : Str) (addr : U64) :
    FollowsNewest (parseAll pid (earlier ++ [last])) pid last addr ↔
      Settled (earlier ++ [last]) last addr := by
  constructor
  · intro h
    constructor
    · refine agree_of_same (fun r r' => ?_) (h.region_same _ parseAll_concat)
      rw [← getOffset_parseAll r fun _ => none, ← getOffset_parseAll r' fun _ => none]
      exact h.offset_same r r' _ _
    · intro info hinfo hcontains
      have hoffset := h.offset_newest info hinfo hcontains .stored fun _ => none
      rw [getOffset_parseAll] at hoffset
      exact places_of_texts (isPlace_locate hinfo) hoffset
        (h.region_newest _ parseAll_concat info hinfo hcontains _)
  · intro h
    set m := contentsMaps (earlier ++ [last])
    have hsame : ∀ r r' : Ranging, offList (r.order m) addr = offList (r'.order m) addr ∧
        getRegionInfo (r.order m) addr = getRegionInfo (r'.order m) addr := by
      intro r r'
      refine answers_eq_of_agree ((r.perm m).trans (r'.perm m).symm) fun e he e' he' => ?_
      rw [entry_eq ((r.perm m).mem_iff.mp he), entry_eq ((r.perm m).mem_iff.mp he')]
      exact h.agree _ _
    have hone : ∀ info ∈ contentInfos last, info.contains addr = true → ∀ r : Ranging,
        offsetText (r.order m) addr = info.locate addr ∧
          getRegionInfo (r.order m) addr = regionText addr (info.locate addr) := by
      intro info hinfo hcontains r
      obtain ⟨hsome, hall⟩ := h.newest info hinfo hcontains
      exact texts_of_places r hsome hall
    refine ⟨fun r r' proc proc' => ?_, fun m' hm' r r' => ?_, fun info hinfo hcontains r proc => ?_,
      fun m' hm' info hinfo hcontains r => ?_⟩
    · rw [getOffset_parseAll, getOffset_parseAll, offsetText, offsetText, (hsame r r').1]
    · rw [parseAll_concat] at hm'
      exact Option.some.inj hm' ▸ (hsame r r').2
    · rw [getOffset_parseAll]
      exact (hone info hinfo hcontains r).1
    · rw [parseAll_concat] at hm'
      exact Option.some.inj hm' ▸ (hone info hinfo hcontains r).2

/-- A file is mapped. -/
def oldContent : Str := ascii "1000-2000 r-xp 0 fe:01 7 /a\n"

/-- Another one is mapped in its place. -/
def newContent : Str := ascii "1000-2000 r-xp 0 fe:01 8 /b\n"

theorem old_region_answers : contentInfos oldContent = [.make 0x1000 0 0x2000 (ascii "/a")] ∧
    contentInfos newContent = [.make 0x1000 0 0x2000 (ascii "/b")] ∧
    ¬ FollowsNewest (parseAll 1 [oldContent, newContent]) 1 newContent 0x1000 := by
  have hnew : contentInfos newContent = [.make 0x1000 0 0x2000 (ascii "/b")] := by decide +kernel
  refine ⟨by decide +kernel, hnew, fun h => ?_⟩
  have hanswer := h.offset_newest (.make 0x1000 0 0x2000 (ascii "/b"))
      (by rw [hnew]; simp) (by decide)
    .stored fun _ => none
  exact absurd hanswer (by decide +kernel)

end Spz.MapsHelper
