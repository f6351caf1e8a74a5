import Stackplz.MapsHelper

/-!
# How the cache changes

Two ways in which regions come into the cache of a process, and what the lookups say afterwards.

* `UpdateMaps`, for an `mmap2` event.  The loop that looks for the start of the new region compares
  each start with itself, so a path that is known keeps the regions it has: the new one can be
  looked up exactly if its path was not known, or if the lookups gave the right answers before
  (`updateMaps_resolves_iff`).
* `LoadMapsContent`, for a text from elsewhere.  It replaces the cache of the process, and a lookup
  finds exactly the regions of the text (`loadMapsContent_faithful`).
-/

namespace Spz.MapsHelper

open Firsts ProcMaps

/-- `off_list` for an address of a process whose maps are cached. -/
def answers (r : Ranging) (maps : PidMaps) (pid : U32) (addr : U64) : List Str :=
  ((maps pid).map fun m => offList (r.order m) addr).getD []

def PidMaps.known (maps : PidMaps) (pid : U32) : Str → List LibInfo := ((maps pid).getD ∅).known

lemma mem_offList {m : ProcMaps} {order : Order} (h : order.Perm m.entries) {addr : U64}
    {place : Str} :
    place ∈ offList order addr ↔
      ∃ path, ∃ info ∈ m.known path, info.contains addr = true ∧ info.locate addr = place := by
  rw [offList, mem_firsts, List.mem_map]
  simp only [mem_regionsAt h]
  constructor
  · rintro ⟨info, ⟨⟨path, hinfo⟩, hcontains⟩, hplace⟩
    exact ⟨path, info, hinfo, hcontains, hplace⟩
  · rintro ⟨path, info, hinfo, hcontains, hplace⟩
    exact ⟨info, ⟨⟨path, hinfo⟩, hcontains⟩, hplace⟩

/-! ## Events -/

/-- `Mmap2Event`, as far as `UpdateMaps` reads it. -/
structure Mmap2Event where
  pid : U32
  addr : U64
  len : U64
  pgoff : U64
  filename : Str

def Mmap2Event.path (event : Mmap2Event) : Str :=
  if event.filename = [] then unnamed event.addr else event.filename

def Mmap2Event.info (event : Mmap2Event) : LibInfo :=
  .make event.addr event.pgoff (event.addr + event.len) event.path

def updateMaps (proc : U32 → Option Str) (pidList : List U32) (maps : PidMaps)
    (event : Mmap2Event) :
    PidMaps :=
  if !pidList.contains event.pid then maps
  else
    let maps := (parseMaps proc maps event.pid false).getD maps
    Function.update maps event.pid (some (((maps event.pid).getD ∅).recordEvent event.info))

lemma known_recordEvent {m : ProcMaps} {info : LibInfo} {path : Str} :
    (m.recordEvent info).known path =
      if path = info.libPath ∧ m.known path = [] then [info] else m.known path := by
  have hany : (m.known path).any (fun info => info.baseAddr == info.baseAddr) = false ↔
      m.known path = [] := by
    cases m.known path with
    | nil => simp
    | cons info infos => simp
  rw [recordEvent, known_enter]
  simp only [hany]
  split_ifs with h
  · rw [h.2, List.nil_append]
  · rfl

section Update

variable {proc : U32 → Option Str} {pidList : List U32} {maps : PidMaps} {event : Mmap2Event}

lemma updateMaps_unreadable (htracked : event.pid ∈ pidList) (hproc : proc event.pid = none) :
    updateMaps proc pidList maps event event.pid =
      some (((maps event.pid).getD ∅).recordEvent event.info) := by
  simp [updateMaps, parseMaps, htracked, hproc]

/-- An address of the mapped region. -/
def Mmap2Event.Maps (event : Mmap2Event) (addr : U64) : Prop :=
  event.addr.toNat ≤ addr.toNat ∧ addr.toNat < event.addr.toNat + event.len.toNat
deriving Decidable

lemma Mmap2Event.contains_info (hend : event.addr.toNat + event.len.toNat < 2 ^ 64) {addr : U64}
    (h : event.Maps addr) : event.info.contains addr = true := by
  have hsum : (event.addr + event.len).toNat = event.addr.toNat + event.len.toNat :=
    BitVec.toNat_add_of_lt hend
  refine LibInfo.contains_iff.mpr ⟨BitVec.le_def.mpr h.1, BitVec.lt_def.mpr ?_⟩
  exact hsum ▸ h.2

/-- A mapped region can be looked up if its path is new, or if the answers were right before. -/
theorem updateMaps_resolves_iff (htracked : event.pid ∈ pidList) (hproc : proc event.pid = none)
    (hend : event.addr.toNat + event.len.toNat < 2 ^ 64) :
    (∀ addr, event.Maps addr → ∀ r,
      located (baseName event.path) (event.pgoff + (addr - event.addr)) ∈
        answers r (updateMaps proc pidList maps event) event.pid addr) ↔
    maps.known event.pid event.path = [] ∨
      ∀ addr, event.Maps addr → ∃ path, ∃ info ∈ maps.known event.pid path,
        info.contains addr = true ∧
          info.locate addr = located (baseName event.path) (event.pgoff + (addr - event.addr)) := by
  simp only [answers, updateMaps_unreadable htracked hproc, Option.map_some, Option.getD_some,
    mem_offList (Ranging.perm _ _), known_recordEvent, PidMaps.known]
  set m := (maps event.pid).getD ∅
  by_cases hnew : m.known event.path = []
  · refine iff_of_true (fun addr haddr _ => ⟨event.path, event.info, ?_, ?_⟩) (.inl hnew)
    · rw [if_pos ⟨rfl, hnew⟩]
      exact List.mem_singleton_self _
    · exact ⟨event.contains_info hend haddr, rfl⟩
  · have hsame : ∀ path, (if path = event.info.libPath ∧ m.known path = [] then [event.info]
        else m.known path) = m.known path := by
      intro path
      refine if_neg ?_
      rintro ⟨rfl, hnil⟩
      exact hnew hnil
    simp [hsame, hnew]
    exact ⟨fun h addr haddr => h addr haddr .stored, fun h addr haddr _ => h addr haddr⟩

end Update

def firstMapping : Mmap2Event := ⟨1, 0x1000, 0x1000, 0, ascii "/a/b"⟩

/-- The next part of the same file, further up. -/
def nextMapping : Mmap2Event := ⟨1, 0x5000, 0x1000, 0x1000, ascii "/a/b"⟩

theorem firstMapping_resolved : firstMapping.Maps 0x1800 ∧
    located (ascii "b") (0 + (0x1800 - 0x1000)) ∈
      answers .stored (updateMaps (fun _ => none) [1] (fun _ => none) firstMapping) 1 0x1800 :=
  ⟨by decide, (@updateMaps_resolves_iff (fun _ => none) [1] (fun _ => none) firstMapping
    (by decide) rfl
    (by decide)).mpr (.inl rfl) 0x1800 (by decide) .stored⟩

theorem nextMapping_not_resolved : nextMapping.Maps 0x5000 ∧
    located (ascii "b") 0x1000 ∉ answers .stored (updateMaps (fun _ => none) [1]
      (updateMaps (fun _ => none) [1] (fun _ => none) firstMapping) nextMapping) 1 0x5000 := by
  decide

/-! ## Loading a text -/

/-- Why `LoadMapsContent` fails. -/
inductive LoadError
  | zeroPid
  | emptyContent
  | noMappings
deriving DecidableEq

def loadMapsContent (maps : PidMaps) (pid : U32) (content : Str) :
    Except LoadError Unit × PidMaps :=
  if pid = 0 then (.error .zeroPid, maps)
  else if content = [] then (.error .emptyContent, maps)
  else
    match parseMapsContent (fun _ => none) pid content true pid with
    | none => (.error .noMappings, maps)
    | some parsed =>
      if parsed.entries = [] then (.error .noMappings, maps)
      else (.ok (), Function.update maps pid (some parsed.clone))

section Load

variable {maps : PidMaps} {pid : U32} {content : Str}

def contentMaps (content : Str) : ProcMaps := (contentInfos content).foldl record ∅

lemma loadMapsContent_eq (hpid : pid ≠ 0) (hcontent : content ≠ []) :
    loadMapsContent maps pid content =
      if (contentMaps content).entries = [] then (.error .noMappings, maps)
      else (.ok (), Function.update maps pid (some (contentMaps content).clone)) := by
  rw [loadMapsContent, if_neg hpid, if_neg hcontent, parseMapsContent, Function.update_self]
  rfl

lemma loadMapsContent_error {error : LoadError}
    (h : (loadMapsContent maps pid content).1 = .error error) :
    (loadMapsContent maps pid content).2 = maps := by
  by_cases hpid : pid = 0
  · rw [loadMapsContent, if_pos hpid]
  by_cases hcontent : content = []
  · rw [loadMapsContent, if_neg hpid, if_pos hcontent]
  rw [loadMapsContent_eq hpid hcontent] at h ⊢
  split_ifs at h ⊢
  rfl

end Load

/-- The regions of a content, each with addresses of its own. -/
structure Separate (infos : List LibInfo) : Prop where
  nonempty : ∀ info ∈ infos, info.baseAddr < info.endAddr
  disjoint : infos.Pairwise fun a b => ∀ addr, a.contains addr = true → b.contains addr = false

namespace Separate

variable {infos : List LibInfo} {addr : U64}

lemma contains_base {info : LibInfo} (h : info.baseAddr < info.endAddr) :
    info.contains info.baseAddr = true :=
  LibInfo.contains_iff.mpr ⟨BitVec.le_refl _, h⟩

lemma known (h : Separate infos) {path : Str} :
    (infos.foldl record ∅).known path = infos.filter (·.libPath = path) := by
  rw [known_foldl_record, known_empty]
  refine firsts_eq_self (List.Pairwise.filter _ ?_)
  refine h.disjoint.imp_of_mem fun {a b} ha hb hab => ?_
  refine beq_eq_false_iff_ne.mpr fun hstart => ?_
  have hfalse := hab a.baseAddr (contains_base (h.nonempty a ha))
  rw [hstart, contains_base (h.nonempty b hb)] at hfalse
  cases hfalse

lemma eq_of_contains (h : Separate infos) {a b : LibInfo} (ha : a ∈ infos) (hb : b ∈ infos)
    (hca : a.contains addr = true) (hcb : b.contains addr = true) : a = b := by
  by_contra hne
  have hsymm : Std.Symm fun a b : LibInfo =>
      ∀ addr, a.contains addr = true → b.contains addr = false := by
    refine ⟨fun a b hab addr hcontains => ?_⟩
    by_contra htrue
    rw [hab addr (by simpa using htrue)] at hcontains
    cases hcontains
  rw [h.disjoint.forall ha hb hne addr hca] at hcb
  cases hcb

end Separate

/-- Loading a text replaces the cache of the process by its regions, or changes nothing. -/
theorem loadMapsContent_faithful (maps : PidMaps) (pid : U32) (content : Str) :
    (pid ≠ 0 → contentInfos content ≠ [] → Separate (contentInfos content) →
      (loadMapsContent maps pid content).1 = .ok () ∧
      (∀ other, other ≠ pid → (loadMapsContent maps pid content).2 other = maps other) ∧
      ∀ r proc addr,
        (∀ info ∈ contentInfos content, info.contains addr = true →
          (getOffset r proc (loadMapsContent maps pid content).2 pid addr).1 =
            located (baseName info.libPath) (info.off + (addr - info.baseAddr))) ∧
        ((∀ info ∈ contentInfos content, info.contains addr = false) →
          (getOffset r proc (loadMapsContent maps pid content).2 pid addr).1 =
            located (ascii "NOTFOUND") addr)) ∧
    ∀ error, (loadMapsContent maps pid content).1 = .error error →
      (loadMapsContent maps pid content).2 = maps := by
  refine ⟨fun hpid hne hseparate => ?_, fun error => loadMapsContent_error⟩
  have hcontent : content ≠ [] := by
    rintro rfl
    exact hne rfl
  have hmem : ∀ info, (∃ path, info ∈ (contentMaps content).known path) ↔
      info ∈ contentInfos content := by
    intro info
    simp [contentMaps, hseparate.known]
  have hentries : (contentMaps content).entries ≠ [] := by
    intro hnil
    obtain ⟨info, hinfo⟩ := List.exists_mem_of_ne_nil _ hne
    obtain ⟨path, hpath⟩ := (hmem info).mpr hinfo
    have hempty : contentMaps content = ∅ := AList.ext hnil
    rw [hempty] at hpath
    cases hpath
  rw [loadMapsContent_eq hpid hcontent, if_neg hentries]
  refine ⟨rfl, fun other hother => Function.update_of_ne hother _ _, fun r proc addr => ?_⟩
  have hanswer : (getOffset r proc
      (Function.update maps pid (some (contentMaps content).clone)) pid addr).1 =
      offsetText (r.order (contentMaps content).clone) addr := by
    simp [getOffset, cachedMaps]
  have hseen : ∀ info, info ∈ regionsAt (r.order (contentMaps content).clone) addr ↔
      info ∈ contentInfos content ∧ info.contains addr = true := by
    intro info
    rw [mem_regionsAt (r.perm _), ← hmem]
    simp only [known, lookup_clone]
  rw [hanswer]
  constructor
  · intro info hinfo hcontains
    obtain ⟨line, -, hscan⟩ := List.mem_filterMap.mp hinfo
    rw [← (scanLine_some hscan).2]
    refine offsetText_of_forall (List.ne_nil_of_mem ((hseen info).mpr ⟨hinfo, hcontains⟩)) ?_
    intro other hother
    obtain ⟨hmem', hcontains'⟩ := (hseen other).mp hother
    rw [hseparate.eq_of_contains hmem' hinfo hcontains' hcontains]
    rfl
  · intro hnone
    refine offsetText_of_nil (List.eq_nil_iff_forall_not_mem.mpr fun info hinfo => ?_)
    obtain ⟨hmem', hcontains⟩ := (hseen info).mp hinfo
    rw [hnone info hmem'] at hcontains
    cases hcontains

/-- Two regions of one file and one without a name. -/
def sampleContent : Str := ascii
  "1000-2000 r-xp 0 fe:01 7 /a/b\n2000-3000 rw-p 0 00:00 0\n3000-5000 rw-p 1000 fe:01 7 /a/b\n"

theorem sampleContent_loaded : ∀ r proc,
    (getOffset r proc (loadMapsContent (fun _ => none) 1 sampleContent).2 1 0x3010).1 =
      located (ascii "b") 0x1010 := by
  intro r proc
  have hinfos : contentInfos sampleContent =
      [.make 0x1000 0 0x2000 (ascii "/a/b"), .make 0x3000 0x1000 0x5000 (ascii "/a/b")] := by
    decide +kernel
  have hseparate : Separate (contentInfos sampleContent) := by
    rw [hinfos]
    refine ⟨by decide, List.pairwise_pair.mpr fun addr hfirst =>
      Bool.eq_false_iff.mpr fun hsecond => ?_⟩
    rw [LibInfo.contains_iff] at hfirst hsecond
    simp only [LibInfo.make] at hfirst hsecond
    bv_omega
  obtain ⟨-, -, hanswer⟩ := (loadMapsContent_faithful (fun _ => none) 1 sampleContent).1 (by decide)
    (by rw [hinfos]; simp) hseparate
  have hlast : LibInfo.make 0x3000 0x1000 0x5000 (ascii "/a/b") ∈ contentInfos sampleContent := by
    rw [hinfos]
    simp
  exact ((hanswer r proc 0x3010).1 _ hlast (by decide)).trans (by decide)

end Spz.MapsHelper
