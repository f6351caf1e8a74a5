import Stackplz.MapsHelper

/-!
# Looking up a library

`FindLibInMaps` looks for a library among the cached paths: a path that is the given string, or else
the one path with that base name.  Its loop stops with an error at the second path it comes to, and
which of two it comes to first depends on the order of a Go map.

The loop only sees the paths with the base name (`foldlM_matchStep`), and of these it matters
whether there are none, one or more.  So the outcome does not depend on the order.
-/

namespace Spz.MapsHelper

open List

/-- Why `FindLibInMaps` fails. -/
inductive FindError
  | unreadable
  | ambiguous (lib first second : Str)
  | notFound (lib : Str) (pid : U32)
  | indexOutOfRange
deriving DecidableEq

def lowestMapping : List LibInfo → Except FindError LibInfo
  | [] => .error .indexOutOfRange
  | first :: rest =>
    .ok (rest.foldl (fun lowest info => if info.baseAddr < lowest.baseAddr then info else lowest)
      first)

/-- `FindLib`: a copy of the maps of the process. -/
def findLib (proc : U32 → Option Str) (maps : PidMaps) (pid : U32) : Except FindError ProcMaps :=
  match (cachedMaps proc maps pid).1 with
  | none => .error .unreadable
  | some m => .ok m.clone

/-- The body of the loop: the path that has matched so far, and its entries. -/
def matchStep (lib : Str) (matched : Str × List LibInfo) (entry : Σ _ : Str, List LibInfo) :
    Except FindError (Str × List LibInfo) :=
  match entry.2 with
  | [] => .ok matched
  | info :: _ =>
    if info.libName ≠ lib then .ok matched
    else if matched.1 ≠ [] ∧ matched.1 ≠ entry.1 then .error (.ambiguous lib matched.1 entry.1)
    else .ok (entry.1, entry.2)

def findLibInMaps (r : Ranging) (proc : U32 → Option Str) (maps : PidMaps) (pid : U32) (lib : Str) :
    Except FindError LibInfo := do
  let m ← findLib proc maps pid
  match m.lookup lib with
  | some infos => lowestMapping infos
  | none => do
    let (path, infos) ← (r.order m).foldlM (matchStep lib) ([], [])
    if path = [] then .error (.notFound lib pid) else lowestMapping infos

/-! ## What is looked for -/

/-- The entry with the lowest start. -/
def Lowest (infos : List LibInfo) (info : LibInfo) : Prop :=
  info ∈ infos ∧ ∀ other ∈ infos, info.baseAddr ≤ other.baseAddr

lemma lowestMapping_ok {infos : List LibInfo} (h : infos ≠ []) :
    ∃ info, lowestMapping infos = .ok info ∧ Lowest infos info := by
  cases infos with
  | nil => exact absurd rfl h
  | cons first rest =>
    refine ⟨_, rfl, ?_⟩
    clear h
    induction rest generalizing first with
    | nil => simp [Lowest]
    | cons info rest ih =>
      rw [foldl_cons]
      by_cases hlt : info.baseAddr < first.baseAddr
      · obtain ⟨hmem, hle⟩ := ih info
        rw [if_pos hlt]
        refine ⟨mem_cons_of_mem _ hmem, ?_⟩
        rw [forall_mem_cons]
        exact ⟨BitVec.le_trans (hle info mem_cons_self) (BitVec.le_of_lt hlt), hle⟩
      · obtain ⟨hmem, hle⟩ := ih first
        rw [if_neg hlt]
        rw [forall_mem_cons] at hle
        refine ⟨mem_cons.mpr ((mem_cons.mp hmem).imp_right (mem_cons_of_mem _)), ?_⟩
        rw [forall_mem_cons, forall_mem_cons]
        exact ⟨hle.1, BitVec.le_trans hle.1 (BitVec.not_lt.mp hlt), hle.2⟩

/-- There are regions under the path, and their name is its base name. -/
def Owns (e : Σ _ : Str, List LibInfo) : Prop :=
  e.2 ≠ [] ∧ ∀ info ∈ e.2, info.libName = baseName e.1

/-- Every path of the cache has regions of its name. -/
def Named (m : ProcMaps) : Prop := ∀ path infos, m.lookup path = some infos → Owns ⟨path, infos⟩

lemma named_empty : Named ∅ := fun _ _ h => by cases h

/-- Entries with the name that `ParseLib` sets keep it so. -/
lemma Named.enter {m : ProcMaps} (h : Named m) (found : LibInfo → Bool) {info : LibInfo}
    (hname : info.libName = baseName info.libPath) : Named (m.enter found info) := by
  have hinsert : ∀ infos : List LibInfo, (∀ old ∈ infos, old.libName = baseName info.libPath) →
      Named (m.insert info.libPath (infos ++ [info])) := by
    intro infos hinfos path list hlook
    by_cases hpath : path = info.libPath
    · subst hpath
      rw [AList.lookup_insert, Option.some.injEq] at hlook
      subst hlook
      exact ⟨by simp, by simpa [or_imp, forall_and, hname] using hinfos⟩
    · rw [AList.lookup_insert_ne hpath] at hlook
      exact h path list hlook
  unfold ProcMaps.enter
  cases hlook : m.lookup info.libPath with
  | none => exact hinsert [] (by simp)
  | some infos =>
    dsimp only
    split_ifs
    · exact h
    · exact hinsert infos (h _ _ hlook).2

/-- The library is cached under this path: it is the path, or no path is and this is the only one
with the base name. -/
def IsLibrary (m : ProcMaps) (lib path : Str) : Prop :=
  path = lib ∨ lib ∉ m ∧ baseName path = lib ∧ ∀ other ∈ m, baseName other = lib → other = path

/-! ## The loop -/

variable {lib : Str} {matched : Str × List LibInfo} {e : Σ _ : Str, List LibInfo}

lemma matchStep_of_owns (h : Owns e) : matchStep lib matched e =
    if baseName e.1 ≠ lib then .ok matched
    else if matched.1 ≠ [] ∧ matched.1 ≠ e.1 then .error (.ambiguous lib matched.1 e.1)
    else .ok (e.1, e.2) := by
  obtain ⟨path, infos⟩ := e
  cases infos with
  | nil => exact absurd rfl h.1
  | cons info infos =>
    have hname := h.2 info mem_cons_self
    simp only [matchStep, hname]

variable {order : Order}

lemma foldlM_matchStep (h : ∀ e ∈ order, Owns e) :
    order.foldlM (matchStep lib) matched =
      (order.filter fun e => baseName e.1 = lib).foldlM (matchStep lib) matched := by
  induction order generalizing matched with
  | nil => rfl
  | cons e order ih =>
    rw [forall_mem_cons] at h
    by_cases hname : baseName e.1 = lib
    · rw [filter_cons_of_pos (by simpa using hname), foldlM_cons, foldlM_cons]
      congr 1
      funext next
      exact ih h.2
    · rw [filter_cons_of_neg (by simpa using hname), foldlM_cons, matchStep_of_owns h.1,
        if_pos hname]
      exact ih h.2

/-- What the loop finds: none, the one path with the base name, or an error. -/
lemma foldlM_matchStep_cases (h : ∀ e ∈ order, Owns e) (hkeys : order.NodupKeys)
    (hpath : ∀ e ∈ order, baseName e.1 = lib → e.1 ≠ []) :
    order.foldlM (matchStep lib) ([], []) = .ok ([], []) ∧ (∀ e ∈ order, baseName e.1 ≠ lib) ∨
    (∃ e ∈ order, order.foldlM (matchStep lib) ([], []) = .ok (e.1, e.2) ∧ baseName e.1 = lib ∧
      ∀ other ∈ order, baseName other.1 = lib → other = e) ∨
    (∃ error, order.foldlM (matchStep lib) ([], []) = .error error) ∧
      ∃ e ∈ order, ∃ other ∈ order, baseName e.1 = lib ∧ baseName other.1 = lib ∧
        e.1 ≠ other.1 := by
  have hmem : ∀ e, e ∈ order.filter (fun e => baseName e.1 = lib) ↔
      e ∈ order ∧ baseName e.1 = lib := by
    simp
  have hnodup : (order.filter fun e => baseName e.1 = lib).NodupKeys := hkeys.sublist filter_sublist
  rw [foldlM_matchStep h]
  cases hlist : order.filter fun e => baseName e.1 = lib with
  | nil =>
    rw [hlist] at hmem
    exact .inl ⟨rfl, fun e he hname => by simpa using (hmem e).mpr ⟨he, hname⟩⟩
  | cons first rest =>
    rw [hlist] at hmem hnodup
    obtain ⟨hfirst, hname⟩ := (hmem first).mp mem_cons_self
    have hstep : matchStep lib ([], []) first = .ok (first.1, first.2) := by
      simp [matchStep_of_owns (h first hfirst), hname]
    rw [foldlM_cons, hstep]
    cases rest with
    | nil =>
      refine .inr (.inl ⟨first, hfirst, rfl, hname, fun other hother hn => ?_⟩)
      simpa using (hmem other).mpr ⟨hother, hn⟩
    | cons second rest =>
      obtain ⟨hsecond, hname'⟩ := (hmem second).mp (by simp)
      have hne : first.1 ≠ second.1 := by
        rw [nodupKeys_cons] at hnodup
        exact fun heq => hnodup.1 (by simp [heq])
      refine .inr (.inr ⟨⟨.ambiguous lib first.1 second.1, ?_⟩, first, hfirst, second, hsecond,
        hname, hname', hne⟩)
      have hsecondStep : matchStep lib (first.1, first.2) second =
          .error (.ambiguous lib first.1 second.1) := by
        rw [matchStep_of_owns (h second hsecond), if_neg (not_not.mpr hname'),
          if_pos ⟨hpath first hfirst hname, hne⟩]
      show (second :: rest).foldlM (matchStep lib) (first.1, first.2) = _
      rw [foldlM_cons, hsecondStep]
      rfl

/-! ## The library -/

section Cached

variable {maps : PidMaps} {pid : U32} {m : ProcMaps} {proc : U32 → Option Str} {r : Ranging}

variable {infos : List LibInfo}

lemma mem_order_clone {path : Str} :
    ⟨path, infos⟩ ∈ r.order m.clone ↔ m.lookup path = some infos := by
  rw [(r.perm m.clone).mem_iff, ProcMaps.mem_entries, ProcMaps.lookup_clone]

lemma findLibInMaps_path (hcached : maps pid = some m) (hlook : m.lookup lib = some infos) :
    findLibInMaps r proc maps pid lib = lowestMapping infos := by
  simp [findLibInMaps, findLib, cachedMaps, hcached, hlook, bind, Except.bind]

lemma findLibInMaps_name (hcached : maps pid = some m) (hlook : m.lookup lib = none) :
    findLibInMaps r proc maps pid lib =
      (r.order m.clone).foldlM (matchStep lib) ([], []) >>= fun found =>
        if found.1 = [] then .error (.notFound lib pid) else lowestMapping found.2 := by
  simp [findLibInMaps, findLib, cachedMaps, hcached, hlook, bind, Except.bind]

/-- A library that is not a path is the one path with the base name, if there is one. -/
lemma findLibInMaps_cases (hcached : maps pid = some m) (hnamed : Named m)
    (hlook : m.lookup lib = none) :
    (∃ path infos, m.lookup path = some infos ∧ baseName path = lib ∧
      (∀ other ∈ m, baseName other = lib → other = path) ∧
      findLibInMaps r proc maps pid lib = lowestMapping infos) ∨
    (∃ error, findLibInMaps r proc maps pid lib = .error error) ∧
      ∀ path ∈ m, baseName path = lib → ∃ other ∈ m, baseName other = lib ∧ other ≠ path := by
  have hmem : ∀ path, path ∈ m ↔ ∃ infos, ⟨path, infos⟩ ∈ r.order m.clone := by
    intro path
    simp only [mem_order_clone, ← AList.lookup_isSome, Option.isSome_iff_exists]
  have howns : ∀ e ∈ r.order m.clone, Owns e := fun e he => hnamed e.1 e.2 (mem_order_clone.mp he)
  have hkeys : (r.order m.clone).NodupKeys :=
    (perm_nodupKeys (r.perm m.clone)).mpr m.clone.nodupKeys
  have hpath : ∀ e ∈ r.order m.clone, baseName e.1 = lib → e.1 ≠ [] := by
    intro e he hname hnil
    -- the empty path has the empty base name and would be the library itself
    have hlib : lib = e.1 := by rw [← hname, hnil]; rfl
    rw [hlib, mem_order_clone.mp he] at hlook
    cases hlook
  rw [findLibInMaps_name hcached hlook]
  rcases foldlM_matchStep_cases howns hkeys hpath with ⟨hrun, hnone⟩ | ⟨e, he, hrun, hname, honly⟩ |
    ⟨⟨error, hrun⟩, e, he, other, hother, hname, hname', hne⟩
  · refine .inr ⟨⟨.notFound lib pid, by rw [hrun]; rfl⟩, fun path hpath hname => ?_⟩
    obtain ⟨infos, hentry⟩ := (hmem path).mp hpath
    exact absurd hname (hnone _ hentry)
  · refine .inl ⟨e.1, e.2, mem_order_clone.mp he, hname, fun path hpath hname' => ?_, ?_⟩
    · obtain ⟨infos, hentry⟩ := (hmem path).mp hpath
      exact congrArg Sigma.fst (honly _ hentry hname')
    · rw [hrun]
      exact if_neg (hpath e he hname)
  · refine .inr ⟨⟨error, by rw [hrun]; rfl⟩, fun path _ _ => ?_⟩
    by_cases hsame : e.1 = path
    · exact ⟨other.1, (hmem _).mpr ⟨other.2, hother⟩, hname', fun h => hne (hsame.trans h.symm)⟩
    · exact ⟨e.1, (hmem _).mpr ⟨e.2, he⟩, hname, hsame⟩

end Cached

/-- The library does not depend on the order of the map. -/
theorem findLibInMaps_library {maps : PidMaps} {pid : U32} {m : ProcMaps}
    (hcached : maps pid = some m) (hnamed : Named m) (proc : U32 → Option Str) (lib : Str) :
    (∀ path infos, m.lookup path = some infos → IsLibrary m lib path → ∃ info, Lowest infos info ∧
      ∀ r, findLibInMaps r proc maps pid lib = .ok info) ∧
    ((∀ path ∈ m, ¬ IsLibrary m lib path) →
      ∀ r, ∃ error, findLibInMaps r proc maps pid lib = .error error) := by
  constructor
  · intro path infos hlook hlib
    obtain ⟨info, hok, hlow⟩ := lowestMapping_ok (hnamed path infos hlook).1
    refine ⟨info, hlow, fun r => ?_⟩
    rw [← hok]
    rcases hlib with rfl | ⟨hnot, hname, honly⟩
    · exact findLibInMaps_path hcached hlook
    · have hmem : path ∈ m := AList.lookup_isSome.mp (by rw [hlook]; rfl)
      rcases findLibInMaps_cases hcached hnamed (AList.lookup_eq_none.mpr hnot) with
        ⟨path', infos', hlook', hname', -, hfind⟩ | ⟨-, htwo⟩
      · have hsame := honly path' (AList.lookup_isSome.mp (by rw [hlook']; rfl)) hname'
        rw [hsame, hlook] at hlook'
        rw [hfind, Option.some.inj hlook']
      · obtain ⟨other, hother, hname', hne⟩ := htwo path hmem hname
        exact absurd (honly other hother hname') hne
  · intro hnone r
    have hnot : lib ∉ m := fun hmem => hnone lib hmem (.inl rfl)
    rcases findLibInMaps_cases hcached hnamed (AList.lookup_eq_none.mpr hnot) with
      ⟨path, infos, hlook, hname, honly, -⟩ | ⟨herror, -⟩
    · have hmem : path ∈ m := AList.lookup_isSome.mp (by rw [hlook]; rfl)
      exact absurd (.inr ⟨hnot, hname, honly⟩) (hnone path hmem)
    · exact herror

/-- Two paths, one of them with two regions, of which the lower one came last. -/
def sampleMaps : ProcMaps :=
  ((ProcMaps.record ∅ (.make 0x3000 0x1000 0x4000 (ascii "/a/b"))).record
    (.make 0x1000 0 0x2000 (ascii "/a/c"))).record (.make 0x2000 0 0x3000 (ascii "/a/b"))

theorem findLibInMaps_sampleMaps : IsLibrary sampleMaps (ascii "b") (ascii "/a/b") ∧
    ∀ r, findLibInMaps r (fun _ => none) (fun _ => some sampleMaps) 1 (ascii "b") =
      .ok (.make 0x2000 0 0x3000 (ascii "/a/b")) := by
  have hnamed : Named sampleMaps := ((named_empty.enter _ rfl).enter _ rfl).enter _ rfl
  have hkeys : ∀ other ∈ sampleMaps, other = ascii "/a/b" ∨ other = ascii "/a/c" := by
    intro other hother
    have hpaths : sampleMaps.keys = [ascii "/a/b", ascii "/a/c"] := by decide
    simpa [hpaths] using AList.mem_keys.mp hother
  have hlib : IsLibrary sampleMaps (ascii "b") (ascii "/a/b") := by
    refine .inr ⟨fun hmem => ?_, by decide, fun other hother hname => ?_⟩
    · rcases hkeys _ hmem with h | h <;> exact absurd h (by decide)
    · rcases hkeys _ hother with rfl | rfl
      · rfl
      · exact absurd hname (by decide)
  obtain ⟨info, hlow, hfind⟩ := (@findLibInMaps_library (fun _ => some sampleMaps) 1 _ rfl hnamed
    (fun _ => none) (ascii "b")).1 (ascii "/a/b") _ rfl hlib
  suffices hinfo : info = .make 0x2000 0 0x3000 (ascii "/a/b") from ⟨hlib, hinfo ▸ hfind⟩
  rcases List.mem_cons.mp hlow.1 with rfl | hmem
  · exact absurd (hlow.2 _ (List.mem_cons_of_mem _ (List.mem_singleton_self _))) (by decide)
  · exact List.mem_singleton.mp hmem

end Spz.MapsHelper
