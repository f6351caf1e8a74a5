import Stackplz.Text
import Stackplz.Lib.Tokens
import Stackplz.Lib.Firsts
import Mathlib.Data.List.AList

/-!
# The cached memory maps

`MapsHelper` of `user/event/event_mmap2.go`: for each process the regions of its memory map, by
path, as they are read from `/proc/<pid>/maps`, handed over as text or announced by `mmap2` events,
and the functions that turn an address into a name and an offset.

A Go map has no order.  `ProcMaps` is a map with its entries in some order, and a function that
ranges over one is given a `Ranging`, which may give the entries of each map in any order; what is
claimed of such a function is claimed for all of them.  The copies that `Clone` makes are values
here.

The regions known under a path are `known`; each operation is described by what it does to them.
-/

namespace Spz.MapsHelper

open Numerals Firsts List

abbrev Str := List U8

/-- `'/'`. -/
def slash : U8 := 0x2f

/-- `'\n'`. -/
def newline : U8 := 0x0a

/-- `%x` of a word. -/
def hex (value : U64) : Str := numeral 16 value.toNat

/-! ## Regions -/

structure LibInfo where
  baseAddr : U64
  off : U64
  endAddr : U64
  libPath : Str
  libName : Str
deriving DecidableEq

def baseName (path : Str) : Str := (path.splitOn slash).getLastD []

/-- An entry with the name that `ParseLib` sets. -/
def LibInfo.make (baseAddr off endAddr : U64) (libPath : Str) : LibInfo :=
  ⟨baseAddr, off, endAddr, libPath, baseName libPath⟩

def LibInfo.contains (info : LibInfo) (addr : U64) : Bool :=
  info.baseAddr ≤ addr && addr < info.endAddr

variable {info : LibInfo} {addr : U64} {order : Order}

lemma LibInfo.contains_iff :
    info.contains addr = true ↔ info.baseAddr ≤ addr ∧ addr < info.endAddr := by
  simp [LibInfo.contains]

/-- `fmt.Sprintf("%s + 0x%x", …)`. -/
def located (name : Str) (value : U64) : Str := name ++ ascii " + 0x" ++ hex value

def LibInfo.locate (info : LibInfo) (addr : U64) : Str :=
  located info.libName (info.off + (addr - info.baseAddr))

/-- The path of what has none. -/
def unnamed (start : U64) : Str := ascii "UNNAMED_0x" ++ hex start

/-! ## The cache of a process -/

abbrev ProcMaps := AList fun _ : Str => List LibInfo

/-- The entries of a map, one after another. -/
abbrev Order := List (Σ _ : Str, List LibInfo)

/-- How `range` goes through maps: in any order. -/
structure Ranging where
  order : ProcMaps → Order
  perm : ∀ m, (order m).Perm m.entries

def Ranging.stored : Ranging := ⟨AList.entries, fun _ => .refl _⟩

namespace ProcMaps

def known (m : ProcMaps) (path : Str) : List LibInfo := (m.lookup path).getD []

/-- Append an entry to the list of its path unless `found` holds of one that is there. -/
def enter (found : LibInfo → Bool) (m : ProcMaps) (info : LibInfo) : ProcMaps :=
  match m.lookup info.libPath with
  | some infos => if infos.any found then m else m.insert info.libPath (infos ++ [info])
  | none => m.insert info.libPath [info]

/-- What `ParseMapsContent` does with the entry of a line: a start that is known is passed over. -/
def record (m : ProcMaps) (info : LibInfo) : ProcMaps :=
  m.enter (fun old => old.baseAddr == info.baseAddr) info

/-- What `UpdateMaps` does with the entry of an event.  The loop variable of the source has the name
of the new entry, so each start is compared with itself. -/
def recordEvent (m : ProcMaps) (info : LibInfo) : ProcMaps :=
  m.enter (fun info => info.baseAddr == info.baseAddr) info

def clone (m : ProcMaps) : ProcMaps := m.entries.toAList

end ProcMaps

/-! ## Reading maps -/

def hexWord (s : Str) : Option U64 :=
  if s = [] then none else (scan 16 (2 ^ 64 - 1) () () 0 s).toOption.map (BitVec.ofNat 64)

def decimalWord (s : Str) : Option U64 :=
  if s = [] then none else (scan 10 (2 ^ 64 - 1) () () 0 s).toOption.map (BitVec.ofNat 64)

/-- The blanks of ASCII.  `Fscanf` also takes the other blanks of Unicode for blanks. -/
def isBlank (b : U8) : Bool := b == space || (9 ≤ b && b ≤ 13)

/-- The fields of a line, between blanks. -/
def lineFields (line : Str) : List Str := (line.splitOnP isBlank).filter (· ≠ [])

/-- A line from which `Fscanf` reads all of start, end, permission, offset, device, inode and path.
It skips the blanks before a field, those after the dash included. -/
def scanLine (line : Str) : Option LibInfo :=
  let line := line.dropWhile isBlank
  match lineFields (line.dropWhile (· != minus)).tail with
  | stop :: _permission :: offset :: _device :: inode :: path :: _ => do
    let segStart ← hexWord (line.takeWhile (· != minus))
    let segEnd ← hexWord stop
    let segOffset ← hexWord offset
    let _ ← decimalWord inode
    return .make segStart segOffset segEnd (if path = [] then unnamed segStart else path)
  | _ => none

/-- The named regions of a content. -/
def contentInfos (content : Str) : List LibInfo := (content.splitOn newline).filterMap scanLine

/-- A scanned entry has a path without blanks, and the name that goes with it. -/
lemma scanLine_some {line : Str} (h : scanLine line = some info) :
    (∀ b ∈ info.libPath, isBlank b = false) ∧ info.libName = baseName info.libPath := by
  unfold scanLine at h
  dsimp only at h
  split at h
  · rename_i path _ hfields
    simp only [Option.bind_eq_bind, Option.bind_eq_some_iff] at h
    obtain ⟨_, -, _, -, _, -, _, -, heq⟩ := h
    obtain ⟨hpath, hne⟩ := mem_filter.mp (mem_of_getElem? (congrArg (·[5]?) hfields))
    rw [if_neg (by simpa using hne)] at heq
    rw [← Option.some.inj heq]
    exact ⟨fun b hb => (Tokens.mem_splitOnP hpath hb).2, rfl⟩
  · cases h

section Format

/-- A text that `%s` reads as a whole. -/
def IsField (field : Str) : Prop := field ≠ [] ∧ ∀ b ∈ field, isBlank b = false

variable {field rest : Str} {n base : ℕ} {value : U64}

lemma lineFields_cons (h : IsField field) {b : U8} (hb : isBlank b = true) :
    lineFields (field ++ b :: rest) = field :: lineFields rest := by
  rw [lineFields, splitOnP_append_cons_of_forall_mem h.2 _ hb,
    filter_cons_of_pos (by simpa using h.1)]
  rfl

lemma lineFields_blanks (n : ℕ) : lineFields (replicate n space ++ rest) = lineFields rest := by
  induction n with
  | zero => rfl
  | succ n ih =>
    rw [← ih, replicate_succ, cons_append, lineFields,
      splitOnP_cons_eq_if_modifyHead, if_pos (by decide), filter_cons_of_neg (by simp)]
    rfl

lemma lineFields_last (h : IsField field) (hrest : ∀ b ∈ rest.head?, isBlank b = true) :
    ∃ more, lineFields (field ++ rest) = field :: more := by
  cases rest with
  | nil =>
    refine ⟨[], ?_⟩
    rw [append_nil, lineFields, splitOnP_eq_singleton h.2, filter_cons_of_pos (by simpa using h.1)]
    rfl
  | cons b rest => exact ⟨_, lineFields_cons h (hrest b rfl)⟩

lemma denotes_isField (h : Denotes base field n) : IsField field ∧ minus ∉ field := by
  have hdigit : ∀ b ∈ field, 48 ≤ b.toNat := by
    intro b hb
    obtain ⟨d, hd⟩ := h.digit hb
    have hvalue := (digit?_eq_some.mp hd).1
    unfold digitValue at hvalue
    split_ifs at hvalue <;> omega
  refine ⟨⟨h.1, fun b hb => ?_⟩, fun hmem => absurd (hdigit _ hmem) (by decide)⟩
  have := hdigit b hb
  simp only [isBlank, space, BitVec.le_def, Bool.or_eq_false_iff, beq_eq_false_iff_ne, ne_eq,
    ← BitVec.toNat_inj, Bool.and_eq_false_iff, decide_eq_false_iff_not]
  exact ⟨by simp; omega, .inr (by simp; omega)⟩

lemma word_of_denotes (hbase : 0 < base) (h : Denotes base field value.toNat) :
    (if field = [] then none
      else (scan base (2 ^ 64 - 1) () () 0 field).toOption.map (BitVec.ofNat 64)) = some value := by
  obtain ⟨hne, ds, hds, hvalue⟩ := h
  have hscan : scan base (2 ^ 64 - 1) () () 0 field = .ok value.toNat :=
    (scan_eq_ok hbase (Nat.zero_le _) _).mpr ⟨ds, hds, hvalue, Nat.le_sub_one_of_lt value.isLt⟩
  rw [if_neg hne, hscan]
  simp [Except.toOption]

/-- A line as the kernel writes it, with numerals of any width, blanks before the path and whatever
follows the path, is read as its region. -/
lemma scanLine_format {start stop offset inode : U64} {a b c d permission device path : Str} (n : ℕ)
    (hstart : Denotes 16 a start.toNat) (hstop : Denotes 16 b stop.toNat)
    (hoffset : Denotes 16 c offset.toNat) (hinode : Denotes 10 d inode.toNat)
    (hpermission : IsField permission) (hdevice : IsField device) (hpath : IsField path)
    (hrest : ∀ b ∈ rest.head?, isBlank b = true) :
    scanLine (a ++ minus ::
      (b ++ space :: (permission ++ space :: (c ++ space :: (device ++ space ::
      (d ++ space :: (replicate n space ++ (path ++ rest)))))))) =
      some (.make start offset stop path) := by
  obtain ⟨hfield, hdash⟩ := denotes_isField hstart
  have hbefore : ∀ x ∈ a, (x != minus) = true := fun x hx => bne_iff_ne.mpr fun h => hdash (h ▸ hx)
  have hfirst : ∀ text, (a ++ text).dropWhile isBlank = a ++ text := by
    intro text
    obtain ⟨x, a, rfl⟩ := exists_cons_of_ne_nil hfield.1
    rw [cons_append, dropWhile_cons_of_neg (by simp [hfield.2 x mem_cons_self])]
  obtain ⟨more, hmore⟩ := lineFields_last hpath hrest
  rw [scanLine, hfirst, dropWhile_append_of_pos hbefore, dropWhile_cons_of_neg (by simp),
    tail_cons, takeWhile_append_of_pos hbefore, takeWhile_cons_of_neg (by simp),
    append_nil, lineFields_cons (denotes_isField hstop).1 rfl, lineFields_cons hpermission rfl,
    lineFields_cons (denotes_isField hoffset).1 rfl, lineFields_cons hdevice rfl,
    lineFields_cons (denotes_isField hinode).1 rfl, lineFields_blanks, hmore]
  have hword : hexWord a = some start := word_of_denotes (by decide) hstart
  have hword' : hexWord b = some stop := word_of_denotes (by decide) hstop
  have hword'' : hexWord c = some offset := word_of_denotes (by decide) hoffset
  have hnode : decimalWord d = some inode := word_of_denotes (by decide) hinode
  simp [hword, hword', hword'', hnode, hpath.1]

end Format

abbrev PidMaps := U32 → Option ProcMaps

def parseMapsContent (maps : PidMaps) (pid : U32) (content : Str) (delOld : Bool) : PidMaps :=
  let start := if delOld then ∅ else (maps pid).getD ∅
  Function.update maps pid (some ((contentInfos content).foldl ProcMaps.record start))

/-- `ParseMaps`; `proc` has the files under `/proc` that can be read. -/
def parseMaps (proc : U32 → Option Str) (maps : PidMaps) (pid : U32) (delOld : Bool) :
    Option PidMaps :=
  (proc pid).map fun content => parseMapsContent maps pid content delOld

/-- The maps of a process, read now if they are not cached; and the caches then. -/
def cachedMaps (proc : U32 → Option Str) (maps : PidMaps) (pid : U32) : Option ProcMaps × PidMaps :=
  match maps pid with
  | some m => (some m, maps)
  | none =>
    match parseMaps proc maps pid false with
    | none => (none, maps)
    | some maps' => (maps' pid, maps')

/-! ## Lookups -/

section

variable (order : Order) (addr : U64)

/-- The regions that contain an address, in the order of the loops. -/
def regionsAt : List LibInfo :=
  (order.flatMap Sigma.snd).filter (·.contains addr)

/-- `off_list` of `GetOffset`. -/
def offList : List Str :=
  firsts (· == ·) ((regionsAt order addr).map (·.locate addr))

/-- The answer of `GetOffset` from the maps of the process. -/
def offsetText : Str :=
  if offList order addr = [] then located (ascii "NOTFOUND") addr
  else (ascii ",").intercalate (offList order addr)

end

def getOffset (r : Ranging) (proc : U32 → Option Str) (maps : PidMaps) (pid : U32) (addr : U64) :
    Str × PidMaps :=
  match cachedMaps proc maps pid with
  | (some m, maps') => (offsetText (r.order m) addr, maps')
  | (none, maps') => (located (ascii "UNNKOWN") addr, maps')

/-- `"0x%x <…>"`. -/
def regionText (addr : U64) (place : Str) : Str :=
  ascii "0x" ++ hex addr ++ ascii " <" ++ place ++ ascii ">"

def getRegionInfo (order : Order) (addr : U64) : Str :=
  (regionsAt order addr).foldl (fun _ info => regionText addr (info.locate addr))
    (regionText addr (ascii "unknown"))

/-! ## What is known -/

namespace ProcMaps

variable {m : ProcMaps} {path : Str}

@[simp] lemma known_empty : known ∅ path = [] := rfl

variable {infos : List LibInfo}

lemma mem_entries : ⟨path, infos⟩ ∈ m.entries ↔ m.lookup path = some infos :=
  AList.mem_lookup_iff.symm.trans Option.mem_def

lemma known_of_mem {e : Σ _ : Str, List LibInfo} (h : e ∈ m.entries) : m.known e.1 = e.2 := by
  rw [known, mem_entries.mp h]
  rfl

@[simp] lemma lookup_clone : m.clone.lookup path = m.lookup path := AList.lookup_to_alist _

lemma known_enter {found : LibInfo → Bool} : (m.enter found info).known path =
    if path = info.libPath ∧ (m.known path).any found = false then m.known path ++ [info]
    else m.known path := by
  unfold enter known
  by_cases hpath : path = info.libPath
  · subst hpath
    cases hlook : m.lookup info.libPath with
    | none => simp
    | some infos =>
      cases hany : infos.any found with
      | true => simp [hlook, hany]
      | false => simp [hany]
  · cases hlook : m.lookup info.libPath with
    | none => simp [hpath, AList.lookup_insert_ne hpath]
    | some infos =>
      have hother :
          (if infos.any found then m else m.insert info.libPath (infos ++ [info])).lookup path =
          m.lookup path := by
        split_ifs
        · rfl
        · exact AList.lookup_insert_ne hpath
      simp only [hother, hpath, false_and, if_false]

/-- Of the regions of a path that start at the same address the first is kept. -/
abbrev keepStart : List LibInfo → LibInfo → List LibInfo :=
  keep fun new old => old.baseAddr == new.baseAddr

lemma known_foldl_record : (infos.foldl record m).known path =
    (infos.filter (·.libPath = path)).foldl keepStart (m.known path) := by
  induction infos generalizing m with
  | nil => rfl
  | cons info infos ih =>
    rw [foldl_cons, ih, record, known_enter]
    by_cases hpath : info.libPath = path
    · rw [filter_cons_of_pos (by simpa using hpath), foldl_cons]
      congr 1
      simp only [hpath, true_and, keepStart, keep]
      split_ifs with h1 h2 h2
      · rw [h1] at h2
        cases h2
      · rfl
      · rfl
      · simp_all
    · rw [filter_cons_of_neg (by simpa using hpath), if_neg fun h => hpath h.1.symm]

/-- What the loops of the lookups see, whatever the order. -/
lemma mem_regionsAt {order : Order} (h : order.Perm m.entries) :
    info ∈ regionsAt order addr ↔ (∃ path, info ∈ m.known path) ∧ info.contains addr = true := by
  rw [regionsAt, mem_filter, mem_flatMap]
  refine and_congr_left fun _ => ?_
  constructor
  · rintro ⟨e, he, hinfo⟩
    rw [← known_of_mem (h.mem_iff.mp he)] at hinfo
    exact ⟨e.1, hinfo⟩
  · rintro ⟨path, hinfo⟩
    unfold known at hinfo
    cases hlook : m.lookup path with
    | none =>
      rw [hlook] at hinfo
      cases hinfo
    | some infos =>
      rw [hlook] at hinfo
      exact ⟨⟨path, infos⟩, h.mem_iff.mpr (mem_entries.mpr hlook), hinfo⟩

end ProcMaps

lemma offsetText_of_nil (h : regionsAt order addr = []) :
    offsetText order addr = located (ascii "NOTFOUND") addr := by
  rw [offsetText, offList, h]
  rfl

lemma offsetText_of_forall {place : Str} (hne : regionsAt order addr ≠ [])
    (h : ∀ info ∈ regionsAt order addr, info.locate addr = place) :
    offsetText order addr = place := by
  have hlist : offList order addr = [place] :=
    firsts_eq_singleton (by simpa using hne) (by simpa using h)
  rw [offsetText, hlist]
  simp

end Spz.MapsHelper
