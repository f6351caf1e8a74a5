import Stackplz.Text.Commands

/-!
# Commands at the client

The texts that `user/kpm/command.go` and `client.go` send, and the tests before them.  A Go string
is a list of bytes; `BindMode`, `BreakKind` and `BreakMode` are strings there and may hold anything.
`fmt` writes a number as its canonical numeral.
-/

namespace Spz.Client

open Numerals List

/-- The errors of `types.go` that the client returns itself. -/
inductive ErrorKind
  | invalidAddress | invalidLength | invalidID | invalidKind | invalidMode | invalidCommand
deriving DecidableEq, Repr

/-- An error with the detail it is wrapped with. -/
structure Error where
  kind : ErrorKind
  detail : String := ""
deriving DecidableEq, Repr

structure BindingRequest where
  pid : U32
  mode : List U8
  uid : Option U32
  comm : List U8
  startBootTime : Option U64

structure Breakpoint where
  id : U32
  kind : List U8
  address : U64
  length : U8
  mode : List U8

def safeAtom (value : List U8) (limit : ℕ) : Bool :=
  value != [] && value.length ≤ limit && value.all isAtomByte

def safeCommand (command : List U8) : Bool :=
  command != [] && command.length ≤ 512 &&
    command.all fun b => 0x20 ≤ b.toNat && b.toNat ≤ 0x7e

/-- `%d`. -/
def decimal {w : ℕ} (value : BitVec w) : List U8 := numeral 10 value.toNat

/-- The text that `BindCommand` builds. -/
def bindText (r : BindingRequest) : List U8 :=
  ascii "bind pid=" ++ decimal r.pid ++ ascii " mode=" ++ r.mode ++
    (match r.uid with
      | some uid => ascii " uid=" ++ decimal uid
      | none => []) ++
    (if r.comm ≠ [] then ascii " comm=" ++ r.comm else []) ++
    (match r.startBootTime with
      | some start => ascii " start=" ++ decimal start
      | none => [])

def bindCommand (r : BindingRequest) : Except Error (List U8) :=
  if r.pid = 0 then .error ⟨.invalidID, "zero pid"⟩
  else if r.mode ≠ ascii "pid" ∧ r.mode ≠ ascii "tgid" ∧ r.mode ≠ ascii "either" then
    .error ⟨.invalidMode, "bind mode"⟩
  else if r.comm ≠ [] ∧ !safeAtom r.comm (commLen - 1) then .error ⟨.invalidCommand, "comm"⟩
  else if !safeCommand (bindText r) then .error { kind := .invalidCommand }
  else .ok (bindText r)

/-- The text that `BreakCommand` builds. -/
def breakText (b : Breakpoint) : List U8 :=
  ascii "break id=" ++ decimal b.id ++ ascii " kind=" ++ b.kind ++ ascii " addr=0x" ++
    numeral 16 b.address.toNat ++ ascii " len=" ++ decimal b.length ++ ascii " mode=" ++ b.mode

def breakCommand (b : Breakpoint) : Except Error (List U8) :=
  if b.id = 0 then .error { kind := .invalidID }
  else if b.kind ≠ ascii "x" ∧ b.kind ≠ ascii "r" ∧ b.kind ≠ ascii "w" ∧ b.kind ≠ ascii "rw" then
    .error { kind := .invalidKind }
  else if b.mode ≠ ascii "once" ∧ b.mode ≠ ascii "repeat" then .error { kind := .invalidMode }
  else if b.address = 0 ∨ b.address >>> 56 ≠ 0 then .error { kind := .invalidAddress }
  else if b.kind = ascii "x" then
    if b.length ≠ 4 then .error { kind := .invalidLength }
    else if b.address &&& 3 ≠ 0 then .error { kind := .invalidAddress }
    else .ok (breakText b)
  else if b.length ≠ 1 ∧ b.length ≠ 2 ∧ b.length ≠ 4 ∧ b.length ≠ 8 then
    .error { kind := .invalidLength }
  else
    let last := b.address + b.length.setWidth 64 - 1
    if last < b.address ∨ b.address >>> 3 ≠ last >>> 3 then .error { kind := .invalidAddress }
    else .ok (breakText b)

def mapsReadCommand (snapshot : U64) (offset : U32) : Except Error (List U8) :=
  if snapshot = 0 then .error { kind := .invalidID }
  else .ok (ascii "maps-read snapshot=" ++ decimal snapshot ++ ascii " offset=" ++ decimal offset)

/-- The text of `Enable`. -/
def enableCommand (id : U32) : Except Error (List U8) :=
  if id = 0 then .error { kind := .invalidID } else .ok (ascii "enable id=" ++ decimal id)

/-- The text of `Disable`. -/
def disableCommand (id : U32) : Except Error (List U8) :=
  if id = 0 then .error { kind := .invalidID } else .ok (ascii "disable id=" ++ decimal id)

/-- The text of `Poll`. -/
def pollCommand (after : U64) : List U8 := ascii "poll after=" ++ decimal after

/-! ## Texts made of pairs -/

section Pairs

variable {verb : String} {pairs : List (String × List U8)}

def given (pairs : List (String × List U8)) : Assignment := fun key => pairs.lookup key

lemma given_iff (h : (pairs.map Prod.fst).Nodup) (key : String) (value : List U8) :
    given pairs key = some value ↔ (key, value) ∈ pairs := by
  induction pairs with
  | nil => simp [given]
  | cons pair pairs ih =>
    obtain ⟨name, v⟩ := pair
    rw [map_cons, nodup_cons] at h
    have hcons : given ((name, v) :: pairs) key =
        if key = name then some v else given pairs key := by
      unfold given
      rw [lookup_cons]
      by_cases heq : key = name
      · subst heq
        simp
      · rw [beq_false_of_ne heq, if_neg heq]
    rw [hcons, mem_cons, Prod.mk.injEq]
    split_ifs with heq
    · subst heq
      constructor
      · rintro ⟨⟩
        exact .inl ⟨rfl, rfl⟩
      · rintro (⟨-, rfl⟩ | hmem)
        · rfl
        · exact absurd (mem_map_of_mem (f := Prod.fst) hmem) h.1
    · rw [ih h.2]
      simp [heq]

/-- The key is a word and the value has neither spaces nor `=`. -/
def Sendable (pair : String × List U8) : Prop :=
  (∀ b ∈ ascii pair.1, Graphic b) ∧ pair.2 ≠ [] ∧ (∀ b ∈ pair.2, Graphic b) ∧ equals ∉ pair.2

lemma isArgs_given {allowed : List String} (hnodup : (pairs.map Prod.fst).Nodup)
    (hallowed : ∀ pair ∈ pairs, pair.1 ∈ allowed) (hsend : ∀ pair ∈ pairs, Sendable pair) :
    IsArgs (pairs.map pairToken) allowed (given pairs) :=
  ⟨pairs, rfl, hnodup, fun pair hpair => ⟨hallowed pair hpair, (hsend pair hpair).2.1,
    (hsend pair hpair).2.2.2⟩, given_iff hnodup⟩

def pairsText (verb : String) (pairs : List (String × List U8)) : List U8 :=
  [space].intercalate (ascii verb :: pairs.map pairToken)

lemma pairsText_eq : pairsText verb pairs = ascii verb ++ pairs.flatMap fun pair =>
    space :: (ascii pair.1 ++ equals :: pair.2) := by
  rw [pairsText, Tokens.intercalate_cons_flatMap, flatMap_map]
  rfl

lemma pairsText_length : (pairsText verb pairs).length =
    (ascii verb).length +
      (pairs.map fun pair => (ascii pair.1).length + pair.2.length + 2).sum := by
  rw [pairsText_eq, length_append, length_flatMap]
  congr 2
  refine map_congr_left fun pair _ => ?_
  rw [length_cons, length_append, length_cons]
  omega

lemma pairsText_isLine (hne : ascii verb ≠ []) (hverb : ∀ b ∈ ascii verb, Graphic b)
    (hfew : pairs.length ≤ 7) (hsend : ∀ pair ∈ pairs, Sendable pair) :
    IsLine (pairsText verb pairs) (ascii verb :: pairs.map pairToken) := by
  refine ⟨rfl, cons_ne_nil _ _, ?_, ?_⟩
  · rw [length_cons, length_map, maxTokens]
    omega
  · rw [forall_mem_cons]
    refine ⟨⟨hne, hverb⟩, fun t ht => ?_⟩
    obtain ⟨pair, hpair, rfl⟩ := mem_map.mp ht
    obtain ⟨hkey, -, hvalue, -⟩ := hsend pair hpair
    refine ⟨by simp [pairToken], fun b hb => ?_⟩
    rcases mem_append.mp hb with hb | hb
    · exact hkey b hb
    · rcases mem_cons.mp hb with rfl | hb
      · decide
      · exact hvalue b hb

end Pairs

/-! ## What the values are -/

lemma decimal_denotes {w : ℕ} (value : BitVec w) : Denotes 10 (decimal value) value.toNat :=
  denotes_numeral (by decide) (by decide) _

lemma sendable_decimal {w : ℕ} {key : String} (hkey : ∀ b ∈ ascii key, Graphic b)
    (value : BitVec w) : Sendable (key, decimal value) := by
  refine ⟨hkey, numeral_ne_nil _, fun b hb => ?_, denotes_plain (decimal_denotes value)⟩
  obtain ⟨d, hd, rfl⟩ := mem_numeral (by decide) hb
  exact graphic_digitByte (by omega)

lemma decimal_length {w k : ℕ} (hk : 0 < k) (hw : 2 ^ w ≤ 10 ^ k) (value : BitVec w) :
    (decimal value).length ≤ k :=
  numeral_length_le (by decide) hk (Nat.lt_of_lt_of_le value.isLt hw)

lemma atom_graphic {b : U8} (h : isAtomByte b = true) : Graphic b ∧ b ≠ equals := by
  have hne : b.toNat ≠ 0x3d → b ≠ equals := fun h heq => h (by rw [heq]; rfl)
  simp only [isAtomByte, Bool.or_eq_true, Bool.and_eq_true, decide_eq_true_eq, beq_iff_eq] at h
  rcases h with (((((h | h) | h) | rfl) | rfl) | rfl) | rfl
  · exact ⟨⟨by omega, by omega⟩, hne (by omega)⟩
  · exact ⟨⟨by omega, by omega⟩, hne (by omega)⟩
  · exact ⟨⟨by omega, by omega⟩, hne (by omega)⟩
  all_goals exact ⟨by decide, by decide⟩

/-! ## `bind` -/

/-- The pairs of a `bind` text. -/
def bindPairs (r : BindingRequest) : List (String × List U8) :=
  ("pid", decimal r.pid) :: ("mode", r.mode) ::
    (r.uid.toList.map (fun uid => ("uid", decimal uid)) ++
      (if r.comm ≠ [] then [("comm", r.comm)] else []) ++
      r.startBootTime.toList.map fun start => ("start", decimal start))

lemma bindText_eq (r : BindingRequest) : bindText r = pairsText "bind" (bindPairs r) := by
  have hpid : ascii "bind pid=" = ascii "bind" ++ space :: (ascii "pid" ++ [equals]) := rfl
  have hmode : ascii " mode=" = space :: (ascii "mode" ++ [equals]) := rfl
  have huid : ascii " uid=" = space :: (ascii "uid" ++ [equals]) := rfl
  have hcomm : ascii " comm=" = space :: (ascii "comm" ++ [equals]) := rfl
  have hstart : ascii " start=" = space :: (ascii "start" ++ [equals]) := rfl
  rw [pairsText_eq, bindText, hpid, hmode, huid, hcomm, hstart, bindPairs]
  cases r.uid <;> cases r.startBootTime <;> by_cases hc : r.comm = [] <;> simp [hc]

/-- What `BindCommand` has made sure of. -/
structure BindReady (r : BindingRequest) : Prop where
  pid : r.pid ≠ 0
  mode : ∃ mode, (r.mode, mode) ∈ bindModeWords
  comm : r.comm = [] ∨ r.comm.length ≤ 15 ∧ ∀ b ∈ r.comm, isAtomByte b = true
  short : (bindText r).length ≤ 512

/-- A bind request that is sent has passed all checks. -/
lemma bindCommand_ok {r : BindingRequest} {text : List U8} (h : bindCommand r = .ok text) :
    text = bindText r ∧ BindReady r := by
  unfold bindCommand at h
  split_ifs at h with hpid hmode hcomm hsafe
  cases h
  refine ⟨rfl, hpid, ?_, ?_, ?_⟩
  · by_cases h1 : r.mode = ascii "pid"
    · exact ⟨.pid, by simp [bindModeWords, h1]⟩
    by_cases h2 : r.mode = ascii "tgid"
    · exact ⟨.tgid, by simp [bindModeWords, h2]⟩
    by_cases h3 : r.mode = ascii "either"
    · exact ⟨.either, by simp [bindModeWords, h3]⟩
    exact absurd ⟨h1, h2, h3⟩ hmode
  · by_cases hnil : r.comm = []
    · exact .inl hnil
    · right
      have hatom : safeAtom r.comm (commLen - 1) = true := by
        by_contra hnot
        exact hcomm ⟨hnil, by simpa using hnot⟩
      rw [safeAtom, Bool.and_eq_true, Bool.and_eq_true, decide_eq_true_iff, all_eq_true] at hatom
      exact ⟨hatom.1.2, hatom.2⟩
  · rw [Bool.not_eq_true, Bool.not_eq_false', safeCommand, Bool.and_eq_true, Bool.and_eq_true,
      decide_eq_true_iff] at hsafe
    exact hsafe.1.2

/-- The command that the text of a request denotes. -/
def bindMeaning (r : BindingRequest) (mode : BindMode) : BindCommand where
  pid := r.pid
  mode := mode
  uid := r.uid.getD 0
  startBootTime := r.startBootTime.getD 0
  comm := if r.comm = [] then Vector.replicate 16 0 else commOf r.comm
  hasUid := if r.uid.isSome then 1 else 0
  hasComm := if r.comm = [] then 0 else 1
  hasStartBootTime := if r.startBootTime.isSome then 1 else 0

namespace BindReady

variable {r : BindingRequest}

variable (h : BindReady r)
include h

lemma mode_word : r.mode ≠ [] ∧ (∀ b ∈ r.mode, Graphic b) ∧ equals ∉ r.mode := by
  obtain ⟨mode, hmode⟩ := h.mode
  have hall : ∀ p ∈ bindModeWords, p.1 ≠ [] ∧ (∀ b ∈ p.1, Graphic b) ∧ equals ∉ p.1 := by
    simp [bindModeWords, ascii, Graphic, equals]
  exact hall _ hmode

lemma sendable : ∀ pair ∈ bindPairs r, Sendable pair := by
  intro pair hpair
  simp only [bindPairs, mem_cons, mem_append, mem_map, Option.mem_toList] at hpair
  rcases hpair with rfl | rfl | (⟨uid, -, rfl⟩ | hcomm) | ⟨start, -, rfl⟩
  · exact sendable_decimal (by simp [ascii, Graphic]) r.pid
  · exact ⟨(by simp [ascii, Graphic] : ∀ b ∈ ascii "mode", Graphic b), h.mode_word⟩
  · exact sendable_decimal (by simp [ascii, Graphic]) uid
  · split_ifs at hcomm with hne
    · obtain rfl := mem_singleton.mp hcomm
      obtain ⟨-, hatom⟩ := h.comm.resolve_left hne
      exact ⟨(by simp [ascii, Graphic] : ∀ b ∈ ascii "comm", Graphic b), hne,
        fun b hb => (atom_graphic (hatom b hb)).1, fun hb => (atom_graphic (hatom _ hb)).2 rfl⟩
    · cases hcomm
  · exact sendable_decimal (by simp [ascii, Graphic]) start

lemma isArgs : IsArgs ((bindPairs r).map pairToken)
    ["pid", "mode", "uid", "comm", "start"] (given (bindPairs r)) := by
  refine isArgs_given ?_ ?_ h.sendable
  · unfold bindPairs
    cases r.uid <;> cases r.startBootTime <;> by_cases hc : r.comm = [] <;> simp [hc]
  · intro pair hpair
    simp only [bindPairs, mem_cons, mem_append, mem_map, Option.mem_toList] at hpair
    rcases hpair with rfl | rfl | (⟨uid, -, rfl⟩ | hcomm) | ⟨start, -, rfl⟩
    · simp
    · simp
    · simp
    · split_ifs at hcomm
      · rw [mem_singleton.mp hcomm]
        simp
      · cases hcomm
    · simp

lemma means {mode : BindMode} (hmode : (r.mode, mode) ∈ bindModeWords) :
    BindMeans (given (bindPairs r)) (bindMeaning r mode) := by
  have hcomm : r.comm ≠ [] → IsComm r.comm (commOf r.comm) := by
    intro hne
    obtain ⟨hlen, hatom⟩ := h.comm.resolve_left hne
    exact ⟨hne, hlen, hatom, commOf_toList (by omega)⟩
  refine ⟨⟨_, rfl, decimal_denotes r.pid, h.pid⟩, ⟨_, rfl, hmode⟩, ?_, ?_, ?_⟩ <;>
    unfold bindPairs bindMeaning <;>
    cases r.uid <;> cases r.startBootTime <;> by_cases hc : r.comm = [] <;>
    simp [hc, given, lookup_cons, lookup_nil, Optional, decimal_denotes, hcomm]

lemma isCommand {mode : BindMode} (hmode : (r.mode, mode) ∈ bindModeWords) :
    IsCommand (bindText r) (.bind (bindMeaning r mode)) := by
  refine ⟨h.short, _, bindText_eq r ▸ pairsText_isLine (by simp [ascii])
    (by simp [ascii, Graphic]) ?_ h.sendable,
    .bind h.isArgs (h.means hmode)⟩
  have hle : ((bindPairs r).map pairToken).length ≤ 5 := h.isArgs.length_le
  rw [length_map] at hle
  omega

end BindReady

end Spz.Client
