import Stackplz.Text.Pieces
import Stackplz.Lib.Checks

/-!
# The grammar of commands

What a command text is, stated without the parser: a line of tokens (`IsLine`) that is a sentence of
one of the verbs (`Sentence`).  The arguments of a verb are pairs `key=value` in any order without
repetition (`IsArgs`); what they have to be and which command they denote is said of the assignment
of values to keys, so that the order does not matter (`BindMeans`, `BreakMeans`, `MapsReadMeans`).

The loop over keys is treated once for all verbs.  A table of keys is lawful (`LawfulKeys`) if
setting a key in the record that is built is building the record of the larger assignment; the loop
then accepts exactly the arguments and builds their record (`LawfulKeys.parse`).
-/

namespace Spz

open Errno Numerals Tokens List BitVec Function

/-! ## The grammar -/

/-- The values that keys are given. -/
abbrev Assignment := String → Option (List U8)

def pairToken (pair : String × List U8) : List U8 := ascii pair.1 ++ equals :: pair.2

/-- The tokens give values to some of the allowed keys, each at most once. -/
def IsArgs (tokens : List (List U8)) (allowed : List String) (given : Assignment) : Prop :=
  ∃ pairs : List (String × List U8), tokens = pairs.map pairToken ∧ (pairs.map Prod.fst).Nodup ∧
    (∀ pair ∈ pairs, pair.1 ∈ allowed ∧ pair.2 ≠ [] ∧ equals ∉ pair.2) ∧
    ∀ key value, given key = some value ↔ (key, value) ∈ pairs

/-- A key that must be there. -/
def Required (value : Option (List U8)) (means : List U8 → Prop) : Prop :=
  ∃ v, value = some v ∧ means v

def Optional (value : Option (List U8)) (means : List U8 → Prop) (absent : Prop) : Prop :=
  match value with
  | none => absent
  | some v => means v

def bindModeWords : List (List U8 × BindMode) :=
  [(ascii "pid", .pid), (ascii "tgid", .tgid), (ascii "either", .either)]

def breakKindWords : List (List U8 × BreakKind) :=
  [(ascii "x", .execute), (ascii "r", .read), (ascii "w", .write), (ascii "rw", .readWrite)]

def breakModeWords : List (List U8 × BreakMode) :=
  [(ascii "once", .once), (ascii "repeat", .repeat)]

/-- A task name: 1 to 15 letters, figures and `.`, `_`, `:`, `-`, followed by NULs. -/
def IsComm (v : List U8) (comm : Comm) : Prop :=
  v ≠ [] ∧ v.length ≤ 15 ∧ (∀ b ∈ v, isAtomByte b = true) ∧
    comm.toList = v ++ List.replicate (16 - v.length) 0

/-- What the arguments of `bind` denote. -/
structure BindMeans (given : Assignment) (c : BindCommand) : Prop where
  pid : Required (given "pid") fun v => Denotes 10 v c.pid.toNat ∧ c.pid ≠ 0
  mode : Required (given "mode") fun v => (v, c.mode) ∈ bindModeWords
  uid : Optional (given "uid") (fun v => Denotes 10 v c.uid.toNat ∧ c.hasUid = 1)
    (c.uid = 0 ∧ c.hasUid = 0)
  comm : Optional (given "comm") (fun v => IsComm v c.comm ∧ c.hasComm = 1)
    (c.comm = Vector.replicate 16 0 ∧ c.hasComm = 0)
  start : Optional (given "start")
    (fun v => Denotes 10 v c.startBootTime.toNat ∧ c.hasStartBootTime = 1)
    (c.startBootTime = 0 ∧ c.hasStartBootTime = 0)

/-- A place that can be watched: below `2 ^ 56`, and a whole instruction, or 1, 2, 4 or 8 bytes of
one doubleword. -/
structure Placeable (kind : BreakKind) (address : U64) (length : U8) : Prop where
  pos : address ≠ 0
  high : address.toNat < 2 ^ 56
  execute : kind = .execute → length = 4 ∧ address.toNat % 4 = 0
  data : kind ≠ .execute → (length = 1 ∨ length = 2 ∨ length = 4 ∨ length = 8) ∧
    address.toNat % 8 + length.toNat ≤ 8

/-- What the arguments of `break` denote. -/
structure BreakMeans (given : Assignment) (c : BreakCommand) : Prop where
  id : Required (given "id") fun v => Denotes 10 v c.id.toNat ∧ c.id ≠ 0
  kind : Required (given "kind") fun v => (v, c.kind) ∈ breakKindWords
  addr : Required (given "addr") fun v =>
    ∃ digits, v = ascii "0x" ++ digits ∧ Denotes 16 digits c.address.toNat
  len : Required (given "len") fun v => Denotes 10 v c.length.toNat
  mode : Required (given "mode") fun v => (v, c.mode) ∈ breakModeWords
  place : Placeable c.kind c.address c.length

/-- What the arguments of `maps-read` denote. -/
structure MapsReadMeans (given : Assignment) (snapshot : U64) (offset : U32) : Prop where
  snapshot : Required (given "snapshot") fun v => Denotes 10 v snapshot.toNat ∧ snapshot ≠ 0
  offset : Required (given "offset") fun v => Denotes 10 v offset.toNat

/-- The sentences. -/
inductive Sentence : List (List U8) → Command → Prop
  | status : Sentence [ascii "status"] .status
  | profile : Sentence [ascii "profile"] .profile
  | bind {args : List (List U8)} {given : Assignment} {c : BindCommand} :
      IsArgs args ["pid", "mode", "uid", "comm", "start"] given → BindMeans given c →
      Sentence (ascii "bind" :: args) (.bind c)
  | break {args : List (List U8)} {given : Assignment} {c : BreakCommand} :
      IsArgs args ["id", "kind", "addr", "len", "mode"] given → BreakMeans given c →
      Sentence (ascii "break" :: args) (.break c)
  | enable {v : List U8} {id : U32} : Denotes 10 v id.toNat → id ≠ 0 →
      Sentence [ascii "enable", pairToken ("id", v)] (.enable id)
  | disable {v : List U8} {id : U32} : Denotes 10 v id.toNat → id ≠ 0 →
      Sentence [ascii "disable", pairToken ("id", v)] (.disable id)
  | clear : Sentence [ascii "clear"] .clear
  | poll : Sentence [ascii "poll"] (.poll 0 0)
  | pollAfter {v : List U8} {after : U64} : Denotes 10 v after.toNat →
      Sentence [ascii "poll", pairToken ("after", v)] (.poll after 1)
  | audit : Sentence [ascii "audit"] .audit
  | maps : Sentence [ascii "maps"] .maps
  | mapsRead {args : List (List U8)} {given : Assignment} {snapshot : U64} {offset : U32} :
      IsArgs args ["snapshot", "offset"] given → MapsReadMeans given snapshot offset →
      Sentence (ascii "maps-read" :: args) (.mapsRead snapshot offset)

/-- A command text and the command it denotes. -/
def IsCommand (input : List U8) (command : Command) : Prop :=
  input.length ≤ maxCommand ∧ ∃ tokens, IsLine input tokens ∧ Sentence tokens command

/-! ## The loop over keys -/

/-- The assignment after further pairs. -/
def extend (given : Assignment) (pairs : List (String × List U8)) : Assignment :=
  pairs.foldl (fun f pair => update f pair.1 (some pair.2)) given

/-- Pairs with different keys extend the assignment by themselves. -/
lemma extend_spec {pairs : List (String × List U8)} (hnodup : (pairs.map Prod.fst).Nodup)
    {given : Assignment} (hfresh : ∀ pair ∈ pairs, given pair.1 = none) (key : String)
    (value : List U8) :
    extend given pairs key = some value ↔ given key = some value ∨ (key, value) ∈ pairs := by
  induction pairs generalizing given with
  | nil => simp [extend]
  | cons pair pairs ih =>
    rw [map_cons, nodup_cons] at hnodup
    rw [forall_mem_cons] at hfresh
    have hne : ∀ p ∈ pairs, p.1 ≠ pair.1 := fun p hp heq =>
      hnodup.1 (heq ▸ mem_map_of_mem hp)
    have hstep : extend given (pair :: pairs) =
        extend (update given pair.1 (some pair.2)) pairs := rfl
    rw [hstep, ih hnodup.2 fun p hp => by
      rw [update_of_ne (hne p hp)]; exact hfresh.2 p hp]
    by_cases hkey : key = pair.1
    · subst hkey
      rw [update_self, hfresh.1, mem_cons, Prod.ext_iff]
      simp only [Option.some.injEq, reduceCtorEq, false_or, true_and]
      constructor
      · rintro (rfl | hmem)
        · exact .inl rfl
        · exact absurd rfl (hne (pair.1, value) hmem)
      · rintro (rfl | hmem)
        · exact .inl rfl
        · exact .inr hmem
    · rw [update_of_ne hkey, mem_cons, Prod.ext_iff]
      simp only [hkey, false_and, false_or]

def bitOf (bit : U32) (value : Option (List U8)) : U32 := if value.isSome then bit else 0

/-- The bits of the keys that have a value. -/
def seenOf {σ : Type} (keys : List (Key σ)) (f : Assignment) : U32 :=
  keys.foldr (fun key seen => bitOf key.bit (f key.name) ||| seen) 0

/-- A table of keys whose setters build the record of an assignment. -/
structure LawfulKeys {σ : Type} (keys : List (Key σ)) (build : Assignment → σ) : Prop where
  names : (keys.map fun key => ascii key.name).Nodup := by decide
  plain : ∀ key ∈ keys, ascii key.name ≠ [] ∧ equals ∉ ascii key.name := by decide
  bit_ne : ∀ key ∈ keys, key.bit ≠ 0 := by decide
  bits : keys.Pairwise fun a b => a.bit &&& b.bit = 0 := by decide
  build_set : ∀ key ∈ keys, ∀ f v set, key.parse v = .ok set →
    build (update f key.name (some v)) = set (build f)

namespace LawfulKeys

variable {σ : Type} {keys : List (Key σ)} {build : Assignment → σ}

variable {key : Key σ} {result : U32 × σ}

lemma find (h : LawfulKeys keys build) (hkey : key ∈ keys) :
    keys.find? (fun k => ascii k.name == ascii key.name) = some key := by
  have hnames := h.names
  clear h
  induction keys with
  | nil => cases hkey
  | cons k ks ih =>
    rw [map_cons, nodup_cons] at hnames
    rw [List.find?_cons]
    rcases mem_cons.mp hkey with rfl | hkey
    · rw [beq_self_eq_true]
    · have hne : ascii k.name ≠ ascii key.name := fun heq =>
        hnames.1 (heq ▸ mem_map_of_mem (f := fun key => ascii key.name) hkey)
      rw [beq_false_of_ne hne]
      exact ih hkey hnames.2

lemma seenOf_cons (k : Key σ) (ks : List (Key σ)) (f : Assignment) :
    seenOf (k :: ks) f = bitOf k.bit (f k.name) ||| seenOf ks f := rfl

lemma zero_or_bits (a : U32) : 0 ||| a = a := zero_or

lemma or_and_bits (a b c : U32) : (a ||| b) &&& c = (a &&& c) ||| (b &&& c) := by
  refine eq_of_getLsbD_eq fun i _ => ?_
  simp only [getLsbD_and, getLsbD_or, Bool.and_or_distrib_right]

lemma seenOf_disjoint {ks : List (Key σ)} {bit : U32} (h : ∀ k ∈ ks, bit &&& k.bit = 0)
    (f : Assignment) : seenOf ks f &&& bit = 0 := by
  induction ks with
  | nil => exact zero_and
  | cons k ks ih =>
    rw [forall_mem_cons] at h
    have hk : bitOf k.bit (f k.name) &&& bit = 0 := by
      unfold bitOf
      split_ifs
      · rw [BitVec.and_comm]
        exact h.1
      · exact zero_and
    rw [seenOf_cons, or_and_bits, hk, zero_or_bits]
    exact ih h.2

lemma seen_bit (h : LawfulKeys keys build) (hkey : key ∈ keys) (f : Assignment) :
    seenOf keys f &&& key.bit ≠ 0 ↔ (f key.name).isSome = true := by
  have hbits := h.bits
  have hne := h.bit_ne key hkey
  clear h
  induction keys with
  | nil => cases hkey
  | cons k ks ih =>
    rw [pairwise_cons] at hbits
    rw [seenOf_cons, or_and_bits]
    rcases mem_cons.mp hkey with rfl | hkey
    · rw [seenOf_disjoint hbits.1 f, BitVec.or_comm, zero_or_bits, bitOf]
      split_ifs with hsome
      · simpa [hsome] using hne
      · simp [hsome]
    · have hk : bitOf k.bit (f k.name) &&& key.bit = 0 := by
        unfold bitOf
        split_ifs
        · exact hbits.1 key hkey
        · exact zero_and
      rw [hk, zero_or_bits]
      exact ih hkey hbits.2

lemma seen_set (h : LawfulKeys keys build) (hkey : key ∈ keys) (f : Assignment) (v : List U8) :
    seenOf keys (update f key.name (some v)) = seenOf keys f ||| key.bit := by
  have hnames := h.names
  clear h
  induction keys with
  | nil => cases hkey
  | cons k ks ih =>
    rw [map_cons, nodup_cons] at hnames
    rw [seenOf_cons, seenOf_cons]
    rcases mem_cons.mp hkey with rfl | hkey
    · have hne : ∀ k ∈ ks, k.name ≠ key.name := fun k hk heq =>
        hnames.1 (mem_map.mpr ⟨k, hk, congrArg ascii heq⟩)
      have hrest : seenOf ks (update f key.name (some v)) = seenOf ks f := by
        refine foldr_ext _ _ _ fun k hk seen => ?_
        rw [update_of_ne (hne k hk)]
      rw [hrest, update_self, BitVec.or_assoc, BitVec.or_comm (seenOf ks f), ← BitVec.or_assoc]
      congr 1
      cases f key.name with
      | none => exact zero_or.symm
      | some v => exact or_self.symm
    · have hne : k.name ≠ key.name := fun heq =>
        hnames.1 (mem_map.mpr ⟨key, hkey, congrArg ascii heq.symm⟩)
      rw [update_of_ne hne, ih hkey hnames.2, BitVec.or_assoc]

/-- A pair that the loop accepts, if its key is new. -/
def Accepts (keys : List (Key σ)) (pair : String × List U8) : Prop :=
  ∃ key ∈ keys, key.name = pair.1 ∧ pair.2 ≠ [] ∧ equals ∉ pair.2 ∧
    ∃ set, key.parse pair.2 = .ok set

variable {f : Assignment} {tokens : List (List U8)}

variable (h : LawfulKeys keys build)
include h

/-- One turn of the loop. -/
lemma turn {token : List U8} {rest : List (List U8)} :
    parseKeys keys (token :: rest) (seenOf keys f) (build f) = .ok result ↔
      ∃ pair, token = pairToken pair ∧ Accepts keys pair ∧ f pair.1 = none ∧
        parseKeys keys rest (seenOf keys (update f pair.1 (some pair.2)))
          (build (update f pair.1 (some pair.2))) = .ok result := by
  constructor
  · intro hok
    simp only [parseKeys] at hok
    split at hok
    case h_1 => cases hok
    case h_2 name value hsplit =>
        have hpair := splitKeyValue_ok.mp hsplit
        split at hok
        case h_1 => cases hok
        case h_2 key hfind =>
            have hkey := mem_of_find?_eq_some hfind
            have hname : ascii key.name = name := by simpa using List.find?_some hfind
            split_ifs at hok with hseen
            split at hok
            case h_1 => cases hok
            case h_2 set hparse =>
                have hnone : f key.name = none :=
                  Option.not_isSome_iff_eq_none.mp ((h.seen_bit hkey f).not.mp hseen)
                refine ⟨(key.name, value), ?_, ⟨key, hkey, rfl, hpair.value_ne, hpair.value_plain,
                  set, hparse⟩, hnone, ?_⟩
                · rw [pairToken, hname]
                  exact hpair.eq
                · rw [h.seen_set hkey, h.build_set key hkey _ _ _ hparse]
                  exact hok
  · rintro ⟨⟨name, value⟩, rfl, ⟨key, hkey, rfl, hne, hplain, set, hparse⟩, hnone, hok⟩
    have hsplit : splitKeyValue (pairToken (key.name, value)) = .ok (ascii key.name, value) :=
      splitKeyValue_ok.mpr ⟨rfl, (h.plain key hkey).1, hne, (h.plain key hkey).2, hplain⟩
    have hbit : ¬ (seenOf keys f &&& key.bit ≠ 0) := by
      rw [h.seen_bit hkey, hnone]
      simp
    rw [h.seen_set hkey, h.build_set key hkey _ _ _ hparse] at hok
    simp only [parseKeys, hsplit, h.find hkey, if_neg hbit, hparse]
    exact hok

/-- The loop accepts the arguments and builds their record. -/
lemma loop :
    parseKeys keys tokens (seenOf keys f) (build f) = .ok result ↔
      ∃ pairs : List (String × List U8), tokens = pairs.map pairToken ∧
        (pairs.map Prod.fst).Nodup ∧ (∀ pair ∈ pairs, Accepts keys pair ∧ f pair.1 = none) ∧
        result = (seenOf keys (extend f pairs), build (extend f pairs)) := by
  induction tokens generalizing f with
  | nil =>
    simp only [parseKeys, Except.ok.injEq]
    constructor
    · rintro rfl
      exact ⟨[], rfl, nodup_nil, by simp, rfl⟩
    · rintro ⟨pairs, hpairs, -, -, rfl⟩
      rw [map_eq_nil_iff.mp hpairs.symm]
      rfl
  | cons token rest ih =>
    rw [h.turn]
    constructor
    · rintro ⟨pair, rfl, haccepts, hnone, hok⟩
      obtain ⟨pairs, rfl, hnodup, hall, rfl⟩ := ih.mp hok
      have hfresh : ∀ p ∈ pairs, p.1 ≠ pair.1 := by
        intro p hp heq
        have := (hall p hp).2
        rw [heq, update_self] at this
        cases this
      refine ⟨pair :: pairs, rfl, ?_, ?_, rfl⟩
      · rw [map_cons, nodup_cons]
        refine ⟨fun hmem => ?_, hnodup⟩
        obtain ⟨p, hp, heq⟩ := mem_map.mp hmem
        exact hfresh p hp heq
      · rw [forall_mem_cons]
        refine ⟨⟨haccepts, hnone⟩, fun p hp => ⟨(hall p hp).1, ?_⟩⟩
        have := (hall p hp).2
        rwa [update_of_ne (hfresh p hp)] at this
    · rintro ⟨pairs, hpairs, hnodup, hall, rfl⟩
      cases pairs with
      | nil => cases hpairs
      | cons pair pairs =>
        rw [map_cons, List.cons.injEq] at hpairs
        rw [map_cons, nodup_cons] at hnodup
        rw [forall_mem_cons] at hall
        refine ⟨pair, hpairs.1, hall.1.1, hall.1.2, ih.mpr ⟨pairs, hpairs.2, hnodup.2, ?_, rfl⟩⟩
        intro p hp
        refine ⟨(hall.2 p hp).1, ?_⟩
        have hne : p.1 ≠ pair.1 := fun heq => hnodup.1 (heq ▸ mem_map_of_mem hp)
        rw [update_of_ne hne]
        exact (hall.2 p hp).2

/-- What the loop accepts from the start. -/
lemma parse :
    parseKeys keys tokens 0 (build fun _ => none) = .ok result ↔
      ∃ given, IsArgs tokens (keys.map (·.name)) given ∧
        (∀ key ∈ keys, ∀ v, given key.name = some v → ∃ set, key.parse v = .ok set) ∧
        result = (seenOf keys given, build given) := by
  have hzero : seenOf keys (fun _ => none) = 0 := by
    clear h
    induction keys with
    | nil => rfl
    | cons k ks ih =>
      rw [seenOf_cons]
      exact zero_or.trans ih
  rw [← hzero, h.loop]
  constructor
  · rintro ⟨pairs, rfl, hnodup, hall, rfl⟩
    have hspec : ∀ key value, extend (fun _ => none) pairs key = some value ↔
        (key, value) ∈ pairs := by
      intro key value
      rw [extend_spec hnodup fun _ _ => rfl]
      simp
    refine ⟨extend (fun _ => none) pairs, ⟨pairs, rfl, hnodup, fun pair hpair => ?_, hspec⟩,
      fun key hkey v hv => ?_, rfl⟩
    · obtain ⟨key, hkey, hname, hne, hplain, -⟩ := (hall pair hpair).1
      exact ⟨hname ▸ mem_map_of_mem hkey, hne, hplain⟩
    · obtain ⟨key', hkey', hname, -, -, hparse⟩ := (hall _ ((hspec _ _).mp hv)).1
      have hfind := h.find hkey
      rw [show ascii key.name = ascii key'.name from congrArg ascii hname.symm,
        h.find hkey'] at hfind
      cases hfind
      exact hparse
  · rintro ⟨given, ⟨pairs, rfl, hnodup, hall, hspec⟩, hparse, rfl⟩
    have hgiven : extend (fun _ => none) pairs = given := by
      funext key
      refine Option.ext fun value => ?_
      rw [extend_spec hnodup (fun _ _ => rfl), hspec]
      simp
    refine ⟨pairs, rfl, hnodup, fun pair hpair => ⟨?_, rfl⟩, by rw [hgiven]⟩
    obtain ⟨hallowed, hne, hplain⟩ := hall pair hpair
    obtain ⟨key, hkey, hname⟩ := mem_map.mp hallowed
    refine ⟨key, hkey, hname, hne, hplain, hparse key hkey pair.2 ?_⟩
    rw [hspec, hname]
    exact hpair

end LawfulKeys

end Spz
