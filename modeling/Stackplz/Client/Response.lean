import Stackplz.Client.Command
import Stackplz.Text.Answer

/-!
# Answers at the client

`parseResponse` of `user/kpm/command.go`, with what it uses of `strings` and `strconv`.  A Go map
from keys to values is a list of pairs with different keys; a string is a list of bytes.

An answer of the module whose names and values are printable is read back as it was written
(`parseResponse_answer`).
-/

namespace Spz.Client

open Numerals List

/-! ## Splitting -/

/-- The number of bytes of the white space character at the front of a string, 0 if there is none:
`unicode.IsSpace` on its UTF-8 encodings.  A lead byte is never inside a longer character, so that
no character boundary has to be kept track of. -/
def spaceWidth : List U8 → ℕ
  | b :: rest =>
    if b = 0x20 ∨ 0x09 ≤ b.toNat ∧ b.toNat ≤ 0x0d then 1
    else match b.toNat, rest with
      | 0xc2, c :: _ => if c = 0x85 ∨ c = 0xa0 then 2 else 0
      | 0xe1, c :: d :: _ => if c = 0x9a ∧ d = 0x80 then 3 else 0
      | 0xe2, c :: d :: _ =>
        if c = 0x80 ∧ (0x80 ≤ d.toNat ∧ d.toNat ≤ 0x8a ∨ d = 0xa8 ∨ d = 0xa9 ∨ d = 0xaf) ∨
          c = 0x81 ∧ d = 0x9f then 3 else 0
      | 0xe3, c :: d :: _ => if c = 0x80 ∧ d = 0x80 then 3 else 0
      | _, _ => 0
  | [] => 0

def closeField (current : List U8) : List (List U8) := if current = [] then [] else [current]

/-- The loop of `strings.Fields`, which skips the rest of a white space character and collects the
current field. -/
def splitFields : ℕ → List U8 → List U8 → List (List U8)
  | _, current, [] => closeField current
  | skip + 1, current, _ :: rest => splitFields skip current rest
  | 0, current, b :: rest =>
    match spaceWidth (b :: rest) with
    | 0 => splitFields 0 (current ++ [b]) rest
    | skip + 1 => closeField current ++ splitFields skip [] rest

/-- `strings.Fields`. -/
def stringsFields (s : List U8) : List (List U8) := splitFields 0 [] s

def cut (sep : U8) : List U8 → Option (List U8 × List U8)
  | [] => none
  | b :: rest => if b = sep then some ([], rest) else (cut sep rest).map fun p => (b :: p.1, p.2)

/-- `strings.HasPrefix` and `strings.TrimPrefix`. -/
def trimLead (lead s : List U8) : Option (List U8) :=
  if s.take lead.length = lead then some (s.drop lead.length) else none

/-! ## Numbers -/

/-- `strconv.ParseUint` in the base 10. -/
def parseUint (bits : ℕ) (s : List U8) : Option ℕ :=
  if s = [] then none else (scan 10 (2 ^ bits - 1) () () 0 s).toOption

/-- The base of a number whose text says it, and its digits. -/
def numberBase (s : List U8) : ℕ × List U8 :=
  match s with
  | 0x30 :: rest =>
    match rest with
    | mark :: digit :: digits =>
      if mark = 0x62 ∨ mark = 0x42 then (2, digit :: digits)
      else if mark = 0x6f ∨ mark = 0x4f then (8, digit :: digits)
      else if mark = 0x78 ∨ mark = 0x58 then (16, digit :: digits)
      else (8, rest)
    | _ => (8, rest)
  | _ => (10, s)

/-- What `underscoreOK` saw last. -/
inductive Saw
  | start | digit | underscore | other
deriving DecidableEq

/-- `'_'`. -/
def underscore : U8 := 0x5f

/-- The loop of `underscoreOK`. -/
def underscoreLoop (hex : Bool) : Saw → List U8 → Bool
  | saw, [] => saw ≠ .underscore
  | saw, b :: rest =>
    if (digitValue b).any fun d => d < 10 || hex then underscoreLoop hex .digit rest
    else if b = underscore then saw = .digit && underscoreLoop hex .underscore rest
    else saw ≠ .underscore && underscoreLoop hex .other rest

/-- `underscoreOK`, for a text without sign. -/
def underscoreOk (s : List U8) : Bool :=
  match s with
  | 0x30 :: mark :: rest =>
    if mark = 0x62 ∨ mark = 0x42 ∨ mark = 0x6f ∨ mark = 0x4f then underscoreLoop false .digit rest
    else if mark = 0x78 ∨ mark = 0x58 then underscoreLoop true .digit rest
    else underscoreLoop false .start s
  | _ => underscoreLoop false .start s

/-- `strconv.ParseUint` in the base 0: the text says the base, and may have underscores between
digits. -/
def parseUintAny (bits : ℕ) (s : List U8) : Option ℕ :=
  if s = [] then none
  else
    let digits := (numberBase s).2
    if underscore ∈ digits ∧ !underscoreOk s then none
    else (scan (numberBase s).1 (2 ^ bits - 1) () () 0 (digits.filter (· ≠ underscore))).toOption

/-- `strconv.Atoi`, for an `int` of 64 bits. -/
def atoi (s : List U8) : Option ℤ :=
  match s with
  | [] => none
  | b :: rest =>
    if b = minus then
      if rest = [] then none
      else (scan 10 (2 ^ 63) () () 0 rest).toOption.map fun n => -(n : ℤ)
    else if b = 0x2b then
      if rest = [] then none else (scan 10 (2 ^ 63 - 1) () () 0 rest).toOption.map Int.ofNat
    else (scan 10 (2 ^ 63 - 1) () () 0 s).toOption.map Int.ofNat

/-! ## Responses -/

def maxResponseBytes : ℕ := 4096

/-- A map from keys to values. -/
abbrev Fields := List (List U8 × List U8)

structure Response where
  status : ℤ := 0
  version : ℕ := 0
  fields : Fields := []

/-- The errors of `parseResponse`. -/
inductive ResponseError
  | malformed
  | unsupportedVersion
  | control (status : ℤ) (reason : List U8)
deriving DecidableEq

/-- The loop over the fields: what has been stored, and whether all tokens were fields. -/
def parseFields : List (List U8) → Fields → Fields × Bool
  | [], fields => (fields, true)
  | token :: rest, fields =>
    match cut equals token with
    | none => (fields, false)
    | some (key, value) =>
      if key = [] ∨ value = [] ∨ !safeAtom key 64 then (fields, false)
      else if (fields.lookup key).isSome then (fields, false)
      else parseFields rest (fields ++ [(key, value)])

/-- `parseResponse` after the status and the version have been read. -/
def parseBody (status : ℤ) (version : ℕ) (tokens : List (List U8)) :
    Response × Option ResponseError :=
  if version ≠ 1 then ({ status := status, version := version }, some .unsupportedVersion)
  else
    let out := parseFields tokens []
    let response : Response := { status := status, version := version, fields := out.1 }
    if !out.2 then (response, some .malformed)
    else if status ≠ 0 then
      (response, some (.control status ((out.1.lookup (ascii "reason")).getD [])))
    else (response, none)

def parseResponse (output : List U8) : Response × Option ResponseError :=
  if output.length = 0 ∨ output.length > maxResponseBytes then ({}, some .malformed)
  else
    match stringsFields output with
    | first :: second :: tokens =>
      match trimLead (ascii "status=") first, trimLead (ascii "version=") second with
      | some statusText, some versionText =>
        match atoi statusText, parseUint 16 versionText with
        | some status, some version => parseBody status version tokens
        | _, _ => ({}, some .malformed)
      | _, _ => ({}, some .malformed)
    | _ => ({}, some .malformed)

/-! ## Reading back -/

lemma spaceWidth_graphic {b : U8} (h : Graphic b) (rest : List U8) :
    spaceWidth (b :: rest) = 0 := by
  obtain ⟨hlow, hhigh⟩ := h
  have hspace : ¬ (b = 0x20 ∨ 0x09 ≤ b.toNat ∧ b.toNat ≤ 0x0d) := by
    rintro (rfl | h)
    · exact absurd hlow (by decide)
    · omega
  unfold spaceWidth
  dsimp only
  rw [if_neg hspace]
  split <;> omega

lemma splitFields_token {token : List U8} (h : ∀ b ∈ token, Graphic b) (current rest : List U8) :
    splitFields 0 current (token ++ rest) = splitFields 0 (current ++ token) rest := by
  induction token generalizing current with
  | nil => simp
  | cons b token ih =>
    rw [forall_mem_cons] at h
    rw [cons_append, splitFields, spaceWidth_graphic h.1]
    dsimp only
    rw [ih h.2]
    simp

lemma splitFields_tokens {tokens : List (List U8)} (h : ∀ t ∈ tokens, t ≠ [] ∧ ∀ b ∈ t, Graphic b)
    {current : List U8} (hcurrent : current ≠ []) :
    splitFields 0 current (tokens.flatMap (space :: ·)) = current :: tokens := by
  induction tokens generalizing current with
  | nil => simp [splitFields, closeField, hcurrent]
  | cons t tokens ih =>
    rw [forall_mem_cons] at h
    have hspace : spaceWidth (space :: (t ++ tokens.flatMap (space :: ·))) = 1 := rfl
    rw [flatMap_cons, cons_append, splitFields, hspace]
    dsimp only
    rw [splitFields_token h.1.2, nil_append, ih h.2 h.1.1, closeField, if_neg hcurrent]
    rfl

lemma stringsFields_tokens {first : List U8} {tokens : List (List U8)}
    (hfirst : first ≠ [] ∧ ∀ b ∈ first, Graphic b) (h : ∀ t ∈ tokens, t ≠ [] ∧ ∀ b ∈ t, Graphic b) :
    stringsFields (first ++ tokens.flatMap (space :: ·)) = first :: tokens := by
  rw [stringsFields, splitFields_token hfirst.2, nil_append, splitFields_tokens h hfirst.1]

lemma cut_append {sep : U8} {key : List U8} (h : sep ∉ key) (value : List U8) :
    cut sep (key ++ sep :: value) = some (key, value) := by
  induction key with
  | nil => simp [cut]
  | cons b key ih =>
    rw [mem_cons, not_or] at h
    rw [cons_append, cut, if_neg (Ne.symm h.1), ih h.2]
    rfl

lemma trimLead_append (lead s : List U8) : trimLead lead (lead ++ s) = some s := by
  simp [trimLead]

lemma parseUint_numeral {bits n : ℕ} (h : n < 2 ^ bits) :
    parseUint bits (numeral 10 n) = some n := by
  rw [parseUint, if_neg (numeral_ne_nil n), scan_numeral (by decide) (by decide) (by omega)]
  rfl

/-- `strconv.Atoi` reads the text of a signed number back. -/
lemma atoi_signed {value : ℤ} (hlow : -2 ^ 63 ≤ value) (hhigh : value < 2 ^ 63) :
    atoi (signed value) = some value := by
  have hnatAbs : value.natAbs ≤ 2 ^ 63 := by omega
  unfold signed
  split_ifs with hneg
  · simp only [atoi, if_pos, numeral_ne_nil, if_false]
    rw [scan_numeral (by decide) (by decide) hnatAbs]
    show some (-(value.natAbs : ℤ)) = some value
    rw [Option.some.injEq]
    omega
  · have hscan : scan 10 (2 ^ 63 - 1) () () 0 (numeral 10 value.natAbs) = .ok value.natAbs :=
      scan_numeral (by decide) (by decide) (by omega)
    cases hdigits : numeral 10 value.natAbs with
    | nil => exact absurd hdigits (numeral_ne_nil _)
    | cons b rest =>
      have hmem : b ∈ numeral 10 value.natAbs := by
        rw [hdigits]
        exact mem_cons_self
      obtain ⟨d, hd, hb⟩ := mem_numeral (by decide) hmem
      have hrange := digitByte_range (d := d) (by omega)
      have hminus : b ≠ minus := by
        rintro rfl
        rw [← hb] at hrange
        simp [minus] at hrange
      have hplus : b ≠ 0x2b := by
        rintro rfl
        rw [← hb] at hrange
        simp at hrange
      rw [hdigits] at hscan
      simp only [atoi, if_neg hminus, if_neg hplus, hscan, Except.toOption, Option.map_some,
        Option.some.injEq]
      show (value.natAbs : ℤ) = value
      omega

/-! ## Answers of the module -/

/-- The fields of an answer as the client stores them. -/
def storedFields (fields : List (String × List U8)) : Fields :=
  fields.map fun field => (ascii field.1, field.2)

/-- Fields that can be read back: names that are atoms and different from each other, and values
that are printable. -/
structure Readable (fields : List (String × List U8)) : Prop where
  names : (fields.map fun field => ascii field.1).Nodup
  atoms : ∀ field ∈ fields, safeAtom (ascii field.1) 64 = true
  values : ∀ field ∈ fields, field.2 ≠ [] ∧ ∀ b ∈ field.2, Graphic b

lemma safeAtom_iff {value : List U8} {limit : ℕ} : safeAtom value limit = true ↔
    value ≠ [] ∧ value.length ≤ limit ∧ ∀ b ∈ value, isAtomByte b = true := by
  simp [safeAtom, and_assoc]

lemma fieldsText_tokens (fields : List (String × List U8)) :
    fieldsText fields = (fields.map pairToken).flatMap (space :: ·) := by
  rw [flatMap_map]
  rfl

lemma Readable.tokens {fields : List (String × List U8)} (h : Readable fields) :
    ∀ t ∈ fields.map pairToken, t ≠ [] ∧ ∀ b ∈ t, Graphic b := by
  intro t ht
  obtain ⟨field, hfield, rfl⟩ := mem_map.mp ht
  obtain ⟨-, -, hatom⟩ := safeAtom_iff.mp (h.atoms field hfield)
  refine ⟨by simp [pairToken], fun b hb => ?_⟩
  rcases mem_append.mp hb with hb | hb
  · exact (atom_graphic (hatom b hb)).1
  · rcases mem_cons.mp hb with rfl | hb
    · decide
    · exact (h.values field hfield).2 b hb

lemma lookup_none {fields : Fields} {key : List U8} (h : key ∉ fields.map Prod.fst) :
    fields.lookup key = none := by
  induction fields with
  | nil => rfl
  | cons field fields ih =>
    rw [map_cons, mem_cons, not_or] at h
    rw [lookup_cons, beq_false_of_ne h.1]
    exact ih h.2

/-- The loop stores the fields in turn. -/
lemma parseFields_readable {fields : List (String × List U8)} (h : Readable fields)
    {stored : Fields} (hfresh : ∀ field ∈ fields, ascii field.1 ∉ stored.map Prod.fst) :
    parseFields (fields.map pairToken) stored = (stored ++ storedFields fields, true) := by
  induction fields generalizing stored with
  | nil => simp [parseFields, storedFields]
  | cons field fields ih =>
    obtain ⟨hnames, hatoms, hvalues⟩ := h
    rw [map_cons, nodup_cons] at hnames
    rw [forall_mem_cons] at hatoms hvalues hfresh
    obtain ⟨hne, -, hatom⟩ := safeAtom_iff.mp hatoms.1
    have hcut : cut equals (pairToken field) = some (ascii field.1, field.2) :=
      cut_append (fun hmem => (atom_graphic (hatom _ hmem)).2 rfl) field.2
    have hplain : ¬ (ascii field.1 = [] ∨ field.2 = [] ∨
        (!safeAtom (ascii field.1) 64) = true) := by
      simp [hne, hvalues.1.1, hatoms.1]
    rw [map_cons, parseFields, hcut]
    dsimp only
    rw [if_neg hplain, lookup_none hfresh.1, if_neg (by simp),
      ih ⟨hnames.2, hatoms.2, hvalues.2⟩ ?_]
    · simp [storedFields]
    · intro other hother hmem
      rw [map_append, mem_append] at hmem
      rcases hmem with hmem | hmem
      · exact hfresh.2 other hother hmem
      · rw [map_singleton, mem_singleton] at hmem
        exact hnames.1 (mem_map.mpr ⟨other, hother, hmem⟩)

lemma signed_graphic (value : ℤ) : ∀ b ∈ signed value, Graphic b := by
  have hdigits : ∀ b ∈ numeral 10 value.natAbs, Graphic b := by
    intro b hb
    obtain ⟨d, hd, rfl⟩ := mem_numeral (by decide) hb
    exact graphic_digitByte (by omega)
  unfold signed
  split_ifs
  · rw [forall_mem_cons]
    exact ⟨by decide, hdigits⟩
  · exact hdigits

lemma controlReason_word (e : Errno) : ascii (controlReason e) ≠ [] ∧
    (∀ b ∈ ascii (controlReason e), Graphic b) ∧ (ascii (controlReason e)).length ≤ 11 := by
  have htable : ∀ r ∈ reasons.map Prod.snd, ascii r ≠ [] ∧ (∀ b ∈ ascii r, Graphic b) ∧
      (ascii r).length ≤ 11 := by
    simp [reasons, ascii, Graphic]
  unfold controlReason
  cases hlookup : reasons.lookup e with
  | none => simp [ascii, Graphic]
  | some r =>
    obtain ⟨before, after, htail, -⟩ := lookup_eq_some_iff.mp hlookup
    refine htable r (mem_map.mpr ⟨(e, r), ?_, rfl⟩)
    rw [htail]
    simp

lemma readable_reason (e : Errno) : Readable [("reason", ascii (controlReason e))] := by
  obtain ⟨hne, hgraphic, -⟩ := controlReason_word e
  refine ⟨by simp, ?_, ?_⟩
  · simp [safeAtom, ascii, isAtomByte]
  · simp only [forall_mem_cons, not_mem_nil, false_imp_iff, implies_true, and_true]
    exact ⟨hne, hgraphic⟩

def answerError {α : Type} : Except Errno α → Option ResponseError
  | .ok _ => none
  | .error e => some (.control e.code (ascii (controlReason e)))

/-- An answer is read back as it was written: the status, the version and the fields. -/
theorem parseResponse_answer {answer : Except Errno (List (String × List U8))}
    (hread : Readable (answerFields answer))
    (hlen : (answerText answer).length ≤ maxResponseBytes) :
    parseResponse (answerText answer) =
      ({ status := statusCode answer, version := 1, fields := storedFields (answerFields answer) },
        answerError answer) := by
  have hint := statusCode_int answer
  have hfirst : ascii "status=" ++ signed (statusCode answer) ≠ [] ∧
      ∀ b ∈ ascii "status=" ++ signed (statusCode answer), Graphic b := by
    refine ⟨by simp [ascii], fun b hb => ?_⟩
    rcases mem_append.mp hb with hb | hb
    · exact (by simp [ascii, Graphic] : ∀ b ∈ ascii "status=", Graphic b) b hb
    · exact signed_graphic _ b hb
  have htokens : ∀ t ∈ ascii "version=1" :: (answerFields answer).map pairToken,
      t ≠ [] ∧ ∀ b ∈ t, Graphic b := by
    rw [forall_mem_cons]
    exact ⟨⟨by simp [ascii], by simp [ascii, Graphic]⟩, hread.tokens⟩
  have htext : answerText answer = (ascii "status=" ++ signed (statusCode answer)) ++
      (ascii "version=1" :: (answerFields answer).map pairToken).flatMap (space :: ·) := by
    rw [answerText, fieldsText_tokens, flatMap_cons,
      show ascii " version=1" = space :: ascii "version=1" from rfl]
    simp
  have hne : (answerText answer).length ≠ 0 := by
    rw [htext]
    simp [ascii]
  have hfresh : ∀ field ∈ answerFields answer, ascii field.1 ∉ ([] : Fields).map Prod.fst := by simp
  have hfields := parseFields_readable hread hfresh
  rw [parseResponse, if_neg (by omega), htext, stringsFields_tokens hfirst htokens]
  dsimp only
  rw [trimLead_append, show ascii "version=1" = ascii "version=" ++ numeral 10 1 from rfl,
    trimLead_append]
  dsimp only
  rw [atoi_signed (by omega) (by omega), parseUint_numeral (by decide)]
  dsimp only
  rw [parseBody, if_neg (by simp), hfields]
  cases answer with
  | ok fields => rfl
  | error e =>
    have hcode : statusCode (.error e : Except Errno (List (String × List U8))) ≠ 0 :=
      e.code_ne_zero
    simp only [nil_append, Bool.not_true, Bool.false_eq_true, if_false, if_pos hcode]
    simp [answerFields, storedFields, statusCode, answerError]

end Spz.Client
