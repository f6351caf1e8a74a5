import Stackplz.Text
import Stackplz.Module.Control

/-!
# The command parser

`core/command.c`: from the bytes of a command to `struct spz_command`.  The text is cut into tokens
at its spaces; the first token is the verb, and the others are, for most verbs, `key=value` pairs.

The verbs with several keys read them in a loop of one form (`parseKeys`): split the token, find the
key, refuse a key that was seen before, take the value.  What differs are the keys (`bindKeys`,
`breakKeys`, `mapsReadKeys`).

The tokenizer of the source writes a NUL over each space of the text it is given.  Nothing reads the
text afterwards, and this is left out.
-/

namespace Spz

open Errno Numerals

def maxCommand : ℕ := 512

def maxTokens : ℕ := 8

/-! ## Values -/

/-- The loop of `spz_parse_u64_decimal` and of `spz_parse_u64_hex`, which differ in the base.  The
test before the multiplication keeps the value below `2 ^ 64`. -/
def parseDigits (base : ℕ) : ℕ → List U8 → Except Errno ℕ
  | value, [] => .ok value
  | value, byte :: rest =>
    match digit? base byte with
    | none => .error EINVAL
    | some digit =>
      if value > (2 ^ 64 - 1 - digit) / base then .error ERANGE
      else parseDigits base (value * base + digit) rest

def parseU64Decimal (token : List U8) : Except Errno U64 :=
  if token.length = 0 then .error EINVAL else (parseDigits 10 0 token).map (BitVec.ofNat 64)

/-- A narrower number: what does not fit is `-ERANGE`. -/
def parseDecimal (w : ℕ) (token : List U8) : Except Errno (BitVec w) :=
  match parseU64Decimal token with
  | .error e => .error e
  | .ok value => if value.toNat > 2 ^ w - 1 then .error ERANGE else .ok (value.setWidth w)

def parseU32Decimal : List U8 → Except Errno U32 := parseDecimal 32

def parseU8Decimal : List U8 → Except Errno U8 := parseDecimal 8

def parseU64Hex (token : List U8) : Except Errno U64 :=
  if token.length < 3 ∨ token.take 2 ≠ ascii "0x" then .error EINVAL
  else (parseDigits 16 0 (token.drop 2)).map (BitVec.ofNat 64)

/-- A letter, a figure or one of `.`, `_`, `:`, `-`. -/
def isAtomByte (b : U8) : Bool :=
  (0x61 ≤ b.toNat && b.toNat ≤ 0x7a) || (0x41 ≤ b.toNat && b.toNat ≤ 0x5a) ||
    (0x30 ≤ b.toNat && b.toNat ≤ 0x39) || b == 0x2e || b == 0x5f || b == 0x3a || b == 0x2d

def safeComm (value : List U8) : Bool :=
  value.length != 0 && value.length < commLen && value.all isAtomByte

/-- A number that must not be 0. -/
def nonzero {w : ℕ} (value : BitVec w) : Except Errno (BitVec w) :=
  if value = 0 then .error EINVAL else .ok value

/-! ## Tokens -/

/-- The loop of `spz_split_key_value`, which looks for the one `=` of the token. -/
def findSeparator : ℕ → Option ℕ → List U8 → Except Errno (Option ℕ)
  | _, separator, [] => .ok separator
  | index, separator, byte :: rest =>
    if byte ≠ equals then findSeparator (index + 1) separator rest
    else if separator.isSome then .error EINVAL
    else findSeparator (index + 1) (some index) rest

def splitKeyValue (token : List U8) : Except Errno (List U8 × List U8) :=
  match findSeparator 0 none token with
  | .error e => .error e
  | .ok found =>
    let separator := found.getD token.length
    if separator = 0 ∨ separator + 1 ≥ token.length then .error EINVAL
    else .ok (token.take separator, token.drop (separator + 1))

/-- The loop of `spz_tokenize`: the bytes since `start`, the tokens found, and what is left. -/
def tokenizeLoop : List U8 → List (List U8) → List U8 → Except Errno (List (List U8))
  | token, tokens, [] =>
    if tokens.length ≥ maxTokens then .error E2BIG else .ok (tokens ++ [token])
  | token, tokens, byte :: rest =>
    if byte.toNat < 0x20 ∨ byte.toNat > 0x7e then .error EINVAL
    else if byte ≠ space then tokenizeLoop (token ++ [byte]) tokens rest
    else if token = [] then .error EINVAL
    else if tokens.length ≥ maxTokens then .error E2BIG
    else tokenizeLoop [] (tokens ++ [token]) rest

def tokenize (input : List U8) : Except Errno (List (List U8)) :=
  if input.head? = some space ∨ input.getLast? = some space then .error EINVAL
  else tokenizeLoop [] [] input

/-! ## Keys -/

/-- A key of a verb: its bit in `seen`, and what its value does to the command. -/
structure Key (σ : Type) where
  name : String
  bit : U32
  parse : List U8 → Except Errno (σ → σ)

/-- The loop over the arguments of a verb. -/
def parseKeys {σ : Type} (keys : List (Key σ)) :
    List (List U8) → U32 → σ → Except Errno (U32 × σ)
  | [], seen, out => .ok (seen, out)
  | token :: rest, seen, out =>
    match splitKeyValue token with
    | .error e => .error e
    | .ok (name, value) =>
      match keys.find? fun key => ascii key.name == name with
      | none => .error EINVAL
      | some key =>
        if seen &&& key.bit ≠ 0 then .error EINVAL
        else
          match key.parse value with
          | .error e => .error e
          | .ok set => parseKeys keys rest (seen ||| key.bit) (set out)

/-- The value of `mode` in `spz_parse_bind`. -/
def parseBindMode (value : List U8) : Except Errno BindMode :=
  if value = ascii "pid" then .ok .pid
  else if value = ascii "tgid" then .ok .tgid
  else if value = ascii "either" then .ok .either
  else .error EINVAL

/-- `memcpy` into the zeroed `comm`. -/
def commOf (value : List U8) : Comm := Vector.ofFn fun i => value.getD i 0

/-- The value of `comm` in `spz_parse_bind`. -/
def parseComm (value : List U8) : Except Errno Comm :=
  if !safeComm value then .error EINVAL else .ok (commOf value)

/-- The keys of `spz_parse_bind`. -/
def bindKeys : List (Key BindCommand) := [
  { name := "pid", bit := 1 <<< 0
    parse := fun value => (parseU32Decimal value >>= nonzero).map fun pid c =>
      { c with pid := pid } },
  { name := "mode", bit := 1 <<< 1
    parse := fun value => (parseBindMode value).map fun mode c => { c with mode := mode } },
  { name := "uid", bit := 1 <<< 2
    parse := fun value => (parseU32Decimal value).map fun uid c =>
      { c with uid := uid, hasUid := 1 } },
  { name := "comm", bit := 1 <<< 3
    parse := fun value => (parseComm value).map fun comm c =>
      { c with comm := comm, hasComm := 1 } },
  { name := "start", bit := 1 <<< 4
    parse := fun value => (parseU64Decimal value).map fun start c =>
      { c with startBootTime := start, hasStartBootTime := 1 } }]

def parseBind (tokens : List (List U8)) : Except Errno Command :=
  if tokens.length < 3 ∨ tokens.length > 6 then .error EINVAL
  else
    match parseKeys bindKeys tokens.tail 0 { pid := 0, mode := .invalid } with
    | .error e => .error e
    | .ok (seen, command) =>
      if seen &&& (1 <<< 0 ||| 1 <<< 1) ≠ 1 <<< 0 ||| 1 <<< 1 then .error EINVAL
      else .ok (.bind command)

/-- The value of `kind` in `spz_parse_break`. -/
def parseBreakKind (value : List U8) : Except Errno BreakKind :=
  if value = ascii "x" then .ok .execute
  else if value = ascii "r" then .ok .read
  else if value = ascii "w" then .ok .write
  else if value = ascii "rw" then .ok .readWrite
  else .error EINVAL

/-- The value of `mode` in `spz_parse_break`. -/
def parseBreakMode (value : List U8) : Except Errno BreakMode :=
  if value = ascii "once" then .ok .once
  else if value = ascii "repeat" then .ok .repeat
  else .error EINVAL

/-- The keys of `spz_parse_break`. -/
def breakKeys : List (Key BreakCommand) := [
  { name := "id", bit := 1 <<< 0
    parse := fun value => (parseU32Decimal value >>= nonzero).map fun id c => { c with id := id } },
  { name := "kind", bit := 1 <<< 1
    parse := fun value => (parseBreakKind value).map fun kind c => { c with kind := kind } },
  { name := "addr", bit := 1 <<< 2
    parse := fun value => (parseU64Hex value).map fun address c => { c with address := address } },
  { name := "len", bit := 1 <<< 3
    parse := fun value => (parseU8Decimal value).map fun length c => { c with length := length } },
  { name := "mode", bit := 1 <<< 4
    parse := fun value => (parseBreakMode value).map fun mode c => { c with mode := mode } }]

/-- The tests of `spz_parse_break` on the complete command. -/
def checkBreak (c : BreakCommand) : Except Errno Unit :=
  if c.address = 0 ∨ c.address >>> 56 ≠ 0 then .error EINVAL
  else if c.kind = .execute then
    if c.length ≠ 4 ∨ c.address &&& 3 ≠ 0 then .error EINVAL else .ok ()
  else if c.length ≠ 1 ∧ c.length ≠ 2 ∧ c.length ≠ 4 ∧ c.length ≠ 8 then .error EINVAL
  else
    let last := c.address + c.length.setWidth 64 - 1
    if last < c.address ∨ c.address >>> 3 ≠ last >>> 3 then .error EINVAL else .ok ()

def parseBreak (tokens : List (List U8)) : Except Errno Command :=
  if tokens.length ≠ 6 then .error EINVAL
  else
    match parseKeys breakKeys tokens.tail 0
        { id := 0, kind := .invalid, address := 0, length := 0, mode := .invalid } with
    | .error e => .error e
    | .ok (seen, command) =>
      if seen ≠ 1 <<< 0 ||| 1 <<< 1 ||| 1 <<< 2 ||| 1 <<< 3 ||| 1 <<< 4 then .error EINVAL
      else (checkBreak command).map fun _ => .break command

/-- The one argument of a verb that has one, if its key is the right one. -/
def parseArgument (key : String) (token : List U8) : Except Errno (List U8) :=
  match splitKeyValue token with
  | .error _ => .error EINVAL
  | .ok (name, value) => if ascii key ≠ name then .error EINVAL else .ok value

def parseId (command : U32 → Command) : List (List U8) → Except Errno Command
  | [_, token] => do
    let value ← parseArgument "id" token
    let id ← parseU32Decimal value
    (nonzero id).map command
  | _ => .error EINVAL

def parsePoll : List (List U8) → Except Errno Command
  | [_] => .ok (.poll 0 0)
  | [_, token] => do
    let value ← parseArgument "after" token
    let after ← parseU64Decimal value
    .ok (.poll after 1)
  | _ => .error EINVAL

structure MapsReadCommand where
  snapshot : U64 := 0
  offset : U32 := 0

/-- The keys of `spz_parse_maps_read`. -/
def mapsReadKeys : List (Key MapsReadCommand) := [
  { name := "snapshot", bit := 1 <<< 0
    parse := fun value => (parseU64Decimal value >>= nonzero).map fun snapshot c =>
      { c with snapshot := snapshot } },
  { name := "offset", bit := 1 <<< 1
    parse := fun value => (parseU32Decimal value).map fun offset c => { c with offset := offset } }]

def parseMapsRead (tokens : List (List U8)) : Except Errno Command :=
  if tokens.length ≠ 3 then .error EINVAL
  else
    match parseKeys mapsReadKeys tokens.tail 0 {} with
    | .error e => .error e
    | .ok (seen, c) =>
      if seen ≠ 1 <<< 0 ||| 1 <<< 1 then .error EINVAL else .ok (.mapsRead c.snapshot c.offset)

def parseNoArgs (command : Command) (tokens : List (List U8)) : Except Errno Command :=
  if tokens.length ≠ 1 then .error EINVAL else .ok command

/-- The part of `spz_parse_command` that chooses by the verb. -/
def parseVerb (tokens : List (List U8)) : Except Errno Command :=
  let verb := tokens.headD []
  if verb = ascii "status" then parseNoArgs .status tokens
  else if verb = ascii "profile" then parseNoArgs .profile tokens
  else if verb = ascii "bind" then parseBind tokens
  else if verb = ascii "break" then parseBreak tokens
  else if verb = ascii "enable" then parseId .enable tokens
  else if verb = ascii "disable" then parseId .disable tokens
  else if verb = ascii "clear" then parseNoArgs .clear tokens
  else if verb = ascii "poll" then parsePoll tokens
  else if verb = ascii "audit" then parseNoArgs .audit tokens
  else if verb = ascii "maps" then parseNoArgs .maps tokens
  else if verb = ascii "maps-read" then parseMapsRead tokens
  else .error EINVAL

/-- `spz_parse_command`: the result and `*out`, where `none` is a record of zeros. -/
def parseCommand (input : List U8) (out : Option Command) : Except Errno Unit × Option Command :=
  if input.length = 0 then (.error EINVAL, out)
  else if input.length > maxCommand then (.error E2BIG, none)
  else
    match tokenize input with
    | .error e => (.error e, none)
    | .ok tokens =>
      match parseVerb tokens with
      | .error e => (.error e, none)
      | .ok command => (.ok (), some command)

end Spz
