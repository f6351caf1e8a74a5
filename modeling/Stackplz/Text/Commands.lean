import Stackplz.Text.Verbs

/-!
# The parser accepts its grammar

The verbs with one argument or none, the choice by the verb, and the whole of `spz_parse_command`:
`command_grammar`.
-/

namespace Spz

open Errno Numerals Tokens Check

/-! ## The verbs with one argument or none -/

lemma denotes_plain {v : List U8} {n : ℕ} (h : Denotes 10 v n) : equals ∉ v := by
  intro hmem
  obtain ⟨d, hd⟩ := h.digit hmem
  cases hd

lemma parseArgument_ok {key : String} (hne : ascii key ≠ []) (hplain : equals ∉ ascii key)
    {token v : List U8} :
    parseArgument key token = .ok v ↔ token = pairToken (key, v) ∧ v ≠ [] ∧ equals ∉ v := by
  unfold parseArgument
  constructor
  · intro h
    cases hsplit : splitKeyValue token with
    | error e =>
      rw [hsplit] at h
      cases h
    | ok pair =>
      have hpair := splitKeyValue_ok.mp hsplit
      rw [hsplit] at h
      dsimp only at h
      split_ifs at h with hname
      cases h
      refine ⟨?_, hpair.value_ne, hpair.value_plain⟩
      rw [pairToken, not_not.mp hname]
      exact hpair.eq
  · rintro ⟨rfl, hv, hvplain⟩
    have hsplit : splitKeyValue (pairToken (key, v)) = .ok (ascii key, v) :=
      splitKeyValue_ok.mpr ⟨rfl, hne, hv, hplain, hvplain⟩
    rw [hsplit]
    exact if_neg (not_not_intro rfl)

variable {verb : List U8} {args : List (List U8)} {command : Command}

/-- `spz_parse_id`. -/
lemma parseId_ok {make : U32 → Command} :
    parseId make (verb :: args) = .ok command ↔
      ∃ v id, args = [pairToken ("id", v)] ∧ Denotes 10 v id.toNat ∧ id ≠ 0 ∧
        command = make id := by
  constructor
  · intro h
    match args, h with
    | [token], h =>
      obtain ⟨v, hv, h⟩ := bind_eq_ok.mp h
      obtain ⟨id, hid, h⟩ := bind_eq_ok.mp h
      obtain ⟨id', hid', rfl⟩ := map_eq_ok.mp h
      obtain ⟨rfl, -, -⟩ := (parseArgument_ok (by decide) (by decide)).mp hv
      have hnonzero : (parseU32Decimal v >>= nonzero) = .ok id' := by rw [hid]; exact hid'
      obtain ⟨hparse, hne⟩ := nonzero_ok.mp hnonzero
      exact ⟨v, id', rfl, parseU32Decimal_ok.mp hparse, hne, rfl⟩
    | [], h => cases h
    | _ :: _ :: _, h => cases h
  · rintro ⟨v, id, rfl, hdenotes, hne, rfl⟩
    refine bind_eq_ok.mpr ⟨v, (parseArgument_ok (by decide) (by decide)).mpr
      ⟨rfl, hdenotes.1, denotes_plain hdenotes⟩, ?_⟩
    refine bind_eq_ok.mpr ⟨id, parseU32Decimal_ok.mpr hdenotes, ?_⟩
    rw [nonzero, if_neg hne]
    rfl

/-- `spz_parse_poll`. -/
lemma parsePoll_ok :
    parsePoll (verb :: args) = .ok command ↔
      args = [] ∧ command = .poll 0 0 ∨
        ∃ v after, args = [pairToken ("after", v)] ∧ Denotes 10 v after.toNat ∧
          command = .poll after 1 := by
  constructor
  · intro h
    match args, h with
    | [], h =>
      cases h
      exact .inl ⟨rfl, rfl⟩
    | [token], h =>
      obtain ⟨v, hv, h⟩ := bind_eq_ok.mp h
      obtain ⟨after, hafter, h⟩ := bind_eq_ok.mp h
      cases h
      obtain ⟨rfl, -, -⟩ := (parseArgument_ok (by decide) (by decide)).mp hv
      exact .inr ⟨v, after, rfl, parseU64Decimal_ok.mp hafter, rfl⟩
    | _ :: _ :: _, h => cases h
  · rintro (⟨rfl, rfl⟩ | ⟨v, after, rfl, hdenotes, rfl⟩)
    · rfl
    · refine bind_eq_ok.mpr ⟨v, (parseArgument_ok (by decide) (by decide)).mpr
        ⟨rfl, hdenotes.1, denotes_plain hdenotes⟩, ?_⟩
      exact bind_eq_ok.mpr ⟨after, parseU64Decimal_ok.mpr hdenotes, rfl⟩

lemma parseNoArgs_ok {found : Command} :
    parseNoArgs command (verb :: args) = .ok found ↔ args = [] ∧ found = command := by
  cases args with
  | nil => simp [parseNoArgs, eq_comm]
  | cons a args => simp [parseNoArgs]

/-! ## The parser -/

/-- The parser of a line accepts exactly the sentences. -/
lemma parseVerb_ok {tokens : List (List U8)} (hne : tokens ≠ []) :
    parseVerb tokens = .ok command ↔ Sentence tokens command := by
  obtain ⟨verb, args, rfl⟩ := List.exists_cons_of_ne_nil hne
  constructor
  · intro h
    by_cases h1 : verb = ascii "status"
    · subst h1
      obtain ⟨rfl, rfl⟩ := parseNoArgs_ok.mp (show parseNoArgs .status _ = _ from h)
      exact .status
    by_cases h2 : verb = ascii "profile"
    · subst h2
      obtain ⟨rfl, rfl⟩ := parseNoArgs_ok.mp (show parseNoArgs .profile _ = _ from h)
      exact .profile
    by_cases h3 : verb = ascii "bind"
    · subst h3
      obtain ⟨given, c, hargs, hmeans, rfl⟩ := parseBind_ok.mp h
      exact .bind hargs hmeans
    by_cases h4 : verb = ascii "break"
    · subst h4
      obtain ⟨given, c, hargs, hmeans, rfl⟩ := parseBreak_ok.mp h
      exact .break hargs hmeans
    by_cases h5 : verb = ascii "enable"
    · subst h5
      obtain ⟨v, id, rfl, hdenotes, hid, rfl⟩ := parseId_ok.mp (show parseId .enable _ = _ from h)
      exact .enable hdenotes hid
    by_cases h6 : verb = ascii "disable"
    · subst h6
      obtain ⟨v, id, rfl, hdenotes, hid, rfl⟩ := parseId_ok.mp (show parseId .disable _ = _ from h)
      exact .disable hdenotes hid
    by_cases h7 : verb = ascii "clear"
    · subst h7
      obtain ⟨rfl, rfl⟩ := parseNoArgs_ok.mp (show parseNoArgs .clear _ = _ from h)
      exact .clear
    by_cases h8 : verb = ascii "poll"
    · subst h8
      obtain ⟨rfl, rfl⟩ | ⟨v, after, rfl, hdenotes, rfl⟩ := parsePoll_ok.mp h
      · exact .poll
      · exact .pollAfter hdenotes
    by_cases h9 : verb = ascii "audit"
    · subst h9
      obtain ⟨rfl, rfl⟩ := parseNoArgs_ok.mp (show parseNoArgs .audit _ = _ from h)
      exact .audit
    by_cases h10 : verb = ascii "maps"
    · subst h10
      obtain ⟨rfl, rfl⟩ := parseNoArgs_ok.mp (show parseNoArgs .maps _ = _ from h)
      exact .maps
    by_cases h11 : verb = ascii "maps-read"
    · subst h11
      obtain ⟨given, snapshot, offset, hargs, hmeans, rfl⟩ := parseMapsRead_ok.mp h
      exact .mapsRead hargs hmeans
    unfold parseVerb at h
    rw [List.headD_cons, if_neg h1, if_neg h2, if_neg h3, if_neg h4, if_neg h5, if_neg h6,
      if_neg h7, if_neg h8, if_neg h9, if_neg h10, if_neg h11] at h
    cases h
  · intro h
    cases h with
    | bind hargs hmeans => exact parseBind_ok.mpr ⟨_, _, hargs, hmeans, rfl⟩
    | «break» hargs hmeans => exact parseBreak_ok.mpr ⟨_, _, hargs, hmeans, rfl⟩
    | enable hdenotes hid =>
      show parseId .enable [ascii "enable", _] = _
      exact parseId_ok.mpr ⟨_, _, rfl, hdenotes, hid, rfl⟩
    | disable hdenotes hid =>
      show parseId .disable [ascii "disable", _] = _
      exact parseId_ok.mpr ⟨_, _, rfl, hdenotes, hid, rfl⟩
    | pollAfter hdenotes =>
      show parsePoll [ascii "poll", _] = _
      exact parsePoll_ok.mpr (.inr ⟨_, _, rfl, hdenotes, rfl⟩)
    | mapsRead hargs hmeans => exact parseMapsRead_ok.mpr ⟨_, _, _, hargs, hmeans, rfl⟩
    | _ => rfl

/-- The parser by its grammar: the command, or an error and a record of zeros. -/
lemma parseCommand_cases (input : List U8) (out : Option Command) :
    (∃ command, parseCommand input out = (.ok (), some command) ∧ IsCommand input command) ∨
      (∃ e, (parseCommand input out).1 = .error e ∧
        (input ≠ [] → (parseCommand input out).2 = none)) ∧
      ¬ ∃ command, IsCommand input command := by
  unfold parseCommand
  by_cases hnil : input.length = 0
  · rw [if_pos hnil]
    refine .inr ⟨⟨_, rfl, fun h => absurd (List.length_eq_zero_iff.mp hnil) h⟩, ?_⟩
    rintro ⟨command, -, tokens, hline, -⟩
    exact hline.input_ne (List.length_eq_zero_iff.mp hnil)
  have hne : input ≠ [] := fun h => hnil (by rw [h]; rfl)
  rw [if_neg hnil]
  by_cases hlong : input.length > maxCommand
  · rw [if_pos hlong]
    refine .inr ⟨⟨_, rfl, fun _ => rfl⟩, ?_⟩
    rintro ⟨command, hlen, -⟩
    omega
  rw [if_neg hlong]
  cases htokens : tokenize input with
  | error e =>
    refine .inr ⟨⟨_, rfl, fun _ => rfl⟩, ?_⟩
    rintro ⟨command, -, tokens, hline, -⟩
    rw [(tokenize_ok hne).mpr hline] at htokens
    cases htokens
  | ok tokens =>
    have hline := (tokenize_ok hne).mp htokens
    dsimp only
    cases hverb : parseVerb tokens with
    | error e =>
      refine .inr ⟨⟨_, rfl, fun _ => rfl⟩, ?_⟩
      rintro ⟨command, -, tokens', hline', hsentence⟩
      -- a text has its tokens in one way
      have htokens' := (tokenize_ok hne).mpr hline'
      rw [htokens] at htokens'
      cases htokens'
      rw [(parseVerb_ok hline.ne).mpr hsentence] at hverb
      cases hverb
    | ok command =>
      exact .inl ⟨command, rfl, Nat.le_of_not_gt hlong, tokens, hline,
        (parseVerb_ok hline.ne).mp hverb⟩

lemma parseCommand_ok {input : List U8} (h : IsCommand input command)
    (out : Option Command) : parseCommand input out = (.ok (), some command) := by
  obtain ⟨hlen, tokens, hline, hsentence⟩ := h
  have hpos := List.length_pos_iff.mpr hline.input_ne
  rw [parseCommand, if_neg (by omega), if_neg (by omega), (tokenize_ok hline.input_ne).mpr hline]
  dsimp only
  rw [(parseVerb_ok hline.ne).mpr hsentence]

/-- The command parser accepts exactly its grammar.  For every text, whatever `*out` held before:
the parser returns 0 if and only if the text denotes a command, `*out` is then that command, and if
it denotes none and is not empty, `*out` is all zero. -/
theorem command_grammar (input : List U8) (out : Option Command) :
    ((parseCommand input out).1 = .ok () ↔ ∃ command, IsCommand input command) ∧
    (∀ command, IsCommand input command → (parseCommand input out).2 = some command) ∧
    (input ≠ [] → (¬ ∃ command, IsCommand input command) → (parseCommand input out).2 = none) := by
  refine ⟨?_, fun command h => by rw [parseCommand_ok h], fun hne hnot => ?_⟩
  · rcases parseCommand_cases input out with ⟨command, heq, h⟩ | ⟨⟨e, herror, -⟩, hnot⟩
    · rw [heq]
      exact ⟨fun _ => ⟨command, h⟩, fun _ => rfl⟩
    · rw [herror]
      simp only [reduceCtorEq, false_iff]
      exact hnot
  · rcases parseCommand_cases input out with ⟨command, -, h⟩ | ⟨⟨e, -, hzero⟩, -⟩
    · exact absurd ⟨command, h⟩ hnot
    · exact hzero hne

example : (parseCommand (ascii "bind comm=main mode=tgid pid=4294967295") none).1 = .ok () := rfl

example : (parseCommand (ascii "bind mode=tgid pid=4294967296") none).1 = .error ERANGE := rfl

end Spz
