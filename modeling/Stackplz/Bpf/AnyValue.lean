import Stackplz.Bpf.ReadOp

/-!
# Expressions that can have any value

An address expression that reads memory behind its last register can have any value, whatever the
register holds: the words it reads stand one behind the other, each with the address of the next one
less the offsets in between (`exists_follow_eq`).  What expressions without registers and without
memory do is here too.
-/

namespace Spz.Bpf

open List ReadStep

/-! ## Words in memory -/

/-- Words that stand one behind the other. -/
def HoldsWords (mem : Memory) : U64 → List U64 → Prop
  | _, [] => True
  | base, word :: words => probeReadWord mem base = word ∧ HoldsWords mem (base + 8) words

/-- The value from which the steps lead to the last argument, if the next word is read at `base`. -/
def valueBefore (target : U64) : List ReadStep → U64 → U64
  | [], _ => target
  | .term negative operand :: steps, base =>
    signed (!negative) (valueBefore target steps base) (operand.value fun _ => 0)
  | .deref :: _, base => base

def wordsBefore (target : U64) : List ReadStep → U64 → List U64
  | [], _ => []
  | .term _ _ :: steps, base => wordsBefore target steps base
  | .deref :: steps, base =>
    valueBefore target steps (base + 8) :: wordsBefore target steps (base + 8)

lemma length_wordsBefore_le (target : U64) : ∀ (steps : List ReadStep) (base : U64),
    (wordsBefore target steps base).length ≤ steps.length
  | [], _ => Nat.le_refl 0
  | .term _ _ :: steps, base => Nat.le_succ_of_le (length_wordsBefore_le target steps base)
  | .deref :: steps, base => Nat.succ_le_succ (length_wordsBefore_le target steps (base + 8))

lemma signed_signed_not (negative : Bool) (v w : U64) :
    signed negative (signed (!negative) v w) w = v := by
  cases negative
  · exact BitVec.sub_add_cancel v w
  · exact BitVec.add_sub_cancel v w

variable {reg : U32 → U64} {mem : Memory} {steps : List ReadStep}

variable {base : U64} {reg' : U32 → U64}

lemma follow_valueBefore {target : U64} (hreg : ∀ step ∈ steps, step.isReg = false)
    (hwords : HoldsWords mem base (wordsBefore target steps base)) :
    follow reg mem steps (valueBefore target steps base) = target := by
  induction steps generalizing base with
  | nil => rfl
  | cons step steps ih =>
    obtain ⟨hstep, hsteps⟩ := forall_mem_cons.mp hreg
    rw [follow, foldl_cons]
    cases step with
    | deref =>
      show follow reg mem steps (probeReadWord mem base) = target
      rw [hwords.1]
      exact ih hsteps hwords.2
    | term negative operand =>
      cases operand with
      | reg index => cases hstep
      | offset value =>
        have hback : apply reg mem
            (valueBefore target (.term negative (.offset value) :: steps) base)
            (.term negative (.offset value)) = valueBefore target steps base :=
          signed_signed_not negative _ value
        rw [hback]
        exact ih hsteps hwords

/-- The first word may be anywhere, so the steps may start anywhere. -/
lemma exists_valueBefore_eq (target : U64) (hderef : .deref ∈ steps) (value : U64) :
    ∃ base, valueBefore target steps base = value := by
  induction steps generalizing value with
  | nil => cases hderef
  | cons step steps ih =>
    cases step with
    | deref => exact ⟨value, rfl⟩
    | term negative operand =>
      have hrest : deref ∈ steps := by simpa using hderef
      obtain ⟨base, hbase⟩ := ih hrest (signed negative value (operand.value fun _ => 0))
      refine ⟨base, ?_⟩
      rw [valueBefore, hbase]
      have := signed_signed_not (!negative) value (operand.value fun _ => 0)
      rwa [Bool.not_not] at this

/-- Bytes that stand at an address, and nothing else. -/
def memoryAt (base : U64) (bytes : List U8) : Memory := fun addr => bytes[(addr - base).toNat]?

lemma readBytes_memoryAt {bytes : List U8} {n k : ℕ} (hlen : n + k ≤ bytes.length)
    (hsize : bytes.length ≤ 2 ^ 64) :
    readBytes (memoryAt base bytes) (base + BitVec.ofNat 64 n) k =
      some ((bytes.drop n).take k) := by
  induction k generalizing n with
  | zero => rfl
  | succ k ih =>
    have hbyte : memoryAt base bytes (base + BitVec.ofNat 64 n) =
        some (bytes.get ⟨n, by omega⟩) := by
      have hdiff : (base + BitVec.ofNat 64 n - base).toNat = n := by
        rw [BitVec.add_comm, BitVec.add_sub_cancel, BitVec.toNat_ofNat, Nat.mod_eq_of_lt (by omega)]
      rw [memoryAt, hdiff]
      exact List.getElem?_eq_getElem _
    have hnext : base + BitVec.ofNat 64 n + 1 = base + BitVec.ofNat 64 (n + 1) := by
      rw [BitVec.add_assoc, BitVec.ofNat_add]
      rfl
    rw [readBytes, hbyte, hnext, ih (by omega),
      drop_eq_getElem_cons (show n < bytes.length by omega), take_succ_cons]
    rfl

/-- The words stand in memory behind the bytes before them. -/
lemma holdsWords_memoryAt (base : U64) : ∀ {words : List U64} {before : List U8},
    before.length + 8 * words.length < 2 ^ 64 →
      HoldsWords (memoryAt base (before ++ words.flatMap (leBytes 8)))
        (base + BitVec.ofNat 64 before.length) words := by
  intro words
  induction words with
  | nil => exact fun _ => trivial
  | cons word words ih =>
    intro before hsize
    rw [length_cons] at hsize
    have hbytes : (words.flatMap (leBytes 8)).length = 8 * words.length := by
      simp [length_flatMap, leBytes_length, Nat.mul_comm]
    refine ⟨?_, ?_⟩
    · have hread : readBytes (memoryAt base (before ++ (word :: words).flatMap (leBytes 8)))
          (base + BitVec.ofNat 64 before.length) 8 = some (leBytes 8 word) := by
        rw [readBytes_memoryAt, drop_left, flatMap_cons, take_left' (leBytes_length 8 word)]
        · rw [length_append, flatMap_cons, length_append, leBytes_length]
          omega
        · rw [length_append, flatMap_cons, length_append, leBytes_length, hbytes]
          omega
      rw [probeReadWord, hread]
      exact leWord_leBytes (by decide) word
    · have hnext : base + BitVec.ofNat 64 before.length + 8 =
          base + BitVec.ofNat 64 (before ++ leBytes 8 word).length := by
        rw [length_append, leBytes_length, BitVec.ofNat_add, BitVec.add_assoc]
        rfl
      have hsplit : before ++ (word :: words).flatMap (leBytes 8) =
          (before ++ leBytes 8 word) ++ words.flatMap (leBytes 8) := by
        rw [flatMap_cons, append_assoc]
      rw [hnext, hsplit]
      refine ih ?_
      rw [length_append, leBytes_length]
      omega

lemma exists_follow_eq (reg : U32 → U64) (hreg : ∀ step ∈ steps, step.isReg = false)
    (hlength : steps.length < 2 ^ 60) (base target : U64) :
    ∃ mem, follow reg mem steps (valueBefore target steps base) = target := by
  have hwords : HoldsWords
      (memoryAt base ((wordsBefore target steps base).flatMap (leBytes 8))) base
      (wordsBefore target steps base) := by
    have hsize : ([] : List U8).length + 8 * (wordsBefore target steps base).length < 2 ^ 64 := by
      have := length_wordsBefore_le target steps base
      rw [length_nil]
      omega
    have := holdsWords_memoryAt base hsize
    rwa [nil_append, length_nil, BitVec.add_zero] at this
  exact ⟨_, follow_valueBefore hreg hwords⟩

lemma follow_congr_reg (hreg : ∀ step ∈ steps, step.isReg = false) (value : U64) :
    follow reg mem steps value = follow reg' mem steps value := by
  induction steps generalizing value with
  | nil => rfl
  | cons step steps ih =>
    obtain ⟨hstep, hsteps⟩ := forall_mem_cons.mp hreg
    cases step with
    | deref => exact ih hsteps _
    | term negative operand =>
      cases operand with
      | reg index => cases hstep
      | offset offset => exact ih hsteps _

/-- Without registers and memory, and behind a read, it does not matter where the steps started. -/
lemma follow_unmapped (hreg : ∀ step ∈ steps, step.isReg = false)
    (hderef : .deref ∈ steps) (value value' : U64) :
    follow reg (fun _ => none) steps value = follow reg' (fun _ => none) steps value' := by
  induction steps generalizing value value' with
  | nil => cases hderef
  | cons step steps ih =>
    obtain ⟨hstep, hsteps⟩ := forall_mem_cons.mp hreg
    cases step with
    | deref =>
      have hzero : ∀ addr, probeReadWord (fun _ => none) addr = 0 := by
        intro addr
        rw [probeReadWord, readBytes]
        rfl
      rw [follow, follow, foldl_cons, foldl_cons, apply, apply, hzero, hzero]
      exact follow_congr_reg hsteps 0
    | term negative operand =>
      have hrest : deref ∈ steps := by simpa using hderef
      exact ih hsteps hrest _ _

/-! ## Steps without registers -/

/-- A sum of offsets, added to a value. -/
def shifted (steps : List ReadStep) (value : U64) : U64 :=
  follow (fun _ => 0) (fun _ => none) steps value

lemma follow_eq_shifted (hreg : ∀ step ∈ steps, step.isReg = false) (hderef : .deref ∉ steps)
    (value : U64) : follow reg mem steps value = shifted steps value := by
  induction steps generalizing value with
  | nil => rfl
  | cons step steps ih =>
    obtain ⟨hstep, hsteps⟩ := forall_mem_cons.mp hreg
    rw [shifted, follow, follow, foldl_cons, foldl_cons]
    cases step with
    | deref => exact absurd mem_cons_self hderef
    | term negative operand =>
      cases operand with
      | reg index => cases hstep
      | offset offset => exact ih hsteps (fun h => hderef (mem_cons_of_mem _ h)) _

lemma foldl_loadReg_noReg (h : ∀ step ∈ steps, step.isReg = false) (value : U64) :
    steps.foldl (loadReg reg) value = value := by
  induction steps with
  | nil => rfl
  | cons step steps ih =>
    obtain ⟨hstep, hsteps⟩ := forall_mem_cons.mp h
    rw [foldl_cons]
    cases step with
    | deref => exact ih hsteps
    | term negative operand =>
      cases operand with
      | reg index => cases hstep
      | offset offset => exact ih hsteps

lemma length_le_compileAll : ∀ {steps : List ReadStep} {first : Bool} {ops : List OpConfig},
    compileAll first steps = some ops → steps.length ≤ ops.length := by
  intro steps
  induction steps with
  | nil => exact fun _ => Nat.zero_le _
  | cons step steps ih =>
    intro first ops h
    obtain ⟨stepOps, first', rest, hcompile, hrest, rfl⟩ := compileAll_cons h
    have hone : 1 ≤ stepOps.length := by
      cases step with
      | deref =>
        cases hcompile
        decide
      | term negative operand =>
        cases operand with
        | reg index =>
          cases hcompile
          exact Nat.succ_le_succ (Nat.zero_le _)
        | offset value =>
          simp only [compile] at hcompile
          split_ifs at hcompile
          all_goals
            cases hcompile
            exact Nat.le_refl 1
    have hle := ih hrest
    show steps.length + 1 ≤ (stepOps ++ rest).length
    rw [length_append]
    omega

end Spz.Bpf
