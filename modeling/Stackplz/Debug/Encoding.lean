import Stackplz.Debug.Watch

/-!
# What an accepted request programs

The value and control registers of an accepted request, read as the architecture reads them: which
bytes they select, for which exception level, accesses of which direction.  The registers say all
there is to say about a request (`encoding_exact`): two accepted requests with one encoding select
the same bytes in the same directions.
-/

namespace Spz

/-- The byte at `b` is selected by the byte-address-select field, counted from the value
register. -/
def Encoding.Selects (enc : Encoding) (b : ℕ) : Prop :=
  ∃ i < 8, enc.control.getLsbD (5 + i) = true ∧ b = enc.value.toNat + i

/-- The request asks for accesses of this direction. -/
def DebugRequest.Directs (request : DebugRequest) (isWrite : Bool) : Prop :=
  request.kind = .readWrite ∨ request.kind = if isWrite then .write else .read

/-- The registers of a request. -/
structure Encodes (request : DebugRequest) (enc : Encoding) : Prop where
  aligned : enc.value.toNat % (if request.kind = .execute then 4 else 8) = 0
  bytes : ∀ b, enc.Selects b ↔
    request.address.toNat ≤ b ∧ b < request.address.toNat + request.length.toNat
  enabled : enc.control.getLsbD 0 = true
  privilege : enc.control.getLsbD 1 = false ∧ enc.control.getLsbD 2 = true
  direction : ∀ isWrite, LscMatches enc.control isWrite ↔ request.Directs isWrite
  nothing_else : ∀ i, 13 ≤ i → enc.control.getLsbD i = false

variable {request : DebugRequest} {enc : Encoding}

lemma encodeControl_high (bas : U8) {lsc : U32} (hlsc : lsc.toNat < 2 ^ 5) {i : ℕ} (hi : 13 ≤ i) :
    (encodeControl bas lsc).getLsbD i = false := by
  have hrest : ∀ x : U32, x.toNat < 2 ^ 5 → x.getLsbD i = false := fun x hx =>
    Nat.testBit_lt_two_pow (lt_of_lt_of_le hx (Nat.pow_le_pow_right (by decide) (by omega)))
  simp only [encodeControl, BitVec.getLsbD_or, hrest lsc hlsc, hrest debugPrivilegeEl0 (by decide),
    hrest ctrlEnable (by decide), Bool.or_false]
  simp [BitVec.getLsbD_of_ge bas (i - 5) (by omega)]

section

variable (h : debugValidateRequest request = .ok enc)
include h

lemma accepted_execute (hkind : request.kind = .execute) :
    enc = ⟨request.address, encodeControl 0x0f 0, 0x0f⟩ ∧ request.length.toNat = 4 ∧
      request.address.toNat % 4 = 0 := by
  unfold debugValidateRequest at h
  rw [if_pos hkind] at h
  split_ifs at h with hid hmode haddr hlen
  rw [not_or, not_not, not_not] at hlen
  have hmod : (request.address &&& 3).toNat = request.address.toNat % 4 :=
    Bits.toNat_and_lowMask (k := 2) request.address (by decide)
  refine ⟨(Except.ok.inj h).symm, by rw [hlen.1]; rfl, ?_⟩
  rw [← hmod, hlen.2]
  rfl

lemma accepted_length : 0 < request.length.toNat := by
  by_cases hkind : request.kind = .execute
  · have := (accepted_execute h hkind).2.1
    omega
  · have := (acceptedWatch h hkind).length_mem
    simp only [List.mem_cons, List.not_mem_nil, or_false] at this
    omega

lemma accepted_kind : request.kind ≠ .invalid := by
  intro hkind
  simp [debugValidateRequest, hkind] at h

end

lemma selects_iff (hbas : ∀ i < 8, enc.control.getLsbD (5 + i) = true ↔
      request.address.toNat ≤ enc.value.toNat + i ∧
        enc.value.toNat + i < request.address.toNat + request.length.toNat)
    (hlow : enc.value.toNat ≤ request.address.toNat)
    (hhigh : request.address.toNat + request.length.toNat ≤ enc.value.toNat + 8) (b : ℕ) :
    enc.Selects b ↔ request.address.toNat ≤ b ∧
      b < request.address.toNat + request.length.toNat := by
  constructor
  · rintro ⟨i, hi, hbit, rfl⟩
    exact (hbas i hi).mp hbit
  · intro hb
    obtain ⟨i, rfl⟩ := Nat.exists_eq_add_of_le (hlow.trans hb.1)
    exact ⟨i, by omega, (hbas i (by omega)).mpr hb, rfl⟩

lemma encodes_execute (h : debugValidateRequest request = .ok enc)
    (hkind : request.kind = .execute) :
    Encodes request enc := by
  obtain ⟨henc, hlen, haligned⟩ := accepted_execute h hkind
  have hvalue : enc.value = request.address := by rw [henc]
  have hcontrol : enc.control = encodeControl 0x0f 0 := by rw [henc]
  have hmask : ∀ i < 8, (encodeControl 0x0f 0).getLsbD (5 + i) = decide (i < 4) := by decide
  constructor
  case aligned =>
      rw [if_pos hkind, hvalue]
      exact haligned
  case bytes =>
      refine selects_iff (fun i hi => ?_) (by rw [hvalue]) (by rw [hvalue]; omega)
      rw [hcontrol, hmask i hi, decide_eq_true_eq, hvalue]
      omega
  case enabled =>
      rw [hcontrol]
      decide
  case privilege =>
      rw [hcontrol]
      decide
  case direction =>
      intro isWrite
      rw [DebugRequest.Directs, hkind, hcontrol]
      revert isWrite
      decide
  case nothing_else =>
      intro i hi
      rw [hcontrol]
      exact encodeControl_high _ (by decide) hi

/-- The byte mask of a watchpoint selects the bytes of the request. -/
lemma encodes_watch (h : debugValidateRequest request = .ok enc) (hkind : request.kind ≠ .execute) :
    Encodes request enc := by
  have hacc := acceptedWatch h hkind
  have hvalue : enc.value.toNat = request.address.toNat / 8 * 8 := by
    rw [hacc.value]
    exact Bits.toNat_and_not_lowMask request.address 3
  have hlow : ∀ i < 5, enc.control.getLsbD i =
      (watchLsc request.kind ||| debugPrivilegeEl0 ||| ctrlEnable).getLsbD i := by
    intro i hi
    rw [hacc.control, encodeControl_lsc _ _ hi]
  have hdword := hacc.in_dword
  constructor
  case aligned =>
      rw [if_neg hkind, hvalue]
      exact Nat.mul_mod_left _ _
  case bytes =>
      refine selects_iff (fun i hi => ?_) (by omega) (by omega)
      rw [hacc.control, encodeControl_bas _ _ hi, hacc.byteMask hi, hvalue]
      omega
  case enabled =>
      rw [hlow 0 (by decide)]
      cases request.kind <;> decide
  case privilege =>
      rw [hlow 1 (by decide), hlow 2 (by decide)]
      cases request.kind <;> decide
  case direction =>
      intro isWrite
      rw [LscMatches, hlow _ (by split <;> decide), DebugRequest.Directs]
      have hvalid := accepted_kind h
      revert hkind hvalid
      cases request.kind <;> cases isWrite <;> decide
  case nothing_else =>
      intro i hi
      rw [hacc.control]
      exact encodeControl_high _ (by cases request.kind <;> decide) hi

/-- The encoding of an accepted request is exact. -/
theorem encoding_exact (h : debugValidateRequest request = .ok enc) :
    Encodes request enc ∧ ∀ other, debugValidateRequest other = .ok enc →
      other.address = request.address ∧ other.length = request.length ∧
        ∀ isWrite, other.Directs isWrite ↔ request.Directs isWrite := by
  have hall : ∀ request, debugValidateRequest request = .ok enc → Encodes request enc := by
    intro request h
    by_cases hkind : request.kind = .execute
    · exact encodes_execute h hkind
    · exact encodes_watch h hkind
  refine ⟨hall request h, fun other hother => ?_⟩
  have hbytes : ∀ b, (other.address.toNat ≤ b ∧ b < other.address.toNat + other.length.toNat) ↔
      request.address.toNat ≤ b ∧ b < request.address.toNat + request.length.toNat :=
    fun b => ((hall other hother).bytes b).symm.trans ((hall request h).bytes b)
  have hlen := accepted_length h
  have hlen' := accepted_length hother
  -- both intervals have the same first byte and the same end
  have hfirst := hbytes other.address.toNat
  have hfirst' := hbytes request.address.toNat
  have hend := hbytes (other.address.toNat + other.length.toNat)
  have hend' := hbytes (request.address.toNat + request.length.toNat)
  refine ⟨BitVec.eq_of_toNat_eq (by omega), BitVec.eq_of_toNat_eq (by omega), fun isWrite => ?_⟩
  exact ((hall other hother).direction isWrite).symm.trans ((hall request h).direction isWrite)

theorem encoding_exact_last_byte :
    Encodes { id := 1, kind := .write, address := 0xffffffffffffff, length := 1, mode := .once }
      ⟨0xfffffffffffff8, 0x1015, 0x80⟩ :=
  (encoding_exact (show debugValidateRequest _ = .ok _ by decide)).1

end Spz
