import Stackplz.Profile.Loadable
import Stackplz.Profile.Validate

/-!
# The release of the running kernel

The banner is copied into a buffer that may be too short for it, and the release is compared with
the start of the copy.  `isReleaseWord_of_validate` says that nothing is lost: the generator leaves
room for the byte that ends the release, so that what ends it in the buffer also ends it in memory.

* `readBannerFrom_copied` — a byte of the buffer is the byte in memory, up to and with the first
  NUL;
* `isPrefix_of_releaseMatchesBanner` — the comparison, as a statement about lists of bytes;
* `IsReleaseWord.releaseWord` — a word that ends in memory is the release word of the whole banner.
-/

namespace Spz.Profile

open Errno List RuntimeContext

/-! ## Strings in memory -/

def Holds (memory : U64 → Option U8) (address : U64) (bytes : List U8) : Prop :=
  ∀ i b, bytes[i]? = some b → memory (address + BitVec.ofNat 64 i) = some b

/-- The string at an address, without its terminator. -/
structure IsString (memory : U64 → Option U8) (address : U64) (text : List U8) : Prop where
  holds : Holds memory address (text ++ [0])
  no_nul : 0 ∉ text

/-- The first word after `"Linux version "`. -/
def releaseWord (banner : List U8) : Option (List U8) :=
  if bannerStart.isPrefixOf banner then
    some ((banner.drop bannerStart.length).takeWhile (· ≠ space)) else none

/-- The banner at an address has this release word. -/
structure IsReleaseWord (memory : U64 → Option U8) (address : U64) (word : List U8) : Prop where
  holds : ∃ b, (b = space ∨ b = 0) ∧ Holds memory address (bannerStart ++ word ++ [b])
  no_nul : 0 ∉ word
  no_space : space ∉ word

variable {memory : U64 → Option U8} {address : U64}

lemma nul_not_mem_bannerStart : 0 ∉ bannerStart := by decide

/-- Two texts at one address: the one without NUL is not longer than a string. -/
lemma IsString.isPrefix {text bytes : List U8} (h : IsString memory address text)
    (hbytes : Holds memory address bytes) (hnul : 0 ∉ bytes) : bytes <+: text := by
  have hagree : ∀ i b, bytes[i]? = some b → (text ++ [0])[i]? = some b ∨ text.length < i := by
    intro i b hb
    by_cases hi : i < (text ++ [0]).length
    · obtain ⟨c, hc⟩ : ∃ c, (text ++ [0])[i]? = some c := ⟨_, List.getElem?_eq_getElem hi⟩
      have hmemory := (h.holds i c hc).symm.trans (hbytes i b hb)
      exact .inl (hc.trans hmemory)
    · rw [length_append, length_singleton] at hi
      exact .inr (by omega)
  have hlength : bytes.length ≤ text.length := by
    by_contra hlt
    -- The terminator would be one of the bytes.
    obtain ⟨b, hb⟩ : ∃ b, bytes[text.length]? = some b := ⟨_, List.getElem?_eq_getElem (by omega)⟩
    rcases hagree _ _ hb with heq | hlt'
    · rw [List.getElem?_append_right (Nat.le_refl _), Nat.sub_self] at heq
      obtain rfl : (0 : U8) = b := Option.some.inj heq
      exact hnul (mem_of_getElem? hb)
    · omega
  rw [prefix_iff_getElem?]
  intro i hi
  rcases hagree i _ (List.getElem?_eq_getElem hi) with heq | hlt
  · rw [← heq, List.getElem?_append_left (by omega)]
  · omega

/-- A release word found in memory is that of the whole banner. -/
lemma IsReleaseWord.releaseWord {word banner : List U8} (h : IsReleaseWord memory address word)
    (hbanner : IsString memory address banner) : releaseWord banner = some word := by
  obtain ⟨b, hb, hholds⟩ := h.holds
  have hstart : Holds memory address (bannerStart ++ word) :=
    fun i c hc => hholds i c (List.getElem?_append_left (List.getElem?_eq_some_iff.mp hc).1 ▸ hc)
  have hnul : 0 ∉ bannerStart ++ word := by
    rw [mem_append, not_or]
    exact ⟨nul_not_mem_bannerStart, h.no_nul⟩
  obtain ⟨rest, rfl⟩ := hbanner.isPrefix hstart hnul
  -- What follows is the end of the banner, or a space.
  have hrest : rest.takeWhile (· ≠ space) = [] := by
    cases rest with
    | nil => rfl
    | cons c rest =>
      have hnext := hbanner.holds (bannerStart ++ word).length c (by simp)
      rw [hholds (bannerStart ++ word).length b (by simp)] at hnext
      cases hnext
      rcases hb with rfl | rfl
      · rw [takeWhile_cons_of_neg (by simp)]
      · exact absurd (by simp) hbanner.no_nul
  have hword : ∀ c ∈ word, decide (c ≠ space) = true := by
    intro c hc
    exact decide_eq_true fun heq => h.no_space (heq ▸ hc)
  rw [Profile.releaseWord,
    if_pos (by rw [ isPrefixOf_iff_prefix, append_assoc]; exact prefix_append _ _), append_assoc,
    drop_left, takeWhile_append_of_pos hword, hrest, append_nil]

/-! ## The copy -/

section Copy

variable {context : RuntimeContext} {left index : ℕ} {out : List U8}

lemma nofaultRead_error {length : ℕ} {error : Errno}
    (h : context.nofaultRead address length = .error error) :
    error ≠ ENOSPC := by
  rw [nofaultRead] at h
  split_ifs at h
  · cases h
    decide
  · cases h
    decide
  · split at h
    · cases h
    · cases h
      decide

lemma nofaultRead_byte {bytes : List U8} (h : context.nofaultRead address 1 = .ok bytes) :
    context.kernel.memory address = some (bytes.headD 0) := by
  rw [nofaultRead] at h
  split_ifs at h
  split at h
  next bytes' hbytes =>
    cases h
    simp only [range_one, mapM_cons, mapM_nil, BitVec.add_zero] at hbytes
    cases hmemory : context.kernel.memory address with
    | none =>
      rw [hmemory] at hbytes
      cases hbytes
    | some b =>
      rw [hmemory] at hbytes
      cases hbytes
      rfl
  next => cases h

/-- The loop does not write before `index`. -/
lemma readBannerFrom_frame {i : ℕ} (hi : i < index) :
    (context.readBannerFrom address left index out).2[i]? = out[i]? := by
  induction left generalizing index out with
  | zero => exact List.getElem?_set_ne (by omega)
  | succ left ih =>
    rw [readBannerFrom]
    split_ifs
    · rfl
    · split
      · rfl
      · split_ifs
        · exact List.getElem?_set_ne (by omega)
        · rw [ih (by omega)]
          exact List.getElem?_set_ne (by omega)

/-- A banner that was read, or that was too long, is in the buffer up to and with its first NUL. -/
lemma readBannerFrom_copied {banner : List U8} {result : Option Errno} {i : ℕ}
    (h : context.readBannerFrom address left index out = (result, banner))
    (hresult : result = none ∨ result = some ENOSPC) (hroom : index + left < out.length)
    (hle : index ≤ i) (hlt : i < index + left)
    (hbefore : ∀ j, index ≤ j → j < i → banner[j]? ≠ some 0) :
    ∃ b, banner[i]? = some b ∧ context.kernel.memory (address + BitVec.ofNat 64 i) = some b := by
  induction left generalizing index out with
  | zero => omega
  | succ left ih =>
    rw [readBannerFrom] at h
    split_ifs at h with hrange
    · cases h
      rcases hresult with heq | heq
      · cases heq
      · exact absurd (Option.some.inj heq) (by decide)
    · cases hread : context.nofaultRead (address + BitVec.ofNat 64 index) 1 with
      | error error =>
        rw [hread] at h
        cases h
        rcases hresult with heq | heq
        · cases heq
        · exact absurd (Option.some.inj heq) (nofaultRead_error hread)
      | ok bytes =>
        rw [hread] at h
        have hbyte := nofaultRead_byte hread
        dsimp only at h
        split_ifs at h with hzero
        · -- The terminator: nothing of the banner comes after it.
          cases h
          have hset : (out.set index 0)[index]? = some 0 := List.getElem?_set_self (by omega)
          obtain rfl | hgt := Nat.eq_or_lt_of_le hle
          · exact ⟨0, hset, hzero ▸ hbyte⟩
          · exact absurd hset (hbefore index (Nat.le_refl _) hgt)
        · obtain rfl | hgt := Nat.eq_or_lt_of_le hle
          · refine ⟨bytes.headD 0, ?_, hbyte⟩
            have hframe : (context.readBannerFrom address left (index + 1)
                (out.set index (bytes.headD 0))).2[index]? = _ :=
              readBannerFrom_frame (Nat.lt_succ_self index)
            rw [h] at hframe
            exact hframe.trans (List.getElem?_set_self (by omega))
          · exact ih h (by rw [length_set]; omega) hgt (by omega) fun j hj => hbefore j (by omega)

end Copy

/-! ## The comparison -/

lemma isPrefix_of_strncmpEq {text word : List U8} (hnul : 0 ∉ word)
    (h : strncmpEq word.length text word = true) : word <+: text := by
  induction word generalizing text with
  | nil => exact nil_prefix
  | cons c word ih =>
    rw [mem_cons, not_or] at hnul
    obtain ⟨hc, hnul⟩ := hnul
    simp only [length_cons, strncmpEq, Bool.and_eq_true, Bool.or_eq_true, decide_eq_true_eq] at h
    obtain ⟨heq, hrest⟩ := h
    replace heq : text.headD 0 = c := heq
    rw [heq] at hrest
    cases text with
    | nil => exact absurd heq hc
    | cons d text =>
      obtain rfl : d = c := heq
      exact cons_prefix_cons.mpr ⟨rfl, ih hnul (hrest.resolve_left (Ne.symm hc))⟩

lemma isPrefix_of_releaseMatchesBanner {banner release : List U8} (hnul : 0 ∉ release)
    (h : releaseMatchesBanner banner release = true) : bannerStart ++ release <+: banner ∧
      (banner.getD (bannerStart ++ release).length 0 = space ∨
        banner.getD (bannerStart ++ release).length 0 = 0) := by
  simp only [releaseMatchesBanner, Bool.and_eq_true, Bool.or_eq_true, decide_eq_true_eq] at h
  obtain ⟨⟨hstart, hrelease⟩, hend⟩ := h
  rw [length_append]
  refine ⟨?_, hend⟩
  obtain ⟨rest, rfl⟩ := isPrefix_of_strncmpEq nul_not_mem_bannerStart hstart
  rw [drop_left] at hrelease
  exact (prefix_append_right_inj _).mpr (isPrefix_of_strncmpEq hnul hrelease)

/-! ## Accepted releases -/

section Release

variable {profile : Json}

lemma text_eq_ok {value : Json} {path : String} {maximum : ℕ} {points : List ℕ}
    (h : text value path maximum = .ok points) : value = .str points ∧ ∀ c ∈ points, c < 128 := by
  cases value with
  | str points' =>
    rw [text] at h
    split_ifs at h with hempty hascii
    cases h
    exact ⟨rfl, fun c hc => of_decide_eq_true (all_eq_true.mp hascii c hc)⟩
  | _ => cases h

variable (h : Accepted profile)
include h

lemma Accepted.lt_of_mem_release : ∀ c ∈ points profile "kernel" "release", c < 128 := by
  have hfield := checkField_of_checkSection (h.sections ("kernel", kernelFields) kernel_mem)
    (show ("release", Kind.string) ∈ kernelFields by decide)
  simp only [checkField, Check.bind_eq_ok] at hfield
  obtain ⟨points, htext, -⟩ := hfield
  obtain ⟨hvalue, hlt⟩ := text_eq_ok htext
  rw [Profile.points, hvalue]
  exact hlt

lemma Accepted.release_no_nul (hrendered : Rendered profile) :
    0 ∉ (device profile).kernel.release := by
  intro hmem
  obtain ⟨c, hc, heq⟩ := mem_map.mp hmem
  have hlt := h.lt_of_mem_release c hc
  have hstring := hrendered ("kernel", kernelFields) kernel_mem ("release", .string) (by decide) rfl
  -- A literal of C has no NUL inside.
  have hpos : c ≠ 0 := by
    rintro rfl
    rw [cString] at hstring
    split_ifs at hstring with hall
    · exact absurd (all_eq_true.mp hall 0 hc) (by decide)
    · cases hstring
  bv_omega

lemma Accepted.release_no_space (hspace : 32 ∉ points profile "kernel" "release") :
    space ∉ (device profile).kernel.release := by
  intro hmem
  obtain ⟨c, hc, heq⟩ := mem_map.mp hmem
  have hlt := h.lt_of_mem_release c hc
  have hne : c ≠ 32 := fun heq' => hspace (heq' ▸ hc)
  rw [space] at heq
  bv_omega

lemma Accepted.release_fits :
    (bannerStart ++ (device profile).kernel.release).length + 2 ≤
      (device profile).kernel.linuxBannerCapacity.toNat := by
  have hkernel := h.kernel
  simp only [checkKernel, Check.bind_eq_ok, Check.exists_unit, Check.require_eq_ok] at hkernel
  obtain ⟨-, -, -, -, -, -, hroom⟩ := hkernel
  rw [← h.toNat_u32 kernel_mem _ (by decide)] at hroom
  have hlength : (bannerStart ++ (device profile).kernel.release).length =
      14 + (points profile "kernel" "release").length := by
    rw [length_append, device, cText, length_map]
    rfl
  rw [hlength]
  exact_mod_cast hroom

lemma Accepted.capacity_le :
    (device profile).kernel.linuxBannerCapacity.toNat ≤ bannerCapacityMax.toNat := by
  have hvalid := h.kernelValid
  simp only [Profile.kernelValid, Bool.and_eq_true, decide_eq_true_eq] at hvalid
  exact BitVec.le_def.mp hvalid.1.1.1.2

end Release

/-! ## The release of the banner -/

lemma bannerMatches_of_validate {ops : RuntimeOps} {table : List DeviceProfile}
    {device : DeviceProfile} {capacity : ℕ} {runtime : Runtime}
    (h : profileValidate ops table device capacity = .ok runtime) :
    bannerMatches ops device = true := by
  simp only [profileValidate, Check.bind_eq_ok, Check.exists_unit, Check.require_eq_ok] at h
  obtain ⟨-, -, -, -, -, -, -, -, symbols, -, hbanner, -⟩ := h
  exact hbanner

lemma exists_banner_of_bannerMatches {context : RuntimeContext} {device : DeviceProfile}
    (h : bannerMatches context.ops device = true) : ∃ result banner,
      context.readBannerFrom (context.kernel.lookup (context.profile.symbols.getD 0 []))
        (device.kernel.linuxBannerCapacity.toNat - 1) 0 (List.replicate bannerCapacityMax.toNat 0) =
          (result, banner) ∧
      (result = none ∨ result = some ENOSPC) ∧
      releaseMatchesBanner banner device.kernel.release = true := by
  simp only [bannerMatches, Bool.and_eq_true, Bool.or_eq_true, decide_eq_true_eq] at h
  obtain ⟨⟨hresult, -⟩, hrelease⟩ := h
  change (context.readBanner _ _).1 = none ∨ (context.readBanner _ _).1 = some ENOSPC ∧ _ at hresult
  change releaseMatchesBanner (context.readBanner _ _).2 _ = true at hrelease
  rw [readBanner] at hresult hrelease
  split_ifs at hresult hrelease
  · rcases hresult with heq | ⟨heq, -⟩
    · cases heq
    · exact absurd (Option.some.inj heq) (by decide)
  · exact ⟨_, _, rfl, hresult.imp_right And.left, hrelease⟩

/-- The bytes of a release that matched are the bytes in memory. -/
lemma Accepted.holds_release {profile : Json} {context : RuntimeContext} (h : Accepted profile)
    (hrendered : Rendered profile) (hmatches : bannerMatches context.ops (device profile) = true) :
    ∃ b, (b = space ∨ b = 0) ∧
      Holds context.kernel.memory (context.kernel.lookup (context.profile.symbols.getD 0 []))
        (bannerStart ++ (device profile).kernel.release ++ [b]) := by
  obtain ⟨result, banner, hread, hresult, hrelease⟩ := exists_banner_of_bannerMatches hmatches
  have hnul := h.release_no_nul hrendered
  obtain ⟨⟨rest, rfl⟩, hend⟩ := isPrefix_of_releaseMatchesBanner hnul hrelease
  have hroom := h.release_fits
  have hcapacity := h.capacity_le
  set word := bannerStart ++ (device profile).kernel.release with hword
  have hword_nul : 0 ∉ word := by
    rw [hword, mem_append, not_or]
    exact ⟨nul_not_mem_bannerStart, hnul⟩
  -- No byte of the word ends the copy, so the byte after it was read from memory too.
  have hcopied : ∀ i ≤ word.length, ∃ b, (word ++ rest)[i]? = some b ∧
      context.kernel.memory (context.kernel.lookup (context.profile.symbols.getD 0 []) +
        BitVec.ofNat 64 i) =
        some b := by
    intro i hi
    refine readBannerFrom_copied hread hresult ?_ (Nat.zero_le i) (by omega) ?_
    · rw [length_replicate]
      omega
    · intro j _ hj hzero
      rw [List.getElem?_append_left (by omega)] at hzero
      exact hword_nul (mem_of_getElem? hzero)
  obtain ⟨b, hb, hmemory⟩ := hcopied word.length (Nat.le_refl _)
  refine ⟨b, ?_, ?_⟩
  · rwa [getD_eq_getElem?_getD, hb] at hend
  · intro i c hc
    by_cases hi : i < word.length
    · obtain ⟨d, hd, hmemory'⟩ := hcopied i (by omega)
      rw [List.getElem?_append_left hi] at hc hd
      rwa [Option.some.inj (hc.symm.trans hd)]
    · have hlt := (List.getElem?_eq_some_iff.mp hc).1
      rw [length_append, length_singleton] at hlt
      obtain rfl : i = word.length := by omega
      rw [List.getElem?_append_right (Nat.le_refl _), Nat.sub_self] at hc
      rwa [← Option.some.inj hc]

/-- A generated profile that is accepted has the release of the kernel: in memory the release is
ended by a space or NUL, and it is the release word of the whole banner, however long that is. -/
theorem isReleaseWord_of_validate {profile : Json} {device : DeviceProfile} {kernel : Kernel}
    {table : List DeviceProfile} {capacity : ℕ} {runtime : Runtime}
    (haccepted : validateProfile profile = .ok ()) (hspace : 32 ∉ points profile "kernel" "release")
    (hdenotes : denotes profile = some device)
    (hvalid : profileValidate (prepare kernel device).ops table device capacity = .ok runtime) :
    IsReleaseWord kernel.memory (kernel.lookup (device.symbols.getD 0 [])) device.kernel.release ∧
      ∀ banner, IsString kernel.memory (kernel.lookup (device.symbols.getD 0 [])) banner →
        releaseWord banner = some device.kernel.release := by
  have h := accepted_of_validateProfile haccepted
  obtain ⟨hrendered, rfl⟩ := denotes_eq_some hdenotes
  have hword : IsReleaseWord kernel.memory
      (kernel.lookup ((Profile.device profile).symbols.getD 0 []))
      (Profile.device profile).kernel.release :=
    ⟨h.holds_release hrendered (bannerMatches_of_validate hvalid), h.release_no_nul hrendered,
      h.release_no_space hspace⟩
  exact ⟨hword, fun banner hbanner => hword.releaseWord hbanner⟩

def sampleKernel : Kernel where
  lookup name := if name = ascii "a" then 0x1000 else if name = ascii "b" then 0x10000 else
    if name = ascii "k" then 0x2000 else 0x3000
  memory address :=
    let contents : List (ℕ × List U8) :=
      [(0x1000, ascii "Linux version 6.12.23-4k #1"), (0x2000, [8]), (0x10000 + 2296, [0, 0, 2]),
        (0x10000 + 2304, [0, 0, 2]), (0x10000 + 2320, ascii "swapper")]
    some ((contents.findSome? fun (start, bytes) =>
      if start ≤ address.toNat then bytes[address.toNat - start]? else none).getD 0)
  pageSize := 4096
  dfr0 := 19722761426713

theorem sample_isReleaseWord : IsReleaseWord sampleKernel.memory 0x1000 (ascii "6.12.23-4k") :=
  have hvalid : profileValidate (prepare sampleKernel (device (sample 1800 8))).ops
      [device (sample 1800 8)] (device (sample 1800 8)) 64 =
        .ok ⟨device (sample 1800 8), [0x1000, 0x10000] ++ List.replicate 8 0x3000 ++ [0x2000] ++
          List.replicate 7 0x3000, 19722761426713, 8⟩ := by decide +kernel
  (isReleaseWord_of_validate validateProfile_sample (by decide +kernel) denotes_sample hvalid).1

end Spz.Profile
