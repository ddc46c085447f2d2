import Mathlib.Algebra.Ring.Nat
import PacketFilter.Network.Basic

/-!
Masks and the prefixes that they cover. The ones of a mask are counted from the front and its zeros
from behind; the two counts make up the whole mask exactly if it is the mask of a prefix, and then
the ones in front are as many as the prefix is long. So counting on a mask and looking for its
prefix give the same blocks.
-/

namespace PacketFilter

variable {width length other : Nat} {mask : BitVec width}

theorem getLsbD_prefixMask (place : Nat) :
    (prefixMask width length).getLsbD place =
      (decide (place < width) && decide (width - length ≤ place)) := by
  by_cases inside : place < width
  · by_cases covered : width - length ≤ place
    · simp [prefixMask, inside, covered]
    · simp [prefixMask, inside, covered]
      omega
  · simp [prefixMask, inside]

theorem toNat_prefixMask (width length : Nat) :
    (prefixMask width length).toNat = 2 ^ width - 2 ^ (width - length) := by
  have bound : 2 ^ (width - length) ≤ 2 ^ width := Nat.pow_le_pow_right (by decide) (by omega)
  have positive : 0 < 2 ^ (width - length) := Nat.two_pow_pos _
  have split : (2 ^ width - 1) * 2 ^ (width - length) =
      2 ^ width - 2 ^ (width - length) + 2 ^ width * (2 ^ (width - length) - 1) := by
    have large : 2 ^ width ≤ 2 ^ width * 2 ^ (width - length) := Nat.le_mul_of_pos_right _ positive
    rw [Nat.sub_mul, Nat.mul_sub, Nat.one_mul, Nat.mul_one]
    omega
  rw [prefixMask, BitVec.toNat_shiftLeft, BitVec.toNat_allOnes, Nat.shiftLeft_eq, split,
    Nat.add_mul_mod_self_left, Nat.mod_eq_of_lt (by omega)]

theorem prefixMask_inj (fits : length ≤ width) (fitsOther : other ≤ width)
    (same : prefixMask width length = prefixMask width other) : length = other := by
  have values := congrArg BitVec.toNat same
  rw [toNat_prefixMask, toNat_prefixMask] at values
  have bound : 2 ^ (width - length) ≤ 2 ^ width := Nat.pow_le_pow_right (by decide) (by omega)
  have boundOther : 2 ^ (width - other) ≤ 2 ^ width := Nat.pow_le_pow_right (by decide) (by omega)
  have exponents := Nat.pow_right_injective (Nat.le_refl 2)
    (show 2 ^ (width - length) = 2 ^ (width - other) by omega)
  omega

theorem clz_of_toNat_eq {bits : BitVec width} {count : Nat} (fits : count ≤ width)
    (ones : bits.toNat = 2 ^ count - 1) : bits.clz.toNat = width - count := by
  have positive : 0 < 2 ^ count := Nat.two_pow_pos count
  have most : bits.clz.toNat ≤ width - count := by
    have below := BitVec.toNat_lt_two_pow_sub_clz (x := bits)
    have exponents := (Nat.pow_le_pow_iff_right (Nat.lt_succ_self 1)).1
      (show 2 ^ count ≤ 2 ^ (width - bits.clz.toNat) by omega)
    have bounded := BitVec.le_def.1 (BitVec.clz_le (x := bits))
    simp at bounded
    omega
  by_cases empty : bits = BitVec.ofNat width 0
  · subst empty
    have none : count = 0 := by
      by_contra some
      have two := Nat.one_lt_two_pow some
      simp at ones
      omega
    rw [BitVec.clz_eq_iff_eq_zero.2 rfl, none]
    simp
  · have wide : 0 < width := by
      by_contra narrow
      obtain rfl : width = 0 := by omega
      exact empty (BitVec.eq_nil bits)
    have least := BitVec.two_pow_sub_clz_le_toNat_of_ne_zero wide empty
    have exponents := (Nat.pow_lt_pow_iff_right (Nat.lt_succ_self 1)).1
      (show 2 ^ (width - 1 - bits.clz.toNat) < 2 ^ count by omega)
    omega

theorem leadingOnes_prefixMask (fits : length ≤ width) :
    leadingOnes (prefixMask width length) = length := by
  have bound : 2 ^ (width - length) ≤ 2 ^ width := Nat.pow_le_pow_right (by decide) (by omega)
  have complement : (~~~prefixMask width length).toNat = 2 ^ (width - length) - 1 := by
    rw [BitVec.toNat_not, toNat_prefixMask]
    omega
  rw [leadingOnes, clz_of_toNat_eq (Nat.sub_le _ _) complement]
  omega

theorem trailingZeros_prefixMask (fits : length ≤ width) :
    trailingZeros (prefixMask width length) = width - length := by
  have bounded : trailingZeros (prefixMask width length) ≤ width := by
    have most := BitVec.le_def.1 (BitVec.clz_le (x := (prefixMask width length).reverse))
    simpa [trailingZeros, BitVec.ctz_eq_reverse_clz] using most
  have before : ∀ place < trailingZeros (prefixMask width length),
      (prefixMask width length).getLsbD place = false :=
    fun place inside => BitVec.getLsbD_false_of_lt_ctz inside
  -- The bit in front of the zeros is the last one, unless there is none.
  have most : trailingZeros (prefixMask width length) ≤ width - length := by
    by_contra beyond
    have last := before (width - length) (by omega)
    rw [getLsbD_prefixMask] at last
    simp at last
    omega
  by_cases empty : prefixMask width length = BitVec.ofNat width 0
  · have whole := mt BitVec.ctz_lt_iff_ne_zero.1 (not_not_intro empty)
    rw [BitVec.lt_def] at whole
    simp at whole
    unfold trailingZeros at most ⊢
    omega
  · have found := BitVec.getLsbD_true_ctz_of_ne_zero empty
    rw [getLsbD_prefixMask] at found
    simp at found
    unfold trailingZeros at most ⊢
    omega

theorem eq_prefixMask_of_counts (whole : leadingOnes mask + trailingZeros mask = width) :
    mask = prefixMask width (leadingOnes mask) := by
  apply BitVec.eq_of_getLsbD_eq
  intro place inside
  rw [getLsbD_prefixMask]
  by_cases behind : place < trailingZeros mask
  · rw [BitVec.getLsbD_false_of_lt_ctz behind]
    simp
    omega
  · have below := BitVec.toNat_lt_two_pow_sub_clz (x := ~~~mask)
    have high : 2 ^ (width - leadingOnes mask) ≤ 2 ^ place :=
      Nat.pow_le_pow_right (by decide) (by omega)
    have zero := Nat.testBit_lt_two_pow (Nat.lt_of_lt_of_le below high)
    have one : mask.getLsbD place = true := by
      rw [BitVec.testBit_toNat, BitVec.getLsbD_not] at zero
      simpa [inside] using zero
    rw [one]
    simp
    omega

theorem counts_iff :
    leadingOnes mask + trailingZeros mask = width ↔
      ∃ length ≤ width, mask = prefixMask width length := by
  constructor
  · intro whole
    exact ⟨_, leadingOnes_le mask, eq_prefixMask_of_counts whole⟩
  · rintro ⟨length, fits, rfl⟩
    rw [leadingOnes_prefixMask fits, trailingZeros_prefixMask fits]
    omega

theorem maskLength?_eq_some_iff :
    maskLength? mask = some length ↔ length ≤ width ∧ mask = prefixMask width length := by
  constructor
  · intro found
    have listed := List.mem_of_find?_eq_some found
    have same := List.find?_some found
    rw [List.mem_range] at listed
    exact ⟨by omega, (eq_of_beq same).symm⟩
  · rintro ⟨fits, rfl⟩
    cases found : maskLength? (prefixMask width length) with
    | none =>
        have differs := List.find?_eq_none.1 found length (List.mem_range.2 (by omega))
        simp at differs
    | some other =>
        have listed := List.mem_of_find?_eq_some found
        have same := List.find?_some found
        rw [List.mem_range] at listed
        exact congrArg some (prefixMask_inj (by omega) fits (eq_of_beq same))

namespace Block

variable {bits : BitVec width} {block : Block width}

@[simp]
theorem leadingOnes_mask (block : Block width) : leadingOnes block.mask = block.length :=
  leadingOnes_prefixMask block.length_le

theorem ofMask?_eq_some_iff :
    ofMask? bits mask = some block ↔ block.bits = bits ∧ block.mask = mask := by
  obtain ⟨blockBits, length, fits⟩ := block
  rw [ofMask?, Option.bind_eq_some_iff]
  constructor
  · rintro ⟨found, looked, bound⟩
    obtain ⟨_, rfl⟩ := maskLength?_eq_some_iff.1 looked
    unfold ofLength? at bound
    split at bound
    · cases bound
      exact ⟨rfl, rfl⟩
    · contradiction
  · rintro ⟨rfl, rfl⟩
    refine ⟨length, maskLength?_eq_some_iff.2 ⟨fits, rfl⟩, ?_⟩
    rw [ofLength?, dif_pos fits]

/-- Counting on a mask gives the block that looking for its prefix gives. -/
theorem ofCountedMask?_eq_ofMask? (bits mask : BitVec width) :
    ofCountedMask? bits mask = ofMask? bits mask := by
  unfold ofCountedMask?
  split
  · rename_i whole
    have found : ofMask? bits mask = some ⟨bits, leadingOnes mask, leadingOnes_le mask⟩ :=
      ofMask?_eq_some_iff.2 ⟨rfl, (eq_prefixMask_of_counts whole).symm⟩
    exact found.symm
  · rename_i broken
    cases found : ofMask? bits mask with
    | none => rfl
    | some block =>
        obtain ⟨_, rfl⟩ := ofMask?_eq_some_iff.1 found
        exact absurd (counts_iff.2 ⟨_, block.length_le, rfl⟩) broken

end Block

end PacketFilter
