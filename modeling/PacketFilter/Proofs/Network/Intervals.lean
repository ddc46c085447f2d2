import PacketFilter.Proofs.Network.Reading

/-!
Comparing an address with a network is comparing it with an interval. The addresses that agree with
the network on the prefix are those from the first one, in which the bits behind the prefix are
zeros, to the last one, in which they are ones; an address is less than the network if it is less
than the first of them, and greater if it is greater than the last.
-/

namespace PacketFilter

/-- The comparisons of a field are those with all the numbers from `first` to `last`. -/
structure Comparison.WithInterval (compare : Comparison → Bool) (field first last : Nat) :
    Prop where
  eq : compare .eq = true ↔ first ≤ field ∧ field ≤ last
  ne : compare .ne = true ↔ ¬ (first ≤ field ∧ field ≤ last)
  lt : compare .lt = true ↔ field < first
  le : compare .le = true ↔ field ≤ last
  gt : compare .gt = true ↔ last < field
  ge : compare .ge = true ↔ first ≤ field

namespace Comparison

/-- A number that is less and greater than another as a field is less and greater than an interval
stands for the field in every comparison. -/
theorem withInterval_of_holds {number other field first last : Nat} (ordered : first ≤ last)
    (less : number < other ↔ field < first) (greater : other < number ↔ last < field) :
    WithInterval (holds · number other) field first last where
  eq := by
    simp only [holds, beq_iff_eq]
    omega
  ne := by
    simp only [holds, bne_iff_ne]
    omega
  lt := by simpa only [holds, decide_eq_true_eq] using less
  le := by
    simp only [holds, decide_eq_true_eq]
    omega
  gt := by simpa only [holds, decide_eq_true_eq] using greater
  ge := by
    simp only [holds, decide_eq_true_eq]
    omega

end Comparison

section Multiples

variable {field multiple size : Nat}

theorem div_mul_lt_mul_iff (positive : 0 < size) :
    field / size * size < multiple * size ↔ field < multiple * size := by
  rw [Nat.mul_lt_mul_right positive, Nat.div_lt_iff_lt_mul positive]

theorem mul_lt_div_mul_iff (positive : 0 < size) :
    multiple * size < field / size * size ↔ multiple * size + size - 1 < field := by
  have next : (multiple + 1) * size = multiple * size + size := Nat.succ_mul multiple size
  rw [Nat.mul_lt_mul_right positive, ← Nat.add_one_le_iff, Nat.le_div_iff_mul_le positive, next]
  omega

end Multiples

namespace Block

variable {width : Nat}

theorem eq_of_ofLength? {bits : BitVec width} {length : Nat} {block : Block width}
    (found : ofLength? bits length = some block) : block.bits = bits ∧ block.length = length := by
  unfold ofLength? at found
  split at found
  · cases found
    exact ⟨rfl, rfl⟩
  · contradiction

/-- The first address with the prefix of a block. -/
def first (block : Block width) : Nat :=
  block.bits.toNat - block.bits.toNat % 2 ^ (width - block.length)

def last (block : Block width) : Nat :=
  block.first + 2 ^ (width - block.length) - 1

theorem toNat_and_prefixMask (bits : BitVec width) (length : Nat) :
    (bits &&& prefixMask width length).toNat =
      bits.toNat / 2 ^ (width - length) * 2 ^ (width - length) := by
  have less : bits.toNat / 2 ^ (width - length) * 2 ^ (width - length) < 2 ^ width :=
    Nat.lt_of_le_of_lt (Nat.div_mul_le_self _ _) bits.isLt
  rw [prefixMask, ← BitVec.shiftLeft_ushiftRight, BitVec.toNat_shiftLeft, BitVec.toNat_ushiftRight,
    Nat.shiftRight_eq_div_pow, Nat.shiftLeft_eq, Nat.mod_eq_of_lt less]

theorem compare_withInterval (block : Block width) (field : BitVec width) :
    Comparison.WithInterval (block.compare · field) field.toNat block.first block.last := by
  have positive : 0 < 2 ^ (width - block.length) := Nat.two_pow_pos _
  have multiple : block.first =
      block.bits.toNat / 2 ^ (width - block.length) * 2 ^ (width - block.length) := by
    have division := Nat.div_add_mod' block.bits.toNat (2 ^ (width - block.length))
    unfold first
    omega
  refine Comparison.withInterval_of_holds ?_ ?_ ?_
  · unfold last
    omega
  · rw [mask, toNat_and_prefixMask, toNat_and_prefixMask, div_mul_lt_mul_iff positive, multiple]
  · rw [mask, toNat_and_prefixMask, toNat_and_prefixMask, mul_lt_div_mul_iff positive, last,
      multiple]

end Block

namespace Address

/-- The count of bits of an address, which tells its family. -/
def width : Address → Nat
  | .v4 _ => 32
  | .v6 _ => 128

def number : Address → Nat
  | .v4 bits => bits.toNat
  | .v6 bits => bits.toNat

/-- The first address that has a prefix of the given length in common with an address. -/
def firstWithin (address : Address) (length : Nat) : Nat :=
  address.number - address.number % 2 ^ (address.width - length)

def lastWithin (address : Address) (length : Nat) : Nat :=
  address.firstWithin length + 2 ^ (address.width - length) - 1

end Address

namespace Network

/-- Networks and what they are made of: an address alone, or with the length of a prefix. -/
inductive MadeOf : Address → Nat → Network → Prop where
  | single (address : Address) : MadeOf address address.width (.single address)
  | v4 {bits length block} : Block.ofLength? bits length = some block →
      MadeOf (.v4 bits) length (.v4 block)
  | v6 {bits length block} : Block.ofLength? bits length = some block →
      MadeOf (.v6 bits) length (.v6 block)

theorem exists_madeOf {address : Address} {length : Nat} (fits : length ≤ address.width) :
    ∃ network, MadeOf address length network := by
  cases address with
  | v4 bits => exact ⟨_, .v4 (dif_pos fits)⟩
  | v6 bits => exact ⟨_, .v6 (dif_pos fits)⟩

/-- A network tests addresses for an interval, and is known by the address and the length. -/
structure TestsInterval (network : Network) (address : Address) (length : Nat) : Prop where
  address_eq : network.address = address
  prefixLength_eq : network.prefixLength = length
  otherFamily : ∀ field : Address, field.width ≠ address.width →
    ∀ comparison, network.compare comparison field = false
  sameFamily : ∀ field : Address, field.width = address.width →
    Comparison.WithInterval (network.compare · field) field.number (address.firstWithin length)
      (address.lastWithin length)
  readBack : read? network.text.toList = some network

theorem testsInterval_v4 (block : Block 32) :
    TestsInterval (.v4 block) (.v4 block.bits) block.length where
  address_eq := rfl
  prefixLength_eq := block.leadingOnes_mask
  otherFamily field other comparison := by
    cases field with
    | v4 bits => contradiction
    | v6 bits => rfl
  sameFamily field same := by
    cases field with
    | v4 bits => exact block.compare_withInterval bits
    | v6 bits => simp [Address.width] at same
  readBack := read?_text _

theorem testsInterval_v6 (block : Block 128) :
    TestsInterval (.v6 block) (.v6 block.bits) block.length where
  address_eq := rfl
  prefixLength_eq := block.leadingOnes_mask
  otherFamily field other comparison := by
    cases field with
    | v4 bits => rfl
    | v6 bits => contradiction
  sameFamily field same := by
    cases field with
    | v4 bits => simp [Address.width] at same
    | v6 bits => exact block.compare_withInterval bits
  readBack := read?_text _

/-- An address and the length of a prefix that is not longer make a network, which compares the
addresses of its own family with the interval of those that have the prefix. It tells the length of
its prefix, and its text is read as the network itself. -/
theorem compares_with_interval (address : Address) (length : Nat) :
    (length ≤ address.width → ∃ network, MadeOf address length network) ∧
      ∀ network, MadeOf address length network → network.TestsInterval address length := by
  refine ⟨exists_madeOf, fun network made => ?_⟩
  cases made with
  | single =>
      cases address with
      | v4 bits => exact testsInterval_v4 (.single bits)
      | v6 bits => exact testsInterval_v6 (.single bits)
  | @v4 _ _ block found =>
      obtain ⟨rfl, rfl⟩ := Block.eq_of_ofLength? found
      exact testsInterval_v4 block
  | @v6 _ _ block found =>
      obtain ⟨rfl, rfl⟩ := Block.eq_of_ofLength? found
      exact testsInterval_v6 block

/-- The prefix ends within an octet and bits are set behind it; the field is the last address. -/
theorem compares_with_interval_of_host_bits :
    let address : Address := .v4 0x0acd4d09#32
    let block : Block 32 := ⟨0x0acd4d09#32, 13, by decide⟩
    let field : Address := .v4 0x0acfffff#32
    MadeOf address 13 (.v4 block) ∧ (Network.v4 block).text = "10.205.77.9/13" ∧
      address.firstWithin 13 = 0x0ac80000 ∧ address.lastWithin 13 = 0x0acfffff ∧
      Comparison.WithInterval ((Network.v4 block).compare · field) 0x0acfffff 0x0ac80000
        0x0acfffff ∧
      (Network.v4 block).compare .gt field = false ∧
      (Network.v4 block).compare .ne (.v6 0#128) = false := by
  intro address block field
  have made : MadeOf address 13 (.v4 block) := .v4 rfl
  have tests := (compares_with_interval address 13).2 _ made
  have first : address.firstWithin 13 = 0x0ac80000 := by decide
  have last : address.lastWithin 13 = 0x0acfffff := by decide
  have interval := tests.sameFamily field rfl
  rw [first, last] at interval
  refine ⟨made, by decide +kernel, first, last, interval, ?_, ?_⟩
  · exact Bool.eq_false_iff.2 fun greater => absurd (interval.gt.1 greater) (by decide)
  · exact tests.otherFamily _ (by decide) .ne

end Network

end PacketFilter
