import PacketFilter.Proofs.Network.Intervals
import PacketFilter.Proofs.Phrase.Operand
import PacketFilter.Proofs.Text.NumeralValue

/-!
The spellings of a network in one word. An address with the length of a prefix, and an address with
the mask of that prefix, are read as the same network; a mask of another kind is no length either,
so it is not read at all.
-/

namespace PacketFilter

namespace Address

variable {chars rest : List Char}

theorem read?_eq_v4_iff {bits : BitVec 32} :
    read? chars = some (.v4 bits) ↔ readV4? chars = some bits := by
  unfold read?
  split
  · rename_i found dotted
    simp [dotted]
  · rename_i dotted
    simp [dotted]

theorem read?_eq_v6_iff {bits : BitVec 128} :
    read? chars = some (.v6 bits) ↔ readV4? chars = none ∧ readV6? chars = some bits := by
  unfold read?
  split
  · rename_i found dotted
    simp [dotted]
  · rename_i dotted
    simp [dotted]

theorem dot_mem_of_readV4? {bits : BitVec 32} (read : readV4? chars = some bits) :
    '.' ∈ chars := by
  obtain ⟨⟨octet, middle⟩, first, behind⟩ := Option.bind_eq_some_iff.1 (eq_some_of_atEnd read)
  obtain ⟨⟨octets, rest⟩, others, _⟩ := Option.bind_eq_some_iff.1 behind
  obtain ⟨front, rfl, _⟩ := leaves_readOctet first
  apply List.mem_append_right
  unfold readOctets at others
  split at others
  · contradiction
  · exact List.mem_cons_self
  · contradiction

end Address

namespace Text

theorem Numeral.no_dot {base value : Nat} {chars : List Char} (small : base ≤ 16)
    (numeral : Numeral base chars value) : '.' ∉ chars := by
  have none {chars : List Char} {digits : List Nat}
      (written : List.Forall₂ (WritesDigit base) chars digits) : '.' ∉ chars := by
    induction written with
    | nil => exact List.not_mem_nil
    | @cons c digit chars digits writes written inductionHypothesis =>
        intro member
        rcases List.mem_cons.1 member with rfl | member
        · exact not_writesDigit small (by decide) digit writes
        · exact inductionHypothesis member
  cases numeral with
  | digits _ written => exact none written
  | plus _ written =>
      intro member
      rcases List.mem_cons.1 member with same | member
      · contradiction
      · exact none written member

end Text

namespace Block

variable {width length : Nat} {bits mask : BitVec width} {block : Block width}

theorem ofMask?_eq_ofLength? (fits : length ≤ width)
    (ones : mask.toNat = 2 ^ width - 2 ^ (width - length)) :
    ofMask? bits mask = ofLength? bits length := by
  have same : prefixMask width length = mask := by
    rw [← BitVec.toNat_inj, toNat_prefixMask, ones]
  rw [ofLength?, dif_pos fits, ofMask?_eq_some_iff]
  exact ⟨rfl, same⟩

theorem toNat_of_ofMask? (found : ofMask? bits mask = some block) :
    mask.toNat = 2 ^ width - 2 ^ (width - block.length) := by
  obtain ⟨_, rfl⟩ := ofMask?_eq_some_iff.1 found
  exact toNat_prefixMask width block.length

end Block

namespace Network

open Operand

variable {written mask : String} {bits maskBits : BitVec 32}

theorem readLength?_eq_none {chars : List Char} (read : Address.readV4? chars = some bits) :
    readLength? chars = none := by
  unfold readLength?
  cases found : Text.readNumeral 10 256 chars with
  | error fault => rfl
  | ok length =>
      have numeral := (Text.readNumeral_eq_ok_iff (by decide) (by decide) (by decide)).1 found
      exact absurd (Address.dot_mem_of_readV4? read) (numeral.1.no_dot (by decide))

theorem toList_slashed (written suffix : String) :
    (written ++ "/" ++ suffix).toList = written.toList ++ '/' :: suffix.toList := by
  simp

theorem read?_length_v4 (block : Block 32) (isAddress : IsAddress written (.v4 block.bits)) :
    read? (written ++ "/" ++ Text.decimal block.length).toList = some (.v4 block) := by
  have fits : block.length < 256 := Nat.lt_of_le_of_lt block.length_le (by decide)
  have address := Address.read?_eq_v4_iff.1 isAddress
  rw [toList_slashed, read?, splitAtSlash_append isAddress.no_slash]
  simp [readV4?, address, readV4?_decimal, readLength?_decimal fits, ofLength?_length]

theorem read?_length_v6 (block : Block 128) (isAddress : IsAddress written (.v6 block.bits)) :
    read? (written ++ "/" ++ Text.decimal block.length).toList = some (.v6 block) := by
  have fits : block.length < 256 := Nat.lt_of_le_of_lt block.length_le (by decide)
  obtain ⟨other, address⟩ := Address.read?_eq_v6_iff.1 isAddress
  rw [toList_slashed, read?, splitAtSlash_append isAddress.no_slash]
  simp [readV4?, readV6?, other, address, readLength?_decimal fits, ofLength?_length]

theorem read?_width {address : Address} (isAddress : IsAddress written address) :
    read? (written ++ "/" ++ Text.decimal address.width).toList = some (.single address) := by
  cases address with
  | v4 bits => exact read?_length_v4 (.single bits) isAddress
  | v6 bits => exact read?_length_v6 (.single bits) isAddress

/-- Behind a slash a mask makes the network that it makes with the address, if any. -/
theorem read?_mask (isAddress : IsAddress written (.v4 bits))
    (isMask : IsAddress mask (.v4 maskBits)) :
    read? (written ++ "/" ++ mask).toList = (Block.ofMask? bits maskBits).map .v4 := by
  have address := Address.read?_eq_v4_iff.1 isAddress
  have dotted := Address.read?_eq_v4_iff.1 isMask
  rw [toList_slashed, read?, splitAtSlash_append isAddress.no_slash]
  cases found : Block.ofMask? bits maskBits with
  | some block => simp [readV4?, address, dotted, found]
  | none => simp [readV4?, readV6?, address, dotted, found, readLength?_eq_none dotted]

end Network

end PacketFilter
