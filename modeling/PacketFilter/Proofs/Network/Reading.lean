import Mathlib.Data.List.TakeDrop
import PacketFilter.Network.Reader
import PacketFilter.Proofs.Address.ColonSeparated
import PacketFilter.Proofs.Network.Masks

/-!
Networks are read back from their text: the address in front of the slash, and the length of the
prefix behind it, which is no mask because it has no dots.
-/

namespace PacketFilter.Network

open Address

theorem splitAtSlash_append {address : List Char} (noSlash : '/' ∉ address)
    (suffix : List Char) : splitAtSlash (address ++ '/' :: suffix) = (address, some suffix) := by
  have before : ∀ c ∈ address, c != '/' := by
    intro c member
    rw [bne_iff_ne]
    rintro rfl
    exact noSlash member
  have slash : ('/' != '/') = false := by decide
  rw [splitAtSlash, List.span_eq_takeWhile_dropWhile, List.takeWhile_append_of_pos before,
    List.dropWhile_append_of_pos before]
  simp

theorem noSlash_text (address : Address) : '/' ∉ address.text.toList := by
  intro member
  have allowed := isAddressChar_of_read? (read?_text address) '/' member
  contradiction

theorem toList_text (network : Network) :
    network.text.toList =
      network.address.text.toList ++ '/' :: (Text.decimal network.prefixLength).toList := by
  simp [text]

theorem slash_mem_text (network : Network) : '/' ∈ network.text.toList := by
  simp [toList_text]

theorem readLength?_decimal {length : Nat} (fits : length < 256) :
    readLength? (Text.decimal length).toList = some length := by
  rw [readLength?, Text.decimal, String.toList_ofList,
    Text.readNumeral_toDigits (by decide) (by decide) fits]
  rfl

theorem readV4?_decimal (length : Nat) : Address.readV4? (Text.decimal length).toList = none := by
  obtain ⟨digits, chars, _⟩ := Text.exists_spelled (show 1 < 10 by decide) length
  have noDotted := readDotted_eq_none digits (Text.noDigit_nil 10) (by simp)
  rw [List.append_nil] at noDotted
  rw [Text.decimal, String.toList_ofList, chars, Address.readV4?, noDotted]
  rfl

theorem ofLength?_length {width : Nat} (block : Block width) :
    Block.ofLength? block.bits block.length = some block := by
  rw [Block.ofLength?, dif_pos block.length_le]

theorem read?_text (network : Network) : read? network.text.toList = some network := by
  rw [toList_text, read?, splitAtSlash_append (noSlash_text network.address)]
  cases network with
  | v4 block =>
      have fits : block.length < 256 := Nat.lt_of_le_of_lt block.length_le (by decide)
      have address : Address.readV4? (Address.v4 block.bits).text.toList = some block.bits :=
        readV4?_dotted block.bits
      simp [Network.address, prefixLength, readV4?, address, readV4?_decimal,
        readLength?_decimal fits, ofLength?_length]
  | v6 block =>
      have fits : block.length < 256 := Nat.lt_of_le_of_lt block.length_le (by decide)
      simp [Network.address, prefixLength, readV4?, readV6?, readV4?_text, readV6?_text,
        readLength?_decimal fits, ofLength?_length]

end PacketFilter.Network
