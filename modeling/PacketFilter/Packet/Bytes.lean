import PacketFilter.Positional

/-!
Fields of a header, as numbers written in bytes with the most significant first.
-/

namespace PacketFilter

abbrev Bytes := List UInt8

namespace Bytes

/-- The number that `size` bytes from `offset` on write. -/
def field (bytes : Bytes) (offset size : Nat) : Nat :=
  Positional.value 256 (((bytes.drop offset).take size).map UInt8.toNat)

/-- The bytes from an offset on, if the offset is not past the end. -/
def from? (bytes : Bytes) (offset : Nat) : Option Bytes :=
  if offset ≤ bytes.length then some (bytes.drop offset) else none

/-- A field within the given bytes is the same in every longer text. -/
theorem field_append (bytes more : Bytes) (offset size : Nat)
    (inside : offset + size ≤ bytes.length) :
    field (bytes ++ more) offset size = field bytes offset size := by
  unfold field
  rw [List.drop_append_of_le_length (by omega), List.take_append_of_le_length]
  simp
  omega

end Bytes

end PacketFilter
