import PacketFilter.Positional

/-!
Internet addresses of the two families, as numbers of 32 and of 128 bits.
-/

namespace PacketFilter

inductive Address where
  | v4 (bits : BitVec 32)
  | v6 (bits : BitVec 128)
  deriving DecidableEq, Repr

namespace Address

def octets (bits : BitVec 32) : List Nat :=
  Positional.digits 256 4 bits.toNat

def ofOctets (octets : List Nat) : BitVec 32 :=
  BitVec.ofNat 32 (Positional.value 256 octets)

/-- The eight groups of sixteen bits of a version 6 address. -/
def groups (bits : BitVec 128) : List Nat :=
  Positional.digits 65536 8 bits.toNat

def ofGroups (groups : List Nat) : BitVec 128 :=
  BitVec.ofNat 128 (Positional.value 65536 groups)

end Address

end PacketFilter
