import PacketFilter.Address.Printer
import PacketFilter.Comparison

/-!
Blocks of addresses with a common prefix. A block keeps the whole address it was written with, and
its mask follows from the length of the prefix, so the ones of a mask are always the leading bits.
-/

namespace PacketFilter

/-- The bits of a word that a prefix of the given length covers. -/
def prefixMask (width length : Nat) : BitVec width :=
  BitVec.allOnes width <<< (width - length)

/-- The length of the prefix that a mask covers, if its ones are the leading bits. -/
def maskLength? {width : Nat} (mask : BitVec width) : Option Nat :=
  (List.range (width + 1)).find? fun length => prefixMask width length == mask

def leadingOnes {width : Nat} (mask : BitVec width) : Nat :=
  (~~~mask).clz.toNat

def trailingZeros {width : Nat} (mask : BitVec width) : Nat :=
  mask.ctz.toNat

theorem leadingOnes_le {width : Nat} (mask : BitVec width) : leadingOnes mask ≤ width := by
  have bounded := BitVec.le_def.1 (BitVec.clz_le (x := ~~~mask))
  simpa [leadingOnes] using bounded

/-- An address of `width` bits with the length of its prefix. -/
structure Block (width : Nat) where
  bits : BitVec width
  length : Nat
  length_le : length ≤ width
  deriving DecidableEq, Repr

namespace Block

variable {width : Nat}

def single (bits : BitVec width) : Block width :=
  ⟨bits, width, Nat.le_refl width⟩

/-- The block of an address with a prefix that is not longer than the address. -/
def ofLength? (bits : BitVec width) (length : Nat) : Option (Block width) :=
  if length_le : length ≤ width then some ⟨bits, length, length_le⟩ else none

def ofMask? (bits mask : BitVec width) : Option (Block width) :=
  (maskLength? mask).bind (ofLength? bits)

/-- The block of an address with a mask, if nothing stands between the ones in front and the zeros
behind. -/
def ofCountedMask? (bits mask : BitVec width) : Option (Block width) :=
  if leadingOnes mask + trailingZeros mask = width then
    some ⟨bits, leadingOnes mask, leadingOnes_le mask⟩
  else none

/-- The bits that decide about membership. -/
def mask (block : Block width) : BitVec width :=
  prefixMask width block.length

def compare (block : Block width) (comparison : Comparison) (field : BitVec width) : Bool :=
  comparison.holds (field &&& block.mask).toNat (block.bits &&& block.mask).toNat

end Block

inductive Network where
  | v4 (block : Block 32)
  | v6 (block : Block 128)
  deriving DecidableEq, Repr

namespace Network

def single : Address → Network
  | .v4 bits => .v4 (.single bits)
  | .v6 bits => .v6 (.single bits)

/-- The address as written, with the bits behind the prefix. -/
def address : Network → Address
  | .v4 block => .v4 block.bits
  | .v6 block => .v6 block.bits

def mask : Network → Address
  | .v4 block => .v4 block.mask
  | .v6 block => .v6 block.mask

/-- The length of the prefix, counted on the mask. -/
def prefixLength : Network → Nat
  | .v4 block => leadingOnes block.mask
  | .v6 block => leadingOnes block.mask

/-- Compares an address with the network. Addresses of the other family never compare. -/
def compare : Network → Comparison → Address → Bool
  | .v4 block, comparison, .v4 field => block.compare comparison field
  | .v6 block, comparison, .v6 field => block.compare comparison field
  | _, _, _ => false

def text (network : Network) : String :=
  network.address.text ++ "/" ++ Text.decimal network.prefixLength

end Network

end PacketFilter
