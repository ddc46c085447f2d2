import PacketFilter.Address.Reader
import PacketFilter.Network.Basic

/-!
Reading a network: an address, and after a slash the length of its prefix. Behind a version 4
address a dotted mask may stand for the length, if its ones are the leading bits.
-/

namespace PacketFilter

namespace Network

def readLength? (chars : List Char) : Option Nat :=
  (Text.readNumeral 10 256 chars).toOption

def splitAtSlash (chars : List Char) : List Char × Option (List Char) :=
  match chars.span (· != '/') with
  | (before, _ :: after) => (before, some after)
  | (before, []) => (before, none)

def readV4? (address : List Char) (suffix : Option (List Char)) : Option (Block 32) := do
  let bits ← Address.readV4? address
  match suffix with
  | none => some (.single bits)
  | some suffix =>
      match Address.readV4? suffix with
      | some mask => Block.ofMask? bits mask
      | none => Block.ofLength? bits (← readLength? suffix)

def readV6? (address : List Char) (suffix : Option (List Char)) : Option (Block 128) := do
  let bits ← Address.readV6? address
  match suffix with
  | none => some (.single bits)
  | some suffix => Block.ofLength? bits (← readLength? suffix)

/-- Reads a network of either family. A bare address is a network of its own. -/
def read? (chars : List Char) : Option Network :=
  let (address, suffix) := splitAtSlash chars
  match readV4? address suffix with
  | some block => some (.v4 block)
  | none => (readV6? address suffix).map .v6

def malformed (written : String) : String :=
  "invalid address: " ++ written

end Network

end PacketFilter
