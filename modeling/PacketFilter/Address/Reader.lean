import PacketFilter.Address.Basic
import PacketFilter.Text.Numeral

/-!
Reading an address. Version 4 addresses are four octets of at most three decimal digits without
leading zeros. Version 6 addresses are eight groups of at most four hexadecimal digits; `::` stands
for the missing groups and for at least one, and the last two groups may be written as a version 4
address.
-/

namespace PacketFilter.Address

def readOctet (chars : List Char) : Option (Nat × List Char) :=
  match Text.leadingDigits 10 chars with
  | ([], _) => none
  | (0 :: _ :: _, _) => none
  | (digits, rest) =>
      if digits.length ≤ 3 ∧ Positional.value 10 digits < 256 then
        some (Positional.value 10 digits, rest)
      else none

/-- Reads the given count of octets in front, each after a dot. -/
def readOctets : Nat → List Char → Option (List Nat × List Char)
  | 0, chars => some ([], chars)
  | count + 1, '.' :: chars => do
      let (octet, rest) ← readOctet chars
      let (octets, rest) ← readOctets count rest
      some (octet :: octets, rest)
  | _ + 1, _ => none

def readDotted (chars : List Char) : Option (BitVec 32 × List Char) := do
  let (octet, rest) ← readOctet chars
  let (octets, rest) ← readOctets 3 rest
  some (ofOctets (octet :: octets), rest)

def readGroup (chars : List Char) : Option (Nat × List Char) :=
  match Text.leadingDigits 16 chars with
  | ([], _) => none
  | (digits, rest) => if digits.length ≤ 4 then some (Positional.value 16 digits, rest) else none

def afterSeparator (continued : Bool) (chars : List Char) : Option (List Char) :=
  match continued, chars with
  | false, chars => some chars
  | true, ':' :: rest => some rest
  | true, _ => none

/-- Reads as many groups in front as there are and as fit into `room`. The second component tells
that the last two were written as a version 4 address, which ends the groups. -/
def readGroups : Nat → Bool → List Char → List Nat × Bool × List Char
  | 0, _, chars => ([], false, chars)
  | room + 1, continued, chars =>
      match afterSeparator continued chars with
      | none => ([], false, chars)
      | some body =>
          match if room = 0 then none else readDotted body with
          | some (bits, rest) => (Positional.digits 65536 2 bits.toNat, true, rest)
          | none =>
              match readGroup body with
              | none => ([], false, chars)
              | some (group, rest) =>
                  let (groups, isDotted, rest) := readGroups room true rest
                  (group :: groups, isDotted, rest)

def readColonSeparated (chars : List Char) : Option (BitVec 128 × List Char) :=
  let (front, isDotted, rest) := readGroups 8 false chars
  if front.length = 8 then some (ofGroups front, rest)
  else if isDotted then none
  else
    match rest with
    | ':' :: ':' :: rest =>
        let (back, _, rest) := readGroups (7 - front.length) false rest
        let zeros := List.replicate (8 - front.length - back.length) 0
        some (ofGroups (front ++ zeros ++ back), rest)
    | _ => none

def atEnd {α : Type} : Option (α × List Char) → Option α
  | some (value, []) => some value
  | _ => none

def readV4? (chars : List Char) : Option (BitVec 32) :=
  atEnd (readDotted chars)

def readV6? (chars : List Char) : Option (BitVec 128) :=
  atEnd (readColonSeparated chars)

def read? (chars : List Char) : Option Address :=
  match readV4? chars with
  | some bits => some (.v4 bits)
  | none => (readV6? chars).map .v6

def malformed : String := "invalid IP address syntax"

end PacketFilter.Address
