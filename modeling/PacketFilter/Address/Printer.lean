import PacketFilter.Address.Basic
import PacketFilter.Text.Numeral

/-!
The canonical text of an address. Version 4 addresses are dotted decimals. Version 6 addresses are
groups in hexadecimal without leading zeros, the first of the longest runs of at least two zero
groups being left out; an address that maps a version 4 address ends in that one's text.
-/

namespace PacketFilter.Address

def dotted (bits : BitVec 32) : String :=
  ".".intercalate ((octets bits).map Text.decimal)

def zeroRunAt (groups : List Nat) (start : Nat) : Nat :=
  ((groups.drop start).takeWhile (· == 0)).length

/-- Start and length of the first of the longest runs of zero groups. -/
def longestZeroRun (groups : List Nat) : Nat × Nat :=
  (List.range groups.length).foldl
    (fun best start =>
      if best.2 < zeroRunAt groups start then (start, zeroRunAt groups start) else best)
    (0, 0)

def colonSeparated (groups : List Nat) : String :=
  ":".intercalate (groups.map Text.hexadecimal)

/-- The text of a list of groups, its longest run of zero groups left out. -/
def compressed (groups : List Nat) : String :=
  let (start, length) := longestZeroRun groups
  if 1 < length then
    colonSeparated (groups.take start) ++ "::" ++ colonSeparated (groups.drop (start + length))
  else colonSeparated groups

def mappedGroups : List Nat := [0, 0, 0, 0, 0, 0xFFFF]

def text : Address → String
  | .v4 bits => dotted bits
  | .v6 bits =>
      if (groups bits).take 6 = mappedGroups then "::ffff:" ++ dotted (bits.truncate 32)
      else compressed (groups bits)

end PacketFilter.Address
