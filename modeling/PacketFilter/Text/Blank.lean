/-!
The characters that separate words. They are the code points with the Unicode property
`White_Space`, given as inclusive ranges.
-/

namespace PacketFilter.Text

/-- The ranges of code points with the property `White_Space`. -/
def blankRanges : List (Nat × Nat) :=
  [(0x09, 0x0D), (0x20, 0x20), (0x85, 0x85), (0xA0, 0xA0), (0x1680, 0x1680), (0x2000, 0x200A),
   (0x2028, 0x2029), (0x202F, 0x202F), (0x205F, 0x205F), (0x3000, 0x3000)]

def inRanges (ranges : List (Nat × Nat)) (code : Nat) : Bool :=
  ranges.any fun range => range.1 ≤ code && code ≤ range.2

/-- A character that separates words and belongs to none. -/
def isBlank (c : Char) : Bool :=
  inRanges blankRanges c.toNat

end PacketFilter.Text
