import PacketFilter.Positional

/-!
The size of the numbers in a JSON text. A natural number of 64 bits is kept; every other numeral
only has to lie within the range of the binary floating-point numbers of 64 bits.
-/

namespace PacketFilter.Json

structure Numeral where
  isNegative : Bool
  integer : List Nat
  fraction : Option (List Nat)
  /-- The exponent, and whether it is negative. -/
  exponent : Option (Bool × List Nat)
  deriving DecidableEq, Repr

inductive Number where
  | natural (value : Nat)
  /-- Another number within range. -/
  | real
  | outOfRange
  deriving DecidableEq, Repr

/-- The numbers below this bound have 64 bits. -/
def wordBound : Nat := 1 <<< 64

/-- Appends digits as long as the number has 64 bits. Gives the number and the digits left over. -/
def absorb (number : Nat) : List Nat → Nat × List Nat
  | [] => (number, [])
  | digit :: rest =>
      if number * 10 + digit < wordBound then absorb (number * 10 + digit) rest
      else (number, digit :: rest)

/-- The nearest number with at most 53 significant binary digits, the even one of two. -/
def nearestFloat (number : Nat) : Nat :=
  let unit := 1 <<< (number.log2 - 52)
  let (quotient, remainder) := (number / unit, number % unit)
  if unit < 2 * remainder ∨ (unit = 2 * remainder ∧ quotient % 2 = 1) then (quotient + 1) * unit
  else quotient * unit

/-- The numbers from here on are rounded past the largest floating-point number. -/
def floatBound : Nat := 1 <<< 1024 - 1 <<< 970

/-- A significand of 64 bits, scaled by a power of ten, is past the largest floating-point
number. -/
def exceedsFloat (significand : Nat) (scale : Int) : Bool :=
  significand != 0 && 0 ≤ scale &&
    (308 < scale ||
      floatBound ≤ nearestFloat significand * nearestFloat (Nat.pow 10 scale.toNat))

namespace Numeral

def writtenExponent (numeral : Numeral) : Int :=
  match numeral.exponent with
  | none => 0
  | some (isNegative, digits) =>
      let size : Int := Positional.value 10 digits
      if isNegative then -size else size

/-- The leading digits as a number of 64 bits, and the power of ten that scales it. Integer digits
left over still count for the scale, digits of the fraction do not. -/
def significand (numeral : Numeral) : Nat × Int :=
  let (whole, dropped) := absorb 0 numeral.integer
  match numeral.fraction with
  | none => (whole, dropped.length + numeral.writtenExponent)
  | some fraction =>
      let (number, ignored) := absorb whole fraction
      let places : Int := fraction.length - ignored.length
      (number, dropped.length - places + numeral.writtenExponent)

def number (numeral : Numeral) : Number :=
  let value := Positional.value 10 numeral.integer
  if !numeral.isNegative && numeral.fraction.isNone && numeral.exponent.isNone &&
      value < wordBound then
    .natural value
  else if exceedsFloat numeral.significand.1 numeral.significand.2 then .outOfRange
  else .real

end Numeral

end PacketFilter.Json
