import PacketFilter.Positional

/-!
Numerals of a given base: an optional plus sign and at least one digit. A numeral is read from
left to right, and the first fault met is the one reported: a character that is no digit, or a
digit that takes the number past what fits.
-/

namespace PacketFilter.Text

/-- The value of a digit or letter, the letters continuing after nine. -/
def digitValue (c : Char) : Option Nat :=
  if '0' ≤ c ∧ c ≤ '9' then some (c.toNat - '0'.toNat)
  else if 'a' ≤ c ∧ c ≤ 'z' then some (c.toNat - 'a'.toNat + 10)
  else if 'A' ≤ c ∧ c ≤ 'Z' then some (c.toNat - 'A'.toNat + 10)
  else none

def digit? (base : Nat) (c : Char) : Option Nat :=
  (digitValue c).filter (· < base)

inductive NumeralFault where
  | empty
  | invalidDigit
  | tooLarge
  deriving DecidableEq, Repr

def NumeralFault.message : NumeralFault → String
  | .empty => "cannot parse integer from empty string"
  | .invalidDigit => "invalid digit found in string"
  | .tooLarge => "number too large to fit in target type"

/-- Appends one digit to a number that has to stay below `bound`. -/
def appendDigit (base bound number : Nat) (c : Char) : Except NumeralFault Nat :=
  match digit? base c with
  | none => .error .invalidDigit
  | some digit =>
      if number * base + digit < bound then .ok (number * base + digit) else .error .tooLarge

def readNumeral (base bound : Nat) : List Char → Except NumeralFault Nat
  | [] => .error .empty
  | ['+'] => .error .invalidDigit
  | '+' :: digits => digits.foldlM (appendDigit base bound) 0
  | digits => digits.foldlM (appendDigit base bound) 0

def leadingDigits (base : Nat) : List Char → List Nat × List Char
  | [] => ([], [])
  | c :: rest =>
      match digit? base c with
      | none => ([], c :: rest)
      | some digit =>
          let (digits, rest) := leadingDigits base rest
          (digit :: digits, rest)

theorem length_leadingDigits_le (base : Nat) (chars : List Char) :
    (leadingDigits base chars).2.length ≤ chars.length := by
  fun_induction leadingDigits base chars with
  | case1 => simp
  | case2 => simp
  | case3 => simp_all; omega

def decimal (number : Nat) : String :=
  String.ofList (Nat.toDigits 10 number)

/-- The shortest numeral of a number in hexadecimal, with small letters. -/
def hexadecimal (number : Nat) : String :=
  String.ofList (Nat.toDigits 16 number)

end PacketFilter.Text
