import PacketFilter.Predicate.Satisfaction

/-!
Filters as trees of tests, and the packets that they match.
-/

namespace PacketFilter

inductive Formula where
  | test (test : Test)
  | not (operand : Formula)
  | and (left right : Formula)
  | or (left right : Formula)
  deriving DecidableEq, Repr

namespace Formula

/-- The opposite filter. A test takes the negation into itself, and a negation is taken off. -/
def negate : Formula → Formula
  | test leaf => test leaf.negate
  | not operand => operand
  | formula => not formula

/-- The filter behind a count of negations. -/
def negated (negations : Nat) (formula : Formula) : Formula :=
  if negations % 2 = 1 then formula.negate else formula

theorem negated_of_even {negations : Nat} (even : negations % 2 = 0) (formula : Formula) :
    formula.negated negations = formula := by
  rw [negated, even, if_neg Nat.zero_ne_one]

theorem negated_of_odd {negations : Nat} (odd : negations % 2 = 1) (formula : Formula) :
    formula.negated negations = formula.negate :=
  if_pos odd

def accepts (packet : Packet) : Formula → Bool
  | test leaf => leaf.passes packet
  | not operand => !operand.accepts packet
  | and left right => left.accepts packet && right.accepts packet
  | or left right => left.accepts packet || right.accepts packet

def testCount : Formula → Nat
  | test _ => 1
  | not operand => operand.testCount
  | and left right => left.testCount + right.testCount
  | or left right => left.testCount + right.testCount

end Formula

end PacketFilter
