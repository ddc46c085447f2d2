import PacketFilter.Formula.Basic
import PacketFilter.Predicate.Printer

/-!
The text of a filter. Connectives are put in parentheses, and the negation of a test is written as
a part of the test.
-/

namespace PacketFilter.Formula

def text : Formula → String
  | test leaf => leaf.text
  | not (test leaf) => leaf.negate.text
  | not operand => "not " ++ operand.text
  | and left right => "(" ++ left.text ++ " and " ++ right.text ++ ")"
  | or left right => "(" ++ left.text ++ " or " ++ right.text ++ ")"

end PacketFilter.Formula
