import PacketFilter.Text.Numeral
import PacketFilter.Word

/-!
Why an expression is no filter, and why a set of filters cannot be built or reached. Faults of an
expression name the word at which reading stopped.
-/

namespace PacketFilter

inductive FilterError where
  /-- No phrase starts with this word. -/
  | unexpectedWord (word : Word)
  /-- Nothing that could be an operand follows the keyword. -/
  | missingOperand (keyword : Word) (expected : String)
  /-- The word stands in the place of an operand and is none. -/
  | invalidOperand (word : Word) (expected : String) (reason : String)
  /-- The keyword allows no comparison but equality. -/
  | unsupportedComparison (symbol : Word) (keyword : String)
  /-- Nothing that could be negated follows the negation at this place. -/
  | danglingNot (position : Nat)
  | emptyExpression
  | unbalancedParenthesis
  | incomplete (reason : String)
  /-- The default output lies beyond the outputs. -/
  | defaultOutputOutOfRange (output outputs : Nat)
  /-- The lock around the installed set cannot be taken. -/
  | locked (reason : String)
  deriving DecidableEq, Repr

namespace FilterError

def message : FilterError → String
  | unexpectedWord word =>
      "unexpected token '" ++ word.text ++ "' at position " ++ Text.decimal word.position
  | missingOperand keyword expected =>
      "'" ++ keyword.text ++ "' at position " ++ Text.decimal keyword.position ++ " requires " ++
        expected
  | invalidOperand word expected reason =>
      "invalid value '" ++ word.text ++ "' at position " ++ Text.decimal word.position ++
        ", expected " ++ expected ++ ": " ++ reason
  | unsupportedComparison symbol keyword =>
      "operator '" ++ symbol.text ++ "' is not supported by '" ++ keyword ++ "' at position " ++
        Text.decimal symbol.position
  | danglingNot position =>
      "'not' at position " ++ Text.decimal position ++
        " is not followed by a primitive or a group"
  | emptyExpression => "empty filter expression"
  | unbalancedParenthesis => "unbalanced parenthesis"
  | incomplete reason => "incomplete filter: " ++ reason
  | defaultOutputOutOfRange output outputs =>
      "default output " ++ Text.decimal output ++ " is out of range (" ++ Text.decimal outputs ++
        " outputs configured)"
  | locked reason => "unable to lock the program set: " ++ reason

end FilterError

structure Rejection where
  index : Nat
  expression : String
  error : FilterError
  deriving DecidableEq, Repr

def Rejection.message (rejection : Rejection) : String :=
  "expression " ++ Text.decimal rejection.index ++ " [" ++ rejection.expression ++
    "] rejected: " ++ rejection.error.message

end PacketFilter
