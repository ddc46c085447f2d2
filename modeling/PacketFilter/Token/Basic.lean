import PacketFilter.Predicate.Printer

/-!
The tokens that expressions are made of, and the words that stand for connectives, negation and
parentheses.
-/

namespace PacketFilter

inductive Token where
  | test (test : Test)
  | and
  | or
  | not
  | openParen
  | closeParen
  deriving DecidableEq, Repr

def Token.text : Token → String
  | test written => written.text
  | and => "and"
  | or => "or"
  | not => "not"
  | openParen => "("
  | closeParen => ")"

/-- A word with a meaning of its own, which can never be an operand. -/
inductive Mark where
  | and
  | or
  | not
  | openParen
  | closeParen
  deriving DecidableEq, Repr

def Mark.ofText? : String → Option Mark
  | "and" => some .and
  | "&&" => some .and
  | "or" => some .or
  | "||" => some .or
  | "not" => some .not
  | "!" => some .not
  | "(" => some .openParen
  | ")" => some .closeParen
  | _ => none

def Mark.token : Mark → Token
  | and => .and
  | or => .or
  | not => .not
  | openParen => .openParen
  | closeParen => .closeParen

end PacketFilter
