import PacketFilter.Formula.Basic
import PacketFilter.Token.Basic

/-!
The grammar of filters over tokens, apart from the way in which filters are read. An expression
joins terms by `or`, a term joins factors by `and`, and a factor is an atom behind any number of
negations, of which two cancel. Both connectives join to the left, and parentheses leave no trace in
the filter.
-/

namespace PacketFilter

/-- The layers of the grammar, from the one that binds least to the one that binds most. -/
inductive Level where
  | expression
  | term
  | factor
  | atom
  deriving DecidableEq, Repr

/-- Tokens are written for a filter on a layer of the grammar. -/
inductive Derives : Level → List Token → Formula → Prop where
  | test (leaf : Test) : Derives .atom [.test leaf] (.test leaf)
  | group {tokens formula} :
      Derives .expression tokens formula →
      Derives .atom (.openParen :: (tokens ++ [.closeParen])) formula
  | even {tokens formula} (count : Nat) : count % 2 = 0 →
      Derives .atom tokens formula →
      Derives .factor (List.replicate count .not ++ tokens) formula
  | odd {tokens formula} (count : Nat) : count % 2 = 1 →
      Derives .atom tokens formula →
      Derives .factor (List.replicate count .not ++ tokens) formula.negate
  | factor {tokens formula} : Derives .factor tokens formula → Derives .term tokens formula
  | and {first second left right} :
      Derives .term first left → Derives .factor second right →
      Derives .term (first ++ .and :: second) (.and left right)
  | term {tokens formula} : Derives .term tokens formula → Derives .expression tokens formula
  | or {first second left right} :
      Derives .expression first left → Derives .term second right →
      Derives .expression (first ++ .or :: second) (.or left right)

end PacketFilter
