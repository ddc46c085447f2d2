import PacketFilter.Proofs.Phrase.Grammar
import PacketFilter.Token.Reader

/-!
The grammar of expressions over words. The words are cut into pieces, each a mark or a primitive;
negations are counted from piece to piece and have to meet something that they can negate. Of the
cuts of the same words the greedy one is meant, in which no qualifier stands alone in front of what
it could take.
-/

namespace PacketFilter

inductive Mark.Spells : Mark → String → Prop where
  | and : Spells .and "and"
  | ampersands : Spells .and "&&"
  | or : Spells .or "or"
  | bars : Spells .or "||"
  | not : Spells .not "not"
  | exclamation : Spells .not "!"
  | openParen : Spells .openParen "("
  | closeParen : Spells .closeParen ")"

/-- A qualifier of the first form takes a primitive of the second form behind it. -/
inductive Form.Takes : Form → Form → Prop where
  | field : Takes .ip .field
  | endpoint : Takes .ip .endpoint
  | protocol : Takes .qualifier .endpoint

/-- The tokens of a primitive behind a count of negations, of which two cancel. One that is left is
taken into a single test, and stands in front of the parentheses of a qualified one. -/
def Primitive.tokensBehind (negations : Nat) : Primitive → List Token
  | single test =>
      [.test (if negations % 2 = 1 then { test with negated := !test.negated } else test)]
  | qualified qualifier test =>
      (if negations % 2 = 1 then [.not] else []) ++
        [.openParen, .test qualifier, .and, .test test, .closeParen]

inductive Piece where
  | mark (mark : Mark)
  | primitive (form : Form) (primitive : Primitive)
  deriving DecidableEq, Repr

namespace Piece

inductive Spells : Piece → List String → Prop where
  | mark {mark word} : Mark.Spells mark word → Spells (.mark mark) [word]
  | primitive {form primitive words} : Primitive.Spells form primitive words →
      Spells (.primitive form primitive) words

inductive Cut : List Piece → List String → Prop where
  | nil : Cut [] []
  | cons {piece pieces front rest} : Spells piece front → Cut pieces rest →
      Cut (piece :: pieces) (front ++ rest)

/-- The count of negations in a row behind a piece, with `negations` of them in front. -/
def count (negations : Nat) : Piece → Nat
  | mark .not => negations + 1
  | _ => 0

/-- What can stand behind a count of negations: connectives and closing parentheses cannot be
negated. -/
def Admits (negations : Nat) : Piece → Prop
  | mark .and => negations % 2 = 0
  | mark .or => negations % 2 = 0
  | mark .closeParen => negations % 2 = 0
  | _ => True

/-- The count of negations in a row is even before every connective, every closing parenthesis and
the end. -/
def Paired (negations : Nat) : List Piece → Prop
  | [] => negations % 2 = 0
  | piece :: pieces => piece.Admits negations ∧ Paired (piece.count negations) pieces

/-- A qualifier that stands alone and could take the piece behind it. -/
inductive Takes : Piece → Piece → Prop where
  | mk {form next qualifier taken} : Form.Takes form next →
      Takes (primitive form qualifier) (primitive next taken)

/-- No qualifier stands alone in front of what it could take. -/
def Greedy : List Piece → Prop
  | piece :: next :: pieces => ¬ Takes piece next ∧ Greedy (next :: pieces)
  | _ => True

def tokens (negations : Nat) : Piece → List Token
  | mark .and => [.and]
  | mark .or => [.or]
  | mark .not => []
  | mark .openParen => (if negations % 2 = 1 then [.not] else []) ++ [.openParen]
  | mark .closeParen => [.closeParen]
  | primitive _ written => written.tokensBehind negations

def tokensOf (negations : Nat) : List Piece → List Token
  | [] => []
  | piece :: pieces => piece.tokens negations ++ tokensOf (piece.count negations) pieces

end Piece

end PacketFilter
