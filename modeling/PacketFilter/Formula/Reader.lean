import PacketFilter.Formula.ParseStack
import PacketFilter.Token.Reader

/-!
Compiling an expression: its words become tokens, and its tokens a filter.
-/

namespace PacketFilter.Formula

def compile (expression : String) : Except FilterError Formula := do
  let tokens ← Token.lex expression
  ofTokens tokens

def compiledGroups (expression : String) : List Formula :=
  match Token.lex expression with
  | .ok tokens => groupsOfTokens tokens
  | .error _ => []

end PacketFilter.Formula
