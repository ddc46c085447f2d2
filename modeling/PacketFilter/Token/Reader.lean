import PacketFilter.Phrase.Reader

/-!
The tokens of an expression. A negation in front of a primitive goes into the test, a negation in
front of a parenthesis is a token, and two in a row cancel. A qualified primitive becomes a
conjunction in parentheses.
-/

namespace PacketFilter

/-- The tokens of a primitive, negated if a negation is pending. -/
def Primitive.tokens (negated : Bool) : Primitive → List Token
  | single test => [.test (if negated then test.negate else test)]
  | qualified qualifier test =>
      (if negated then [.not] else []) ++
        [.openParen, .test qualifier, .and, .test test, .closeParen]

namespace Token

/-- The tokens of the words of an expression. A negation that has not met its operand is pending,
and known by its place. -/
def ofWords (pending : Option Nat) : List Word → Except FilterError (List Token)
  | [] =>
      match pending with
      | some position => .error (.danglingNot position)
      | none => .ok []
  | word :: rest =>
      match Mark.ofText? word.text with
      | some .not => ofWords (if pending.isSome then none else some word.position) rest
      | some .openParen => do
          let tokens ← ofWords none rest
          .ok ((if pending.isSome then [.not] else []) ++ openParen :: tokens)
      | some mark =>
          match pending with
          | some position => .error (.danglingNot position)
          | none => do
              let tokens ← ofWords none rest
              .ok (mark.token :: tokens)
      | none =>
          match _read : Primitive.read word rest with
          | .error error => .error error
          | .ok (primitive, rest) => do
              let tokens ← ofWords none rest
              .ok (primitive.tokens pending.isSome ++ tokens)
  termination_by words => words.length
  decreasing_by
    · simp
    · simp
    · simp
    · exact Nat.lt_succ_of_le (Primitive.length_le_of_read _read)

def lex (expression : String) : Except FilterError (List Token) :=
  ofWords none (Word.cut expression)

end Token

end PacketFilter
