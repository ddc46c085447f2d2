import PacketFilter.Proofs.Formula.Composition

/-!
Tokens are lexed back from their texts. The texts are joined by single blanks, and a text is cut
into its own words there; the words of a token spell a mark or a primitive that takes nothing of
the words behind it. A negation is a token only in front of a parenthesis, for in front of a test
it would be taken into the test, and two in a row would cancel.
-/

namespace PacketFilter

namespace Piece

variable {piece : Piece} {pieces : List Piece}

theorem Greedy.cons_settled (greedy : Greedy pieces) (settled : piece.Settled) :
    Greedy (piece :: pieces) := by
  cases pieces with
  | nil => trivial
  | cons next pieces => exact ⟨settled next, greedy⟩

end Piece

namespace Token

def words : Token → List String
  | test leaf => leaf.words
  | and => ["and"]
  | or => ["or"]
  | not => ["not"]
  | openParen => ["("]
  | closeParen => [")"]

def joined (tokens : List Token) : String :=
  " ".intercalate (tokens.map text)

/-- Directly behind every negation a parenthesis is opened. -/
def Guarded (tokens : List Token) : Prop :=
  ∀ place, tokens[place]? = some not → tokens[place + 1]? = some openParen

theorem cutsInto_text (token : Token) : Word.CutsInto token.text.toList token.words := by
  have parenthesis (c : Char) (parenthesis : Word.isParenthesis c) :
      Word.CutsInto [c] [String.ofList [c]] :=
    fun rest _ => Word.texts_parenthesis parenthesis rest
  cases token with
  | test leaf => exact leaf.cutsInto_text
  | and => exact Word.cutsInto_keyword "and" (by decide) (by decide)
  | or => exact Word.cutsInto_keyword "or" (by decide) (by decide)
  | not => exact Word.cutsInto_keyword "not" (by decide) (by decide)
  | openParen => exact parenthesis '(' (by decide)
  | closeParen => exact parenthesis ')' (by decide)

theorem cutsInto_joined (tokens : List Token) :
    Word.CutsInto (joined tokens).toList (tokens.flatMap words) := by
  unfold joined
  induction tokens with
  | nil => exact fun rest _ => rfl
  | cons token tokens inductionHypothesis =>
      cases tokens with
      | nil => simpa using token.cutsInto_text
      | cons next tokens =>
          have apart := token.cutsInto_text.append inductionHypothesis
          rw [List.map_cons, List.map_cons, String.intercalate_cons_cons, List.flatMap_cons]
          simpa using apart

namespace Guarded

variable {token : Token} {tokens first second : List Token}

theorem nil : Guarded [] := by
  intro place found
  contradiction

theorem cons (other : token ≠ not) (guarded : Guarded tokens) : Guarded (token :: tokens) := by
  intro place found
  cases place with
  | zero => exact absurd (Option.some.inj found) other
  | succ place => exact guarded place found

theorem negation (guarded : Guarded (openParen :: tokens)) :
    Guarded (not :: openParen :: tokens) := by
  intro place found
  cases place with
  | zero => rfl
  | succ place => exact guarded place found

theorem tail (guarded : Guarded (token :: tokens)) : Guarded tokens :=
  fun place found => guarded (place + 1) found

theorem append (before : Guarded first) (behind : Guarded second) : Guarded (first ++ second) := by
  intro place found
  by_cases inside : place < first.length
  · rw [List.getElem?_append_left inside] at found
    have parenthesis := before place found
    obtain ⟨next, _⟩ := List.getElem?_eq_some_iff.1 parenthesis
    rw [List.getElem?_append_left next, parenthesis]
  · have outside : first.length ≤ place := by omega
    rw [List.getElem?_append_right outside] at found
    rw [List.getElem?_append_right (by omega), Nat.sub_add_comm outside]
    exact behind _ found

end Guarded

theorem Guarded.opened (negated : Prop) [Decidable negated] {tokens : List Token}
    (guarded : Guarded tokens) :
    Guarded ((if negated then [not] else []) ++ openParen :: tokens) := by
  have opened : Guarded (openParen :: tokens) := guarded.cons (by simp)
  split
  · exact opened.negation
  · exact opened

end Token

open Token

namespace Piece

theorem guarded_tokens (piece : Piece) (negations : Nat) : Guarded (piece.tokens negations) := by
  cases piece with
  | primitive form written =>
      cases written with
      | single leaf => exact Guarded.nil.cons (by simp)
      | qualified qualifier leaf =>
          have behind : Guarded [.test leaf, closeParen] :=
            (Guarded.nil.cons (by simp)).cons (by simp)
          have conjunction : Guarded [.test qualifier, and, .test leaf, closeParen] :=
            (behind.cons (by simp)).cons (by simp)
          exact conjunction.opened _
  | mark mark =>
      cases mark with
      | not => exact Guarded.nil
      | openParen => exact Guarded.nil.opened _
      | and | or | closeParen => exact Guarded.nil.cons (by decide)

theorem guarded_tokensOf (pieces : List Piece) (negations : Nat) :
    Guarded (tokensOf negations pieces) := by
  induction pieces generalizing negations with
  | nil => exact Guarded.nil
  | cons piece pieces inductionHypothesis =>
      exact (piece.guarded_tokens negations).append (inductionHypothesis _)

end Piece

namespace Token

namespace Lexed

variable {words : List String} {tokens : List Token}

/-- The words of a test in front of others. The last word of the test takes none of them, and the
negation in front goes into the test. -/
theorem cons_test {leaf : Test} (expressible : leaf.Expressible) (lexed : Lexed words tokens) :
    Lexed (leaf.words ++ words) (.test leaf :: tokens) := by
  obtain ⟨form, unqualified, spells⟩ := leaf.spells expressible
  obtain ⟨pieces, cut, paired, greedy, rfl⟩ := lexed
  have affirmed := Piece.Cut.cons (.primitive spells) cut
  have greedy := greedy.cons_settled (Piece.settled_primitive (.single leaf.affirmed) unqualified)
  obtain ⟨predicate, comparison, negated, compared⟩ := leaf
  cases negated with
  | false =>
      exact ⟨.primitive form _ :: pieces, affirmed, ⟨trivial, paired⟩, greedy, rfl⟩
  | true =>
      have negated := Piece.Cut.cons (.mark .not) affirmed
      exact ⟨.mark .not :: .primitive form _ :: pieces, negated, ⟨trivial, trivial, paired⟩,
        greedy.cons_mark, rfl⟩

end Lexed

/-- The words of tokens are lexed as the tokens. -/
theorem lexed_words (tokens : List Token) (guarded : Guarded tokens)
    (expressible : ∀ token ∈ tokens, token.Expressible) :
    Lexed (tokens.flatMap words) tokens := by
  match tokens with
  | [] => exact .nil
  | token :: rest =>
      obtain ⟨first, others⟩ := List.forall_mem_cons.1 expressible
      cases token with
      | test leaf => exact (lexed_words rest guarded.tail others).cons_test first
      | openParen => exact (lexed_words rest guarded.tail others).opened
      | and => exact Lexed.nil.append_mark .and .and (lexed_words rest guarded.tail others)
      | or => exact Lexed.nil.append_mark .or .or (lexed_words rest guarded.tail others)
      | closeParen =>
          exact Lexed.nil.append_mark .closeParen .closeParen (lexed_words rest guarded.tail others)
      | not =>
          -- The negation is lexed with the parenthesis that it stands in front of.
          cases rest with
          | nil => cases guarded 0 rfl
          | cons next rest =>
              cases guarded 0 rfl
              have others := (List.forall_mem_cons.1 others).2
              exact (lexed_words rest guarded.tail.tail others).negatedOpened
  termination_by tokens.length

/-- What was lexed has its negations in front of parentheses, and the language can express its
tests. -/
theorem Lexed.guarded {words : List String} {tokens : List Token} (lexed : Lexed words tokens) :
    Guarded tokens ∧ ∀ token ∈ tokens, token.Expressible := by
  obtain ⟨pieces, cut, _, _, rfl⟩ := lexed
  exact ⟨Piece.guarded_tokensOf pieces 0, cut.expressible 0⟩

/-- Tokens that were lexed are lexed again from their joined texts, and so are any tokens with
their negations in front of parentheses and with tests that the language can express. No token
takes anything of its neighbours, whether the tokens are a filter or not. -/
theorem lex_joined :
    (∀ expression tokens, lex expression = .ok tokens → lex (joined tokens) = .ok tokens) ∧
    ∀ tokens, Guarded tokens → (∀ token ∈ tokens, token.Expressible) →
      lex (joined tokens) = .ok tokens := by
  have again : ∀ tokens, Guarded tokens → (∀ token ∈ tokens, token.Expressible) →
      lex (joined tokens) = .ok tokens := by
    intro tokens guarded expressible
    rw [lex_eq_ok_iff_lexed, (cutsInto_joined tokens).texts_eq]
    exact lexed_words tokens guarded expressible
  refine ⟨fun expression tokens lexed => ?_, again⟩
  obtain ⟨guarded, expressible⟩ := (lex_eq_ok_iff_lexed.1 lexed).guarded
  exact again tokens guarded expressible

/-- Tokens that are no filter: a qualifier in front of an address that it could take, and a
negated group in front of an unmatched parenthesis. -/
theorem lex_joined_of_neighbours :
    let version : Test := .bind (.numeric .version 4) none false
    let host : Test := .bind (.host .source (.single (.v4 0x0a000001#32))) (some .ne) false
    let flag : Test := .bind (.tcpFlag .ack) none true
    let port : Test := .bind (.port .either 80) none false
    let protocol : Test := .bind (.numeric .protocol 17) none false
    let tokens : List Token :=
      [.test version, .test host, .not, .openParen, .test flag, .closeParen, .closeParen]
    let qualified : List Token :=
      [.closeParen, .not, .openParen, .test protocol, .and, .test port, .closeParen]
    joined tokens = "ip vers 4 src host != 10.0.0.1 not ( not tcp opt ack ) )" ∧
      Guarded tokens ∧ (∀ token ∈ tokens, token.Expressible) ∧
      lex (joined tokens) = .ok tokens ∧
      lex ")!udp port 0x50" = .ok qualified ∧ lex (joined qualified) = .ok qualified := by
  intro version host flag port protocol tokens qualified
  have closing : Guarded [.test flag, .closeParen, .closeParen] :=
    ((Guarded.nil.cons (by simp)).cons (by simp)).cons (by simp)
  have guarded : Guarded tokens :=
    ((closing.cons (by simp)).negation.cons (by simp)).cons (by simp)
  have expressible : ∀ token ∈ tokens, token.Expressible := by
    simp only [tokens, List.forall_mem_cons, List.not_mem_nil, false_implies, implies_true]
    have bounded : version.Expressible := by decide
    exact ⟨bounded, rfl, trivial, trivial, trivial, trivial, trivial, trivial⟩
  have lexed : lex ")!udp port 0x50" = .ok qualified := eq_ok_of_toOption (by decide +kernel)
  exact ⟨by decide +kernel, guarded, expressible, lex_joined.2 tokens guarded expressible, lexed,
    lex_joined.1 _ qualified lexed⟩

end Token

end PacketFilter
