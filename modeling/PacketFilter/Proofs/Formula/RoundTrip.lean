import PacketFilter.Formula.Printer
import PacketFilter.Formula.Reader
import PacketFilter.Proofs.Formula.Normal
import PacketFilter.Proofs.Formula.Parsing
import PacketFilter.Proofs.Predicate.Spelling
import PacketFilter.Proofs.Predicate.Words
import PacketFilter.Proofs.Token.Lexing

/-!
The text of a filter is compiled to the normal form of the filter. Its words are cut into pieces of
which none could take another one, and in any context the tokens of the pieces are a factor of the
grammar of filters; a negation in front is counted until something takes it.
-/

namespace PacketFilter

namespace Piece

theorem Cut.append {first second : List Piece} {left right : List String}
    (before : Cut first left) (behind : Cut second right) :
    Cut (first ++ second) (left ++ right) := by
  induction before with
  | nil => exact behind
  | cons spells _ inductionHypothesis =>
      rw [List.append_assoc]
      exact .cons spells inductionHypothesis

def Settled (piece : Piece) : Prop :=
  ∀ next, ¬ Takes piece next

theorem greedy_of_settled {pieces : List Piece} (settled : ∀ piece ∈ pieces, piece.Settled) :
    Greedy pieces := by
  induction pieces with
  | nil => trivial
  | cons piece pieces inductionHypothesis =>
      have greedy := inductionHypothesis fun other member =>
        settled other (List.mem_cons_of_mem _ member)
      cases pieces with
      | nil => trivial
      | cons next pieces => exact ⟨settled piece List.mem_cons_self next, greedy⟩

theorem settled_mark (mark : Mark) : (Piece.mark mark).Settled := by
  rintro next ⟨⟩

theorem settled_primitive {form : Form} (primitive : Primitive)
    (unqualified : form = .closed ∨ form = .endpoint) :
    (Piece.primitive form primitive).Settled := by
  rintro next ⟨takes⟩
  rcases unqualified with rfl | rfl <;> cases takes

end Piece

/-- Words that are read as a filter in front of anything. -/
structure Expresses (words : List String) (pieces : List Piece) (formula : Formula) : Prop where
  cut : Piece.Cut pieces words
  settled : ∀ piece ∈ pieces, piece.Settled
  paired : ∀ rest, Piece.Paired 0 rest → Piece.Paired 0 (pieces ++ rest)
  tokens : ∃ tokens, Derives .expression tokens formula ∧
    ∀ rest, Piece.tokensOf 0 (pieces ++ rest) = tokens ++ Piece.tokensOf 0 rest

/-- Words that are read as a filter behind any negations and in front of anything. -/
structure Reads (words : List String) (pieces : List Piece) (formula : Formula) : Prop where
  cut : Piece.Cut pieces words
  settled : ∀ piece ∈ pieces, piece.Settled
  paired : ∀ negations rest, Piece.Paired 0 rest → Piece.Paired negations (pieces ++ rest)
  tokens : ∀ negations, ∃ tokens, Derives .factor tokens (formula.negated negations) ∧
    ∀ rest, Piece.tokensOf negations (pieces ++ rest) = tokens ++ Piece.tokensOf 0 rest

namespace Reads

variable {words left right : List String} {pieces first second : List Piece}
variable {formula front back : Formula}

theorem affirmed {form : Form} {test : Test} (unqualified : form = .closed ∨ form = .endpoint)
    (spells : Primitive.Spells form (.single test) words) :
    Reads words [.primitive form (.single test)] (.test test) where
  cut := by simpa using Piece.Cut.cons (.primitive spells) .nil
  settled := by
    intro piece member
    rw [List.mem_singleton.1 member]
    exact Piece.settled_primitive _ unqualified
  paired negations rest paired := ⟨trivial, paired⟩
  tokens negations := by
    refine ⟨(Primitive.single test).tokensBehind negations, ?_, fun rest => rfl⟩
    rcases Nat.mod_two_eq_zero_or_one negations with even | odd
    · rw [Formula.negated_of_even even, Primitive.tokensBehind, if_neg (by omega)]
      exact .even 0 rfl (.test test)
    · rw [Formula.negated_of_odd odd, Primitive.tokensBehind, if_pos odd]
      exact .even 0 rfl (.test test.negate)

theorem not (reads : Reads words pieces formula) (canonical : formula.Canonical) :
    Reads ("not" :: words) (.mark .not :: pieces) formula.negate where
  cut := .cons (.mark .not) reads.cut
  settled := List.forall_mem_cons.2 ⟨Piece.settled_mark .not, reads.settled⟩
  paired negations rest paired := ⟨trivial, reads.paired (negations + 1) rest paired⟩
  tokens negations := by
    obtain ⟨tokens, derives, eq⟩ := reads.tokens (negations + 1)
    rw [canonical.negated_succ] at derives
    exact ⟨tokens, derives, eq⟩

theorem expresses (reads : Reads words pieces formula) : Expresses words pieces formula where
  cut := reads.cut
  settled := reads.settled
  paired := reads.paired 0
  tokens := by
    obtain ⟨tokens, derives, eq⟩ := reads.tokens 0
    exact ⟨tokens, .term (.factor derives), eq⟩

theorem connected {mark : Mark} {text : String} (spells : mark.Spells text)
    (connective : mark = .and ∨ mark = .or) (before : Reads left first front)
    (behind : Reads right second back) :
    Expresses (left ++ text :: right) (first ++ .mark mark :: second)
      (if mark = .and then .and front back else .or front back) where
  cut := before.cut.append (.cons (.mark spells) behind.cut)
  settled := by
    refine List.forall_mem_append.2 ⟨before.settled, ?_⟩
    exact List.forall_mem_cons.2 ⟨Piece.settled_mark mark, behind.settled⟩
  paired rest paired := by
    rw [List.append_assoc]
    refine before.paired 0 _ ⟨?_, ?_⟩
    · rcases connective with rfl | rfl <;> rfl
    · rcases connective with rfl | rfl <;> exact behind.paired 0 rest paired
  tokens := by
    obtain ⟨tokens, derives, eq⟩ := before.tokens 0
    obtain ⟨others, derivesBehind, eqBehind⟩ := behind.tokens 0
    refine ⟨tokens ++ mark.token :: others, ?_, fun rest => ?_⟩
    · rcases connective with rfl | rfl
      · exact .term (.and (.factor derives) derivesBehind)
      · exact .or (.term (.factor derives)) (.factor derivesBehind)
    · rw [List.append_assoc, eq, List.append_assoc]
      rcases connective with rfl | rfl <;>
        simp [Piece.tokensOf, Piece.tokens, Piece.count, Mark.token, eqBehind]

end Reads

/-- In parentheses a filter can be negated from outside. -/
theorem Expresses.parenthesized {words : List String} {pieces : List Piece} {formula : Formula}
    (expresses : Expresses words pieces formula) :
    Reads ("(" :: (words ++ [")"])) (.mark .openParen :: (pieces ++ [.mark .closeParen]))
      formula where
  cut := .cons (.mark .openParen) (expresses.cut.append (.cons (.mark .closeParen) .nil))
  settled := by
    refine List.forall_mem_cons.2 ⟨Piece.settled_mark _, ?_⟩
    refine List.forall_mem_append.2 ⟨expresses.settled, ?_⟩
    exact List.forall_mem_cons.2 ⟨Piece.settled_mark _, List.forall_mem_nil _⟩
  paired negations rest paired := by
    rw [List.cons_append, List.append_assoc]
    exact ⟨trivial, expresses.paired _ ⟨rfl, paired⟩⟩
  tokens negations := by
    obtain ⟨tokens, derives, eq⟩ := expresses.tokens
    have factor := Derives.negations (negations % 2) (.group derives)
    rw [formula.negated_mod] at factor
    refine ⟨_, factor, fun rest => ?_⟩
    have closed := eq (.mark .closeParen :: rest)
    by_cases odd : negations % 2 = 1
    · simp [Piece.tokensOf, Piece.tokens, Piece.count, closed, odd]
    · have even : negations % 2 = 0 := by omega
      simp [Piece.tokensOf, Piece.tokens, Piece.count, closed, even]

theorem Expresses.compile {words : List String} {pieces : List Piece} {formula : Formula}
    {expression : String} (expresses : Expresses words pieces formula)
    (cuts : Word.CutsInto expression.toList words) :
    Formula.compile expression = .ok formula := by
  obtain ⟨tokens, derives, eq⟩ := expresses.tokens
  have texts : (Word.cut expression).map Word.text = words := by
    rw [Word.map_text_cut, cuts.texts_eq]
  have paired := expresses.paired [] rfl
  have lexed := Token.ofWords_of_cut expresses.cut texts
    (Piece.greedy_of_settled expresses.settled) (by simpa using paired) Token.isPending_zero
  have whole := eq []
  rw [List.append_nil, Piece.tokensOf, List.append_nil] at whole
  rw [Formula.compile, Token.lex, lexed, ok_bind, whole]
  exact Formula.ofTokens_of_derives derives

namespace Test

theorem reads_words (test : Test) (expressible : test.Expressible) :
    ∃ pieces, Reads test.words pieces (.test test) := by
  obtain ⟨form, unqualified, spells⟩ := test.spells expressible
  have affirmed := Reads.affirmed unqualified spells
  obtain ⟨predicate, comparison, negated, compared⟩ := test
  cases negated with
  | false => exact ⟨_, affirmed⟩
  | true => exact ⟨_, affirmed.not trivial⟩

end Test

namespace Formula

def words : Formula → List String
  | test leaf => leaf.words
  | not (test leaf) => leaf.negate.words
  | not operand => "not" :: operand.words
  | and left right => "(" :: (left.words ++ "and" :: right.words ++ [")"])
  | or left right => "(" :: (left.words ++ "or" :: right.words ++ [")"])

def Expressible : Formula → Prop
  | test leaf => leaf.Expressible
  | not operand => operand.Expressible
  | and left right => left.Expressible ∧ right.Expressible
  | or left right => left.Expressible ∧ right.Expressible

instance decidableExpressible : (formula : Formula) → Decidable formula.Expressible
  | .test leaf => inferInstanceAs (Decidable leaf.Expressible)
  | .not operand => decidableExpressible operand
  | .and left right | .or left right =>
      @instDecidableAnd _ _ (decidableExpressible left) (decidableExpressible right)

theorem cutsInto_text (formula : Formula) : Word.CutsInto formula.text.toList formula.words := by
  fun_induction text formula with
  | case1 leaf => exact leaf.cutsInto_text
  | case2 leaf => exact leaf.negate.cutsInto_text
  | case3 operand other inductionHypothesis =>
      have words : (not operand).words = "not" :: operand.words := by
        cases operand with
        | test leaf => exact absurd rfl (other leaf)
        | _ => rfl
      have keyword := Word.cutsInto_keyword "not" (by decide) (by decide)
      have negation := keyword.append inductionHypothesis
      rw [words]
      simpa using negation
  | case4 left right leftHypothesis rightHypothesis =>
      have keyword := Word.cutsInto_keyword "and" (by decide) (by decide)
      have connective := keyword.append rightHypothesis
      have connected := (leftHypothesis.append connective).parenthesized
      simpa [words] using connected
  | case5 left right leftHypothesis rightHypothesis =>
      have keyword := Word.cutsInto_keyword "or" (by decide) (by decide)
      have connective := keyword.append rightHypothesis
      have connected := (leftHypothesis.append connective).parenthesized
      simpa [words] using connected

/-- The words of a filter are read as its normal form. -/
theorem reads_words (formula : Formula) (expressible : formula.Expressible) :
    ∃ pieces, Reads formula.words pieces formula.normal := by
  fun_induction words formula with
  | case1 leaf => exact leaf.reads_words expressible
  | case2 leaf => exact leaf.negate.reads_words expressible
  | case3 operand other inductionHypothesis =>
      obtain ⟨pieces, reads⟩ := inductionHypothesis expressible
      exact ⟨_, reads.not operand.canonical_normal⟩
  | case4 left right leftHypothesis rightHypothesis =>
      obtain ⟨first, before⟩ := leftHypothesis expressible.1
      obtain ⟨second, behind⟩ := rightHypothesis expressible.2
      exact ⟨_, (before.connected .and (.inl rfl) behind).parenthesized⟩
  | case5 left right leftHypothesis rightHypothesis =>
      obtain ⟨first, before⟩ := leftHypothesis expressible.1
      obtain ⟨second, behind⟩ := rightHypothesis expressible.2
      exact ⟨_, (before.connected .or (.inr rfl) behind).parenthesized⟩

theorem Expressible.negate {formula : Formula} (expressible : formula.Expressible) :
    formula.negate.Expressible := by
  cases formula <;> exact expressible

end Formula

def Token.Expressible : Token → Prop
  | test leaf => leaf.Expressible
  | _ => True

namespace Piece

variable (negations : Nat)

theorem expressible_mark (mark : Mark) :
    ∀ token ∈ (Piece.mark mark).tokens negations, token.Expressible := by
  cases mark with
  | openParen => by_cases odd : negations % 2 = 1 <;> simp [tokens, Token.Expressible, odd]
  | and | or | not | closeParen => simp [tokens, Token.Expressible]

theorem expressible_primitive (form : Form) {written : Primitive}
    (expressible : written.Expressible) :
    ∀ token ∈ (primitive form written).tokens negations, token.Expressible := by
  cases written with
  | single test =>
      intro token member
      rw [List.mem_singleton.1 member]
      split <;> exact expressible
  | qualified qualifier test =>
      refine List.forall_mem_append.2 ⟨?_, ?_⟩
      · split <;> simp [Token.Expressible]
      · simp [Token.Expressible, expressible.1, expressible.2]

end Piece

theorem Piece.Cut.expressible {pieces : List Piece} {words : List String} (cut : Cut pieces words)
    (negations : Nat) : ∀ token ∈ tokensOf negations pieces, token.Expressible := by
  induction cut generalizing negations with
  | nil => exact List.forall_mem_nil _
  | cons spells _ inductionHypothesis =>
      refine List.forall_mem_append.2 ⟨?_, inductionHypothesis _⟩
      cases spells with
      | primitive spelled => exact expressible_primitive negations _ spelled.expressible
      | mark => exact expressible_mark negations _

theorem Derives.expressible {level : Level} {tokens : List Token} {formula : Formula}
    (derived : Derives level tokens formula) (expressible : ∀ token ∈ tokens, token.Expressible) :
    formula.Expressible := by
  induction derived with
  | test leaf => exact expressible _ List.mem_cons_self
  | group _ inductionHypothesis =>
      obtain ⟨_, inside⟩ := List.forall_mem_cons.1 expressible
      exact inductionHypothesis (List.forall_mem_append.1 inside).1
  | even _ _ _ inductionHypothesis =>
      exact inductionHypothesis (List.forall_mem_append.1 expressible).2
  | odd _ _ _ inductionHypothesis =>
      exact (inductionHypothesis (List.forall_mem_append.1 expressible).2).negate
  | factor _ inductionHypothesis => exact inductionHypothesis expressible
  | and _ _ leftHypothesis rightHypothesis =>
      obtain ⟨left, right⟩ := List.forall_mem_append.1 expressible
      exact ⟨leftHypothesis left, rightHypothesis (List.forall_mem_cons.1 right).2⟩
  | term _ inductionHypothesis => exact inductionHypothesis expressible
  | or _ _ leftHypothesis rightHypothesis =>
      obtain ⟨left, right⟩ := List.forall_mem_append.1 expressible
      exact ⟨leftHypothesis left, rightHypothesis (List.forall_mem_cons.1 right).2⟩

namespace Formula

/-- What was compiled is normal, and the language can express it. -/
theorem canonical_of_compile {expression : String} {formula : Formula}
    (compiled : compile expression = .ok formula) : formula.Canonical ∧ formula.Expressible := by
  obtain ⟨tokens, lexed, read⟩ := bind_eq_ok.1 compiled
  obtain ⟨pieces, cut, _, _, rfl⟩ := Token.cut_of_ofWords Token.isPending_zero lexed
  have derived := derives_of_ofTokens read
  exact ⟨derived.canonical, derived.expressible (cut.expressible 0)⟩

/-- The text of a filter that the language can express is compiled to the normal form of the
filter, which matches the same packets; and what was compiled is its own normal form, so that its
text is compiled to it. -/
theorem compile_text :
    (∀ formula : Formula, formula.Expressible → compile formula.text = .ok formula.normal ∧
      ∀ packet, formula.normal.accepts packet = formula.accepts packet) ∧
    ∀ expression formula, compile expression = .ok formula →
      formula.normal = formula ∧ compile formula.text = .ok formula := by
  have reads : ∀ formula : Formula, formula.Expressible →
      compile formula.text = .ok formula.normal := by
    intro formula expressible
    obtain ⟨pieces, reads⟩ := formula.reads_words expressible
    exact reads.expresses.compile formula.cutsInto_text
  refine ⟨?_, ?_⟩
  · intro formula expressible
    exact ⟨reads formula expressible, fun packet => formula.accepts_normal⟩
  · intro expression formula compiled
    obtain ⟨canonical, expressible⟩ := canonical_of_compile compiled
    have compiled := reads formula expressible
    rw [canonical.normal_eq] at compiled
    exact ⟨canonical.normal_eq, compiled⟩

theorem compile_text_of_negations :
    let port : Test := .bind (.port .source 53) (some .ge) true
    let network : Test :=
      .bind (.net .either (.v6 ⟨0x20010db8#128 <<< 96, 32, by decide⟩)) none false
    let formula : Formula := .not (.not (.or (.test port) (.not (.test network))))
    formula.text = "not not (not src port >= 53 or not net 2001:db8::/32)" ∧
      formula.normal = .or (.test port) (.test network.negate) ∧
      compile formula.text = .ok formula.normal ∧
      compile formula.normal.text = .ok formula.normal := by
  intro port network formula
  have compiled := compile_text.1 formula (by decide)
  exact ⟨by decide +kernel, rfl, compiled.1, (compile_text.2 formula.text _ compiled.1).2⟩

end Formula

end PacketFilter
