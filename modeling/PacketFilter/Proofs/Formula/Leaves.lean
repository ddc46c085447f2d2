import PacketFilter.Proofs.Formula.Normal
import PacketFilter.Proofs.Formula.Parsing
import PacketFilter.Proofs.Predicate.Spelling

/-!
The tests of a filter. Whatever negations and parentheses stand between them, the tests that were
read are those of the tokens, in their order, and only whether a test is negated may have changed.
Filters that are read are canonical, and so is everything that is composed of them; a canonical
filter is what its opposite is the opposite of.
-/

namespace PacketFilter

def Token.test? : Token → Option Test
  | test leaf => some leaf
  | _ => none

def Token.tests (tokens : List Token) : List Test :=
  tokens.filterMap test?

namespace Formula

def tests : Formula → List Test
  | test leaf => [leaf]
  | not operand => operand.tests
  | and left right => left.tests ++ right.tests
  | or left right => left.tests ++ right.tests

/-- The tests of a filter without their negations. -/
def affirmedTests (formula : Formula) : List Test :=
  formula.tests.map Test.affirmed

theorem testCount_eq_length (formula : Formula) : formula.testCount = formula.tests.length := by
  induction formula with
  | test leaf => rfl
  | not operand inductionHypothesis => exact inductionHypothesis
  | and left right leftHypothesis rightHypothesis
  | or left right leftHypothesis rightHypothesis =>
      rw [testCount, tests, List.length_append, leftHypothesis, rightHypothesis]

@[simp]
theorem affirmedTests_and (left right : Formula) :
    (and left right).affirmedTests = left.affirmedTests ++ right.affirmedTests :=
  List.map_append

@[simp]
theorem affirmedTests_or (left right : Formula) :
    (or left right).affirmedTests = left.affirmedTests ++ right.affirmedTests :=
  List.map_append

theorem affirmedTests_negate (formula : Formula) :
    formula.negate.affirmedTests = formula.affirmedTests := by
  cases formula <;> rfl

theorem testCount_eq_of_affirmedTests {formula : Formula} {tests : List Test}
    (same : formula.affirmedTests = tests.map Test.affirmed) :
    formula.testCount = tests.length := by
  have lengths := congrArg List.length same
  rw [affirmedTests, List.length_map, List.length_map] at lengths
  rw [testCount_eq_length, lengths]

theorem testCount_negate (formula : Formula) : formula.negate.testCount = formula.testCount := by
  rw [testCount_eq_of_affirmedTests formula.affirmedTests_negate, testCount_eq_length]

end Formula

namespace Token

@[simp]
theorem tests_append (first second : List Token) :
    tests (first ++ second) = tests first ++ tests second :=
  List.filterMap_append

@[simp]
theorem tests_nil : tests [] = [] := rfl

theorem tests_cons {token : Token} (other : token.test? = none) (tokens : List Token) :
    tests (token :: tokens) = tests tokens :=
  List.filterMap_cons_none other

theorem tests_negations (count : Nat) : tests (List.replicate count not) = [] :=
  List.filterMap_replicate_of_none rfl

end Token

/-- A derivation keeps the tests of its tokens. -/
theorem Derives.affirmedTests_eq {level : Level} {tokens : List Token} {formula : Formula}
    (derived : Derives level tokens formula) :
    formula.affirmedTests = (Token.tests tokens).map Test.affirmed := by
  induction derived with
  | test leaf => rfl
  | group _ inductionHypothesis =>
      rw [inductionHypothesis, Token.tests_cons rfl, Token.tests_append, Token.tests_cons rfl,
        Token.tests_nil, List.append_nil]
  | even count _ _ inductionHypothesis =>
      rw [inductionHypothesis, Token.tests_append, Token.tests_negations, List.nil_append]
  | odd count _ _ inductionHypothesis =>
      rw [Formula.affirmedTests_negate, inductionHypothesis, Token.tests_append,
        Token.tests_negations, List.nil_append]
  | factor _ inductionHypothesis => exact inductionHypothesis
  | term _ inductionHypothesis => exact inductionHypothesis
  | and _ _ leftHypothesis rightHypothesis =>
      rw [Formula.affirmedTests_and, leftHypothesis, rightHypothesis, Token.tests_append,
        Token.tests_cons rfl, List.map_append]
  | or _ _ leftHypothesis rightHypothesis =>
      rw [Formula.affirmedTests_or, leftHypothesis, rightHypothesis, Token.tests_append,
        Token.tests_cons rfl, List.map_append]

namespace Formula

/-- Filters that were read, and those that are built of such filters by the connectives and by
taking the opposite. -/
inductive Composed : Formula → Prop where
  | read {tokens formula} : ofTokens tokens = .ok formula → Composed formula
  | and {left right} : Composed left → Composed right → Composed (.and left right)
  | or {left right} : Composed left → Composed right → Composed (.or left right)
  | negate {formula} : Composed formula → Composed formula.negate

theorem Composed.canonical {formula : Formula} (composed : Composed formula) :
    formula.Canonical := by
  induction composed with
  | read read => exact (derives_of_ofTokens read).canonical
  | and _ _ leftHypothesis rightHypothesis => exact ⟨leftHypothesis, rightHypothesis⟩
  | or _ _ leftHypothesis rightHypothesis => exact ⟨leftHypothesis, rightHypothesis⟩
  | negate _ inductionHypothesis => exact inductionHypothesis.negate

/-- A filter that was read is canonical and has exactly the tests of its tokens, negated or not.
Connectives and opposites keep filters canonical, and the opposite of its opposite is a canonical
filter itself. Of any filter, canonical or not, the opposite matches the other packets and has as
many tests. -/
theorem canonical_of_ofTokens :
    (∀ tokens formula, ofTokens tokens = .ok formula →
      formula.Canonical ∧ formula.affirmedTests = (Token.tests tokens).map Test.affirmed ∧
        formula.testCount = (Token.tests tokens).length) ∧
    (∀ left right : Formula, left.Canonical → right.Canonical →
      (and left right).Canonical ∧ (or left right).Canonical) ∧
    (∀ formula : Formula, formula.Canonical →
      formula.negate.Canonical ∧ formula.negate.negate = formula) ∧
    (∀ formula, Composed formula → formula.Canonical) ∧
    ∀ formula : Formula, (∀ packet, formula.negate.accepts packet = !formula.accepts packet) ∧
      formula.negate.testCount = formula.testCount := by
  refine ⟨?_, ?_, ?_, fun formula => Composed.canonical, ?_⟩
  · intro tokens formula read
    have derived := derives_of_ofTokens read
    exact ⟨derived.canonical, derived.affirmedTests_eq,
      testCount_eq_of_affirmedTests derived.affirmedTests_eq⟩
  · intro left right canonicalLeft canonicalRight
    exact ⟨⟨canonicalLeft, canonicalRight⟩, ⟨canonicalLeft, canonicalRight⟩⟩
  · intro formula canonical
    exact ⟨canonical.negate, canonical.negate_negate⟩
  · intro formula
    exact ⟨fun packet => formula.accepts_negate, formula.testCount_negate⟩

/-- Two negations in front of a group, in which one test is negated from outside. The filter is
composed with its opposite. -/
theorem canonical_of_ofTokens_of_groups :
    let fragment : Test := .bind .fragment none false
    let port : Test := .bind (.port .source 80) (some .ge) true
    let tokens : List Token := [.not, .openParen, .test fragment, .or, .not, .openParen,
      .test port, .closeParen, .closeParen]
    let sum : Formula := .or (.test fragment) (.test port.negate)
    ofTokens tokens = .ok (.not sum) ∧ (not sum).Canonical ∧
      (not sum).affirmedTests = [fragment, port.affirmed] ∧ (not sum).testCount = 2 ∧
      (and (not sum) sum).Canonical ∧ (and (not sum) sum).negate.negate = and (not sum) sum ∧
      ¬ (not (not sum)).Canonical ∧ (not (not sum)).negate.testCount = 2 := by
  intro fragment port tokens sum
  have read : ofTokens tokens = .ok (.not sum) := eq_ok_of_toOption (by decide +kernel)
  obtain ⟨parsed, _, opposite, composed, others⟩ := canonical_of_ofTokens
  obtain ⟨canonical, tests, count⟩ := parsed tokens (.not sum) read
  have conjunction := Composed.and (.read read) (.negate (.read read))
  have whole := composed _ conjunction
  refine ⟨read, canonical, tests, count, whole, (opposite _ whole).2, ?_, ?_⟩
  · rintro ⟨junction, _⟩
    contradiction
  · exact (others (.not (.not sum))).2

end Formula

end PacketFilter
