import PacketFilter.Proofs.Formula.Failures
import PacketFilter.Proofs.Formula.Negations
import PacketFilter.Proofs.Token.Faults
import PacketFilter.Proofs.Token.Nesting
import PacketFilter.Proofs.Token.Printing

/-!
What the tokens of an expression promise to their reader. Behind every negation a parenthesis is
opened, so no run that is reduced ends with a negation: it would have been the last token, or have
stood in front of a closing parenthesis. The parentheses nest as they are written, so they are
unbalanced only if the written ones are; and no token is left of an expression only if it consists
of negations that cancel.
-/

namespace PacketFilter

open Token

def Run.lacksNegated : FilterError :=
  .incomplete "'not' without operand"

namespace Run

variable {run : Run} {progress next : Progress} {item : Item}

theorem Progress.step_ne_lacksNegated (progress : Progress) (item : Item) :
    progress.step item ≠ .error lacksNegated := by
  intro stepped
  cases progress <;> cases item <;>
    simp [step, missingLeftOperand, missingConnective, lacksNegated, Item.name] at stepped

theorem foldlM_ne_lacksNegated (run : Run) (progress : Progress) :
    run.foldlM Progress.step progress ≠ .error lacksNegated := by
  intro folded
  induction run generalizing progress with
  | nil => contradiction
  | cons item run inductionHypothesis =>
      rw [List.foldlM_cons] at folded
      rcases bind_eq_error.1 folded with stepped | ⟨next, _, folded⟩
      · exact Progress.step_ne_lacksNegated progress item stepped
      · exact inductionHypothesis next folded

theorem Progress.not_of_step {sum product : Option Formula} {negations : Nat}
    (stepped : progress.step item = .ok (.operandNext sum product (negations + 1))) :
    item = .not := by
  cases progress <;> cases item <;> simp [step] at stepped
  rfl

theorem Progress.negated_of_finish (finished : progress.finish = .error lacksNegated) :
    ∃ sum product negations, progress = .operandNext sum product (negations + 1) := by
  unfold finish at finished
  split at finished
  · contradiction
  · contradiction
  · simp [lacksNegated] at finished
  · rename_i sum product negations _ some
    cases negations with
    | zero => exact absurd rfl some
    | succ negations => exact ⟨sum, product, negations, rfl⟩

theorem getLast?_of_reduce (reduced : run.reduce = .error lacksNegated) :
    run.getLast? = some .not := by
  rcases bind_eq_error.1 reduced with folded | ⟨progress, folded, finished⟩
  · exact absurd folded (foldlM_ne_lacksNegated run _)
  · obtain ⟨sum, product, negations, rfl⟩ := Progress.negated_of_finish finished
    rcases List.eq_nil_or_concat run with rfl | ⟨front, last, rfl⟩
    · cases folded
    · rw [List.concat_eq_append, List.foldlM_append] at folded
      obtain ⟨middle, _, folded⟩ := bind_eq_ok.1 folded
      obtain ⟨next, stepped, ended⟩ := bind_eq_ok.1 folded
      cases ended
      rw [Progress.not_of_step stepped, List.concat_eq_append, List.getLast?_append]
      rfl

end Run

namespace ParseStack

variable {stack : ParseStack} {tokens : List Token}

theorem head?_of_close (closed : (stack.push .closeParen).2.isOk = true) :
    ∃ formula, (stack.push .closeParen).1.current.head? = some (.formula formula) := by
  obtain ⟨current, enclosing⟩ := stack
  cases enclosing with
  | nil => cases closed
  | cons run enclosing =>
      simp only [push, close] at closed ⊢
      cases grouped : group current.reverse with
      | error error =>
          rw [grouped] at closed
          cases closed
      | ok formula => exact ⟨formula, rfl⟩

/-- A negation on top of the stack was the last token. -/
theorem getLast?_of_pushAll (pushed : empty.pushAll tokens = .ok stack)
    (top : stack.current.head? = some .not) : tokens.getLast? = some .not := by
  rcases List.eq_nil_or_concat tokens with rfl | ⟨front, last, rfl⟩
  · cases pushed
    contradiction
  · rw [List.concat_eq_append, pushAll_append] at pushed
    obtain ⟨middle, _, pushed⟩ := bind_eq_ok.1 pushed
    obtain ⟨succeeded, rfl⟩ := pushAll_singleton_eq_ok_iff.1 pushed
    rw [List.concat_eq_append, List.getLast?_append]
    cases last with
    | not => rfl
    | test | and | or => simp [push, add] at top
    | openParen => simp [push] at top
    | closeParen =>
        obtain ⟨formula, found⟩ := head?_of_close succeeded
        cases found.symm.trans top

theorem getLast?_of_group {run : Run} (grouped : group run = .error Run.lacksNegated) :
    run.getLast? = some .not := by
  unfold group at grouped
  split at grouped
  · simp [Run.lacksNegated] at grouped
  · exact Run.getLast?_of_reduce grouped

theorem head?_of_closeParen (pushed : (stack.push .closeParen).2 = .error Run.lacksNegated) :
    stack.current.head? = some .not := by
  obtain ⟨current, enclosing⟩ := stack
  cases enclosing with
  | nil => cases pushed
  | cons run enclosing =>
      simp only [push, close] at pushed
      cases grouped : group current.reverse with
      | ok formula =>
          rw [grouped] at pushed
          cases pushed
      | error error =>
          rw [grouped] at pushed
          cases pushed
          simpa using getLast?_of_group grouped

theorem head?_of_finish (finished : stack.finish = .error Run.lacksNegated) :
    stack.current.head? = some .not := by
  unfold finish at finished
  split at finished
  · simpa using Run.getLast?_of_reduce finished
  · cases finished

end ParseStack

namespace Formula

open ParseStack

variable {tokens : List Token}

/-- Where a parenthesis is opened behind every negation, no negation lacks what it negates. -/
theorem ofTokens_ne_lacksNegated (guarded : Guarded tokens) :
    ofTokens tokens ≠ .error Run.lacksNegated := by
  intro failed
  by_cases clean : Clean tokens
  · rw [ofTokens_of_clean clean] at failed
    -- The negation that is left on the stack was the last token, but a parenthesis is behind it.
    have last := getLast?_of_pushAll clean.pushAll (head?_of_finish failed)
    rw [List.getLast?_eq_getElem?] at last
    have next := (List.getElem?_eq_some_iff.1 (guarded _ last)).1
    omega
  · obtain ⟨place, first⟩ := exists_failsFirst clean
    obtain ⟨error, pushed, read⟩ := ofTokens_of_failsFirst first
    cases read.symm.trans failed
    have front := (clean_take first.2).pushAll
    have last := getLast?_of_pushAll front (head?_of_closeParen pushed)
    have closing := closeParen_of_failsAt first.1
    have inside := (List.getElem?_eq_some_iff.1 closing).1
    rw [List.getLast?_eq_getElem?, List.length_take, Nat.min_eq_left (Nat.le_of_lt inside)] at last
    have positive : 0 < place := by
      by_contra start
      have empty : place = 0 := by omega
      simp [empty] at last
    rw [List.getElem?_take_of_lt (by omega)] at last
    have opening := guarded _ last
    rw [Nat.sub_add_cancel positive, closing] at opening
    contradiction

theorem not_balanced_of_ofTokens (failed : ofTokens tokens = .error .unbalancedParenthesis) :
    ¬ Balanced tokens := by
  intro balanced
  cases failsBy_of_ofTokens failed with
  | unmatched first places => exact balanced.matched _ (closeParen_of_failsAt first.1) places
  | unclosed clean places => exact places balanced.closed

theorem eq_nil_of_ofTokens (failed : ofTokens tokens = .error .emptyExpression) : tokens = [] := by
  cases failsBy_of_ofTokens failed with
  | nothing empty => exact empty

end Formula

namespace Piece

variable {pieces : List Piece} {words : List String}

theorem eq_not_of_tokens {piece : Piece} {negations : Nat} (nothing : piece.tokens negations = []) :
    piece = .mark .not := by
  cases piece with
  | primitive form primitive => cases primitive <;> simp [tokens, Primitive.tokensBehind] at nothing
  | mark mark =>
      cases mark with
      | not => rfl
      | and | or | openParen | closeParen => simp [tokens] at nothing

/-- Nothing is left of pieces only if they are negations that cancel. -/
theorem Cut.negations_of_tokensOf {negations : Nat} (cut : Cut pieces words)
    (paired : Paired negations pieces) (nothing : tokensOf negations pieces = []) :
    (∀ word ∈ words, Mark.Spells .not word) ∧ (negations + words.length) % 2 = 0 := by
  induction cut generalizing negations with
  | nil => exact ⟨by simp, paired⟩
  | cons spells _ inductionHypothesis =>
      obtain ⟨first, others⟩ := List.append_eq_nil_iff.1 nothing
      obtain rfl := eq_not_of_tokens first
      obtain ⟨negated, even⟩ := inductionHypothesis paired.2 others
      cases spells with
      | mark spelled =>
          refine ⟨List.forall_mem_cons.2 ⟨spelled, negated⟩, ?_⟩
          rw [← even, count, List.length_append, List.length_singleton, Nat.add_assoc]

end Piece

namespace Token

theorem lexed_nil_iff {words : List String} :
    Lexed words [] ↔ (∀ word ∈ words, Mark.Spells .not word) ∧ words.length % 2 = 0 := by
  constructor
  · rintro ⟨pieces, cut, paired, _, nothing⟩
    simpa using cut.negations_of_tokensOf paired nothing.symm
  · rintro ⟨negated, even⟩
    have paired : Piece.Paired 0 (Piece.negations words.length ++ []) :=
      (Piece.paired_negations words.length 0).2 (by rwa [Nat.zero_add])
    have nil : Piece.Greedy [] := trivial
    have greedy := nil.negations words.length
    have nothing : Piece.tokensOf 0 (Piece.negations words.length ++ []) = [] :=
      Piece.tokensOf_negations words.length 0
    rw [List.append_nil] at paired greedy nothing
    exact ⟨_, Piece.cut_negations negated, paired, greedy, nothing.symm⟩

theorem pointsInto_of_lex {expression : String} {error : FilterError}
    (failed : lex expression = .error error) : error.PointsInto (Word.cut expression) :=
  ofWords_points (List.suffix_refl _) (keepsPlace_none _) failed

/-- What the tokens of words promise to their reader. -/
structure KeepsPromises (words : List String) (tokens : List Token) : Prop where
  guarded : Guarded tokens
  nested : ∃ places, NestsAs tokens (parentheses words) places
  compared : ∀ leaf : Test, .test leaf ∈ tokens →
    (leaf.comparison.isSome = true ↔ leaf.predicate.isFlag = false)

theorem Lexed.keepsPromises {words : List String} {tokens : List Token}
    (lexed : Lexed words tokens) : KeepsPromises words tokens where
  guarded := lexed.guarded.1
  nested := lexed.exists_nestsAs
  compared leaf _ := by
    rw [leaf.isSome_comparison, Bool.not_eq_true']

end Token

namespace Formula

theorem error_of_compile {expression : String} {error : FilterError}
    (failed : compile expression = .error error) :
    error.PointsInto (Word.cut expression) ∨
      ∃ tokens, lex expression = .ok tokens ∧ ofTokens tokens = .error error := by
  rcases bind_eq_error.1 failed with unlexed | read
  · exact .inl (pointsInto_of_lex unlexed)
  · exact .inr read

/-- Of every expression that can be lexed the tokens keep their promises. So an expression never
fails because a negation lacks what it negates, it is empty exactly if it consists of negations
that cancel, and it fails with unbalanced parentheses only if those that are written do not
balance. -/
theorem compile_keeps_promises (expression : String) :
    let words := (Word.cut expression).map Word.text
    (∀ tokens, lex expression = .ok tokens → KeepsPromises words tokens) ∧
      compile expression ≠ .error (.incomplete "'not' without operand") ∧
      (compile expression = .error .emptyExpression ↔
        (∀ word ∈ words, Mark.Spells .not word) ∧ words.length % 2 = 0) ∧
      (compile expression = .error .unbalancedParenthesis → ¬ Balanced (parentheses words)) := by
  intro words
  have texts : words = Word.texts expression.toList := Word.map_text_cut expression
  have promises (tokens : List Token) (lexed : lex expression = .ok tokens) :
      KeepsPromises words tokens := by
    rw [texts]
    exact (lex_eq_ok_iff_lexed.1 lexed).keepsPromises
  refine ⟨promises, fun failed => ?_, ⟨fun failed => ?_, fun negations => ?_⟩, fun failed => ?_⟩
  · rcases error_of_compile failed with points | ⟨tokens, lexed, read⟩
    · cases points
    · exact ofTokens_ne_lacksNegated (promises tokens lexed).guarded read
  · rcases error_of_compile failed with points | ⟨tokens, lexed, read⟩
    · cases points
    · rw [eq_nil_of_ofTokens read, lex_eq_ok_iff_lexed, ← texts] at lexed
      exact lexed_nil_iff.1 lexed
  · rw [← lexed_nil_iff, texts, ← lex_eq_ok_iff_lexed] at negations
    rw [compile, negations]
    rfl
  · rcases error_of_compile failed with points | ⟨tokens, lexed, read⟩
    · cases points
    · obtain ⟨places, nests⟩ := (promises tokens lexed).nested
      exact mt nests.balanced_iff.2 (not_balanced_of_ofTokens read)

/-- A negated conjunction within a negated group, and negations that cancel. -/
theorem compile_keeps_promises_of_conjunction :
    let expression := "!(NOT tcp port 80 and (ttl 5))"
    let tokens : List Token :=
      [.not, .openParen, .not, .openParen, .test (.bind (.numeric .protocol 6) none false), .and,
        .test (.bind (.port .either 80) none false), .closeParen, .and, .openParen,
        .test (.bind (.numeric .timeToLive 5) none false), .closeParen, .closeParen]
    let words := ["!", "(", "not", "tcp", "port", "80", "and", "(", "ttl", "5", ")", ")"]
    lex expression = .ok tokens ∧ KeepsPromises words tokens ∧
      parentheses words = [.openParen, .openParen, .closeParen, .closeParen] ∧
      compile "! NOT" = .error .emptyExpression := by
  intro expression tokens words
  have lexed : lex expression = .ok tokens := eq_ok_of_toOption (by decide +kernel)
  have cut : (Word.cut expression).map Word.text = words := by decide +kernel
  have promises := (compile_keeps_promises expression).1 tokens lexed
  rw [cut] at promises
  have negations : (Word.cut "! NOT").map Word.text = ["!", "not"] := by decide +kernel
  have empty := (compile_keeps_promises "! NOT").2.2.1
  rw [negations] at empty
  refine ⟨lexed, promises, by decide, empty.2 ⟨?_, rfl⟩⟩
  simp [Mark.spells_iff, Mark.ofText?]

end Formula

end PacketFilter
