import PacketFilter.Proofs.Token.Seams

/-!
What a run of negations in an expression negates. The lexer counts a run whole, and an odd run has
to stand in front of an operand. The negations of an even run cancel: in front of an operand they
negate it and negate it back, and where no operand follows they leave no trace, so that the
expression is accepted as if they were not there.
-/

namespace PacketFilter

/-- Words of negation in a row, with no other word of negation on either side. -/
structure NegationRun (words before run after : List String) : Prop where
  whole : words = before ++ (run ++ after)
  nonempty : run ≠ []
  negations : ∀ word ∈ run, Mark.Spells .not word
  front : ∀ word ∈ before.getLast?, ¬ Mark.Spells .not word
  behind : ∀ word ∈ after.head?, ¬ Mark.Spells .not word

/-- The words start with something that can be negated: a primitive or an open parenthesis. -/
inductive StartsOperand : List String → Prop where
  | primitive {form primitive front} (rest : List String) :
      Primitive.Spells form primitive front → StartsOperand (front ++ rest)
  | group (rest : List String) : StartsOperand ("(" :: rest)

/-- No operand comes next, but the end, a connective or a closing parenthesis. -/
inductive LacksOperand : List String → Prop where
  | nil : LacksOperand []
  | mark {mark word} (rest : List String) :
      Mark.Spells mark word → mark.Separates → LacksOperand (word :: rest)

theorem LacksOperand.head_ne {words : List String} (lacks : LacksOperand words) :
    ∀ word ∈ words.head?, Mark.ofText? word ≠ none := by
  cases lacks with
  | nil => simp
  | mark rest spells separates =>
      rintro word ⟨rfl⟩
      simp [Mark.spells_iff.1 spells]

theorem LacksOperand.not_startsOperand {words : List String} (lacks : LacksOperand words) :
    ¬ StartsOperand words := by
  intro starts
  generalize same : words = operand at starts
  cases starts with
  | primitive rest spells =>
      obtain ⟨first, others, rfl, _⟩ := spells.first_word
      have plain := spells.unmarked first List.mem_cons_self
      cases lacks with
      | nil => contradiction
      | mark rest mark separates =>
          obtain ⟨rfl, _⟩ := List.cons.inj same
          rw [Mark.spells_iff.1 mark] at plain
          contradiction
  | group rest =>
      cases lacks with
      | nil => contradiction
      | mark rest mark separates =>
          obtain ⟨rfl, _⟩ := List.cons.inj same
          obtain rfl : Mark.openParen = _ := Option.some.inj (Mark.spells_iff.1 mark)
          contradiction

namespace Piece

variable {pieces first rest : List Piece} {words before run after : List String}

def negations (count : Nat) : List Piece :=
  List.replicate count (.mark .not)

theorem Cut.of_negations (cut : Cut pieces (run ++ after))
    (negated : ∀ word ∈ run, Mark.Spells .not word) :
    ∃ rest, pieces = negations run.length ++ rest ∧ Cut rest after := by
  induction run generalizing pieces with
  | nil => exact ⟨pieces, rfl, cut⟩
  | cons word run inductionHypothesis =>
      obtain ⟨first, others⟩ := List.forall_mem_cons.1 negated
      obtain ⟨pieces, rfl, cutOthers⟩ := cut.of_mark first
      obtain ⟨rest, rfl, behind⟩ := inductionHypothesis cutOthers others
      exact ⟨rest, rfl, behind⟩

theorem cut_negations (negated : ∀ word ∈ run, Mark.Spells .not word) :
    Cut (negations run.length) run := by
  induction run with
  | nil => exact .nil
  | cons word run inductionHypothesis =>
      obtain ⟨first, others⟩ := List.forall_mem_cons.1 negated
      exact .cons (.mark first) (inductionHypothesis others)

theorem paired_negations (count counted : Nat) :
    Paired counted (negations count ++ rest) ↔ Paired (counted + count) rest := by
  induction count generalizing counted with
  | zero => rfl
  | succ count inductionHypothesis =>
      have next := inductionHypothesis (counted + 1)
      rw [Nat.add_right_comm, Nat.add_assoc] at next
      exact (iff_of_eq (true_and _)).trans next

theorem tokensOf_negations (count counted : Nat) :
    tokensOf counted (negations count ++ rest) = tokensOf (counted + count) rest := by
  induction count generalizing counted with
  | zero => rfl
  | succ count inductionHypothesis =>
      have next := inductionHypothesis (counted + 1)
      rw [Nat.add_right_comm, Nat.add_assoc] at next
      exact next

theorem Greedy.negations (greedy : Greedy rest) (count : Nat) :
    Greedy (negations count ++ rest) := by
  induction count with
  | zero => exact greedy
  | succ count inductionHypothesis => exact inductionHypothesis.cons_mark

theorem Cut.countAll_eq_zero (cut : Cut first before)
    (front : ∀ word ∈ before.getLast?, ¬ Mark.Spells .not word) : countAll 0 first = 0 := by
  rcases List.eq_nil_or_concat first with rfl | ⟨pieces, last, rfl⟩
  · rfl
  · rw [List.concat_eq_append] at cut ⊢
    have ended : last ≠ .mark .not := by
      rintro rfl
      obtain ⟨left, right, rfl, _, single⟩ := cut.exists_append
      cases single with
      | cons spells nothing =>
          cases spells with
          | mark negation =>
              cases nothing
              refine front _ ?_ negation
              simp
    rw [countAll, List.foldl_append]
    cases last with
    | primitive form written => rfl
    | mark mark =>
        cases mark with
        | not => contradiction
        | and | or | openParen | closeParen => rfl

/-- What can stand behind a count of negations: an operand behind any, and anything else behind
an even one. -/
theorem Cut.startsOperand_or {count : Nat} (cut : Cut rest after) (paired : Paired count rest)
    (behind : ∀ word ∈ after.head?, ¬ Mark.Spells .not word) :
    StartsOperand after ∨ count % 2 = 0 ∧ LacksOperand after := by
  cases cut with
  | nil => exact .inr ⟨paired, .nil⟩
  | cons spells cut =>
      cases spells with
      | primitive spells => exact .inl (.primitive _ spells)
      | @mark mark word spells =>
          cases mark with
          | not => exact absurd spells (behind word rfl)
          | openParen =>
              cases spells
              exact .inl (.group _)
          | and => exact .inr ⟨paired.1, .mark _ spells .and⟩
          | or => exact .inr ⟨paired.1, .mark _ spells .or⟩
          | closeParen => exact .inr ⟨paired.1, .mark _ spells .closeParen⟩

/-- Pieces that nothing in front of them reaches into. -/
inductive Separated : List Piece → Prop where
  | nil : Separated []
  | mark {mark : Mark} (rest : List Piece) : mark.Separates → Separated (.mark mark :: rest)

theorem Cut.separated (cut : Cut rest after) (lacks : LacksOperand after) : Separated rest := by
  cases lacks with
  | nil =>
      obtain rfl := cut.eq_nil_of_no_words
      exact .nil
  | mark words spells separates =>
      obtain ⟨others, rfl, _⟩ := cut.of_mark spells
      exact .mark others separates

namespace Separated

variable {count : Nat} (separated : Separated rest)

include separated

theorem paired_add_even (even : count % 2 = 0) (counted : Nat) :
    Paired (counted + count) rest ↔ Paired counted rest := by
  have parity : (counted + count) % 2 = 0 ↔ counted % 2 = 0 := by
    omega
  cases separated with
  | nil => exact parity
  | mark rest separates => cases separates <;> exact and_congr_left fun _ => parity

theorem tokensOf_eq (counted other : Nat) : tokensOf counted rest = tokensOf other rest := by
  cases separated with
  | nil => rfl
  | mark rest separates => cases separates <;> rfl

theorem greedy_append (before : Greedy first) (behind : Greedy rest) : Greedy (first ++ rest) := by
  cases separated with
  | nil => rwa [List.append_nil]
  | mark rest separates => exact before.append_mark behind.tail

theorem greedy_negations_append (before : Greedy first) (behind : Greedy rest) :
    Greedy (first ++ (negations count ++ rest)) := by
  cases count with
  | zero => exact separated.greedy_append before behind
  | succ count => exact before.append_mark (behind.negations count)

/-- An even run of negations in front of pieces that cannot be negated leaves no trace. -/
theorem negations_vanish (even : count % 2 = 0) :
    (Paired 0 (first ++ (negations count ++ rest)) ↔ Paired 0 (first ++ rest)) ∧
    (Greedy (first ++ (negations count ++ rest)) ↔ Greedy (first ++ rest)) ∧
    tokensOf 0 (first ++ (negations count ++ rest)) = tokensOf 0 (first ++ rest) := by
  refine ⟨?_, ⟨?_, ?_⟩, ?_⟩
  · rw [paired_append, paired_negations, separated.paired_add_even even, paired_append]
  · intro greedy
    exact separated.greedy_append greedy.of_append.1 greedy.of_append.2.of_append.2
  · intro greedy
    exact separated.greedy_negations_append greedy.of_append.1 greedy.of_append.2
  · rw [tokensOf_append, tokensOf_negations, tokensOf_append]
    exact congrArg _ (separated.tokensOf_eq _ _)

end Separated

end Piece

namespace NegationRun

variable {words before run after : List String} {tokens : List Token}

theorem head_ne (found : NegationRun words before run after) :
    ∀ word ∈ (run ++ after).head?, Mark.ofText? word ≠ none := by
  obtain ⟨first, others, rfl⟩ := List.exists_cons_of_ne_nil found.nonempty
  have negation := Mark.spells_iff.1 (found.negations first List.mem_cons_self)
  rintro word ⟨rfl⟩
  simp [negation]

/-- However an expression is cut, each negation of a run is a piece of its own. -/
theorem exists_cut (found : NegationRun words before run after) {pieces : List Piece}
    (cut : Piece.Cut pieces words) :
    ∃ first rest, pieces = first ++ (Piece.negations run.length ++ rest) ∧
      Piece.Cut first before ∧ Piece.Cut rest after := by
  obtain ⟨first, others, rfl, front, behind⟩ := cut.split found.whole found.head_ne
  obtain ⟨rest, rfl, cutRest⟩ := behind.of_negations found.negations
  exact ⟨first, rest, rfl, front, cutRest⟩

theorem startsOperand_or (found : NegationRun words before run after)
    (lexed : Token.Lexed words tokens) :
    StartsOperand after ∨ run.length % 2 = 0 ∧ LacksOperand after := by
  obtain ⟨pieces, cut, paired, _⟩ := lexed
  obtain ⟨first, rest, rfl, front, behind⟩ := found.exists_cut cut
  have pairedRest := (Piece.paired_append.1 paired).2
  rw [front.countAll_eq_zero found.front, Piece.paired_negations, Nat.zero_add] at pairedRest
  exact behind.startsOperand_or pairedRest found.behind

theorem lexed_iff (found : NegationRun words before run after) (lacks : LacksOperand after)
    (even : run.length % 2 = 0) :
    Token.Lexed words tokens ↔ Token.Lexed (before ++ after) tokens := by
  constructor
  · rintro ⟨pieces, cut, paired, greedy, rfl⟩
    obtain ⟨first, rest, rfl, front, behind⟩ := found.exists_cut cut
    obtain ⟨pairs, greeds, tokens⟩ := (behind.separated lacks).negations_vanish even
    exact ⟨first ++ rest, front.append behind, pairs.1 paired, greeds.1 greedy, tokens⟩
  · rintro ⟨pieces, cut, paired, greedy, rfl⟩
    obtain ⟨first, rest, rfl, front, behind⟩ := cut.split rfl lacks.head_ne
    obtain ⟨pairs, greeds, tokens⟩ := (behind.separated lacks).negations_vanish even
    have whole := front.append ((Piece.cut_negations found.negations).append behind)
    rw [← found.whole] at whole
    exact ⟨_, whole, pairs.2 paired, greeds.2 greedy, tokens.symm⟩

end NegationRun

namespace Formula

/-- In an accepted expression an operand comes behind every run of negations, or nothing that
could be negated comes behind an even run. An odd run that lacks its operand makes an expression no
filter, while an even one can be left out. -/
theorem compile_negationRun {expression : String} {before run after : List String}
    (found : NegationRun ((Word.cut expression).map Word.text) before run after) :
    (∀ formula, compile expression = .ok formula →
      StartsOperand after ∨ run.length % 2 = 0 ∧ LacksOperand after) ∧
    (run.length % 2 = 1 → LacksOperand after → ∃ error, compile expression = .error error) ∧
    (run.length % 2 = 0 → LacksOperand after →
      ∀ other, (Word.cut other).map Word.text = before ++ after →
        ∀ formula, compile expression = .ok formula ↔ compile other = .ok formula) := by
  rw [Word.map_text_cut] at found
  have operands : ∀ formula, compile expression = .ok formula →
      StartsOperand after ∨ run.length % 2 = 0 ∧ LacksOperand after := by
    intro formula compiled
    obtain ⟨tokens, lexed, _⟩ := compile_eq_ok_iff.1 compiled
    exact found.startsOperand_or lexed
  refine ⟨operands, ?_, ?_⟩
  · intro odd lacks
    cases compiled : compile expression with
    | error error => exact ⟨error, rfl⟩
    | ok formula =>
        rcases operands formula compiled with starts | ⟨even, _⟩
        · exact absurd starts lacks.not_startsOperand
        · omega
  · intro even lacks other rest formula
    rw [Word.map_text_cut] at rest
    rw [compile_eq_ok_iff, compile_eq_ok_iff, rest]
    exact exists_congr fun tokens => and_congr_left fun _ => found.lexed_iff lacks even

theorem compile_negationRun_of_even :
    let words := (Word.cut "frag NOT ! or ce").map Word.text
    let formula : Formula := .or (.test (.bind .fragment none false))
      (.test (.bind .congested none false))
    NegationRun words ["frag"] ["not", "!"] ["or", "ce"] ∧ LacksOperand ["or", "ce"] ∧
      compile "frag NOT ! or ce" = .ok formula := by
  intro words formula
  have found : NegationRun words ["frag"] ["not", "!"] ["or", "ce"] := {
    whole := by decide +kernel
    nonempty := by decide
    negations := by simp [Mark.spells_iff, Mark.ofText?]
    front := by simp [Mark.spells_iff, Mark.ofText?]
    behind := by simp [Mark.spells_iff, Mark.ofText?] }
  have lacks : LacksOperand ["or", "ce"] := .mark ["ce"] (Mark.spells_iff.2 rfl) .or
  have vanish := (compile_negationRun found).2.2 rfl lacks "frag or ce" (by decide +kernel) formula
  exact ⟨found, lacks, vanish.2 (eq_ok_of_toOption (by decide +kernel))⟩

/-- A run of two negations that negate nothing is accepted. -/
theorem compile_dangling_pair :
    NegationRun ((Word.cut "frag not not and ce").map Word.text)
      ["frag"] ["not", "not"] ["and", "ce"] ∧
    ¬ StartsOperand ["and", "ce"] ∧
    compile "frag not not and ce" =
      .ok (.and (.test (.bind .fragment none false)) (.test (.bind .congested none false))) := by
  have lacks : LacksOperand ["and", "ce"] := .mark ["ce"] (Mark.spells_iff.2 rfl) .and
  refine ⟨{ whole := by decide +kernel
            nonempty := by decide
            negations := ?_
            front := ?_
            behind := ?_ }, lacks.not_startsOperand, eq_ok_of_toOption (by decide +kernel)⟩
  all_goals simp [Mark.spells_iff, Mark.ofText?]

end Formula

end PacketFilter
