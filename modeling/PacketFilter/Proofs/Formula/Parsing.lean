import PacketFilter.Formula.ParseStack
import PacketFilter.Proofs.Formula.Grammar
import PacketFilter.Sequence

/-!
The stack of runs reads exactly the filters of the grammar. In one direction, what is on the stack
stands for the tokens taken so far: every element of a run for an atom or for a connective, and
the progress through a run for a sum and a product that still lack their last operand. In the
other direction, the tokens of a derivation leave elements on the stack that are read back as its
filter, whatever lies below them.
-/

namespace PacketFilter

/-- What negations in front of an atom come to when they are counted. -/
theorem Derives.negations {tokens : List Token} {formula : Formula} (count : Nat)
    (atom : Derives .atom tokens formula) :
    Derives .factor (List.replicate count .not ++ tokens) (formula.negated count) := by
  rcases Nat.mod_two_eq_zero_or_one count with even | odd
  · rw [formula.negated_of_even even]
    exact .even count even atom
  · rw [formula.negated_of_odd odd]
    exact .odd count odd atom

/-- What is read so far in front of an operand: nothing, or a filter and the connective behind
it. -/
inductive LeftOperand (level : Level) (connective : Token) :
    Option Formula → List Token → Prop where
  | none : LeftOperand level connective none []
  | some {tokens formula} : Derives level tokens formula →
      LeftOperand level connective (some formula) (tokens ++ [connective])

theorem LeftOperand.derives_and {left : Option Formula} {first second : List Token}
    {right : Formula} (before : LeftOperand .term .and left first)
    (operand : Derives .factor second right) :
    Derives .term (first ++ second) (Run.joined .and left right) := by
  cases before with
  | none => exact .factor operand
  | some derived =>
      rw [List.append_assoc]
      exact .and derived operand

theorem LeftOperand.derives_or {left : Option Formula} {first second : List Token}
    {right : Formula} (before : LeftOperand .expression .or left first)
    (operand : Derives .term second right) :
    Derives .expression (first ++ second) (Run.joined .or left right) := by
  cases before with
  | none => exact .term operand
  | some derived =>
      rw [List.append_assoc]
      exact .or derived operand

inductive Item.StandsFor : Item → List Token → Prop where
  | formula {tokens formula} : Derives .atom tokens formula → StandsFor (.formula formula) tokens
  | and : StandsFor .and [.and]
  | or : StandsFor .or [.or]
  | not : StandsFor .not [.not]

inductive Run.StandsFor : Run → List Token → Prop where
  | nil : StandsFor [] []
  | cons {item run before after} : StandsFor run before → item.StandsFor after →
      StandsFor (item :: run) (before ++ after)

/-- The tokens that a run has been read from, as far as the progress through it shows. -/
inductive Run.Progress.Reads : Run.Progress → List Token → Prop where
  | operandNext {sum product first second} (negations : Nat) :
      LeftOperand .expression .or sum first → LeftOperand .term .and product second →
      Reads (.operandNext sum product negations)
        (first ++ (second ++ List.replicate negations .not))
  | operandLast {sum product first second} :
      LeftOperand .expression .or sum first → Derives .term second product →
      Reads (.operandLast sum product) (first ++ second)

namespace Run

theorem Progress.reads_start : Progress.start.Reads [] :=
  .operandNext 0 .none .none

theorem Progress.Reads.step {progress next : Progress} {item : Item} {before after : List Token}
    (reads : progress.Reads before) (stands : item.StandsFor after)
    (stepped : progress.step item = .ok next) : next.Reads (before ++ after) := by
  cases reads with
  | operandNext negations sum product =>
      cases stands with
      | formula atom =>
          cases stepped
          have term := product.derives_and (.negations negations atom)
          simpa only [List.append_assoc] using Progress.Reads.operandLast sum term
      | not =>
          cases stepped
          have reads := Progress.Reads.operandNext (negations + 1) sum product
          simpa only [List.replicate_succ', List.append_assoc] using reads
      | _ => contradiction
  | operandLast sum term =>
      cases stands with
      | and =>
          cases stepped
          simpa using Progress.Reads.operandNext 0 sum (.some term)
      | or =>
          cases stepped
          simpa using Progress.Reads.operandNext 0 (.some (sum.derives_or term)) .none
      | _ => contradiction

theorem Progress.reads_of_foldlM {run : Run} {tokens : List Token} {progress : Progress}
    (stands : Run.StandsFor run tokens)
    (folded : run.reverse.foldlM Progress.step Progress.start = .ok progress) :
    progress.Reads tokens := by
  induction stands generalizing progress with
  | nil =>
      cases folded
      exact Progress.reads_start
  | cons _ standsItem inductionHypothesis =>
      -- The element in front is the last one of the run, and is read behind all others.
      rw [List.reverse_cons, List.foldlM_append] at folded
      obtain ⟨middle, folded, stepped⟩ := bind_eq_ok.1 folded
      obtain ⟨next, stepped, finished⟩ := bind_eq_ok.1 stepped
      cases finished
      exact (inductionHypothesis folded).step standsItem stepped

/-- A run that can be reduced stands for an expression. -/
theorem derives_of_reduce {run : Run} {tokens : List Token} {formula : Formula}
    (stands : Run.StandsFor run tokens) (reduced : Run.reduce run.reverse = .ok formula) :
    Derives .expression tokens formula := by
  obtain ⟨progress, folded, finished⟩ := bind_eq_ok.1 reduced
  cases Progress.reads_of_foldlM stands folded with
  | operandNext negations sum product =>
      unfold Progress.finish at finished
      split at finished <;> contradiction
  | operandLast sum term =>
      cases finished
      exact sum.derives_or term

end Run

namespace ParseStack

inductive StandsFor : ParseStack → List Token → Prop where
  | flat {current tokens} : Run.StandsFor current tokens → StandsFor ⟨current, []⟩ tokens
  | nested {current run enclosing before tokens} :
      StandsFor ⟨run, enclosing⟩ before → Run.StandsFor current tokens →
      StandsFor ⟨current, run :: enclosing⟩ (before ++ .openParen :: tokens)

theorem StandsFor.add {stack : ParseStack} {item : Item} {before after : List Token}
    (stands : stack.StandsFor before) (standsItem : item.StandsFor after) :
    (stack.add item).StandsFor (before ++ after) := by
  cases stands with
  | flat run => exact .flat (.cons run standsItem)
  | nested outer run =>
      rw [List.append_assoc]
      exact .nested outer (.cons run standsItem)

theorem derives_of_group {run : Run} {tokens : List Token} {formula : Formula}
    (stands : Run.StandsFor run tokens) (grouped : group run.reverse = .ok formula) :
    Derives .expression tokens formula := by
  unfold group at grouped
  split at grouped
  · contradiction
  · exact Run.derives_of_reduce stands grouped

theorem StandsFor.close {stack : ParseStack} {formula : Formula} {tokens : List Token}
    (stands : stack.StandsFor tokens) (closed : stack.close.2 = .ok formula) :
    stack.close.1.StandsFor (tokens ++ [.closeParen]) := by
  cases stands with
  | flat run => contradiction
  | @nested current run enclosing before tokens outer inner =>
      unfold ParseStack.close at closed ⊢
      dsimp only at closed ⊢
      cases grouped : group current.reverse with
      | error error =>
          rw [grouped] at closed
          contradiction
      | ok formula =>
          have atom := Derives.group (derives_of_group inner grouped)
          simpa [ParseStack.add] using outer.add (Item.StandsFor.formula atom)

theorem StandsFor.push {stack next : ParseStack} {token : Token} {group : Option Formula}
    {tokens : List Token} (stands : stack.StandsFor tokens)
    (pushed : stack.push token = (next, .ok group)) : next.StandsFor (tokens ++ [token]) := by
  obtain ⟨rfl, succeeded⟩ := Prod.mk.inj pushed
  cases token with
  | test leaf => exact stands.add (.formula (.test leaf))
  | and => exact stands.add .and
  | or => exact stands.add .or
  | not => exact stands.add .not
  | openParen => exact .nested stands .nil
  | closeParen =>
      cases closed : stack.close.2 with
      | ok formula => exact stands.close closed
      | error error =>
          rw [closed] at succeeded
          contradiction

theorem StandsFor.pushAll {stack final : ParseStack} {before tokens : List Token}
    (stands : stack.StandsFor before) (pushed : stack.pushAll tokens = .ok final) :
    final.StandsFor (before ++ tokens) := by
  induction tokens generalizing stack before with
  | nil =>
      cases pushed
      simpa using stands
  | cons token rest inductionHypothesis =>
      unfold ParseStack.pushAll at pushed
      split at pushed
      · rename_i next group one
        simpa using inductionHypothesis (stands.push one) pushed
      · contradiction

theorem pushAll_append (stack : ParseStack) (first second : List Token) :
    stack.pushAll (first ++ second) = stack.pushAll first >>= (·.pushAll second) := by
  induction first generalizing stack with
  | nil => rfl
  | cons token rest inductionHypothesis =>
      simp only [List.cons_append, pushAll]
      split
      · exact inductionHypothesis _
      · rfl

/-- Tokens that put elements on the innermost run, whatever the stack is. -/
def Yields (tokens : List Token) (items : List Item) : Prop :=
  ∀ run enclosing, pushAll ⟨run, enclosing⟩ tokens = .ok ⟨items.reverse ++ run, enclosing⟩

theorem Yields.append {first second : List Token} {left right : List Item}
    (yieldsLeft : Yields first left) (yieldsRight : Yields second right) :
    Yields (first ++ second) (left ++ right) := by
  intro run enclosing
  rw [pushAll_append, yieldsLeft, ok_bind]
  simpa using yieldsRight (left.reverse ++ run) enclosing

theorem Yields.cons {token : Token} {item : Item} {tokens : List Token} {items : List Item}
    (pushed : ∀ stack : ParseStack, stack.push token = (stack.add item, .ok none))
    (yields : Yields tokens items) : Yields (token :: tokens) (item :: items) := by
  intro run enclosing
  simp only [pushAll, pushed, add]
  simpa using yields (item :: run) enclosing

theorem yields_nil : Yields [] [] := fun _ _ => rfl

theorem yields_negations (count : Nat) :
    Yields (List.replicate count .not) (List.replicate count .not) := by
  induction count with
  | zero => exact yields_nil
  | succ count inductionHypothesis => exact .cons (fun _ => rfl) inductionHypothesis

theorem Yields.group {tokens : List Token} {items : List Item} {formula : Formula}
    (yields : Yields tokens items) (reduced : Run.reduce items = .ok formula) :
    Yields (.openParen :: (tokens ++ [.closeParen])) [.formula formula] := by
  intro run enclosing
  have nonempty : items ≠ [] := by
    rintro rfl
    contradiction
  have grouped : ParseStack.group items = .ok formula := by
    rw [ParseStack.group, if_neg nonempty, reduced]
  simp only [pushAll, push]
  rw [pushAll_append, yields, ok_bind]
  simp [pushAll, push, close, grouped, Except.map]

end ParseStack

/-- How the elements that a derivation leaves on the stack are read back, on each layer of the
grammar. -/
def Level.Folds : Level → List Item → Formula → Prop
  | .atom, items, formula => items = [.formula formula]
  | .factor, items, formula => ∀ sum product,
      items.foldlM Run.Progress.step (.operandNext sum product 0) =
        .ok (.operandLast sum (Run.joined .and product formula))
  | .term, items, formula => ∀ sum,
      items.foldlM Run.Progress.step (.operandNext sum none 0) = .ok (.operandLast sum formula)
  | .expression, items, formula => ∃ sum product,
      items.foldlM Run.Progress.step .start = .ok (.operandLast sum product) ∧
        Run.joined .or sum product = formula

theorem Run.reduce_of_folds {items : List Item} {formula : Formula}
    (folds : Level.expression.Folds items formula) : Run.reduce items = .ok formula := by
  obtain ⟨sum, product, folded, rfl⟩ := folds
  rw [Run.reduce, folded]
  rfl

theorem Run.foldlM_negations (count negations : Nat) (sum product : Option Formula)
    (items : List Item) :
    (List.replicate count Item.not ++ items).foldlM Progress.step
        (.operandNext sum product negations) =
      items.foldlM Progress.step (.operandNext sum product (negations + count)) := by
  induction count generalizing negations with
  | zero => rfl
  | succ count inductionHypothesis =>
      have step := inductionHypothesis (negations + 1)
      rw [Nat.add_right_comm, Nat.add_assoc] at step
      exact step

theorem ParseStack.Yields.negated {tokens : List Token} {formula : Formula}
    (yields : Yields tokens [.formula formula]) (count : Nat) :
    ∃ items, Yields (List.replicate count .not ++ tokens) items ∧
      Level.factor.Folds items (formula.negated count) := by
  refine ⟨_, (yields_negations count).append yields, ?_⟩
  intro sum product
  rw [Run.foldlM_negations, Nat.zero_add]
  rfl

/-- The tokens of a derivation leave elements on the stack from which its filter is read back. -/
theorem Derives.yields {level : Level} {tokens : List Token} {formula : Formula}
    (derived : Derives level tokens formula) :
    ∃ items, ParseStack.Yields tokens items ∧ level.Folds items formula := by
  induction derived with
  | test leaf => exact ⟨_, .cons (fun _ => rfl) ParseStack.yields_nil, rfl⟩
  | group _ inductionHypothesis =>
      obtain ⟨items, yields, folds⟩ := inductionHypothesis
      exact ⟨_, yields.group (Run.reduce_of_folds folds), rfl⟩
  | @even _ formula count even _ inductionHypothesis =>
      obtain ⟨_, yields, rfl⟩ := inductionHypothesis
      rw [← formula.negated_of_even even]
      exact yields.negated count
  | @odd _ formula count odd _ inductionHypothesis =>
      obtain ⟨_, yields, rfl⟩ := inductionHypothesis
      rw [← formula.negated_of_odd odd]
      exact yields.negated count
  | factor _ inductionHypothesis =>
      obtain ⟨items, yields, folds⟩ := inductionHypothesis
      exact ⟨items, yields, fun sum => folds sum none⟩
  | and _ _ leftHypothesis rightHypothesis =>
      obtain ⟨left, yieldsLeft, foldsLeft⟩ := leftHypothesis
      obtain ⟨right, yieldsRight, foldsRight⟩ := rightHypothesis
      refine ⟨_, yieldsLeft.append (.cons (fun _ => rfl) yieldsRight), ?_⟩
      intro sum
      rw [List.foldlM_append, foldsLeft sum]
      exact foldsRight sum (some _)
  | term _ inductionHypothesis =>
      obtain ⟨items, yields, folds⟩ := inductionHypothesis
      exact ⟨items, yields, none, _, folds none, rfl⟩
  | or _ _ leftHypothesis rightHypothesis =>
      obtain ⟨left, yieldsLeft, sum, product, foldsLeft, rfl⟩ := leftHypothesis
      obtain ⟨right, yieldsRight, foldsRight⟩ := rightHypothesis
      refine ⟨_, yieldsLeft.append (.cons (fun _ => rfl) yieldsRight), some _, _, ?_, rfl⟩
      rw [List.foldlM_append, foldsLeft]
      exact foldsRight (some (Run.joined .or sum product))

namespace Formula

theorem derives_of_ofTokens {tokens : List Token} {formula : Formula}
    (read : ofTokens tokens = .ok formula) : Derives .expression tokens formula := by
  obtain ⟨stack, pushed, finished⟩ := bind_eq_ok.1 read
  have stands := (ParseStack.StandsFor.flat Run.StandsFor.nil).pushAll pushed
  cases stands with
  | flat run => exact Run.derives_of_reduce run finished
  | nested outer run => contradiction

theorem ofTokens_of_derives {tokens : List Token} {formula : Formula}
    (derived : Derives .expression tokens formula) : ofTokens tokens = .ok formula := by
  obtain ⟨items, yields, folds⟩ := derived.yields
  have pushed : ParseStack.empty.pushAll tokens = .ok ⟨items.reverse, []⟩ := by
    simpa [ParseStack.empty] using yields [] []
  rw [ofTokens, pushed, ok_bind]
  simpa [ParseStack.finish] using Run.reduce_of_folds folds

/-- Tokens are read as a filter exactly when the grammar derives that filter from them, so they
are read at all exactly when it derives any. -/
theorem ofTokens_eq_ok_iff_derives (tokens : List Token) :
    (∀ formula, ofTokens tokens = .ok formula ↔ Derives .expression tokens formula) ∧
      ((∃ formula, ofTokens tokens = .ok formula) ↔
        ∃ formula, Derives .expression tokens formula) := by
  have reads (formula : Formula) :
      ofTokens tokens = .ok formula ↔ Derives .expression tokens formula :=
    ⟨derives_of_ofTokens, ofTokens_of_derives⟩
  exact ⟨reads, exists_congr reads⟩

end Formula

end PacketFilter
