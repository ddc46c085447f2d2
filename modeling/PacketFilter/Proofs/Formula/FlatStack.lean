import PacketFilter.Formula.ParseStack
import PacketFilter.Sequence

/-!
The stack laid out flat. Runs and the parentheses between them are elements of one list, and the
innermost run is what stands behind the last parenthesis. A closing parenthesis cuts the list
there before it reduces the run, and whatever the run is, the parenthesis is taken off with it. A
run is reduced by collecting its terms, which are joined in the end. The flat stack takes the same
steps as the stack of runs and reads the same filters.
-/

namespace PacketFilter

inductive StackElement where
  /-- A parenthesis that is still open. -/
  | openParen
  | item (item : Item)
  deriving DecidableEq, Repr

abbrev FlatStack := List StackElement

namespace FlatStack

structure Reduction where
  /-- The terms that are finished. -/
  terms : List Formula
  /-- The factors of the term that is being read. -/
  product : Option Formula
  negations : Nat
  operandNext : Bool

def sum? : List Formula → Option Formula
  | [] => none
  | first :: rest => some (rest.foldl .or first)

namespace Reduction

def start : Reduction := ⟨[], none, 0, true⟩

/-- Reads one element. A parenthesis in a run has never been closed. -/
def step (reduction : Reduction) : StackElement → Except FilterError Reduction
  | .openParen => .error .unbalancedParenthesis
  | .item .not =>
      if reduction.operandNext then
        .ok { reduction with negations := reduction.negations + 1 }
      else .error (Run.missingConnective .not)
  | .item (.formula operand) =>
      if reduction.operandNext then
        .ok ⟨reduction.terms,
          some (Run.joined .and reduction.product (operand.negated reduction.negations)), 0, false⟩
      else .error (Run.missingConnective (.formula operand))
  | .item .and =>
      if reduction.operandNext then .error (Run.missingLeftOperand .and)
      else .ok { reduction with operandNext := true }
  | .item .or =>
      if reduction.operandNext then .error (Run.missingLeftOperand .or)
      else .ok { reduction with
        terms := reduction.terms ++ reduction.product.toList, product := none, operandNext := true }

def finish (reduction : Reduction) : Except FilterError Formula :=
  if reduction.operandNext then
    if 0 < reduction.negations then .error (.incomplete "'not' without operand")
    else if reduction.product = none ∧ reduction.terms = [] then .error .emptyExpression
    else .error (.incomplete "connective without right operand")
  else
    match sum? (reduction.terms ++ reduction.product.toList) with
    | some formula => .ok formula
    | none => .error .emptyExpression

end Reduction

def reduce (elements : List StackElement) : Except FilterError Formula := do
  let reduction ← elements.foldlM Reduction.step .start
  reduction.finish

/-- The elements behind the last parenthesis, in the order in which they were written. -/
def innermost (stack : FlatStack) : List StackElement :=
  (stack.takeWhile (· != .openParen)).reverse

def close (stack : FlatStack) : FlatStack × Except FilterError Formula :=
  match stack.dropWhile (· != .openParen) with
  | [] => (stack, .error .unbalancedParenthesis)
  | _ :: below =>
      if stack.innermost = [] then (below, .error (.incomplete "empty parentheses"))
      else
        match reduce stack.innermost with
        | .ok formula => (.item (.formula formula) :: below, .ok formula)
        | .error error => (below, .error error)

def push (stack : FlatStack) : Token → FlatStack × Except FilterError (Option Formula)
  | .test test => (.item (.formula (.test test)) :: stack, .ok none)
  | .and => (.item .and :: stack, .ok none)
  | .or => (.item .or :: stack, .ok none)
  | .not => (.item .not :: stack, .ok none)
  | .openParen => (.openParen :: stack, .ok none)
  | .closeParen => (stack.close.1, stack.close.2.map some)

def finish (stack : FlatStack) : Except FilterError Formula :=
  if stack = [] then .error .emptyExpression
  else if .openParen ∈ stack then .error .unbalancedParenthesis
  else reduce stack.reverse

end FlatStack

namespace ParseStack

def flat (stack : ParseStack) : FlatStack :=
  stack.current.map .item ++ stack.enclosing.flatMap fun run => .openParen :: run.map .item

variable {run : Run} {enclosing : List Run} {item : Item}

@[simp]
theorem flat_nil (current : Run) : flat ⟨current, []⟩ = current.map .item := by
  simp [flat]

@[simp]
theorem flat_cons (current : Run) :
    flat ⟨current, run :: enclosing⟩ =
      current.map .item ++ .openParen :: flat ⟨run, enclosing⟩ := by
  simp [flat]

theorem flat_add (stack : ParseStack) (item : Item) :
    (stack.add item).flat = .item item :: stack.flat := by
  simp [flat, add]

end ParseStack

namespace FlatStack

theorem sum?_concat (terms : List Formula) (last : Formula) :
    sum? (terms ++ [last]) = some (Run.joined .or (sum? terms) last) := by
  cases terms with
  | nil => rfl
  | cons first rest => simp [sum?, Run.joined, List.foldl_append]

/-- A reduction has come as far as the progress through a run, in which the terms are joined. -/
inductive Reduction.Shows : Reduction → Run.Progress → Prop where
  | operandNext (terms product negations) :
      Shows ⟨terms, product, negations, true⟩ (.operandNext (sum? terms) product negations)
  | operandLast (terms product) :
      Shows ⟨terms, some product, 0, false⟩ (.operandLast (sum? terms) product)

namespace Reduction

variable {reduction : Reduction} {progress : Run.Progress}

theorem Shows.step (shown : reduction.Shows progress) (item : Item) :
    (∃ further next, reduction.step (.item item) = .ok further ∧ progress.step item = .ok next ∧
      further.Shows next) ∨
    ∃ error, reduction.step (.item item) = .error error ∧ progress.step item = .error error := by
  cases shown with
  | operandNext terms product negations =>
      cases item with
      | formula operand => exact .inl ⟨_, _, rfl, rfl, .operandLast _ _⟩
      | not => exact .inl ⟨_, _, rfl, rfl, .operandNext _ _ _⟩
      | and | or => exact .inr ⟨_, rfl, rfl⟩
  | operandLast terms product =>
      cases item with
      | and => exact .inl ⟨_, _, rfl, rfl, .operandNext _ _ _⟩
      | or =>
          refine .inl ⟨_, _, rfl, rfl, ?_⟩
          rw [← sum?_concat]
          exact .operandNext _ _ _
      | formula | not => exact .inr ⟨_, rfl, rfl⟩

theorem Shows.finish (shown : reduction.Shows progress) :
    reduction.finish = progress.finish := by
  cases shown with
  | operandNext terms product negations =>
      cases negations with
      | succ count => simp [Reduction.finish, Run.Progress.finish]
      | zero => cases terms <;> cases product <;> rfl
  | operandLast terms product =>
      simp [Reduction.finish, Run.Progress.finish, sum?_concat]

theorem Shows.reduce (shown : reduction.Shows progress) (run : Run) :
    ((run.map StackElement.item).foldlM Reduction.step reduction >>= Reduction.finish) =
      (run.foldlM Run.Progress.step progress >>= Run.Progress.finish) := by
  induction run generalizing reduction progress with
  | nil => exact shown.finish
  | cons item run inductionHypothesis =>
      rw [List.map_cons, List.foldlM_cons, List.foldlM_cons]
      rcases shown.step item with ⟨further, next, read, stepped, shown⟩ | ⟨error, read, stepped⟩
      · rw [read, stepped, ok_bind, ok_bind]
        exact inductionHypothesis shown
      · rw [read, stepped]
        rfl

end Reduction

theorem reduce_map (run : Run) : reduce (run.map .item) = run.reduce :=
  Reduction.Shows.reduce (.operandNext [] none 0) run

/-- The innermost run ends at the first parenthesis, or at the bottom of the stack. -/
theorem span_flat (stack : ParseStack) :
    stack.flat.takeWhile (· != .openParen) = stack.current.map .item ∧
      stack.flat.dropWhile (· != .openParen) =
        stack.enclosing.flatMap fun run => .openParen :: run.map .item := by
  have items : ∀ element ∈ stack.current.map StackElement.item, element != .openParen := by
    intro element member
    obtain ⟨item, _, rfl⟩ := List.mem_map.1 member
    rfl
  rw [ParseStack.flat, List.takeWhile_append_of_pos items, List.dropWhile_append_of_pos items]
  cases stack.enclosing <;> simp

theorem innermost_flat (stack : ParseStack) :
    stack.flat.innermost = stack.current.reverse.map .item := by
  rw [innermost, (span_flat stack).1, List.map_reverse]

theorem close_flat (stack : ParseStack) :
    close stack.flat = (stack.close.1.flat, stack.close.2) := by
  obtain ⟨current, enclosing⟩ := stack
  rw [close, (span_flat _).2, innermost_flat, reduce_map, ParseStack.close]
  cases enclosing with
  | nil => rfl
  | cons run enclosing =>
      dsimp only [List.flatMap_cons, List.cons_append]
      by_cases empty : current = []
      · simp [ParseStack.group, empty, ParseStack.flat]
      · cases reduced : Run.reduce current.reverse <;>
          simp [ParseStack.group, empty, reduced, ParseStack.flat]

theorem push_flat (stack : ParseStack) (token : Token) :
    push stack.flat token = ((stack.push token).1.flat, (stack.push token).2) := by
  cases token with
  | closeParen => rw [push, close_flat]; rfl
  | openParen => simp [push, ParseStack.push]
  | test | and | or | not => simp [push, ParseStack.push, ParseStack.flat_add]

theorem finish_flat (stack : ParseStack) : finish stack.flat = stack.finish := by
  obtain ⟨current, enclosing⟩ := stack
  cases enclosing with
  | nil =>
      rw [finish, ParseStack.flat_nil, ← List.map_reverse, reduce_map, ParseStack.finish]
      cases current with
      | nil => rfl
      | cons item current => simp
  | cons run enclosing => simp [finish, ParseStack.finish]

def pushAll (stack : FlatStack) : List Token → Except FilterError FlatStack
  | [] => .ok stack
  | token :: rest =>
      match stack.push token with
      | (next, .ok _) => next.pushAll rest
      | (_, .error error) => .error error

theorem pushAll_flat (stack : ParseStack) (tokens : List Token) :
    pushAll stack.flat tokens = (stack.pushAll tokens).map ParseStack.flat := by
  induction tokens generalizing stack with
  | nil => rfl
  | cons token tokens inductionHypothesis =>
      rw [pushAll, push_flat, ParseStack.pushAll]
      rcases stack.push token with ⟨next, error | group⟩
      · rfl
      · exact inductionHypothesis next

def read (tokens : List Token) : Except FilterError Formula := do
  let stack ← pushAll [] tokens
  finish stack

/-- Tokens are read on a flat stack as they are on a stack of runs. -/
theorem read_eq_ofTokens (tokens : List Token) : read tokens = Formula.ofTokens tokens := by
  have pushed : pushAll [] tokens = (ParseStack.empty.pushAll tokens).map ParseStack.flat :=
    pushAll_flat .empty tokens
  rw [read, pushed, Formula.ofTokens]
  cases ParseStack.empty.pushAll tokens with
  | error error => rfl
  | ok stack => exact finish_flat stack

end FlatStack

end PacketFilter
