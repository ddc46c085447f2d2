import PacketFilter.Formula.Run
import PacketFilter.Token.Basic

/-!
Reading tokens as a filter. The stack holds the run that is being read and, for every parenthesis
still open, the run in front of it. A closing parenthesis turns the innermost run into one element
of the run around it; when that fails the stack is as it was before the parenthesis was opened.
-/

namespace PacketFilter

structure ParseStack where
  /-- The innermost run, the last element first. -/
  current : Run
  /-- The runs in front of the open parentheses, the innermost first. -/
  enclosing : List Run
  deriving DecidableEq, Repr

namespace ParseStack

def empty : ParseStack := ⟨[], []⟩

def group (run : Run) : Except FilterError Formula :=
  if run = [] then .error (.incomplete "empty parentheses") else Run.reduce run

def add (stack : ParseStack) (item : Item) : ParseStack :=
  ⟨item :: stack.current, stack.enclosing⟩

/-- Closes the innermost parenthesis. Gives the stack that is left and the filter in the
parentheses. -/
def close (stack : ParseStack) : ParseStack × Except FilterError Formula :=
  match stack.enclosing with
  | [] => (stack, .error .unbalancedParenthesis)
  | run :: enclosing =>
      match group stack.current.reverse with
      | .ok formula => (⟨.formula formula :: run, enclosing⟩, .ok formula)
      | .error error => (⟨run, enclosing⟩, .error error)

/-- Takes one token. Gives the stack that is left, and the filter in parentheses if the token
closes some. -/
def push (stack : ParseStack) : Token → ParseStack × Except FilterError (Option Formula)
  | .test test => (stack.add (.formula (.test test)), .ok none)
  | .and => (stack.add .and, .ok none)
  | .or => (stack.add .or, .ok none)
  | .not => (stack.add .not, .ok none)
  | .openParen => (⟨[], stack.current :: stack.enclosing⟩, .ok none)
  | .closeParen => (stack.close.1, stack.close.2.map some)

def finish (stack : ParseStack) : Except FilterError Formula :=
  match stack.enclosing with
  | [] => Run.reduce stack.current.reverse
  | _ :: _ => .error .unbalancedParenthesis

def pushAll (stack : ParseStack) : List Token → Except FilterError ParseStack
  | [] => .ok stack
  | token :: rest =>
      match stack.push token with
      | (next, .ok _) => next.pushAll rest
      | (_, .error error) => .error error

/-- The filters in parentheses that are closed while no token fails, in the order of closing. -/
def closedGroups (stack : ParseStack) : List Token → List Formula
  | [] => []
  | token :: rest =>
      match stack.push token with
      | (next, .ok group) => group.toList ++ next.closedGroups rest
      | (_, .error _) => []

end ParseStack

namespace Formula

def ofTokens (tokens : List Token) : Except FilterError Formula := do
  let stack ← ParseStack.empty.pushAll tokens
  stack.finish

def groupsOfTokens (tokens : List Token) : List Formula :=
  ParseStack.empty.closedGroups tokens

end Formula

end PacketFilter
