import PacketFilter.Formula.Printer
import PacketFilter.ProgramSet.Basic

/-!
What a set reports while it works, event by event, and the line that each event is reported with.
-/

namespace PacketFilter

inductive Event where
  /-- A parenthesis was closed around this filter. -/
  | groupClosed (formula : Formula)
  | compiled (program : Program)
  | rejected (rejection : Rejection)
  /-- A classifier found the program of this output to match. -/
  | programMatched (output : Nat)
  | verdict (verdict : Verdict)
  | dispatched (dispatch : Dispatch)
  /-- A set with this many programs and rejections is about to be installed. -/
  | swapping (programs rejections : Nat)
  deriving DecidableEq, Repr

def Dispatch.text : Dispatch → String
  | output number => "Output(" ++ Text.decimal number ++ ")"
  | drop => "Drop"

def Event.line : Event → String
  | groupClosed formula => "TRACE reduced group " ++ formula.text
  | compiled program =>
      "DEBUG program [" ++ Text.decimal program.output ++ "] compiled: " ++ program.formula.text
  | rejected rejection => "WARN " ++ rejection.message
  | programMatched output => "TRACE packet matched program [" ++ Text.decimal output ++ "]"
  | verdict given =>
      "TRACE [" ++ Text.decimal given.output ++ "] " ++ given.expression ++ " => " ++
        (if given.accepted then "true" else "false")
  | dispatched dispatch => "TRACE dispatch: " ++ dispatch.text
  | swapping programs rejections =>
      "INFO swapping in " ++ Text.decimal programs ++ " programs (" ++ Text.decimal rejections ++
        " rejected)"

namespace ProgramSet

def expressionEvents (expression : String) (index : Nat) : List Event :=
  (Formula.compiledGroups expression).map .groupClosed ++
    ((program? expression index).map .compiled).toList ++
    ((rejection? expression index).map .rejected).toList

/-- The events of building a set, which come before it is known whether the default output is
within range. -/
def compileEvents (expressions : List String) : List Event :=
  expressions.zipIdx.flatMap fun (expression, index) => expressionEvents expression index

def classifyEvents (set : ProgramSet) (packet : Packet) : List Event :=
  ((set.firstAccepting? packet).map fun program => .programMatched program.output).toList

def filterEvents (set : ProgramSet) (packet : Packet) : List Event :=
  (set.evaluateAll packet).map .verdict

def processEvents (set : ProgramSet) (packet : Packet) : List Event :=
  (match set.mode with
    | .classifier _ => set.classifyEvents packet
    | .filter _ => set.filterEvents packet) ++
    [.dispatched (set.process packet)]

end ProgramSet

end PacketFilter
