import PacketFilter.Formula.Reader

/-!
Sets of programs. A set is built from a list of expressions, one for each output. Every expression
is compiled on its own: those that are no filters are kept as rejections, and the others keep the
number of their place. A set either classifies packets, the first program that matches giving the
output, or evaluates every program and lets the verdicts decide about a single output.
-/

namespace PacketFilter

inductive Action where
  | logOnly
  | gate
  deriving DecidableEq, Repr

def Action.default : Action := .logOnly

def Action.name : Action → String
  | logOnly => "log_only"
  | gate => "gate"

/-- Looks an action up by its exact name. -/
def Action.ofName? : String → Option Action
  | "log_only" => some .logOnly
  | "gate" => some .gate
  | _ => none

inductive Mode where
  /-- The first program that matches gives the output, the default output serves the rest. -/
  | classifier (defaultOutput : Option Nat)
  | filter (action : Action)
  deriving DecidableEq, Repr

namespace Mode

def default : Mode := classifier none

def defaultOutput : Mode → Option Nat
  | classifier output => output
  | filter _ => none

/-- What the verdicts decide. A classifier lets every packet pass. -/
def action : Mode → Action
  | classifier _ => .default
  | filter action => action

end Mode

inductive Dispatch where
  | output (number : Nat)
  | drop
  deriving DecidableEq, Repr

structure Program where
  output : Nat
  expression : String
  formula : Formula
  deriving DecidableEq, Repr

structure Verdict where
  output : Nat
  expression : String
  accepted : Bool
  deriving DecidableEq, Repr

def Program.verdict (packet : Packet) (program : Program) : Verdict :=
  ⟨program.output, program.expression, program.formula.accepts packet⟩

structure Config where
  expressions : List String
  mode : Mode
  deriving DecidableEq, Repr

structure ProgramSet where
  programs : List Program
  rejections : List Rejection
  mode : Mode
  deriving DecidableEq, Repr

namespace ProgramSet

def program? (expression : String) (index : Nat) : Option Program :=
  match Formula.compile expression with
  | .ok formula => some ⟨index, expression, formula⟩
  | .error _ => none

def rejection? (expression : String) (index : Nat) : Option Rejection :=
  match Formula.compile expression with
  | .ok _ => none
  | .error error => some ⟨index, expression, error⟩

/-- Compiles every expression. The default output may be one past the last expression. -/
def compile (expressions : List String) (mode : Mode) : Except FilterError ProgramSet :=
  match mode.defaultOutput with
  | some output =>
      if expressions.length < output then
        .error (.defaultOutputOutOfRange output expressions.length)
      else .ok (build expressions mode)
  | none => .ok (build expressions mode)
where
  /-- The set of the expressions, whatever the default output. -/
  build (expressions : List String) (mode : Mode) : ProgramSet :=
    { programs := expressions.zipIdx.filterMap fun (expression, index) =>
        program? expression index
      rejections := expressions.zipIdx.filterMap fun (expression, index) =>
        rejection? expression index
      mode := mode }

def ofConfig (config : Config) : Except FilterError ProgramSet :=
  compile config.expressions config.mode

def firstAccepting? (set : ProgramSet) (packet : Packet) : Option Program :=
  set.programs.find? fun program => program.formula.accepts packet

/-- Sends a packet to the output of the first program that matches, or else to the default
output. -/
def classify (set : ProgramSet) (packet : Packet) : Dispatch :=
  match set.firstAccepting? packet with
  | some program => .output program.output
  | none =>
      match set.mode.defaultOutput with
      | some output => .output output
      | none => .drop

def evaluateAll (set : ProgramSet) (packet : Packet) : List Verdict :=
  set.programs.map (Program.verdict packet)

def filter (set : ProgramSet) (packet : Packet) : Dispatch :=
  match set.mode.action with
  | .logOnly => .output 0
  | .gate => if (set.evaluateAll packet).any Verdict.accepted then .output 0 else .drop

def process (set : ProgramSet) (packet : Packet) : Dispatch :=
  match set.mode with
  | .classifier _ => set.classify packet
  | .filter _ => set.filter packet

end ProgramSet

end PacketFilter
