import PacketFilter.Error
import PacketFilter.Formula.Basic

/-!
Runs: what stands between two parentheses once the groups in it are filters. A run is read from
left to right. Negation binds closest, then `and`, then `or`, and both connectives join to the
left.
-/

namespace PacketFilter

inductive Item where
  | formula (formula : Formula)
  | and
  | or
  | not
  deriving DecidableEq, Repr

def Item.name : Item → String
  | formula _ => "operand"
  | and => "'and'"
  | or => "'or'"
  | not => "'not'"

abbrev Run := List Item

namespace Run

/-- How far a run has been read. Finished terms are joined in `sum`, the term being read in
`product`, and either an operand comes next, behind some negations, or an operand was last. -/
inductive Progress where
  | operandNext (sum product : Option Formula) (negations : Nat)
  | operandLast (sum : Option Formula) (product : Formula)
  deriving DecidableEq, Repr

/-- Joins a filter to what stands on its left, if anything does. -/
def joined (connective : Formula → Formula → Formula) (left : Option Formula)
    (right : Formula) : Formula :=
  match left with
  | some left => connective left right
  | none => right

def missingConnective (item : Item) : FilterError :=
  .incomplete ("missing connective before " ++ item.name)

def missingLeftOperand (item : Item) : FilterError :=
  .incomplete (item.name ++ " is missing its left operand")

namespace Progress

def start : Progress := operandNext none none 0

def step : Progress → Item → Except FilterError Progress
  | operandNext sum product negations, .not => .ok (operandNext sum product (negations + 1))
  | operandNext sum product negations, .formula operand =>
      .ok (operandLast sum (joined .and product (operand.negated negations)))
  | operandNext _ _ _, item => .error (missingLeftOperand item)
  | operandLast sum product, .and => .ok (operandNext sum (some product) 0)
  | operandLast sum product, .or => .ok (operandNext (some (joined .or sum product)) none 0)
  | operandLast _ _, item => .error (missingConnective item)

def finish : Progress → Except FilterError Formula
  | operandLast sum product => .ok (joined .or sum product)
  | operandNext none none 0 => .error .emptyExpression
  | operandNext _ _ 0 => .error (.incomplete "connective without right operand")
  | operandNext _ _ _ => .error (.incomplete "'not' without operand")

end Progress

def reduce (run : Run) : Except FilterError Formula := do
  let progress ← run.foldlM Progress.step Progress.start
  progress.finish

end Run

end PacketFilter
