/-!
The six ways in which a field of a packet is compared with an operand.
-/

namespace PacketFilter

inductive Comparison where
  | eq
  | ne
  | gt
  | ge
  | lt
  | le
  deriving DecidableEq, Repr

namespace Comparison

def default : Comparison := .eq

/-- Compares the value of a field, on the left, with an operand. -/
def holds : Comparison → Nat → Nat → Bool
  | .eq, field, operand => field == operand
  | .ne, field, operand => field != operand
  | .gt, field, operand => operand < field
  | .ge, field, operand => operand ≤ field
  | .lt, field, operand => field < operand
  | .le, field, operand => field ≤ operand

def symbol : Comparison → String
  | .eq => "=="
  | .ne => "!="
  | .gt => ">"
  | .ge => ">="
  | .lt => "<"
  | .le => "<="

/-- Reads a symbol. A single equals sign is a second spelling of equality. -/
def ofSymbol? : String → Option Comparison
  | "==" => some .eq
  | "=" => some .eq
  | "!=" => some .ne
  | ">" => some .gt
  | ">=" => some .ge
  | "<" => some .lt
  | "<=" => some .le
  | _ => none

@[simp]
theorem ofSymbol?_symbol (comparison : Comparison) :
    ofSymbol? comparison.symbol = some comparison := by
  cases comparison <;> rfl

end Comparison

end PacketFilter
