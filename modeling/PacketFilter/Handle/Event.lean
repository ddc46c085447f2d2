import PacketFilter.Handle.Basic
import PacketFilter.ProgramSet.Event

/-!
What is reported while requests are carried out.
-/

namespace PacketFilter

/-- The events of carrying out an operation on a cell. A set is reported as being installed once
the lock is taken, and an interruption comes before its report. -/
def Cell.events (cell : Cell) : Operation → List Event
  | .load => []
  | .process packet =>
      match cell.load with
      | .ok snapshot => snapshot.set.processEvents packet
      | .error _ => []
  | .swap config =>
      ProgramSet.compileEvents config.expressions ++
        (match ProgramSet.ofConfig config, cell.load with
          | .ok set, .ok _ => [.swapping set.programs.length set.rejections.length]
          | _, _ => [])
  | .interruptedSwap config => ProgramSet.compileEvents config.expressions

def Registry.events (registry : Registry) : Request → List Event
  | .create config => ProgramSet.compileEvents config.expressions
  | .clone _ => []
  | .ask handle operation =>
      match registry.cellOf? handle with
      | some number => (registry.cells[number]?.map (·.events operation)).getD []
      | none => []

end PacketFilter
