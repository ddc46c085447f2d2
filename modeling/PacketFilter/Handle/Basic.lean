import PacketFilter.ProgramSet.Basic

/-!
Handles on an installed set of programs. Handles that were cloned from one another share a cell, in
which one set is installed. Taking a snapshot gives the installed set, swapping installs another
one and gives the set that it replaces. A swap that is interrupted while it holds the lock of the
cell installs nothing, and the lock cannot be taken again. Everything happens in sequence.
-/

namespace PacketFilter

/-- A set that was installed by the request of the given number. Equal sets that different requests
installed are told apart by it. -/
structure Snapshot where
  request : Nat
  set : ProgramSet
  deriving DecidableEq, Repr

/-- What can be asked of a handle. Sets are given by their configurations. -/
inductive Operation where
  | load
  | process (packet : Packet)
  | swap (config : Config)
  /-- A swap that is interrupted while it holds the lock. -/
  | interruptedSwap (config : Config)
  deriving DecidableEq, Repr

inductive Reply where
  | handle (number : Nat)
  | snapshot (snapshot : Snapshot)
  | dispatch (dispatch : Dispatch)
  | interrupted
  | failed (error : FilterError)
  /-- There is no handle of this number. -/
  | unknownHandle
  deriving DecidableEq, Repr

def Reply.ofExcept {α : Type} (reply : α → Reply) : Except FilterError α → Reply
  | .ok value => reply value
  | .error error => .failed error

structure Cell where
  installed : Snapshot
  /-- A swap was interrupted while it held the lock. -/
  isPoisoned : Bool
  deriving DecidableEq, Repr

namespace Cell

/-- The error of everything that needs the lock after an interruption. -/
def lockError : FilterError :=
  .locked "poisoned lock: another task failed inside"

def load (cell : Cell) : Except FilterError Snapshot :=
  if cell.isPoisoned then .error lockError else .ok cell.installed

def process (cell : Cell) (packet : Packet) : Except FilterError Dispatch := do
  let snapshot ← cell.load
  .ok (snapshot.set.process packet)

def swap (cell : Cell) (next : Snapshot) : Except FilterError Snapshot × Cell :=
  if cell.isPoisoned then (.error lockError, cell) else (.ok cell.installed, ⟨next, false⟩)

/-- Takes the lock to install a set and never gives it back. -/
def interrupt (cell : Cell) : Except FilterError Unit × Cell :=
  if cell.isPoisoned then (.error lockError, cell) else (.ok (), ⟨cell.installed, true⟩)

/-- Carries out an operation that the request of the given number asks for. A set that cannot be
built is not installed, and the lock is not asked for. -/
def perform (cell : Cell) (request : Nat) : Operation → Reply × Cell
  | .load => (.ofExcept .snapshot cell.load, cell)
  | .process packet => (.ofExcept .dispatch (cell.process packet), cell)
  | .swap config =>
      match ProgramSet.ofConfig config with
      | .error error => (.failed error, cell)
      | .ok set =>
          let (replaced, after) := cell.swap ⟨request, set⟩
          (.ofExcept .snapshot replaced, after)
  | .interruptedSwap config =>
      match ProgramSet.ofConfig config with
      | .error error => (.failed error, cell)
      | .ok _ =>
          let (outcome, after) := cell.interrupt
          (.ofExcept (fun _ => .interrupted) outcome, after)

end Cell

inductive Request where
  /-- A new cell with a handle on it. -/
  | create (config : Config)
  /-- Another handle on the same cell. -/
  | clone (handle : Nat)
  | ask (handle : Nat) (operation : Operation)
  deriving DecidableEq, Repr

structure Registry where
  cells : List Cell
  /-- The cell of each handle. -/
  handles : List Nat
  /-- The number of requests so far. -/
  requests : Nat
  deriving DecidableEq, Repr

namespace Registry

def empty : Registry := ⟨[], [], 0⟩

def cellOf? (registry : Registry) (handle : Nat) : Option Nat :=
  registry.handles[handle]?

def ask (registry : Registry) (number : Nat) (operation : Operation) : Reply × Registry :=
  match registry.cells[number]? with
  | some cell =>
      let (reply, after) := cell.perform registry.requests operation
      (reply, { registry with cells := registry.cells.set number after })
  | none => (.unknownHandle, registry)

def answer (registry : Registry) : Request → Reply × Registry
  | .create config =>
      match ProgramSet.ofConfig config with
      | .error error => (.failed error, registry)
      | .ok set =>
          (.handle registry.handles.length,
            { registry with
              cells := registry.cells ++ [⟨⟨registry.requests, set⟩, false⟩]
              handles := registry.handles ++ [registry.cells.length] })
  | .clone handle =>
      match registry.cellOf? handle with
      | some number =>
          (.handle registry.handles.length,
            { registry with handles := registry.handles ++ [number] })
      | none => (.unknownHandle, registry)
  | .ask handle operation =>
      match registry.cellOf? handle with
      | some number => registry.ask number operation
      | none => (.unknownHandle, registry)

def perform (registry : Registry) (request : Request) : Reply × Registry :=
  let (reply, after) := registry.answer request
  (reply, { after with requests := registry.requests + 1 })

def run (registry : Registry) : List Request → List Reply × Registry
  | [] => ([], registry)
  | request :: rest =>
      let (reply, next) := registry.perform request
      let (replies, last) := next.run rest
      (reply :: replies, last)

end Registry

end PacketFilter
