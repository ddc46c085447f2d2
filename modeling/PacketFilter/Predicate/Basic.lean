import PacketFilter.Comparison
import PacketFilter.Network.Basic
import PacketFilter.Protocol
import PacketFilter.TcpFlag

/-!
The properties of a packet that a filter can ask for. Some compare a part of the packet with an
operand and leave the comparison open; the others either hold or not.
-/

namespace PacketFilter

inductive Side where
  | either
  | source
  | destination
  deriving DecidableEq, Repr

def Side.select {α : Type} (source destination : α) : Side → List α
  | .either => [source, destination]
  | .source => [source]
  | .destination => [destination]

inductive Field where
  | version
  | headerLength
  | identification
  | trafficClass
  /-- The upper six bits of the traffic class. -/
  | codePoint
  /-- The lower two bits of the traffic class. -/
  | congestion
  | timeToLive
  | length
  | protocol
  | flowLabel
  | payloadLength
  | hopLimit
  | nextHeader
  | window
  deriving DecidableEq, Repr

/-- The largest operand that can be written for a field. -/
def Field.limit : Field → Nat
  | .version => 15
  | .headerLength => 15
  | .identification => 65535
  | .trafficClass => 255
  | .codePoint => 63
  | .congestion => 3
  | .timeToLive => 255
  | .length => 65535
  | .protocol => 255
  | .flowLabel => 1048575
  | .payloadLength => 65535
  | .hopLimit => 255
  | .nextHeader => 255
  | .window => 65535

/-- The bits that the operand of a field is stored with. -/
def Field.width : Field → Nat
  | .version => 8
  | .headerLength => 8
  | .identification => 16
  | .trafficClass => 8
  | .codePoint => 8
  | .congestion => 8
  | .timeToLive => 8
  | .length => 16
  | .protocol => 8
  | .flowLabel => 32
  | .payloadLength => 16
  | .hopLimit => 8
  | .nextHeader => 8
  | .window => 16

def portLimit : Nat := 65535

def portWidth : Nat := 16

inductive Predicate where
  | host (side : Side) (network : Network)
  | net (side : Side) (network : Network)
  | port (side : Side) (number : Nat)
  | numeric (field : Field) (operand : Nat)
  /-- Routers on the way have met congestion. -/
  | congested
  | fragment
  | unfragmented
  | tcpFlag (flag : TcpFlag)
  | constant (value : Bool)
  deriving DecidableEq, Repr

/-- A predicate that holds or not, without a comparison. -/
def Predicate.isFlag : Predicate → Bool
  | .congested => true
  | .fragment => true
  | .unfragmented => true
  | .tcpFlag _ => true
  | .constant _ => true
  | _ => false

/-- A predicate with its comparison, possibly negated. Exactly the predicates that leave one open
have a comparison. -/
structure Test where
  predicate : Predicate
  comparison : Option Comparison
  negated : Bool
  isSome_comparison : comparison.isSome = !predicate.isFlag
  deriving DecidableEq, Repr

namespace Test

/-- The comparison that a predicate is bound to when the given one is written. -/
def comparisonFor (predicate : Predicate) (written : Option Comparison) : Option Comparison :=
  if predicate.isFlag then none else some (written.getD .default)

theorem isSome_comparisonFor (predicate : Predicate) (written : Option Comparison) :
    (comparisonFor predicate written).isSome = !predicate.isFlag := by
  cases flag : predicate.isFlag <;> simp [comparisonFor, flag]

def bind (predicate : Predicate) (written : Option Comparison) (negated : Bool) : Test :=
  ⟨predicate, comparisonFor predicate written, negated, isSome_comparisonFor predicate written⟩

def negate (test : Test) : Test :=
  ⟨test.predicate, test.comparison, !test.negated, test.isSome_comparison⟩

@[simp]
theorem negate_negate (test : Test) : test.negate.negate = test := by
  simp [negate]

end Test

end PacketFilter
