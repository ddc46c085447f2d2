import PacketFilter.Packet.Basic
import PacketFilter.Predicate.Basic

/-!
When a packet passes a test. A part that the packet does not have satisfies no comparison, so a
test of it gives the answer that its negation alone gives.
-/

namespace PacketFilter

def congestionMet : Nat := 3

def Field.ofIpHeader? (header : IpHeader) : Field → Option Nat
  | .version => some header.version
  | .headerLength => header.headerLength?
  | .identification => header.identification?
  | .trafficClass => some header.trafficClass
  | .codePoint => some (header.trafficClass / 4)
  | .congestion => some (header.trafficClass % 4)
  | .timeToLive => some header.timeToLive
  | .length => some header.length
  | .protocol => some header.protocol
  | .flowLabel => header.flowLabel?
  | .payloadLength => header.payloadLength?
  | .hopLimit => header.hopLimit?
  | .nextHeader => header.nextHeader?
  | .window => none

def Field.ofPacket? (packet : Packet) : Field → Option Nat
  | .window => packet.tcpHeader?.map TcpHeader.window
  | field => packet.ipHeader?.bind field.ofIpHeader?

namespace Predicate

def addresses (packet : Packet) (side : Side) : List Address :=
  match packet.ipHeader? with
  | some header => side.select header.source header.destination
  | none => []

def portNumbers (packet : Packet) (side : Side) : List Nat :=
  match packet.ports? with
  | some ports => side.select ports.source ports.destination
  | none => []

def holds (comparison : Comparison) (packet : Packet) : Predicate → Bool
  | host side network => (addresses packet side).any (network.compare comparison)
  | net side network => (addresses packet side).any (network.compare comparison)
  | port side number => (portNumbers packet side).any (comparison.holds · number)
  | numeric field operand => (field.ofPacket? packet).any (comparison.holds · operand)
  | congested => packet.ipHeader?.any fun header => header.trafficClass % 4 == congestionMet
  | fragment => packet.ipHeader?.any IpHeader.isFragment
  | unfragmented => packet.ipHeader?.any fun header => !header.isFragment
  | tcpFlag flag => packet.tcpHeader?.any fun header => flag.isSetIn header.flags
  | constant value => value

end Predicate

def Test.passes (test : Test) (packet : Packet) : Bool :=
  test.predicate.holds (test.comparison.getD .default) packet != test.negated

end PacketFilter
