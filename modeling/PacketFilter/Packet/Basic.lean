import PacketFilter.Packet.IpHeader
import PacketFilter.Packet.Transport
import PacketFilter.Protocol

/-!
What a filter sees of a packet: the bytes from the network header on, the bytes from the transport
header on if there is one, the transport protocol, and the length of the whole.
-/

namespace PacketFilter

structure Packet where
  network : Bytes
  transport : Option Bytes
  protocol : Option Nat
  length : Nat
  deriving DecidableEq, Repr

namespace Packet

def isEmpty (packet : Packet) : Bool :=
  packet.length == 0

def ipHeader? (packet : Packet) : Option IpHeader :=
  IpHeader.ofBytes? packet.network

def tcpHeader? (packet : Packet) : Option TcpHeader :=
  match packet.protocol, packet.transport with
  | some protocol, some bytes =>
      if protocol = Protocol.tcp then TcpHeader.ofBytes? bytes else none
  | _, _ => none

def ports? (packet : Packet) : Option Ports :=
  match packet.protocol, packet.transport with
  | some protocol, some bytes =>
      if protocol = Protocol.tcp then (TcpHeader.ofBytes? bytes).map TcpHeader.ports
      else if protocol = Protocol.udp ∨ protocol = Protocol.udplite then Ports.ofUdp? bytes
      else none
  | _, _ => none

end Packet

end PacketFilter
