import PacketFilter.Packet.Bytes

/-!
The parts of the transport headers that filters look at.
-/

namespace PacketFilter

structure Ports where
  source : Nat
  destination : Nat
  deriving DecidableEq, Repr

/-- The ports are the first two fields of every transport header that has ports. -/
def Ports.ofBytes (bytes : Bytes) : Ports :=
  ⟨bytes.field 0 2, bytes.field 2 2⟩

structure TcpHeader where
  ports : Ports
  flags : Nat
  window : Nat
  deriving DecidableEq, Repr

/-- Reads a TCP header, which has at least twenty bytes. -/
def TcpHeader.ofBytes? (bytes : Bytes) : Option TcpHeader :=
  if bytes.length < 20 then none
  else some ⟨Ports.ofBytes bytes, bytes.field 13 1, bytes.field 14 2⟩

/-- Reads the ports of a UDP header, which has eight bytes. -/
def Ports.ofUdp? (bytes : Bytes) : Option Ports :=
  if bytes.length < 8 then none else some (Ports.ofBytes bytes)

end PacketFilter
