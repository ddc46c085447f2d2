import PacketFilter.Packet.Basic

/-!
Packets as they are captured: the bytes of a frame or datagram with the places of the headers in
them. The places are either given or found from the bytes.
-/

namespace PacketFilter

structure Capture where
  data : Bytes
  networkOffset : Nat
  transportOffset : Option Nat
  deriving DecidableEq, Repr

namespace Capture

/-- The bytes from the network header on, none if it lies past the end. -/
def network (capture : Capture) : Bytes :=
  (capture.data.from? capture.networkOffset).getD []

def transport? (capture : Capture) : Option Bytes :=
  capture.transportOffset.bind capture.data.from?

def protocol? (capture : Capture) : Option Nat :=
  (IpHeader.ofBytes? capture.network).map IpHeader.protocol

def packet (capture : Capture) : Packet :=
  ⟨capture.network, capture.transport?, capture.protocol?, capture.data.length⟩

def locate (data : Bytes) (networkOffset : Nat) : Capture :=
  let header := (data.from? networkOffset).bind IpHeader.ofBytes?
  let offset := (header.bind IpHeader.transportOffset?).map (networkOffset + ·)
  ⟨data, networkOffset, offset.filter (· ≤ data.length)⟩

def ofIp (data : Bytes) : Capture :=
  locate data 0

/-- The bytes of an Ethernet header, and of the tag that may follow it. -/
def ethernetSize : Nat := 14

def tagSize : Nat := 4

/-- The Ethernet type of a tag, and the ones of the two families. -/
def tagType : Nat := 0x8100

def isIpType (type : Nat) : Bool :=
  type == 0x0800 || type == 0x86DD

/-- A datagram in an Ethernet frame, with at most one tag. Other frames carry none. -/
def ofEthernet? (frame : Bytes) : Option Capture :=
  if frame.length < ethernetSize then none
  else if frame.field 12 2 = tagType then
    if frame.length < ethernetSize + tagSize then none
    else if isIpType (frame.field 16 2) then some (locate frame (ethernetSize + tagSize))
    else none
  else if isIpType (frame.field 12 2) then some (locate frame ethernetSize)
  else none

end Capture

end PacketFilter
