import PacketFilter.Address.Basic
import PacketFilter.Packet.Extension

/-!
The network headers of the two families. The version in the first four bits decides how the bytes
are read, and a header has to be whole: twenty bytes for version 4, forty for version 6.
-/

namespace PacketFilter

structure Ipv4Header where
  /-- In words of four bytes. -/
  headerLength : Nat
  trafficClass : Nat
  totalLength : Nat
  identification : Nat
  fragment : Fragment
  timeToLive : Nat
  protocol : Nat
  source : BitVec 32
  destination : BitVec 32
  deriving DecidableEq, Repr

structure Ipv6Header where
  trafficClass : Nat
  flowLabel : Nat
  payloadLength : Nat
  /-- The protocol that the fixed header names. -/
  nextHeader : Nat
  hopLimit : Nat
  source : BitVec 128
  destination : BitVec 128
  /-- Where the extension headers lead, unless they are cut short. -/
  extensions : Option ExtensionChain
  deriving DecidableEq, Repr

def Ipv4Header.size : Nat := 20

def Ipv6Header.size : Nat := 40

/-- Reads a version 4 header, whatever version the bytes claim. -/
def Ipv4Header.ofBytes? (bytes : Bytes) : Option Ipv4Header :=
  if bytes.length < Ipv4Header.size then none
  else
    some {
      headerLength := bytes.field 0 1 % 16
      trafficClass := bytes.field 1 1
      totalLength := bytes.field 2 2
      identification := bytes.field 4 2
      fragment := ⟨bytes.field 6 2 % 8192, (bytes.field 6 2).testBit 13⟩
      timeToLive := bytes.field 8 1
      protocol := bytes.field 9 1
      source := BitVec.ofNat 32 (bytes.field 12 4)
      destination := BitVec.ofNat 32 (bytes.field 16 4)
    }

def Ipv6Header.ofBytes? (bytes : Bytes) : Option Ipv6Header :=
  if bytes.length < Ipv6Header.size then none
  else
    some {
      trafficClass := bytes.field 0 2 / 16 % 256
      flowLabel := bytes.field 0 4 % 1048576
      payloadLength := bytes.field 4 2
      nextHeader := bytes.field 6 1
      hopLimit := bytes.field 7 1
      source := BitVec.ofNat 128 (bytes.field 8 16)
      destination := BitVec.ofNat 128 (bytes.field 24 16)
      extensions :=
        ExtensionChain.follow (bytes.field 6 1) (bytes.drop Ipv6Header.size)
    }

inductive IpHeader where
  | v4 (header : Ipv4Header)
  | v6 (header : Ipv6Header)
  deriving DecidableEq, Repr

namespace IpHeader

/-- Reads the header in front, of the version that the first four bits tell. -/
def ofBytes? : Bytes → Option IpHeader
  | [] => none
  | first :: rest =>
      if first.toNat / 16 = 4 then (Ipv4Header.ofBytes? (first :: rest)).map .v4
      else if first.toNat / 16 = 6 then (Ipv6Header.ofBytes? (first :: rest)).map .v6
      else none

def version : IpHeader → Nat
  | v4 _ => 4
  | v6 _ => 6

def source : IpHeader → Address
  | v4 header => .v4 header.source
  | v6 header => .v6 header.source

def destination : IpHeader → Address
  | v4 header => .v4 header.destination
  | v6 header => .v6 header.destination

def trafficClass : IpHeader → Nat
  | v4 header => header.trafficClass
  | v6 header => header.trafficClass

def timeToLive : IpHeader → Nat
  | v4 header => header.timeToLive
  | v6 header => header.hopLimit

/-- The length of the datagram with its header, as far as sixteen bits can tell. -/
def length : IpHeader → Nat
  | v4 header => header.totalLength
  | v6 header => min (header.payloadLength + Ipv6Header.size) 65535

def headerLength? : IpHeader → Option Nat
  | v4 header => some header.headerLength
  | v6 _ => none

def identification? : IpHeader → Option Nat
  | v4 header => some header.identification
  | v6 _ => none

def flowLabel? : IpHeader → Option Nat
  | v4 _ => none
  | v6 header => some header.flowLabel

def payloadLength? : IpHeader → Option Nat
  | v4 _ => none
  | v6 header => some header.payloadLength

def hopLimit? : IpHeader → Option Nat
  | v4 _ => none
  | v6 header => some header.hopLimit

/-- The protocol of the payload: for version 6 the one behind the extension headers, or the one
that the fixed header names when they are cut short. -/
def protocol : IpHeader → Nat
  | v4 header => header.protocol
  | v6 header =>
      match header.extensions with
      | some chain => chain.protocol
      | none => header.nextHeader

def nextHeader? : IpHeader → Option Nat
  | v4 _ => none
  | v6 header => some (v6 header).protocol

def fragment? : IpHeader → Option Fragment
  | v4 header => some header.fragment
  | v6 header => header.extensions.bind ExtensionChain.fragment

def isFragment (header : IpHeader) : Bool :=
  header.fragment?.any Fragment.isPartial

/-- Where the transport header starts, counted from the start of this header. Only the first
fragment of a datagram has one. -/
def transportOffset? (header : IpHeader) : Option Nat :=
  if header.fragment?.any fun fragment => fragment.offset != 0 then none
  else
    match header with
    | v4 header => if header.headerLength < 5 then none else some (header.headerLength * 4)
    | v6 header => header.extensions.map fun chain => Ipv6Header.size + chain.length

end IpHeader

end PacketFilter
