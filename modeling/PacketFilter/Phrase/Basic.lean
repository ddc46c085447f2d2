import PacketFilter.Predicate.Basic

/-!
The keywords of the language and what is written behind each. The fields of the network header
follow `ip` or `ip6`, the fields of the transport header follow `tcp`, and addresses and ports are
named by `host`, `net` and `port`.
-/

namespace PacketFilter

inductive Phrase where
  /-- A comparison and a number within the limit of the field. -/
  | number (field : Field)
  /-- A comparison and the name or number of a protocol. -/
  | protocol (field : Field)
  /-- A comparison and an address. -/
  | host (side : Side)
  /-- A comparison and a network. -/
  | net (side : Side)
  /-- A comparison and a port. -/
  | port (side : Side)
  /-- A sign of equality at most. -/
  | flag (predicate : Predicate)
  /-- A sign of equality at most, and the name of a flag. -/
  | tcpFlag
  deriving DecidableEq, Repr

abbrev Keywords := List (String × Phrase)

namespace Keywords

/-- The keywords for the network header, which may stand without `ip`. -/
def ip : Keywords :=
  [("vers", .number .version), ("version", .number .version), ("hl", .number .headerLength),
   ("ihl", .number .headerLength), ("id", .number .identification),
   ("tos", .number .trafficClass), ("dscp", .number .codePoint), ("ecn", .number .congestion),
   ("ttl", .number .timeToLive), ("len", .number .length), ("proto", .protocol .protocol),
   ("ce", .flag .congested), ("frag", .flag .fragment), ("unfrag", .flag .unfragmented)]

def ip6 : Keywords :=
  [("flow", .number .flowLabel), ("plen", .number .payloadLength), ("hlim", .number .hopLimit),
   ("nxt", .protocol .nextHeader)]

def tcp : Keywords :=
  [("opt", .tcpFlag), ("flags", .tcpFlag), ("win", .number .window), ("window", .number .window)]

def endpoint (side : Side) : Keywords :=
  [("host", .host side), ("net", .net side), ("port", .port side)]

def constant : Keywords :=
  [("-", .flag (.constant true)), ("true", .flag (.constant true)),
   ("false", .flag (.constant false))]

end Keywords

def Side.ofName? : String → Option Side
  | "src" => some .source
  | "dst" => some .destination
  | _ => none

/-- A word that asks for a version or protocol, with the keywords that it may stand in front of
without asking for anything. -/
structure Qualifier where
  predicate : Predicate
  keywords : Keywords
  deriving DecidableEq, Repr

def Qualifier.ofProtocol (protocol : Nat) : Qualifier :=
  ⟨.numeric .protocol protocol, if protocol = Protocol.tcp then Keywords.tcp else []⟩

def Qualifier.ofName? : String → Option Qualifier
  | "ip" => some ⟨.numeric .version 4, Keywords.ip⟩
  | "ip6" => some ⟨.numeric .version 6, Keywords.ip6⟩
  | name => (Protocol.ofName? name).map ofProtocol

end PacketFilter
