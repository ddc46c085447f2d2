/-!
The transport protocols that have a name, and the numbers that the Internet protocols know them by.
-/

namespace PacketFilter.Protocol

def tcp : Nat := 6

def udp : Nat := 17

def udplite : Nat := 136

def table : List (String × Nat) :=
  [("icmp", 1), ("igmp", 2), ("tcp", tcp), ("udp", udp), ("dccp", 33), ("gre", 47), ("esp", 50),
   ("ah", 51), ("icmp6", 58), ("icmpv6", 58), ("ospf", 89), ("pim", 103), ("vrrp", 112),
   ("sctp", 132), ("udplite", udplite)]

def names : List String :=
  table.map Prod.fst

/-- Looks a protocol up by its name, in letters of either case. -/
def ofName? (written : String) : Option Nat :=
  table.lookup (written.map Char.toLower)

end PacketFilter.Protocol
