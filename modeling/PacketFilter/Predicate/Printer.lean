import PacketFilter.Predicate.Basic

/-!
The words that a test is written with. Equality is the comparison that is not written.
-/

namespace PacketFilter

def Field.words : Field → List String
  | .version => ["ip", "vers"]
  | .headerLength => ["ip", "hl"]
  | .identification => ["ip", "id"]
  | .trafficClass => ["ip", "tos"]
  | .codePoint => ["ip", "dscp"]
  | .congestion => ["ip", "ecn"]
  | .timeToLive => ["ip", "ttl"]
  | .length => ["ip", "len"]
  | .protocol => ["ip", "proto"]
  | .flowLabel => ["ip6", "flow"]
  | .payloadLength => ["ip6", "plen"]
  | .hopLimit => ["ip6", "hlim"]
  | .nextHeader => ["ip6", "nxt"]
  | .window => ["tcp", "win"]

def Side.words : Side → List String
  | .either => []
  | .source => ["src"]
  | .destination => ["dst"]

/-- The words of a predicate, with the words of its comparison in front of the operand. -/
def Predicate.words (comparison : List String) : Predicate → List String
  | host side network => side.words ++ ["host"] ++ comparison ++ [network.address.text]
  | net side network => side.words ++ ["net"] ++ comparison ++ [network.text]
  | port side number => side.words ++ ["port"] ++ comparison ++ [Text.decimal number]
  | numeric field operand => field.words ++ comparison ++ [Text.decimal operand]
  | congested => ["ip", "ce"]
  | fragment => ["ip", "frag"]
  | unfragmented => ["ip", "unfrag"]
  | tcpFlag flag => ["tcp", "opt", flag.name]
  | constant true => ["true"]
  | constant false => ["false"]

def Comparison.words : Option Comparison → List String
  | none => []
  | some .eq => []
  | some comparison => [comparison.symbol]

namespace Test

def words (test : Test) : List String :=
  (if test.negated then ["not"] else []) ++ test.predicate.words (Comparison.words test.comparison)

def text (test : Test) : String :=
  " ".intercalate test.words

end Test

end PacketFilter
