import PacketFilter.Phrase.Reader
import PacketFilter.Proofs.Text.NumeralValue

/-!
The grammar of primitives over words, apart from the way in which they are read. Each rule tells
the words that a keyword, a comparison, an operand or a whole primitive may be written with, and
what is meant by them.
-/

namespace PacketFilter

inductive Comparison.Symbol : String → Comparison → Prop where
  | eq : Symbol "==" .eq
  | single : Symbol "=" .eq
  | ne : Symbol "!=" .ne
  | gt : Symbol ">" .gt
  | ge : Symbol ">=" .ge
  | lt : Symbol "<" .lt
  | le : Symbol "<=" .le

inductive Comparison.Spells : List String → Option Comparison → Prop where
  | absent : Spells [] none
  | written {symbol comparison} : Comparison.Symbol symbol comparison →
      Spells [symbol] (some comparison)

inductive Comparison.Equality : List String → Prop where
  | absent : Equality []
  | written {symbol} : Comparison.Symbol symbol .eq → Equality [symbol]

/-- The names of control bits, in letters of either case. -/
inductive TcpFlag.Name (written : String) : TcpFlag → Prop where
  | fin : written.map Char.toLower = "fin" → Name written .fin
  | syn : written.map Char.toLower = "syn" → Name written .syn
  | rst : written.map Char.toLower = "rst" → Name written .rst
  | psh : written.map Char.toLower = "psh" → Name written .psh
  | ack : written.map Char.toLower = "ack" → Name written .ack
  | urg : written.map Char.toLower = "urg" → Name written .urg
  | ece : written.map Char.toLower = "ece" → Name written .ece
  | cwr : written.map Char.toLower = "cwr" → Name written .cwr

/-- The names of transport protocols, in letters of either case. -/
inductive Protocol.Name (written : String) : Nat → Prop where
  | icmp : written.map Char.toLower = "icmp" → Name written 1
  | igmp : written.map Char.toLower = "igmp" → Name written 2
  | tcp : written.map Char.toLower = "tcp" → Name written 6
  | udp : written.map Char.toLower = "udp" → Name written 17
  | dccp : written.map Char.toLower = "dccp" → Name written 33
  | gre : written.map Char.toLower = "gre" → Name written 47
  | esp : written.map Char.toLower = "esp" → Name written 50
  | ah : written.map Char.toLower = "ah" → Name written 51
  | icmp6 : written.map Char.toLower = "icmp6" → Name written 58
  | icmpv6 : written.map Char.toLower = "icmpv6" → Name written 58
  | ospf : written.map Char.toLower = "ospf" → Name written 89
  | pim : written.map Char.toLower = "pim" → Name written 103
  | vrrp : written.map Char.toLower = "vrrp" → Name written 112
  | sctp : written.map Char.toLower = "sctp" → Name written 132
  | udplite : written.map Char.toLower = "udplite" → Name written 136

namespace Operand

/-- A numeral in decimal, or in hexadecimal behind `0x`. -/
inductive WritesNumber : List Char → Nat → Prop where
  | decimal {chars value} : Text.Numeral 10 chars value → WritesNumber chars value
  | hexadecimal {chars value} : Text.Numeral 16 chars value →
      WritesNumber ('0' :: 'x' :: chars) value

def IsNumber (limit : Nat) (written : String) (value : Nat) : Prop :=
  WritesNumber written.toList value ∧ value ≤ limit

def IsAddress (written : String) (address : Address) : Prop :=
  Address.read? written.toList = some address

inductive IsProtocol (limit : Nat) : String → Nat → Prop where
  | name {written number} : Protocol.Name written number → IsProtocol limit written number
  | number {written number} : IsNumber limit written number → IsProtocol limit written number

/-- An address with a slash and a prefix length or mask, an address with a mask, or an address
alone. -/
inductive SpellsNetwork : List String → Network → Prop where
  | slashed {written network} : '/' ∈ written.toList →
      Network.read? written.toList = some network → SpellsNetwork [written] network
  | masked {written mask : String} {bits maskBits block} : IsAddress written (.v4 bits) →
      IsAddress mask (.v4 maskBits) → Block.ofMask? bits maskBits = some block →
      SpellsNetwork [written, "mask", mask] (.v4 block)
  | single {written address} : IsAddress written address →
      SpellsNetwork [written] (.single address)

end Operand

/-- The test that is meant where nothing is negated. A predicate that leaves a comparison open is
compared as written, for equality if nothing is written; the others have no comparison. -/
def Test.asking (predicate : Predicate) (written : Option Comparison) : Test where
  predicate := predicate
  comparison :=
    match predicate with
    | .host _ _ | .net _ _ | .port _ _ | .numeric _ _ => some (written.getD .eq)
    | .congested | .fragment | .unfragmented | .tcpFlag _ | .constant _ => none
  negated := false
  isSome_comparison := by cases predicate <;> rfl

/-- What is written behind the keyword of a phrase, and the test that is meant. -/
inductive Phrase.Spells : Phrase → List String → Test → Prop where
  | number {field before comparison written value} :
      Comparison.Spells before comparison → Operand.IsNumber field.limit written value →
      Spells (.number field) (before ++ [written]) (.asking (.numeric field value) comparison)
  | protocol {field before comparison written value} :
      Comparison.Spells before comparison → Operand.IsProtocol field.limit written value →
      Spells (.protocol field) (before ++ [written])
        (.asking (.numeric field value) comparison)
  | host {side before comparison written address} :
      Comparison.Spells before comparison → Operand.IsAddress written address →
      Spells (.host side) (before ++ [written])
        (.asking (.host side (.single address)) comparison)
  | net {side before comparison written network} :
      Comparison.Spells before comparison → Operand.SpellsNetwork written network →
      Spells (.net side) (before ++ written) (.asking (.net side network) comparison)
  | port {side before comparison written value} :
      Comparison.Spells before comparison → Operand.IsNumber portLimit written value →
      Spells (.port side) (before ++ [written]) (.asking (.port side value) comparison)
  | flag {predicate before} : Comparison.Equality before →
      Spells (.flag predicate) before (.asking predicate none)
  | tcpFlag {before written flag} : Comparison.Equality before → TcpFlag.Name written flag →
      Spells .tcpFlag (before ++ [written]) (.asking (.tcpFlag flag) none)

namespace Keywords

inductive Ip : String → Phrase → Prop where
  | vers : Ip "vers" (.number .version)
  | version : Ip "version" (.number .version)
  | hl : Ip "hl" (.number .headerLength)
  | ihl : Ip "ihl" (.number .headerLength)
  | id : Ip "id" (.number .identification)
  | tos : Ip "tos" (.number .trafficClass)
  | dscp : Ip "dscp" (.number .codePoint)
  | ecn : Ip "ecn" (.number .congestion)
  | ttl : Ip "ttl" (.number .timeToLive)
  | len : Ip "len" (.number .length)
  | proto : Ip "proto" (.protocol .protocol)
  | ce : Ip "ce" (.flag .congested)
  | frag : Ip "frag" (.flag .fragment)
  | unfrag : Ip "unfrag" (.flag .unfragmented)

inductive Ip6 : String → Phrase → Prop where
  | flow : Ip6 "flow" (.number .flowLabel)
  | plen : Ip6 "plen" (.number .payloadLength)
  | hlim : Ip6 "hlim" (.number .hopLimit)
  | nxt : Ip6 "nxt" (.protocol .nextHeader)

inductive Tcp : String → Phrase → Prop where
  | opt : Tcp "opt" .tcpFlag
  | flags : Tcp "flags" .tcpFlag
  | win : Tcp "win" (.number .window)
  | window : Tcp "window" (.number .window)

inductive Endpoint (side : Side) : String → Phrase → Prop where
  | host : Endpoint side "host" (.host side)
  | net : Endpoint side "net" (.net side)
  | port : Endpoint side "port" (.port side)

inductive Constant : String → Phrase → Prop where
  | dash : Constant "-" (.flag (.constant true))
  | yes : Constant "true" (.flag (.constant true))
  | no : Constant "false" (.flag (.constant false))

end Keywords

inductive Side.Name : String → Side → Prop where
  | src : Name "src" .source
  | dst : Name "dst" .destination

/-- An address or port, of either end or of the end that is named. Behind the name of an end an
address needs no keyword. -/
inductive SpellsEndpoint : List String → Test → Prop where
  | either {keyword phrase written test} : Keywords.Endpoint .either keyword phrase →
      phrase.Spells written test → SpellsEndpoint (keyword :: written) test
  | sided {name side keyword phrase written test} : Side.Name name side →
      Keywords.Endpoint side keyword phrase → phrase.Spells written test →
      SpellsEndpoint (name :: keyword :: written) test
  | bare {name side written test} : Side.Name name side →
      (Phrase.host side).Spells written test → SpellsEndpoint (name :: written) test

/-- What matters about a primitive for what may follow it. -/
inductive Form where
  /-- A field of the network header without `ip`. -/
  | field
  /-- An address or port without a qualifier. -/
  | endpoint
  /-- The word `ip` alone. -/
  | ip
  /-- Another qualifier alone. -/
  | qualifier
  /-- A primitive that nothing can be added to. -/
  | closed
  deriving DecidableEq, Repr

/-- The words that ask for a version or protocol when they stand alone. -/
inductive Qualifier.Name : Form → String → Predicate → Prop where
  | ip : Name .ip "ip" (.numeric .version 4)
  | ip6 : Name .qualifier "ip6" (.numeric .version 6)
  | protocol {name number} : Protocol.Name name number →
      Name .qualifier name (.numeric .protocol number)

inductive Primitive.Spells : Form → Primitive → List String → Prop where
  | field {keyword phrase written test} : Keywords.Ip keyword phrase →
      phrase.Spells written test → Spells .field (.single test) (keyword :: written)
  | ipField {keyword phrase written test} : Keywords.Ip keyword phrase →
      phrase.Spells written test → Spells .closed (.single test) ("ip" :: keyword :: written)
  | ip6Field {keyword phrase written test} : Keywords.Ip6 keyword phrase →
      phrase.Spells written test → Spells .closed (.single test) ("ip6" :: keyword :: written)
  | tcpField {name keyword phrase written test} : Protocol.Name name Protocol.tcp →
      Keywords.Tcp keyword phrase → phrase.Spells written test →
      Spells .closed (.single test) (name :: keyword :: written)
  | constant {keyword phrase written test} : Keywords.Constant keyword phrase →
      phrase.Spells written test → Spells .closed (.single test) (keyword :: written)
  | endpoint {written test} : SpellsEndpoint written test →
      Spells .endpoint (.single test) written
  | qualifier {form name predicate} : Qualifier.Name form name predicate →
      Spells form (.single (.asking predicate none)) [name]
  | qualified {form name predicate written test} : Qualifier.Name form name predicate →
      SpellsEndpoint written test →
      Spells .closed (.qualified (.asking predicate none) test) (name :: written)

end PacketFilter
