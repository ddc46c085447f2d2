/-!
The control bits of a TCP header.
-/

namespace PacketFilter

inductive TcpFlag where
  | fin
  | syn
  | rst
  | psh
  | ack
  | urg
  | ece
  | cwr
  deriving DecidableEq, Repr

namespace TcpFlag

/-- All flags, from the lowest bit up. -/
def all : List TcpFlag := [fin, syn, rst, psh, ack, urg, ece, cwr]

def position : TcpFlag → Nat
  | fin => 0
  | syn => 1
  | rst => 2
  | psh => 3
  | ack => 4
  | urg => 5
  | ece => 6
  | cwr => 7

def bit (flag : TcpFlag) : Nat :=
  1 <<< flag.position

def isSetIn (flag : TcpFlag) (flags : Nat) : Bool :=
  flags.testBit flag.position

def name : TcpFlag → String
  | fin => "fin"
  | syn => "syn"
  | rst => "rst"
  | psh => "psh"
  | ack => "ack"
  | urg => "urg"
  | ece => "ece"
  | cwr => "cwr"

/-- Looks a flag up by its name, in letters of either case. -/
def ofName? (written : String) : Option TcpFlag :=
  all.find? fun flag => flag.name == written.map Char.toLower

end TcpFlag

end PacketFilter
