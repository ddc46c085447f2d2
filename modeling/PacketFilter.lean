import PacketFilter.Address.Basic
import PacketFilter.Address.Printer
import PacketFilter.Address.Reader
import PacketFilter.Comparison
import PacketFilter.Config.Reader
import PacketFilter.Config.Writer
import PacketFilter.Error
import PacketFilter.Formula.Basic
import PacketFilter.Formula.ParseStack
import PacketFilter.Formula.Printer
import PacketFilter.Formula.Reader
import PacketFilter.Formula.Run
import PacketFilter.Handle.Basic
import PacketFilter.Handle.Event
import PacketFilter.Json.Basic
import PacketFilter.Json.Draft
import PacketFilter.Json.Lexeme
import PacketFilter.Json.Number
import PacketFilter.Network.Basic
import PacketFilter.Network.Reader
import PacketFilter.Operand
import PacketFilter.Packet.Basic
import PacketFilter.Packet.Bytes
import PacketFilter.Packet.Capture
import PacketFilter.Packet.Extension
import PacketFilter.Packet.IpHeader
import PacketFilter.Packet.Transport
import PacketFilter.Phrase.Basic
import PacketFilter.Phrase.Reader
import PacketFilter.Positional
import PacketFilter.Predicate.Basic
import PacketFilter.Predicate.Printer
import PacketFilter.Predicate.Satisfaction
import PacketFilter.ProgramSet.Basic
import PacketFilter.ProgramSet.Event
import PacketFilter.Protocol
import PacketFilter.Sequence
import PacketFilter.TcpFlag
import PacketFilter.Text.Blank
import PacketFilter.Text.Case
import PacketFilter.Text.Extent
import PacketFilter.Text.Lowercase
import PacketFilter.Text.Numeral
import PacketFilter.Token.Basic
import PacketFilter.Token.Reader
import PacketFilter.Word
import PacketFilter.Proofs.Formula.Grammar
import PacketFilter.Proofs.Formula.Parsing
import PacketFilter.Proofs.Packet.ExtensionHeaders
import PacketFilter.Proofs.Packet.Ipv6Transport
import PacketFilter.Proofs.Phrase.Grammar
import PacketFilter.Proofs.Phrase.Operand
import PacketFilter.Proofs.Phrase.Reading
import PacketFilter.Proofs.Phrase.Primitive
import PacketFilter.Proofs.Token.Grammar
import PacketFilter.Proofs.Token.Lexing
import PacketFilter.Proofs.Address.Dotted
import PacketFilter.Proofs.Address.ColonSeparated
import PacketFilter.Proofs.Network.Reading
import PacketFilter.Proofs.Predicate.Spelling
import PacketFilter.Proofs.Predicate.Words
import PacketFilter.Proofs.Formula.Normal
import PacketFilter.Proofs.Formula.RoundTrip
import PacketFilter.Proofs.Formula.Composition
import PacketFilter.Proofs.ProgramSet.Dispatch
import PacketFilter.Proofs.Packet.Framing
import PacketFilter.Proofs.ProgramSet.Views
import PacketFilter.Proofs.Packet.Fragments
import PacketFilter.Proofs.Packet.Presence
import PacketFilter.Proofs.Packet.FragmentTests
import PacketFilter.Proofs.Predicate.Absence
import PacketFilter.Proofs.Handle.Run
import PacketFilter.Proofs.Handle.History
import PacketFilter.Proofs.Handle.Poison
import PacketFilter.Proofs.Token.Printing
import PacketFilter.Proofs.Token.Faults
import PacketFilter.Proofs.Token.Parentheses
import PacketFilter.Proofs.Phrase.Faults
import PacketFilter.Proofs.Formula.FlatStack
import PacketFilter.Proofs.Formula.Recovery
import PacketFilter.Proofs.Formula.Failures
import PacketFilter.Proofs.Formula.Leaves
import PacketFilter.Proofs.Formula.Negations
import PacketFilter.Proofs.Packet.Truncation
import PacketFilter.Proofs.Token.Seams
import PacketFilter.Proofs.Text.LetterCase
import PacketFilter.Proofs.Token.Relocation
import PacketFilter.Proofs.Token.Spacing
import PacketFilter.Proofs.Network.Intervals
import PacketFilter.Proofs.Network.Spellings
import PacketFilter.Proofs.Token.Openings
import PacketFilter.Proofs.Token.Networks
import PacketFilter.Proofs.Token.Numbers
import PacketFilter.Proofs.Token.Nesting
import PacketFilter.Proofs.Formula.Promises
import PacketFilter.Proofs.Word.First
import PacketFilter.Proofs.Word.Scan
import PacketFilter.Proofs.Word.Ranges
import PacketFilter.Proofs.Packet.ExtensionWalk
import PacketFilter.Proofs.Packet.WalkBounds
import PacketFilter.Proofs.Json.Lexing
import PacketFilter.Proofs.Json.Drafting
import PacketFilter.Proofs.Config.MemberOrder
import PacketFilter.Proofs.Config.RoundTrip
