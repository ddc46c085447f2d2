import PacketFilter.Packet.Basic
import PacketFilter.Proofs.Packet.ExtensionHeaders

/-!
Which headers a packet has, told by its bytes alone. A network header is there if the first four
bits tell its version and if it is whole. A transport header is there if the protocol is one that
has such a header and if it is whole.
-/

namespace PacketFilter

/-- Readers of headers want bytes enough and ask for nothing else. -/
theorem exists_of_long_iff {α : Type} {length size : Nat} {header : α} :
    (∃ found, (if length < size then none else some header) = some found) ↔ size ≤ length := by
  by_cases short : length < size
  · simp [short]
  · simp [short, Nat.not_lt.1 short]

namespace IpHeader

variable {bytes : Bytes}

theorem ofBytes?_eq_v4_iff {header : Ipv4Header} :
    ofBytes? bytes = some (.v4 header) ↔
      bytes.field 0 1 / 16 = 4 ∧ Ipv4Header.ofBytes? bytes = some header := by
  cases bytes with
  | nil => simp [ofBytes?, Ipv4Header.ofBytes?, Ipv4Header.size]
  | cons first rest =>
      rw [ofBytes?, Bytes.field_zero_one]
      by_cases four : first.toNat / 16 = 4
      · simp [four]
      · by_cases six : first.toNat / 16 = 6
        · simp [six]
        · simp [four, six]

theorem ofBytes?_eq_v6_iff {header : Ipv6Header} :
    ofBytes? bytes = some (.v6 header) ↔
      bytes.field 0 1 / 16 = 6 ∧ Ipv6Header.ofBytes? bytes = some header := by
  cases bytes with
  | nil => simp [ofBytes?, Ipv6Header.ofBytes?, Ipv6Header.size]
  | cons first rest =>
      rw [ofBytes?, Bytes.field_zero_one]
      by_cases four : first.toNat / 16 = 4
      · simp [four]
      · by_cases six : first.toNat / 16 = 6
        · simp [six]
        · simp [four, six]

end IpHeader

theorem Ipv6Header.extensions_eq {bytes : Bytes} {header : Ipv6Header}
    (found : ofBytes? bytes = some header) :
    header.extensions = ExtensionChain.follow (bytes.field 6 1) (bytes.drop 40) := by
  unfold ofBytes? at found
  split at found
  · contradiction
  · cases found
    rfl

namespace Packet

/-- The packet starts with a whole header of version 4. -/
def HasVersion4 (packet : Packet) : Prop :=
  20 ≤ packet.network.length ∧ packet.network.field 0 1 / 16 = 4

/-- The packet starts with a whole fixed header of version 6. -/
def HasVersion6 (packet : Packet) : Prop :=
  40 ≤ packet.network.length ∧ packet.network.field 0 1 / 16 = 6

/-- The packet has transport bytes, at least as many as given. -/
def HasTransport (packet : Packet) (size : Nat) : Prop :=
  ∃ bytes, packet.transport = some bytes ∧ size ≤ bytes.length

def HasTcpHeader (packet : Packet) : Prop :=
  packet.protocol = some 6 ∧ packet.HasTransport 20

/-- The packet has a header of TCP, of UDP or of its light variant. -/
def HasPorts (packet : Packet) : Prop :=
  packet.HasTcpHeader ∨
    (packet.protocol = some 17 ∨ packet.protocol = some 136) ∧ packet.HasTransport 8

variable {packet : Packet}

theorem hasVersion4_iff :
    packet.HasVersion4 ↔ ∃ header, packet.ipHeader? = some (.v4 header) := by
  simp only [ipHeader?, IpHeader.ofBytes?_eq_v4_iff, exists_and_left]
  rw [HasVersion4, and_comm]
  exact and_congr_right fun _ => exists_of_long_iff.symm

theorem hasVersion6_iff :
    packet.HasVersion6 ↔ ∃ header, packet.ipHeader? = some (.v6 header) := by
  simp only [ipHeader?, IpHeader.ofBytes?_eq_v6_iff, exists_and_left]
  rw [HasVersion6, and_comm]
  exact and_congr_right fun _ => exists_of_long_iff.symm

theorem hasVersion_iff :
    packet.HasVersion4 ∨ packet.HasVersion6 ↔ ∃ header, packet.ipHeader? = some header := by
  rw [hasVersion4_iff, hasVersion6_iff]
  constructor
  · rintro (⟨header, found⟩ | ⟨header, found⟩)
    · exact ⟨.v4 header, found⟩
    · exact ⟨.v6 header, found⟩
  · rintro ⟨header | header, found⟩
    · exact .inl ⟨header, found⟩
    · exact .inr ⟨header, found⟩

theorem hasTcpHeader_iff :
    packet.HasTcpHeader ↔ ∃ header, packet.tcpHeader? = some header := by
  obtain ⟨network, transport, protocol, length⟩ := packet
  cases protocol with
  | none => simp [HasTcpHeader, tcpHeader?]
  | some protocol =>
      cases transport with
      | none => simp [HasTcpHeader, HasTransport, tcpHeader?]
      | some bytes =>
          by_cases tcp : protocol = 6
          · simp [HasTcpHeader, HasTransport, tcpHeader?, tcp, Protocol.tcp, TcpHeader.ofBytes?]
          · simp [HasTcpHeader, tcpHeader?, tcp, Protocol.tcp]

theorem hasPorts_iff : packet.HasPorts ↔ ∃ ports, packet.ports? = some ports := by
  obtain ⟨network, transport, protocol, length⟩ := packet
  cases protocol with
  | none => simp [HasPorts, HasTcpHeader, ports?]
  | some protocol =>
      cases transport with
      | none => simp [HasPorts, HasTcpHeader, HasTransport, ports?]
      | some bytes =>
          by_cases tcp : protocol = 6
          · have whole : (∃ header, TcpHeader.ofBytes? bytes = some header) ↔ 20 ≤ bytes.length :=
              exists_of_long_iff
            simp only [HasPorts, HasTcpHeader, HasTransport, ports?, tcp, Protocol.tcp, if_pos,
              Option.map_eq_some_iff]
            rw [exists_comm]
            simp [whole]
          · have whole : (∃ ports, Ports.ofUdp? bytes = some ports) ↔ 8 ≤ bytes.length :=
              exists_of_long_iff
            by_cases udp : protocol = 17 ∨ protocol = 136
            · simp [HasPorts, HasTcpHeader, HasTransport, ports?, tcp, udp, Protocol.tcp,
                Protocol.udp, Protocol.udplite, whole]
            · simp [HasPorts, HasTcpHeader, ports?, tcp, udp, Protocol.tcp, Protocol.udp,
                Protocol.udplite]

end Packet

end PacketFilter
