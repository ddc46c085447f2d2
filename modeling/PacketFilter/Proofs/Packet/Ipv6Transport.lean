import PacketFilter.Packet.Capture
import PacketFilter.Proofs.Packet.Presence

/-!
Where the transport header of a version 6 datagram is found. A datagram consists of the fixed
header, extension headers and a payload; the extension headers lead to the payload, and it is the
transport header unless the last fragment header says that the payload starts further behind.
-/

namespace PacketFilter

structure Ipv6Datagram where
  fixed : Bytes
  headers : List ExtensionHeader
  upper : Nat
  payload : Bytes
  length_fixed : fixed.length = 40
  leads : ExtensionHeader.Leads (fixed.field 6 1) headers upper

namespace Ipv6Datagram

def bytes (datagram : Ipv6Datagram) : Bytes :=
  datagram.fixed ++ (datagram.headers.flatMap ExtensionHeader.bytes ++ datagram.payload)

def payloadOffset (datagram : Ipv6Datagram) : Nat :=
  40 + ExtensionHeader.totalLength datagram.headers

def fragments (datagram : Ipv6Datagram) : List ExtensionHeader :=
  datagram.headers.filter ExtensionHeader.isFragment

theorem drop_fixed (datagram : Ipv6Datagram) :
    datagram.bytes.drop 40 =
      datagram.headers.flatMap ExtensionHeader.bytes ++ datagram.payload := by
  rw [← datagram.length_fixed, bytes, List.drop_left]

theorem drop_payloadOffset (datagram : Ipv6Datagram) :
    datagram.bytes.drop datagram.payloadOffset = datagram.payload := by
  rw [payloadOffset, ← List.drop_drop, drop_fixed,
    ← ExtensionHeader.length_flatMap_bytes, List.drop_left]

theorem payloadOffset_le (datagram : Ipv6Datagram) :
    datagram.payloadOffset ≤ datagram.bytes.length := by
  unfold payloadOffset bytes
  rw [List.length_append, List.length_append, datagram.length_fixed,
    ExtensionHeader.length_flatMap_bytes]
  omega

theorem follow_bytes (datagram : Ipv6Datagram) :
    ExtensionChain.follow (Bytes.field datagram.bytes 6 1) (datagram.bytes.drop 40) =
      some ⟨ExtensionHeader.totalLength datagram.headers, datagram.upper,
        ExtensionHeader.lastFragment? datagram.headers⟩ := by
  have named : Bytes.field datagram.bytes 6 1 = datagram.fixed.field 6 1 := by
    rw [bytes, Bytes.field_append]
    rw [datagram.length_fixed]
    omega
  rw [named, drop_fixed]
  exact datagram.leads.follow datagram.payload

theorem exists_of_follow {data : Bytes} {chain : ExtensionChain}
    (followed : ExtensionChain.follow (data.field 6 1) (data.drop 40) = some chain)
    (long : 40 ≤ data.length) (inside : 40 + chain.length ≤ data.length) :
    ∃ datagram : Ipv6Datagram, datagram.bytes = data ∧
      datagram.payloadOffset = 40 + chain.length ∧
      ExtensionHeader.lastFragment? datagram.headers = chain.fragment := by
  have size : (data.take 40).length = 40 := List.length_take_of_le long
  obtain ⟨headers, payload, leads, split, length, last⟩ :=
    ExtensionHeader.leads_of_follow followed (by rw [List.length_drop]; omega)
  have named : Bytes.field (data.take 40) 6 1 = data.field 6 1 := by
    have extended := Bytes.field_append (data.take 40) (data.drop 40) 6 1 (by omega)
    rw [List.take_append_drop] at extended
    exact extended.symm
  refine ⟨⟨data.take 40, headers, chain.protocol, payload, size, named ▸ leads⟩, ?_, ?_, last.symm⟩
  · rw [bytes, ← split, List.take_append_drop]
  · rw [payloadOffset, length]

end Ipv6Datagram

namespace Capture

@[simp]
theorem network_ofIp (data : Bytes) : (ofIp data).network = data := by
  simp [network, ofIp, locate, Bytes.from?]

theorem ipHeader?_of_version_six {data : Bytes} (long : 40 ≤ data.length)
    (version : data.field 0 1 / 16 = 6) :
    ∃ header : Ipv6Header, IpHeader.ofBytes? data = some (.v6 header) ∧
      header.extensions = ExtensionChain.follow (data.field 6 1) (data.drop 40) := by
  obtain ⟨header, found⟩ : ∃ header, Ipv6Header.ofBytes? data = some header :=
    exists_of_long_iff.2 long
  exact ⟨header, IpHeader.ofBytes?_eq_v6_iff.2 ⟨version, found⟩, header.extensions_eq found⟩

theorem transportOffset_ofIp {data : Bytes} {header : IpHeader}
    (found : IpHeader.ofBytes? data = some header) :
    (ofIp data).transportOffset = header.transportOffset?.filter (· ≤ data.length) := by
  simp [ofIp, locate, Bytes.from?, found]

theorem ipHeader?_ofIp (data : Bytes) :
    (ofIp data).packet.ipHeader? = IpHeader.ofBytes? data := by
  rw [Packet.ipHeader?, packet, network_ofIp]

theorem protocol_ofIp {data : Bytes} {header : IpHeader}
    (found : IpHeader.ofBytes? data = some header) :
    (ofIp data).packet.protocol = some header.protocol := by
  rw [packet, protocol?, network_ofIp, found]
  rfl

end Capture

namespace IpHeader

variable {header : Ipv6Header} {chain : ExtensionChain}

theorem protocol_of_extensions (followed : header.extensions = some chain) :
    (v6 header).protocol = chain.protocol := by
  simp [protocol, followed]

theorem isFragment_of_extensions (followed : header.extensions = some chain) :
    (v6 header).isFragment = true ↔ ∃ fragment ∈ chain.fragment,
      fragment.offset ≠ 0 ∨ fragment.more = true := by
  cases last : chain.fragment <;>
    simp [isFragment, fragment?, followed, last, Fragment.isPartial]

theorem transportOffset?_of_extensions (followed : header.extensions = some chain) :
    (v6 header).transportOffset? =
      if ∃ fragment ∈ chain.fragment, fragment.offset ≠ 0 then none
      else some (40 + chain.length) := by
  cases last : chain.fragment <;>
    simp [transportOffset?, fragment?, followed, last, Ipv6Header.size]

end IpHeader

namespace Ipv6Datagram

theorem exists_lastFragment?_iff {datagram : Ipv6Datagram}
    (single : datagram.fragments.length ≤ 1) (property : Fragment → Prop) :
    (∃ fragment ∈ ExtensionHeader.lastFragment? datagram.headers, property fragment) ↔
      ∃ header ∈ datagram.fragments, property header.place := by
  have last : ExtensionHeader.lastFragment? datagram.headers =
      datagram.fragments.getLast?.map ExtensionHeader.place := rfl
  match found : datagram.fragments, single with
  | [], _ => simp [last, found]
  | [header], _ => simp [last, found]

theorem exists_header {datagram : Ipv6Datagram}
    (version : Bytes.field datagram.bytes 0 1 / 16 = 6) :
    ∃ header : Ipv6Header, IpHeader.ofBytes? datagram.bytes = some (.v6 header) ∧
      header.extensions = some ⟨ExtensionHeader.totalLength datagram.headers, datagram.upper,
        ExtensionHeader.lastFragment? datagram.headers⟩ := by
  have long : 40 ≤ datagram.bytes.length :=
    Nat.le_trans (Nat.le_add_right 40 _) datagram.payloadOffset_le
  obtain ⟨header, found, extensions⟩ := Capture.ipHeader?_of_version_six long version
  rw [follow_bytes] at extensions
  exact ⟨header, found, extensions⟩

/-- The transport header is found at the payload unless the last fragment header gives a place
behind the first. -/
theorem transportOffset_ofIp {datagram : Ipv6Datagram}
    (version : Bytes.field datagram.bytes 0 1 / 16 = 6) :
    (Capture.ofIp datagram.bytes).transportOffset =
      if ∃ fragment ∈ ExtensionHeader.lastFragment? datagram.headers, fragment.offset ≠ 0
      then none else some datagram.payloadOffset := by
  obtain ⟨header, found, followed⟩ := exists_header version
  have inside := datagram.payloadOffset_le
  rw [Capture.transportOffset_ofIp found, IpHeader.transportOffset?_of_extensions followed]
  split
  · rfl
  · exact Option.filter_eq_some_iff.2 ⟨rfl, decide_eq_true inside⟩

end Ipv6Datagram

namespace Capture

theorem transport_eq_drop {capture : Capture} {offset : Nat}
    (located : capture.transportOffset = some offset) (inside : offset ≤ capture.data.length) :
    capture.packet.transport = some (capture.data.drop offset) := by
  simp [packet, transport?, located, Bytes.from?, inside]

/-- What is located in bytes of version 6 lies behind a fixed header and extension headers, the
last fragment header among which gives the first place. -/
theorem exists_datagram_of_transportOffset {data : Bytes} (long : 40 ≤ data.length)
    (version : data.field 0 1 / 16 = 6) {offset : Nat}
    (located : (ofIp data).transportOffset = some offset) :
    ∃ datagram : Ipv6Datagram, datagram.bytes = data ∧ datagram.payloadOffset = offset ∧
      ∀ fragment ∈ ExtensionHeader.lastFragment? datagram.headers, fragment.offset = 0 := by
  obtain ⟨header, found, extensions⟩ := ipHeader?_of_version_six long version
  rw [transportOffset_ofIp found] at located
  obtain ⟨located, inside⟩ := Option.filter_eq_some_iff.1 located
  cases followed : header.extensions with
  | none =>
      have absent : (IpHeader.v6 header).transportOffset? = none := by
        simp [IpHeader.transportOffset?, followed]
      rw [absent] at located
      contradiction
  | some chain =>
      rw [IpHeader.transportOffset?_of_extensions followed] at located
      split at located
      · contradiction
      · rename_i first
        cases located
        obtain ⟨datagram, bytes, payloadOffset, last⟩ :=
          Ipv6Datagram.exists_of_follow (extensions.symm.trans followed) long
            (of_decide_eq_true inside)
        refine ⟨datagram, bytes, payloadOffset, ?_⟩
        intro fragment member
        rw [last] at member
        exact Decidable.byContradiction fun behind => first ⟨fragment, member, behind⟩

/-- A datagram of version 6 tells the protocol of its payload, whether it is a fragment, and where
its transport header is; and a transport header is located in no bytes but those of a datagram. -/
theorem ofIp_locates_transport {data : Bytes} (long : 40 ≤ data.length)
    (version : data.field 0 1 / 16 = 6) :
    ∃ header, (ofIp data).packet.ipHeader? = some header ∧
      (∀ datagram : Ipv6Datagram, datagram.bytes = data → datagram.fragments.length ≤ 1 →
        header.protocol = datagram.upper ∧ header.nextHeader? = some datagram.upper ∧
        (ofIp data).packet.protocol = some datagram.upper ∧
        (header.isFragment = true ↔
          ∃ part ∈ datagram.fragments, part.place.offset ≠ 0 ∨ part.place.more = true) ∧
        ((∀ part ∈ datagram.fragments, part.place.offset = 0) →
          (ofIp data).transportOffset = some datagram.payloadOffset ∧
          (ofIp data).packet.transport = some datagram.payload) ∧
        ((∃ part ∈ datagram.fragments, part.place.offset ≠ 0) →
          (ofIp data).transportOffset = none)) ∧
      (∀ offset, (ofIp data).transportOffset = some offset →
        ∃ datagram : Ipv6Datagram, datagram.bytes = data ∧ datagram.payloadOffset = offset ∧
          (∀ part ∈ datagram.fragments.getLast?, part.place.offset = 0) ∧
          header.protocol = datagram.upper ∧
          (ofIp data).packet.transport = some datagram.payload) := by
  obtain ⟨header, found, _⟩ := ipHeader?_of_version_six long version
  refine ⟨.v6 header, (ipHeader?_ofIp data).trans found, ?_, ?_⟩
  · rintro datagram rfl single
    obtain ⟨read, found', followed⟩ := Ipv6Datagram.exists_header version
    obtain rfl := IpHeader.v6.inj (Option.some.inj (found.symm.trans found'))
    have protocol := IpHeader.protocol_of_extensions followed
    have offset := Ipv6Datagram.transportOffset_ofIp version
    refine ⟨protocol, congrArg some protocol, ?_, ?_, ?_, ?_⟩
    · rw [protocol_ofIp found, protocol]
    · rw [IpHeader.isFragment_of_extensions followed]
      exact Ipv6Datagram.exists_lastFragment?_iff single
        fun place => place.offset ≠ 0 ∨ place.more = true
    · intro first
      have located : (ofIp datagram.bytes).transportOffset = some datagram.payloadOffset := by
        rw [offset, if_neg]
        rw [Ipv6Datagram.exists_lastFragment?_iff single fun place => place.offset ≠ 0]
        rintro ⟨part, member, behind⟩
        exact behind (first part member)
      refine ⟨located, ?_⟩
      rw [transport_eq_drop located datagram.payloadOffset_le]
      exact congrArg some datagram.drop_payloadOffset
    · intro behind
      rw [offset, if_pos]
      exact (Ipv6Datagram.exists_lastFragment?_iff single fun place => place.offset ≠ 0).2 behind
  · intro offset located
    obtain ⟨datagram, rfl, rfl, first⟩ := exists_datagram_of_transportOffset long version located
    obtain ⟨read, found', followed⟩ := Ipv6Datagram.exists_header version
    obtain rfl := IpHeader.v6.inj (Option.some.inj (found.symm.trans found'))
    refine ⟨datagram, rfl, rfl, ?_, IpHeader.protocol_of_extensions followed, ?_⟩
    · intro part member
      exact first part.place (Option.mem_map_of_mem _ member)
    · rw [transport_eq_drop located datagram.payloadOffset_le]
      exact congrArg some datagram.drop_payloadOffset

/-- A datagram with options and with the first of several fragments. -/
def fragmented : Ipv6Datagram where
  fixed := [0x60, 0, 0, 0, 0, 19, 0, 64] ++ List.replicate 32 1
  headers := [⟨0, [44, 0, 0, 0, 0, 0, 0, 0]⟩, ⟨44, [6, 0, 0, 1, 0, 0, 0, 7]⟩]
  upper := 6
  payload := [1, 2, 3]
  length_fixed := rfl
  leads := by
    have named : Bytes.field ([0x60, 0, 0, 0, 0, 19, 0, 64] ++ List.replicate 32 1) 6 1 = 0 := by
      decide
    have toFragment : ExtensionHeader.next ⟨0, [44, 0, 0, 0, 0, 0, 0, 0]⟩ = 44 := by decide
    have toPayload : ExtensionHeader.next ⟨44, [6, 0, 0, 1, 0, 0, 0, 7]⟩ = 6 := by decide
    have options : ExtensionHeader.IsWhole ⟨0, [44, 0, 0, 0, 0, 0, 0, 0]⟩ :=
      .options (by decide) (by decide)
    have fragment : ExtensionHeader.IsWhole ⟨44, [6, 0, 0, 1, 0, 0, 0, 7]⟩ :=
      .fragment rfl rfl
    rw [named]
    refine .cons options ?_
    rw [toFragment]
    refine .cons fragment ?_
    rw [toPayload]
    exact .nil (by decide)

theorem ofIp_locates_transport_of_fragmented :
    ∃ header, (ofIp fragmented.bytes).packet.ipHeader? = some header ∧ header.protocol = 6 ∧
      header.isFragment = true ∧ (ofIp fragmented.bytes).transportOffset = some 56 ∧
      (ofIp fragmented.bytes).packet.transport = some [1, 2, 3] := by
  have long : 40 ≤ fragmented.bytes.length := by decide
  have version : Bytes.field fragmented.bytes 0 1 / 16 = 6 := by decide
  obtain ⟨header, found, located, _⟩ := ofIp_locates_transport long version
  obtain ⟨protocol, _, _, fragment, first, _⟩ := located fragmented rfl (by decide)
  obtain ⟨offset, transport⟩ := first (by decide)
  exact ⟨header, found, protocol, fragment.2 (by decide), offset, transport⟩

end Capture

end PacketFilter
