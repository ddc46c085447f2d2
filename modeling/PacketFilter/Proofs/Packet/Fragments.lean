import PacketFilter.Predicate.Satisfaction
import PacketFilter.Proofs.Packet.Framing

/-!
Fragments behind the first of their datagram. They hold no transport header, so a filter must not
take a part of their payload for one. Version 4 gives the place of a fragment once. Version 6 gives
it in every fragment header that is met on the way through the extension headers, and the packet is
judged by the last of them.
-/

namespace PacketFilter

variable {bytes rest : Bytes} {protocol : Nat} {fragment : Fragment}

theorem Extension.length_le_of_fragment {kind : ExtensionKind} {extension : Extension}
    (found : read? kind bytes = some extension) (told : extension.fragment = some fragment) :
    extension.length ≤ bytes.length := by
  unfold read? at found
  split at found
  · cases found
    contradiction
  · cases found
    contradiction
  · cases found
    simp
  · contradiction

namespace ExtensionHeader

variable {header part : ExtensionHeader}

/-- On the way through the extension headers, from the one that the protocol number announces, a
whole fragment header is met in front of the rest. -/
inductive Meets : Nat → Bytes → ExtensionHeader → Bytes → Prop where
  | here {part : ExtensionHeader} {rest : Bytes} :
      part.IsWhole → part.isFragment = true → Meets part.protocol (part.bytes ++ rest) part rest
  | behind {header part : ExtensionHeader} {bytes rest : Bytes} :
      header.IsWhole → Meets header.next bytes part rest →
      Meets header.protocol (header.bytes ++ bytes) part rest

theorem IsWhole.le_length (whole : header.IsWhole) : 8 ≤ header.bytes.length := by
  cases whole <;> omega

theorem Meets.le_length (meets : Meets protocol bytes part rest) : 8 ≤ bytes.length := by
  cases meets with
  | here whole | behind whole =>
      have long := whole.le_length
      rw [List.length_append]
      omega

theorem IsWhole.announced (whole : header.IsWhole) : header.protocol ∈ [0, 43, 44, 51, 60] := by
  obtain ⟨kind, named, _⟩ := whole.read? []
  by_contra unnamed
  rw [ofProtocol?_eq_none_iff.2 unnamed] at named
  contradiction

theorem Meets.announced (meets : Meets protocol bytes part rest) :
    protocol ∈ [0, 43, 44, 51, 60] := by
  cases meets with
  | here whole | behind whole => exact whole.announced

theorem eq_place_of_fragment? (told : header.fragment? = some fragment) :
    header.isFragment = true ∧ header.place = fragment := by
  unfold fragment? at told
  split at told
  · rename_i isFragment
    exact ⟨isFragment, Option.some.inj told⟩
  · contradiction

/-- A fragment header that is met gives the place, unless one that is met behind it does. -/
theorem Meets.fragment_follow (meets : Meets protocol bytes part rest) :
    (ExtensionChain.follow protocol bytes).map ExtensionChain.fragment =
      (ExtensionChain.follow part.next rest).map fun chain =>
        chain.fragment.or (some part.place) := by
  induction meets with
  | @here part rest whole isFragment =>
      have told : part.fragment? = some part.place := if_pos isFragment
      rw [whole.follow, Option.map_map, told]
      rfl
  | @behind header part bytes rest whole _ inductionHypothesis =>
      rw [whole.follow, Option.map_map]
      -- Whatever the headers in front tell comes after a place that is given already.
      have front : ExtensionChain.fragment ∘
            ExtensionChain.behind ⟨header.next, header.bytes.length, header.fragment?⟩ =
          (Option.or · header.fragment?) ∘ ExtensionChain.fragment := rfl
      rw [front, ← Option.map_map, inductionHypothesis, Option.map_map]
      refine congrArg (Option.map · _) (funext fun chain => ?_)
      rw [Function.comp_apply, Option.or_assoc, Option.some_or]

theorem Meets.exists_of_follow {chain : ExtensionChain}
    (followed : ExtensionChain.follow protocol bytes = some chain)
    (told : chain.fragment = some fragment) :
    ∃ part rest, Meets protocol bytes part rest ∧ part.place = fragment := by
  fun_induction ExtensionChain.follow protocol bytes generalizing chain with
  | case1 =>
      cases followed
      contradiction
  | case2 => contradiction
  | case3 protocol bytes kind named extension found inductionHypothesis =>
      obtain ⟨later, followedLater, rfl⟩ := Option.map_eq_some_iff.1 followed
      have told : later.fragment.or extension.fragment = some fragment := told
      cases last : later.fragment with
      | some other =>
          rw [last] at told
          obtain rfl : other = fragment := Option.some.inj told
          obtain ⟨part, rest, meets, place⟩ := inductionHypothesis followedLater last
          have inside : extension.length ≤ bytes.length := by
            have long := meets.le_length
            rw [List.length_drop] at long
            omega
          obtain ⟨header, rfl, whole, taken, next, _⟩ := isWhole_of_read? named found inside
          have met := Meets.behind whole (next ▸ meets)
          rw [taken, List.take_append_drop] at met
          exact ⟨part, rest, met, place⟩
      | none =>
          rw [last, Option.none_or] at told
          obtain ⟨part, rfl, whole, taken, _, fragment⟩ :=
            isWhole_of_read? named found (Extension.length_le_of_fragment found told)
          obtain ⟨isFragment, place⟩ := eq_place_of_fragment? (fragment.trans told)
          have met : Meets part.protocol (part.bytes ++ bytes.drop extension.length) part
              (bytes.drop extension.length) := .here whole isFragment
          rw [taken, List.take_append_drop] at met
          exact ⟨part, _, met, place⟩

end ExtensionHeader

namespace IpHeader

theorem transportOffset?_eq_none_of_fragment {header : IpHeader}
    (told : header.fragment? = some fragment) (later : fragment.offset ≠ 0) :
    header.transportOffset? = none := by
  simp [transportOffset?, told, later]

theorem of_ofBytes?_eq_v6 {header : Ipv6Header} (found : ofBytes? bytes = some (.v6 header)) :
    bytes.field 0 1 / 16 = 6 ∧
      header.extensions = ExtensionChain.follow (bytes.field 6 1) (bytes.drop 40) := by
  obtain ⟨version, read⟩ := ofBytes?_eq_v6_iff.1 found
  exact ⟨version, header.extensions_eq read⟩

/-- The transport header is lost behind a fragment header that gives a place behind the first, if
every fragment header behind it does. -/
theorem transportOffset?_eq_none_of_meets {header : Ipv6Header} {part : ExtensionHeader}
    (extensions : header.extensions = ExtensionChain.follow protocol bytes)
    (meets : ExtensionHeader.Meets protocol bytes part rest) (later : part.place.offset ≠ 0)
    (behind : ∀ other more, ExtensionHeader.Meets part.next rest other more →
      other.place.offset ≠ 0) : (v6 header).transportOffset? = none := by
  have places := meets.fragment_follow
  rw [← extensions] at places
  cases followed : header.extensions with
  | none => simp [transportOffset?, fragment?, followed]
  | some chain =>
      rw [followed] at places
      obtain ⟨tail, followedTail, last⟩ := Option.map_eq_some_iff.1 places.symm
      have told : (v6 header).fragment? = tail.fragment.or (some part.place) := by
        rw [fragment?, followed, last]
        rfl
      cases behindPart : tail.fragment with
      | none =>
          rw [behindPart, Option.none_or] at told
          exact transportOffset?_eq_none_of_fragment told later
      | some place =>
          rw [behindPart, Option.some_or] at told
          obtain ⟨other, more, metBehind, rfl⟩ :=
            ExtensionHeader.Meets.exists_of_follow followedTail behindPart
          exact transportOffset?_eq_none_of_fragment told (behind other more metBehind)

end IpHeader

def Predicate.asksTransport : Predicate → Bool
  | port _ _ => true
  | numeric field _ => field == .window
  | tcpFlag _ => true
  | _ => false

/-- A packet shows nothing of a transport header to any filter. -/
structure Packet.HidesTransport (packet : Packet) : Prop where
  ports : packet.ports? = none
  tcpHeader : packet.tcpHeader? = none
  refutes : ∀ predicate : Predicate, predicate.asksTransport = true →
    ∀ comparison, predicate.holds comparison packet = false
  passes : ∀ test : Test, test.predicate.asksTransport = true →
    test.passes packet = test.negated

theorem Predicate.holds_eq_false {packet : Packet} (ports : packet.ports? = none)
    (tcpHeader : packet.tcpHeader? = none) {predicate : Predicate}
    (asks : predicate.asksTransport = true) (comparison : Comparison) :
    predicate.holds comparison packet = false := by
  cases predicate with
  | port side number => simp [holds, portNumbers, ports]
  | tcpFlag flag => simp [holds, tcpHeader]
  | numeric field operand =>
      obtain rfl : field = .window := eq_of_beq asks
      simp [holds, Field.ofPacket?, tcpHeader]
  | _ => contradiction

theorem Packet.hidesTransport_of_eq_none {packet : Packet} (absent : packet.transport = none) :
    packet.HidesTransport := by
  have ports : packet.ports? = none := by
    rw [ports?, absent]
    cases packet.protocol <;> rfl
  have tcpHeader : packet.tcpHeader? = none := by
    rw [tcpHeader?, absent]
    cases packet.protocol <;> rfl
  refine ⟨ports, tcpHeader, fun _ => Predicate.holds_eq_false ports tcpHeader, ?_⟩
  intro test asks
  rw [Test.passes, Predicate.holds_eq_false ports tcpHeader asks, Bool.false_bne]

namespace Capture

variable {data : Bytes} {capture : Capture} {header : IpHeader}

theorem sameViews_ofIp_network (located : capture = ofIp data ∨ ofEthernet? data = some capture) :
    capture.packet.SameViews (ofIp capture.network).packet := by
  rcases located with rfl | found
  · rw [network_ofIp]
    exact ⟨rfl, rfl, rfl⟩
  · obtain ⟨offset, carries, rfl⟩ := ofEthernet?_eq_some_iff.1 found
    rw [network_locate carries.le_length]
    exact sameViews_locate carries.le_length

theorem transport_ofIp_eq_none (found : IpHeader.ofBytes? data = some header)
    (absent : header.transportOffset? = none) : (ofIp data).packet.transport = none := by
  rw [packet, transport?, transportOffset_ofIp found, absent]
  rfl

/-- The payload is taken for a transport header if the last fragment header gives the first place,
whatever the fragment headers before it give. -/
theorem transport_of_last {datagram : Ipv6Datagram}
    (version : Bytes.field datagram.bytes 0 1 / 16 = 6)
    (first : ∀ part ∈ datagram.fragments.getLast?, part.place.offset = 0) :
    (ofIp datagram.bytes).packet.transport = some datagram.payload := by
  have offset := Ipv6Datagram.transportOffset_ofIp version
  rw [if_neg] at offset
  · rw [transport_eq_drop offset datagram.payloadOffset_le]
    exact congrArg some datagram.drop_payloadOffset
  · rintro ⟨place, member, later⟩
    obtain ⟨part, last, rfl⟩ := Option.map_eq_some_iff.1 member
    exact later (first part last)

/-- Nothing is read as a transport header from a fragment behind the first. For version 6 this is
so if no fragment header that is met behind one of such a fragment gives the first place; the
payload of a datagram is read if the last one does. -/
theorem hidesTransport_of_fragment
    (located : capture = ofIp data ∨ ofEthernet? data = some capture)
    (found : capture.packet.ipHeader? = some header) :
    (∀ inner, header = .v4 inner → inner.fragment.offset ≠ 0 → capture.packet.HidesTransport) ∧
    ∀ inner, header = .v6 inner →
      (∀ part rest,
        ExtensionHeader.Meets (capture.network.field 6 1) (capture.network.drop 40) part rest →
        part.place.offset ≠ 0 →
        (∀ other more, ExtensionHeader.Meets part.next rest other more →
          other.place.offset ≠ 0) →
        capture.packet.HidesTransport) ∧
      ∀ datagram : Ipv6Datagram, datagram.bytes = capture.network →
        (∀ part ∈ datagram.fragments.getLast?, part.place.offset = 0) →
        capture.packet.transport = some datagram.payload := by
  have same := sameViews_ofIp_network located
  have hides : header.transportOffset? = none → capture.packet.HidesTransport := by
    intro absent
    apply Packet.hidesTransport_of_eq_none
    rw [same.transport]
    exact transport_ofIp_eq_none found absent
  refine ⟨?_, ?_⟩
  · rintro inner rfl later
    exact hides (IpHeader.transportOffset?_eq_none_of_fragment rfl later)
  · rintro inner rfl
    obtain ⟨version, extensions⟩ := IpHeader.of_ofBytes?_eq_v6 found
    refine ⟨?_, ?_⟩
    · intro part rest meets later behind
      exact hides (IpHeader.transportOffset?_eq_none_of_meets extensions meets later behind)
    · intro datagram bytes first
      rw [same.transport, ← bytes]
      refine transport_of_last ?_ first
      rw [bytes]
      exact version

def segment : Bytes :=
  [0, 80, 1, 187, 0, 0, 0, 0, 0, 0, 0, 0, 0x50, 2, 4, 0, 0, 0, 0, 0]

/-- A fragment header in front of a protocol, with the lower byte of the field of its place. -/
def fragmentHeader (next place : UInt8) : ExtensionHeader :=
  ⟨44, [next, 0, 0, place, 0, 0, 0, 7]⟩

theorem isWhole_fragmentHeader (next place : UInt8) : (fragmentHeader next place).IsWhole :=
  .fragment rfl rfl

theorem next_fragmentHeader (next place : UInt8) :
    (fragmentHeader next place).next = next.toNat := by
  rw [fragmentHeader, ExtensionHeader.next, Bytes.field_zero_one]

def twiceFragmented (outer inner : UInt8) : Ipv6Datagram where
  fixed := [0x60, 0, 0, 0, 0, 36, 44, 64] ++ List.replicate 32 1
  headers := [fragmentHeader 44 outer, fragmentHeader 6 inner]
  upper := 6
  payload := segment
  length_fixed := rfl
  leads := by
    have announced : Bytes.field ([0x60, 0, 0, 0, 0, 36, 44, 64] ++ List.replicate 32 1) 6 1 =
        44 := by
      decide
    rw [announced]
    refine .cons (isWhole_fragmentHeader 44 outer) ?_
    rw [next_fragmentHeader]
    refine .cons (isWhole_fragmentHeader 6 inner) ?_
    rw [next_fragmentHeader]
    exact .nil (by decide)

theorem meets_outer (outer inner : UInt8) :
    ExtensionHeader.Meets (Bytes.field (twiceFragmented outer inner).bytes 6 1)
      ((twiceFragmented outer inner).bytes.drop 40) (fragmentHeader 44 outer)
      ((fragmentHeader 6 inner).bytes ++ segment) :=
  .here (isWhole_fragmentHeader 44 outer) rfl

theorem meets_inner (outer inner : UInt8) :
    ExtensionHeader.Meets (Bytes.field (twiceFragmented outer inner).bytes 6 1)
      ((twiceFragmented outer inner).bytes.drop 40) (fragmentHeader 6 inner) segment := by
  refine .behind (isWhole_fragmentHeader 44 outer) ?_
  rw [next_fragmentHeader]
  exact .here (isWhole_fragmentHeader 6 inner) rfl

theorem hidesTransport_of_fragment_of_last :
    ∃ header, (ofIp (twiceFragmented 0 8).bytes).packet.ipHeader? = some (.v6 header) ∧
      (fragmentHeader 6 8).place.offset = 1 ∧
      (ofIp (twiceFragmented 0 8).bytes).packet.HidesTransport := by
  obtain ⟨header, found, _⟩ :=
    Ipv6Datagram.exists_header (show Bytes.field (twiceFragmented 0 8).bytes 0 1 / 16 = 6 by decide)
  have read := (ipHeader?_ofIp _).trans found
  refine ⟨header, read, by decide, ?_⟩
  have hides := ((hidesTransport_of_fragment (.inl rfl) read).2 header rfl).1
  rw [network_ofIp] at hides
  refine hides _ _ (meets_inner 0 8) (by decide) ?_
  intro other more meets
  have announced := meets.announced
  rw [next_fragmentHeader] at announced
  exact absurd announced (by decide)

/-- The place that the outer fragment header gives is forgotten, and the segment is read. -/
theorem reads_fragment_of_first_inside :
    ExtensionHeader.Meets (Bytes.field (twiceFragmented 8 0).bytes 6 1)
        ((twiceFragmented 8 0).bytes.drop 40) (fragmentHeader 44 8)
        ((fragmentHeader 6 0).bytes ++ segment) ∧
      (fragmentHeader 44 8).place.offset = 1 ∧
      (ofIp (twiceFragmented 8 0).bytes).packet.ports? = some ⟨80, 443⟩ ∧
      (ofIp (twiceFragmented 8 0).bytes).packet.tcpHeader? = some ⟨⟨80, 443⟩, 2, 1024⟩ ∧
      (Test.bind (.port .source 80) none false).passes
        (ofIp (twiceFragmented 8 0).bytes).packet = true := by
  have version : Bytes.field (twiceFragmented 8 0).bytes 0 1 / 16 = 6 := by decide
  have transport : (ofIp (twiceFragmented 8 0).bytes).packet.transport = some segment :=
    transport_of_last version (by decide)
  obtain ⟨header, found, followed⟩ := Ipv6Datagram.exists_header version
  have protocol : (ofIp (twiceFragmented 8 0).bytes).packet.protocol = some 6 :=
    (protocol_ofIp found).trans (congrArg some (IpHeader.protocol_of_extensions followed))
  have ports : (ofIp (twiceFragmented 8 0).bytes).packet.ports? = some ⟨80, 443⟩ := by
    rw [Packet.ports?, protocol, transport]
    decide
  refine ⟨meets_outer 8 0, by decide, ports, ?_, ?_⟩
  · rw [Packet.tcpHeader?, protocol, transport]
    decide
  · have asked :
        Predicate.portNumbers (ofIp (twiceFragmented 8 0).bytes).packet .source = [80] := by
      rw [Predicate.portNumbers, ports]
      rfl
    rw [Test.passes, Test.bind, Predicate.holds, asked]
    decide

end Capture

end PacketFilter
