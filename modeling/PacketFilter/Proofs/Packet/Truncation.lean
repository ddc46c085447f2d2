import PacketFilter.Proofs.Packet.FragmentTests

/-!
Datagrams that were cut short when they were captured. Readers look at bytes from the front, so
what they found in the part that was captured they find in the whole datagram, at the same places.
Cutting can only take an answer away: a header that is no longer whole is absent, and extension
headers that are cut lead to no transport header at all.
-/

namespace PacketFilter

variable {bytes more : Bytes}

theorem Bytes.field_append_of_le {size offset width : Nat} (long : size ≤ bytes.length)
    (inside : offset + width ≤ size) :
    field (bytes ++ more) offset width = field bytes offset width :=
  field_append bytes more offset width (Nat.le_trans inside long)

/-- A header that was read is whole, and no header of the same size is refused in front of more
bytes. -/
theorem whole_of_read {α : Type} {size : Nat} {header found : α}
    (read : (if bytes.length < size then none else some header) = some found) :
    size ≤ bytes.length ∧ header = found ∧
      ∀ (more : Bytes) (other : α),
        (if (bytes ++ more).length < size then none else some other) = some other := by
  split at read
  · contradiction
  · rename_i long
    refine ⟨Nat.not_lt.1 long, Option.some.inj read, fun more other => if_neg ?_⟩
    rw [List.length_append]
    omega

/-- Extension headers that were followed are followed alike in front of more bytes. -/
theorem ExtensionChain.follow_append {protocol : Nat} {chain : ExtensionChain}
    (followed : follow protocol bytes = some chain) (more : Bytes) :
    follow protocol (bytes ++ more) = some chain := by
  fun_induction follow protocol bytes generalizing chain more with
  | case1 protocol bytes unnamed =>
      rw [← followed]
      exact ExtensionHeader.follow_of_unannounced _
        (ExtensionHeader.ofProtocol?_eq_none_iff.1 unnamed)
  | case2 => contradiction
  | case3 protocol bytes kind named extension found inductionHypothesis =>
      obtain ⟨rest, followedRest, rfl⟩ := Option.map_eq_some_iff.1 followed
      -- A header that tells a length past the end leaves no bytes, and some of `more` are skipped.
      rw [ExtensionHeader.follow_of_read? named (Extension.read?_append found more),
        List.drop_append, inductionHypothesis followedRest]
      rfl

theorem Ipv4Header.ofBytes?_append {header : Ipv4Header} (found : ofBytes? bytes = some header)
    (more : Bytes) : ofBytes? (bytes ++ more) = some header := by
  obtain ⟨long, rfl, again⟩ := whole_of_read found
  rw [size] at long
  rw [ofBytes?, again]
  simp only [Bytes.field_append_of_le long, Nat.reduceAdd, Nat.reduceLeDiff]

/-- Only where the extension headers lead can change when more bytes follow. -/
theorem Ipv6Header.ofBytes?_append {header : Ipv6Header} (found : ofBytes? bytes = some header)
    (more : Bytes) :
    ofBytes? (bytes ++ more) = some { header with
      extensions := ExtensionChain.follow (bytes.field 6 1) (bytes.drop 40 ++ more) } := by
  obtain ⟨long, rfl, again⟩ := whole_of_read found
  rw [size] at long
  rw [ofBytes?, again]
  simp only [Bytes.field_append_of_le long, List.drop_append_of_le_length long, size,
    Nat.reduceAdd, Nat.reduceLeDiff]

namespace IpHeader

/-- Two headers agree in all that is told in front of the extension headers. -/
structure AgreesInFront (first second : IpHeader) : Prop where
  version : first.version = second.version
  source : first.source = second.source
  destination : first.destination = second.destination
  trafficClass : first.trafficClass = second.trafficClass
  timeToLive : first.timeToLive = second.timeToLive
  length : first.length = second.length
  identification : first.identification? = second.identification?
  headerLength : first.headerLength? = second.headerLength?
  flowLabel : first.flowLabel? = second.flowLabel?
  payloadLength : first.payloadLength? = second.payloadLength?
  hopLimit : first.hopLimit? = second.hopLimit?

/-- The extension headers, which only version 6 has, are not cut short. -/
def IsFollowed : IpHeader → Prop
  | v4 _ => True
  | v6 header => header.extensions.isSome

theorem isFollowed_of_transportOffset? {header : IpHeader} {offset : Nat}
    (located : header.transportOffset? = some offset) : header.IsFollowed := by
  unfold transportOffset? at located
  split at located
  · contradiction
  · cases header with
    | v4 header => trivial
    | v6 header =>
        obtain ⟨chain, followed, _⟩ := Option.map_eq_some_iff.1 located
        exact Option.isSome_iff_exists.2 ⟨chain, followed⟩

/-- A header is read in front of more bytes too, and it is the same if its extension headers were
not cut short. -/
theorem ofBytes?_append {header : IpHeader} (found : ofBytes? bytes = some header)
    (more : Bytes) :
    ∃ whole, ofBytes? (bytes ++ more) = some whole ∧ header.AgreesInFront whole ∧
      (header.IsFollowed → whole = header) := by
  cases header with
  | v4 header =>
      obtain ⟨version, read⟩ := ofBytes?_eq_v4_iff.1 found
      have long : 20 ≤ bytes.length := exists_of_long_iff.1 ⟨header, read⟩
      have versionAgain : Bytes.field (bytes ++ more) 0 1 / 16 = 4 := by
        rw [Bytes.field_append_of_le long (by decide), version]
      have readAgain := Ipv4Header.ofBytes?_append read more
      refine ⟨_, ofBytes?_eq_v4_iff.2 ⟨versionAgain, readAgain⟩, ?_, fun _ => rfl⟩
      constructor <;> rfl
  | v6 header =>
      obtain ⟨version, read⟩ := ofBytes?_eq_v6_iff.1 found
      have long : 40 ≤ bytes.length := exists_of_long_iff.1 ⟨header, read⟩
      have versionAgain : Bytes.field (bytes ++ more) 0 1 / 16 = 6 := by
        rw [Bytes.field_append_of_le long (by decide), version]
      have readAgain := Ipv6Header.ofBytes?_append read more
      refine ⟨_, ofBytes?_eq_v6_iff.2 ⟨versionAgain, readAgain⟩, ?_, ?_⟩
      · constructor <;> rfl
      · intro followed
        obtain ⟨chain, same⟩ := Option.isSome_iff_exists.1 followed
        have chainRead := (header.extensions_eq read).symm.trans same
        rw [ExtensionChain.follow_append chainRead more, ← same]

end IpHeader

theorem TcpHeader.ofBytes?_append {header : TcpHeader} (found : ofBytes? bytes = some header)
    (more : Bytes) : ofBytes? (bytes ++ more) = some header := by
  obtain ⟨long, rfl, again⟩ := whole_of_read found
  rw [ofBytes?, again]
  simp only [Ports.ofBytes, Bytes.field_append_of_le long, Nat.reduceAdd, Nat.reduceLeDiff]

theorem Ports.ofUdp?_append {ports : Ports} (found : ofUdp? bytes = some ports)
    (more : Bytes) : ofUdp? (bytes ++ more) = some ports := by
  obtain ⟨long, rfl, again⟩ := whole_of_read found
  rw [ofUdp?, again]
  simp only [Ports.ofBytes, Bytes.field_append_of_le long, Nat.reduceAdd, Nat.reduceLeDiff]

namespace Packet

/-- What the cut packet has of a transport header is the start of what the whole packet has. -/
def IsCutOf (cut whole : Packet) : Prop :=
  ∀ bytes, cut.transport = some bytes →
    whole.protocol = cut.protocol ∧ ∃ more, whole.transport = some (bytes ++ more)

namespace IsCutOf

variable {cut whole : Packet}

theorem tcpHeader (isCut : cut.IsCutOf whole) {header : TcpHeader}
    (found : cut.tcpHeader? = some header) : whole.tcpHeader? = some header := by
  obtain ⟨told, bytes, located, _⟩ := hasTcpHeader_iff.2 ⟨header, found⟩
  obtain ⟨protocol, more, continued⟩ := isCut bytes located
  have read : TcpHeader.ofBytes? bytes = some header := by
    simpa [tcpHeader?, told, located, Protocol.tcp] using found
  simpa [tcpHeader?, protocol, told, continued, Protocol.tcp] using
    TcpHeader.ofBytes?_append read more

theorem ports (isCut : cut.IsCutOf whole) {ports : Ports} (found : cut.ports? = some ports) :
    whole.ports? = some ports := by
  rcases hasPorts_iff.2 ⟨ports, found⟩ with
    ⟨told, bytes, located, _⟩ | ⟨told, bytes, located, _⟩
  · obtain ⟨protocol, more, continued⟩ := isCut bytes located
    have read : (TcpHeader.ofBytes? bytes).map TcpHeader.ports = some ports := by
      simpa [ports?, told, located, Protocol.tcp] using found
    obtain ⟨header, whole, rfl⟩ := Option.map_eq_some_iff.1 read
    simp [ports?, protocol, told, continued, Protocol.tcp, TcpHeader.ofBytes?_append whole more]
  · obtain ⟨protocol, more, continued⟩ := isCut bytes located
    have read : Ports.ofUdp? bytes = some ports := by
      rcases told with told | told <;>
        simpa [ports?, told, located, Protocol.tcp, Protocol.udp, Protocol.udplite] using found
    rcases told with told | told <;>
      simp [ports?, protocol, told, continued, Protocol.tcp, Protocol.udp, Protocol.udplite,
        Ports.ofUdp?_append read more]

theorem holds (isCut : cut.IsCutOf whole) {predicate : Predicate}
    (asks : predicate.asksTransport = true) {comparison : Comparison}
    (holds : predicate.holds comparison cut = true) : predicate.holds comparison whole = true := by
  cases predicate with
  | port side number =>
      cases found : cut.ports? with
      | none => simp [Predicate.holds, Predicate.portNumbers, found] at holds
      | some ports =>
          rw [Predicate.holds, Predicate.portNumbers, found] at holds
          rw [Predicate.holds, Predicate.portNumbers, isCut.ports found]
          exact holds
  | tcpFlag flag =>
      obtain ⟨header, found, set⟩ := (Option.any_eq_true _ _).1 holds
      exact (Option.any_eq_true _ _).2 ⟨header, isCut.tcpHeader found, set⟩
  | numeric field operand =>
      obtain rfl : field = .window := eq_of_beq asks
      obtain ⟨window, told, compared⟩ := (Option.any_eq_true _ _).1 holds
      obtain ⟨header, found, rfl⟩ := Option.map_eq_some_iff.1 told
      have again : Field.window.ofPacket? whole = some header.window :=
        congrArg (Option.map TcpHeader.window) (isCut.tcpHeader found)
      exact (Option.any_eq_true _ _).2 ⟨header.window, again, compared⟩
  | _ => contradiction

end IsCutOf

end Packet

namespace Capture

variable {data : Bytes}

theorem exists_header_of_transportOffset {offset : Nat}
    (located : (ofIp data).transportOffset = some offset) :
    ∃ header, IpHeader.ofBytes? data = some header ∧ header.transportOffset? = some offset ∧
      offset ≤ data.length := by
  cases found : IpHeader.ofBytes? data with
  | none => simp [ofIp, locate, Bytes.from?, found] at located
  | some header =>
      rw [transportOffset_ofIp found] at located
      obtain ⟨told, inside⟩ := Option.filter_eq_some_iff.1 located
      exact ⟨header, rfl, told, of_decide_eq_true inside⟩

/-- A transport header that was located is located at the same place among more bytes, and the
network header in front of it is the same. -/
theorem transportOffset_append {offset : Nat} (located : (ofIp data).transportOffset = some offset)
    (more : Bytes) :
    (ofIp (data ++ more)).transportOffset = some offset ∧
      (ofIp (data ++ more)).packet.protocol = (ofIp data).packet.protocol := by
  obtain ⟨header, found, told, inside⟩ := exists_header_of_transportOffset located
  obtain ⟨whole, again, _, same⟩ := IpHeader.ofBytes?_append found more
  rw [same (IpHeader.isFollowed_of_transportOffset? told)] at again
  refine ⟨?_, (protocol_ofIp again).trans (protocol_ofIp found).symm⟩
  have within : offset ≤ (data ++ more).length := by
    rw [List.length_append]
    omega
  rw [transportOffset_ofIp again, told]
  exact Option.filter_eq_some_iff.2 ⟨rfl, decide_eq_true within⟩

theorem isCutOf_append (data more : Bytes) :
    (ofIp data).packet.IsCutOf (ofIp (data ++ more)).packet := by
  intro bytes transport
  obtain ⟨offset, located, _⟩ := Option.bind_eq_some_iff.1 transport
  obtain ⟨_, _, _, inside⟩ := exists_header_of_transportOffset located
  obtain ⟨again, protocol⟩ := transportOffset_append located more
  have cut := transport_eq_drop located inside
  obtain rfl := Option.some.inj (transport.symm.trans cut)
  refine ⟨protocol, more, ?_⟩
  have longer : offset ≤ (data ++ more).length := by
    rw [List.length_append]
    exact Nat.le_trans inside (Nat.le_add_right _ _)
  rw [transport_eq_drop again longer]
  exact congrArg some (List.drop_append_of_le_length inside)

/-- Bytes behind those of a datagram add to what is found in it and change nothing: the network
header stays, with the protocol and the fragment if the extension headers were not cut short, and
so do the place of the transport header and what is read from it. A test of the transport header
that holds of the datagram cut short holds of all of it. -/
theorem found_in_append (data more : Bytes) :
    (∀ header, (ofIp data).packet.ipHeader? = some header →
      ∃ whole, (ofIp (data ++ more)).packet.ipHeader? = some whole ∧ header.AgreesInFront whole ∧
        (header.IsFollowed →
          whole.protocol = header.protocol ∧ whole.isFragment = header.isFragment)) ∧
    (∀ offset, (ofIp data).transportOffset = some offset →
      (ofIp (data ++ more)).transportOffset = some offset) ∧
    (∀ ports, (ofIp data).packet.ports? = some ports →
      (ofIp (data ++ more)).packet.ports? = some ports) ∧
    (∀ header, (ofIp data).packet.tcpHeader? = some header →
      (ofIp (data ++ more)).packet.tcpHeader? = some header) ∧
    ∀ predicate : Predicate, predicate.asksTransport = true → ∀ comparison,
      predicate.holds comparison (ofIp data).packet = true →
        predicate.holds comparison (ofIp (data ++ more)).packet = true := by
  have isCut := isCutOf_append data more
  refine ⟨?_, ?_, fun _ => isCut.ports, fun _ => isCut.tcpHeader, fun _ asks _ => isCut.holds asks⟩
  · intro header found
    rw [ipHeader?_ofIp] at found
    obtain ⟨whole, again, agrees, same⟩ := IpHeader.ofBytes?_append found more
    refine ⟨whole, (ipHeader?_ofIp _).trans again, agrees, fun followed => ?_⟩
    rw [same followed]
    exact ⟨rfl, rfl⟩
  · intro offset located
    exact (transportOffset_append located more).1

/-- A datagram of version 6 with destination options and a segment from port 80 to port 443. -/
def optioned : Bytes :=
  [0x60, 0, 0, 0, 0, 30, 60, 64] ++ List.replicate 32 1 ++ [6, 0, 1, 4, 0, 0, 0, 0] ++
    [0, 80, 1, 187, 0, 0, 0, 0, 0, 0, 0, 0, 0x50, 2, 4, 0, 0, 0, 0, 0] ++ [104, 105]

/-- Captured without its payload the datagram keeps its ports. Without a part of the segment they
are absent, and without a part of the options so is the place of the segment. -/
theorem found_in_append_of_optioned :
    (ofIp (optioned.take 68)).packet.ports? = some ⟨80, 443⟩ ∧
      (ofIp (optioned.take 68)).transportOffset = some 48 ∧
      (ofIp optioned).packet.ports? = some ⟨80, 443⟩ ∧
      (ofIp optioned).packet.tcpHeader? = some ⟨⟨80, 443⟩, 2, 1024⟩ ∧
      (ofIp optioned).transportOffset = some 48 ∧
      (Predicate.port .source 443).holds .lt (ofIp optioned).packet = true ∧
      (ofIp (optioned.take 67)).packet.ports? = none ∧
      (ofIp (optioned.take 41)).transportOffset = none := by
  have ports : (ofIp (optioned.take 68)).packet.ports? = some ⟨80, 443⟩ := by decide +kernel
  have located : (ofIp (optioned.take 68)).transportOffset = some 48 := by decide +kernel
  have header : (ofIp (optioned.take 68)).packet.tcpHeader? = some ⟨⟨80, 443⟩, 2, 1024⟩ := by
    decide +kernel
  have holds : (Predicate.port .source 443).holds .lt (ofIp (optioned.take 68)).packet = true := by
    decide +kernel
  obtain ⟨_, offset, samePorts, sameHeader, stillHolds⟩ :=
    found_in_append (optioned.take 68) (optioned.drop 68)
  rw [List.take_append_drop] at offset samePorts sameHeader stillHolds
  exact ⟨ports, located, samePorts _ ports, sameHeader _ header, offset _ located,
    stillHolds _ rfl _ holds, by decide +kernel, by decide +kernel⟩

end Capture

end PacketFilter
