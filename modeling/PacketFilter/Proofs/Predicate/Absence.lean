import PacketFilter.Predicate.Satisfaction
import PacketFilter.Proofs.Packet.Presence

/-!
What a test makes of a part that a packet does not have. A predicate compares numbers of the packet
with numbers of its operand, one pair for each end that it asks about. There are pairs exactly if
the packet has the part that is asked for: without it no comparison holds, and with it a comparison
and its complement never fail together.
-/

namespace PacketFilter

namespace Comparison

/-- The comparison that holds where the given one does not. -/
def complement : Comparison → Comparison
  | .eq => .ne
  | .ne => .eq
  | .gt => .le
  | .ge => .lt
  | .lt => .ge
  | .le => .gt

theorem holds_complement (comparison : Comparison) (field operand : Nat) :
    comparison.complement.holds field operand = !comparison.holds field operand := by
  cases comparison <;> grind [complement, holds]

theorem exists_holds_iff (field operand : Nat) :
    ∃ comparison ∈ [lt, eq, gt], ∀ other ∈ [lt, eq, gt],
      (other.holds field operand = true ↔ other = comparison) := by
  rcases Nat.lt_trichotomy field operand with less | same | greater
  · refine ⟨.lt, by simp, ?_⟩
    simp [holds]
    omega
  · refine ⟨.eq, by simp, ?_⟩
    simp [holds]
    omega
  · refine ⟨.gt, by simp, ?_⟩
    simp [holds]
    omega

end Comparison

namespace Network

/-- The packet has addresses of the family of the network. -/
def IsOfFamily (packet : Packet) : Network → Prop
  | v4 _ => packet.HasVersion4
  | v6 _ => packet.HasVersion6

/-- The bits of an address that decide about its membership, as a number, with those of the
network. -/
def pair? : Network → Address → Option (Nat × Nat)
  | v4 block, .v4 field => some ((field &&& block.mask).toNat, (block.bits &&& block.mask).toNat)
  | v6 block, .v6 field => some ((field &&& block.mask).toNat, (block.bits &&& block.mask).toNat)
  | _, _ => none

theorem compare_eq_any (network : Network) (comparison : Comparison) :
    network.compare comparison = fun address =>
      (network.pair? address).any fun pair => comparison.holds pair.1 pair.2 := by
  funext address
  cases network <;> cases address <;> rfl

variable {packet : Packet} {network : Network}

theorem pair?_of_family (family : network.IsOfFamily packet) :
    ∃ header source destination, packet.ipHeader? = some header ∧
      network.pair? header.source = some source ∧
      network.pair? header.destination = some destination := by
  cases network with
  | v4 block =>
      obtain ⟨header, found⟩ := Packet.hasVersion4_iff.1 family
      exact ⟨_, _, _, found, rfl, rfl⟩
  | v6 block =>
      obtain ⟨header, found⟩ := Packet.hasVersion6_iff.1 family
      exact ⟨_, _, _, found, rfl, rfl⟩

theorem pair?_of_not_family (other : ¬ network.IsOfFamily packet) {header : IpHeader}
    (found : packet.ipHeader? = some header) :
    network.pair? header.source = none ∧ network.pair? header.destination = none := by
  cases network with
  | v4 block =>
      cases header with
      | v4 header => exact absurd (Packet.hasVersion4_iff.2 ⟨header, found⟩) other
      | v6 header => exact ⟨rfl, rfl⟩
  | v6 block =>
      cases header with
      | v4 header => exact ⟨rfl, rfl⟩
      | v6 header => exact absurd (Packet.hasVersion6_iff.2 ⟨header, found⟩) other

end Network

def Field.IsIn (packet : Packet) : Field → Prop
  | version | trafficClass | codePoint | congestion | timeToLive | length | protocol =>
      packet.HasVersion4 ∨ packet.HasVersion6
  | headerLength | identification => packet.HasVersion4
  | flowLabel | payloadLength | hopLimit | nextHeader => packet.HasVersion6
  | window => packet.HasTcpHeader

theorem Field.isIn_iff {packet : Packet} (field : Field) :
    field.IsIn packet ↔ ∃ value, field.ofPacket? packet = some value := by
  by_cases window : field = .window
  · rw [window, IsIn, Packet.hasTcpHeader_iff, ofPacket?, ← Option.isSome_iff_exists,
      ← Option.isSome_iff_exists, Option.isSome_map]
  · have read : field.ofPacket? packet = packet.ipHeader?.bind field.ofIpHeader? := by
      cases field <;> first | contradiction | rfl
    rw [read]
    rcases found : packet.ipHeader? with _ | header | header
    · cases field <;> simp_all [IsIn, Packet.hasVersion4_iff, Packet.hasVersion6_iff]
    · cases field <;>
        simp_all [IsIn, Packet.hasVersion4_iff, Packet.hasVersion6_iff, ofIpHeader?,
          IpHeader.headerLength?, IpHeader.identification?, IpHeader.flowLabel?,
          IpHeader.payloadLength?, IpHeader.hopLimit?, IpHeader.nextHeader?]
    · cases field <;>
        simp_all [IsIn, Packet.hasVersion4_iff, Packet.hasVersion6_iff, ofIpHeader?,
          IpHeader.headerLength?, IpHeader.identification?, IpHeader.flowLabel?,
          IpHeader.payloadLength?, IpHeader.hopLimit?, IpHeader.nextHeader?]

namespace Predicate

/-- The packet has the part that is asked for. Nothing is asked for by a constant. -/
def IsReadable (packet : Packet) : Predicate → Prop
  | host _ network | net _ network => network.IsOfFamily packet
  | port _ _ => packet.HasPorts
  | numeric field _ => field.IsIn packet
  | congested | fragment | unfragmented => packet.HasVersion4 ∨ packet.HasVersion6
  | tcpFlag _ => packet.HasTcpHeader
  | constant _ => True

/-- The predicate asks about either end of the packet's way. -/
def asksEither : Predicate → Bool
  | host side _ | net side _ | port side _ => side == .either
  | _ => false

def onSide (side : Side) : Predicate → Predicate
  | host _ network => host side network
  | net _ network => net side network
  | port _ number => port side number
  | predicate => predicate

/-- The numbers of a packet that are compared, each with the number that it is compared with. -/
def pairs (packet : Packet) : Predicate → List (Nat × Nat)
  | host side network | net side network => (addresses packet side).filterMap network.pair?
  | port side number => (portNumbers packet side).map (·, number)
  | numeric field operand => (field.ofPacket? packet).toList.map (·, operand)
  | _ => []

variable {packet : Packet} {predicate : Predicate}

theorem holds_eq_any_pairs (varies : predicate.isFlag = false) (comparison : Comparison) :
    predicate.holds comparison packet =
      (predicate.pairs packet).any fun pair => comparison.holds pair.1 pair.2 := by
  cases predicate with
  | host side network | net side network =>
      rw [holds, pairs, List.any_filterMap, Network.compare_eq_any]
      rfl
  | port side number => simp [holds, pairs, List.any_map, Function.comp_def]
  | numeric field operand =>
      rw [holds, pairs]
      cases field.ofPacket? packet <;> simp
  | congested => contradiction
  | fragment => contradiction
  | unfragmented => contradiction
  | tcpFlag flag => contradiction
  | constant value => contradiction

theorem exists_pairs_of_family {network : Network} (family : network.IsOfFamily packet) :
    ∃ source destination, ∀ side,
      (addresses packet side).filterMap network.pair? = side.select source destination := by
  obtain ⟨header, source, destination, found, first, second⟩ := Network.pair?_of_family family
  refine ⟨source, destination, fun side => ?_⟩
  cases side <;> simp [addresses, found, Side.select, first, second]

theorem pairs_of_not_family {network : Network} (other : ¬ network.IsOfFamily packet)
    (side : Side) : (addresses packet side).filterMap network.pair? = [] := by
  cases found : packet.ipHeader? with
  | none => simp [addresses, found]
  | some header =>
      obtain ⟨first, second⟩ := Network.pair?_of_not_family other found
      cases side <;> simp [addresses, found, Side.select, first, second]

/-- A packet without the part that is asked for satisfies no predicate. -/
theorem holds_of_absence (absent : ¬ predicate.IsReadable packet) (comparison : Comparison) :
    predicate.holds comparison packet = false := by
  cases predicate with
  | host side network | net side network =>
      rw [holds_eq_any_pairs rfl, pairs, pairs_of_not_family absent]
      rfl
  | port side number =>
      have none : packet.ports? = none := Option.eq_none_iff_forall_ne_some.2
        fun ports found => absent (Packet.hasPorts_iff.2 ⟨ports, found⟩)
      simp [holds, portNumbers, none]
  | numeric field operand =>
      have none : field.ofPacket? packet = none := Option.eq_none_iff_forall_ne_some.2
        fun value found => absent (field.isIn_iff.2 ⟨value, found⟩)
      simp [holds, none]
  | congested | fragment | unfragmented =>
      have none : packet.ipHeader? = none := Option.eq_none_iff_forall_ne_some.2
        fun header found => absent (Packet.hasVersion_iff.2 ⟨header, found⟩)
      simp [holds, none]
  | tcpFlag flag =>
      have none : packet.tcpHeader? = none := Option.eq_none_iff_forall_ne_some.2
        fun header found => absent (Packet.hasTcpHeader_iff.2 ⟨header, found⟩)
      simp [holds, none]
  | constant value => exact absurd trivial absent

theorem exists_pairs_of_ports (readable : packet.HasPorts) (number : Nat) :
    ∃ source destination, ∀ side,
      (portNumbers packet side).map (·, number) = side.select source destination := by
  obtain ⟨ports, found⟩ := Packet.hasPorts_iff.1 readable
  refine ⟨(ports.source, number), (ports.destination, number), fun side => ?_⟩
  cases side <;> simp [portNumbers, found, Side.select]

theorem exists_pairs_of_either (readable : predicate.IsReadable packet)
    (either : predicate.asksEither = true) : ∃ source destination,
      predicate.pairs packet = [source, destination] ∧
      (predicate.onSide .source).pairs packet = [source] ∧
      (predicate.onSide .destination).pairs packet = [destination] := by
  cases predicate with
  | host side network | net side network =>
      obtain rfl : side = .either := eq_of_beq either
      obtain ⟨source, destination, pairs⟩ := exists_pairs_of_family readable
      exact ⟨source, destination, pairs .either, pairs .source, pairs .destination⟩
  | port side number =>
      obtain rfl : side = .either := eq_of_beq either
      obtain ⟨source, destination, pairs⟩ := exists_pairs_of_ports readable number
      exact ⟨source, destination, pairs .either, pairs .source, pairs .destination⟩
  | _ => contradiction

theorem exists_pair (readable : predicate.IsReadable packet) (varies : predicate.isFlag = false)
    (single : predicate.asksEither = false) : ∃ pair, predicate.pairs packet = [pair] := by
  cases predicate with
  | host side network | net side network =>
      obtain ⟨source, destination, pairs⟩ := exists_pairs_of_family readable
      cases side with
      | either => contradiction
      | source => exact ⟨source, pairs .source⟩
      | destination => exact ⟨destination, pairs .destination⟩
  | port side number =>
      obtain ⟨source, destination, pairs⟩ := exists_pairs_of_ports readable number
      cases side with
      | either => contradiction
      | source => exact ⟨source, pairs .source⟩
      | destination => exact ⟨destination, pairs .destination⟩
  | numeric field operand =>
      obtain ⟨value, found⟩ := field.isIn_iff.1 readable
      exact ⟨(value, operand), by simp [pairs, found]⟩
  | _ => contradiction

theorem isFlag_onSide (side : Side) : (predicate.onSide side).isFlag = predicate.isFlag := by
  cases predicate <;> rfl

theorem isFlag_eq_false_of_asksEither (either : predicate.asksEither = true) :
    predicate.isFlag = false := by
  cases predicate <;> first | rfl | contradiction

/-- The answers to all comparisons with a part that the packet has once. -/
structure ComparesOnce (packet : Packet) (predicate : Predicate) : Prop where
  complement : ∀ comparison negated,
    (Test.bind predicate (some comparison.complement) negated).passes packet =
      !(Test.bind predicate (some comparison) negated).passes packet
  order : ∃ comparison ∈ [Comparison.lt, .eq, .gt], ∀ other ∈ [Comparison.lt, .eq, .gt],
    ((Test.bind predicate (some other) false).passes packet = true ↔ other = comparison)

/-- The answers to all comparisons with a part that the packet has at either end. -/
structure ComparesEither (packet : Packet) (predicate : Predicate) : Prop where
  sides : ∀ comparison negated, (Test.bind predicate (some comparison) negated).passes packet =
    (((Test.bind (predicate.onSide .source) (some comparison) false).passes packet ||
      (Test.bind (predicate.onSide .destination) (some comparison) false).passes packet) != negated)
  complement : ∀ comparison, (Test.bind predicate (some comparison) false).passes packet = true ∨
    (Test.bind predicate (some comparison.complement) false).passes packet = true

end Predicate

namespace Test

variable {packet : Packet} {predicate : Predicate}

theorem passes_bind_eq (varies : predicate.isFlag = false) (comparison : Comparison)
    (negated : Bool) : (bind predicate (some comparison) negated).passes packet =
      (((predicate.pairs packet).any fun pair => comparison.holds pair.1 pair.2) != negated) := by
  rw [← Predicate.holds_eq_any_pairs varies comparison]
  simp [passes, bind, comparisonFor, varies]

theorem comparesOnce (readable : predicate.IsReadable packet) (varies : predicate.isFlag = false)
    (single : predicate.asksEither = false) : predicate.ComparesOnce packet := by
  obtain ⟨pair, pairs⟩ := Predicate.exists_pair readable varies single
  constructor
  · intro comparison negated
    simp [passes_bind_eq varies, pairs, Comparison.holds_complement]
  · simpa [passes_bind_eq varies, pairs] using Comparison.exists_holds_iff pair.1 pair.2

theorem comparesEither (readable : predicate.IsReadable packet)
    (either : predicate.asksEither = true) : predicate.ComparesEither packet := by
  have varies := Predicate.isFlag_eq_false_of_asksEither either
  have variesOnSide (side : Side) : (predicate.onSide side).isFlag = false :=
    (Predicate.isFlag_onSide side).trans varies
  obtain ⟨source, destination, pairs, pairsSource, pairsDestination⟩ :=
    Predicate.exists_pairs_of_either readable either
  constructor
  · intro comparison negated
    simp [passes_bind_eq varies, passes_bind_eq (variesOnSide _), pairs, pairsSource,
      pairsDestination]
  · intro comparison
    simp only [passes_bind_eq varies, pairs, List.any_cons, List.any_nil,
      Comparison.holds_complement]
    cases comparison.holds source.1 source.2 <;> simp

/-- A test of a part that the packet does not have is decided by its negation alone, whatever the
comparison. A test of a part that the packet has once is decided by it: complements give opposite
answers, and one of the three ways to be ordered is the case. A test of either end passes if the
test of one of the ends does. -/
theorem passes_by_presence (packet : Packet) (predicate : Predicate) :
    (¬ predicate.IsReadable packet → ∀ written negated,
      (bind predicate written negated).passes packet = negated) ∧
    (predicate.IsReadable packet → predicate.isFlag = false →
      (predicate.asksEither = false → predicate.ComparesOnce packet) ∧
      (predicate.asksEither = true → predicate.ComparesEither packet)) := by
  refine ⟨?_, ?_⟩
  · intro absent written negated
    rw [passes, bind, Predicate.holds_of_absence absent, Bool.false_bne]
  · intro readable varies
    exact ⟨comparesOnce readable varies, comparesEither readable⟩

theorem passes_by_presence_of_ports :
    let packet : Packet :=
      ⟨0x45 :: List.replicate 19 0, some [0, 80, 1, 187, 0, 8, 0, 0], some 17, 28⟩
    packet.HasVersion4 ∧ packet.HasPorts ∧
      (bind (.numeric .flowLabel 0) (some .ne) false).passes packet = false ∧
      (bind (.tcpFlag .syn) none true).passes packet = true ∧
      (bind (.numeric .timeToLive 64) (some .ne) false).passes packet =
        !(bind (.numeric .timeToLive 64) (some .eq) false).passes packet ∧
      ((bind (.port .either 80) (some .gt) false).passes packet = true ∨
        (bind (.port .either 80) (some .le) false).passes packet = true) := by
  intro packet
  have version : packet.HasVersion4 := by
    constructor <;> decide
  have ports : packet.HasPorts := .inr ⟨.inl rfl, _, rfl, by decide⟩
  have noFlowLabel : ¬ (Predicate.numeric .flowLabel 0).IsReadable packet := by
    rintro ⟨_, six⟩
    exact absurd (version.2.symm.trans six) (by decide)
  have noTcpHeader : ¬ (Predicate.tcpFlag .syn).IsReadable packet := by
    rintro ⟨tcp, _⟩
    exact absurd tcp (by decide)
  refine ⟨version, ports, ?_, ?_, ?_, ?_⟩
  · exact (passes_by_presence packet (.numeric .flowLabel 0)).1 noFlowLabel (some .ne) false
  · exact (passes_by_presence packet (.tcpFlag .syn)).1 noTcpHeader none true
  · have once := ((passes_by_presence packet (.numeric .timeToLive 64)).2 (.inl version) rfl).1 rfl
    exact once.complement .eq false
  · have either := ((passes_by_presence packet (.port .either 80)).2 ports rfl).2 rfl
    exact either.complement .gt

end Test

end PacketFilter
