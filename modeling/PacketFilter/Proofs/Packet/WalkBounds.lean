import PacketFilter.Proofs.Packet.ExtensionWalk

/-!
How far the walk through the extension headers of a version 6 datagram gets. Every turn takes it at
least eight bytes further, it stays within the bytes until the last turn, and that one takes it past
their end by less than a header can tell of its length. No place on the way is too large for 64
bits, and bytes that were not looked at have no effect. A transport header that is located behind
the headers of either version is within the bytes.
-/

namespace PacketFilter

open ExtensionStop Inspection

/-- Walks behind the fixed header of a datagram, which has to be whole. -/
def Inspection.extensions (bytes : Bytes) : Inspection ExtensionStop :=
  if bytes.length < Ipv6Header.size then ⟨[], none⟩
  else do
    let protocol ← byte bytes 6
    walk bytes ⟨protocol.toNat, Ipv6Header.size, none⟩

def ExtensionStop.first (bytes : Bytes) : ExtensionStop :=
  ⟨bytes.field 6 1, 40, none⟩

variable {bytes : Bytes} {stop : ExtensionStop} {count : Nat}

namespace Inspection

theorem extensions_of_short (short : bytes.length < 40) : extensions bytes = ⟨[], none⟩ :=
  if_pos short

theorem extensions_of_long (long : 40 ≤ bytes.length) :
    extensions bytes =
      ⟨6 :: (walk bytes (first bytes)).places, (walk bytes (first bytes)).outcome⟩ := by
  have found : bytes[6]? = some bytes[6] := List.getElem?_eq_getElem (by omega)
  have looked : byte bytes 6 = ⟨[6], some bytes[6]⟩ := by rw [byte, found]
  have outcome : (byte bytes 6).outcome = some bytes[6] := by rw [looked]
  have whole : ¬ bytes.length < Ipv6Header.size := Nat.not_lt.2 long
  rw [extensions, if_neg whole, bind_of_some outcome, looked, ← Bytes.field_one found]
  rfl

theorem long_of_extensions (ended : (extensions bytes).outcome = some stop) :
    40 ≤ bytes.length := by
  refine Nat.not_lt.1 fun short => ?_
  rw [extensions_of_short short] at ended
  contradiction

theorem extensions_eq (bytes : Bytes) :
    (Ipv6Header.ofBytes? bytes).bind Ipv6Header.extensions =
      (extensions bytes).outcome.map chain := by
  by_cases short : bytes.length < 40
  · have absent : Ipv6Header.ofBytes? bytes = none := if_pos short
    rw [extensions_of_short short, absent]
    rfl
  · have long := Nat.not_lt.1 short
    obtain ⟨header, found⟩ : ∃ header, Ipv6Header.ofBytes? bytes = some header :=
      exists_of_long_iff.2 long
    rw [extensions_of_long long, found, Option.bind_some, header.extensions_eq found, outcome_walk,
      Option.map_map]
    simp [first, chain, Function.comp_def]

theorem reaches_of_extensions (ended : (extensions bytes).outcome = some stop) :
    ∃ count, Reaches bytes (first bytes) count stop ∧
      ExtensionKind.ofProtocol? stop.protocol = none := by
  rw [extensions_of_long (long_of_extensions ended)] at ended
  exact reaches_of_walk ended

theorem extensions_inside (bytes : Bytes) :
    ∀ place ∈ (extensions bytes).places, place < bytes.length := by
  intro place member
  by_cases short : bytes.length < 40
  · rw [extensions_of_short short] at member
    contradiction
  · rw [extensions_of_long (Nat.not_lt.1 short)] at member
    rcases List.mem_cons.1 member with rfl | member
    · omega
    · exact (isLocal_walk _).inside bytes place member

/-- Other bytes that are long enough are walked alike if the bytes that were looked at are the
same in them. -/
theorem extensions_same (ended : (extensions bytes).outcome = some stop) {other : Bytes}
    (long : 40 ≤ other.length)
    (agree : ∀ place ∈ (extensions bytes).places, other[place]? = bytes[place]?) :
    extensions other = extensions bytes := by
  have whole := long_of_extensions ended
  rw [extensions_of_long whole] at ended agree ⊢
  obtain ⟨named, rest⟩ := List.forall_mem_cons.1 agree
  have found : bytes[6]? = some bytes[6] := List.getElem?_eq_getElem (by omega)
  have start : first other = first bytes := by
    rw [first, first, Bytes.field_one found, Bytes.field_one (named.trans found)]
  rw [extensions_of_long long, start, (isLocal_walk _).same bytes stop ended other rest]

theorem extensions_append (ended : (extensions bytes).outcome = some stop) (more : Bytes) :
    extensions (bytes ++ more) = extensions bytes := by
  refine extensions_same ended ?_ fun place member => ?_
  · rw [List.length_append]
    exact Nat.le_add_right_of_le (long_of_extensions ended)
  · exact List.getElem?_append_left (extensions_inside bytes place member)

end Inspection

namespace ExtensionStop

/-- There is no endless walk: a turn brings the end of the bytes closer. -/
theorem wellFounded_advances (bytes : Bytes) :
    WellFounded fun next here => Advances bytes here next := by
  refine Subrelation.wf ?_ (measure fun stop : ExtensionStop => bytes.length - stop.offset).wf
  intro next here advances
  have grows := advances.grows
  exact Nat.sub_lt_sub_left grows.1 (by omega)

theorem Reaches.bounds (reaches : Reaches bytes (first bytes) count stop) :
    40 + 8 * count ≤ stop.offset ∧ stop.offset ≤ max 40 (bytes.length + 2046) :=
  ⟨reaches.offset_ge, reaches.offset_le⟩

end ExtensionStop

/-- What holds of the walk behind a fixed header in any bytes. -/
structure WalksInBounds (bytes : Bytes) : Prop where
  /-- The chain that is read is what the walk finds. -/
  finds : (Ipv6Header.ofBytes? bytes).bind Ipv6Header.extensions =
    (extensions bytes).outcome.map chain
  terminates : WellFounded fun next here => Advances bytes here next
  grows : ∀ here next, Advances bytes here next → here.offset + 8 ≤ next.offset
  reached : ∀ stop, (extensions bytes).outcome = some stop →
    ∃ count, Reaches bytes (first bytes) count stop ∧
      ExtensionKind.ofProtocol? stop.protocol = none
  inside : ∀ place ∈ (extensions bytes).places, place < bytes.length
  bounded : ∀ count stop, Reaches bytes (first bytes) count stop →
    40 + 8 * count ≤ stop.offset ∧ stop.offset ≤ max 40 (bytes.length + 2046)
  leads : ∀ chain, (Ipv6Header.ofBytes? bytes).bind Ipv6Header.extensions = some chain →
    40 + chain.length ≤ max 40 (bytes.length + 2046)
  /-- The places of the eight bytes at a stop are numbers of 64 bits. -/
  fits : bytes.length ≤ 2 ^ 63 - 1 → ∀ count stop, Reaches bytes (first bytes) count stop →
    stop.offset + 8 < 2 ^ 64
  /-- So is the place of the last stop counted from the start of the data that has the bytes. -/
  fitsBehind : ∀ (data : Bytes) offset, data.length ≤ 2 ^ 63 - 1 → data.from? offset = some bytes →
    ∀ stop, (extensions bytes).outcome = some stop → offset + stop.offset < 2 ^ 64
  same : ∀ stop, (extensions bytes).outcome = some stop → ∀ other : Bytes, 40 ≤ other.length →
    (∀ place ∈ (extensions bytes).places, other[place]? = bytes[place]?) →
    extensions other = extensions bytes
  appended : ∀ stop, (extensions bytes).outcome = some stop → ∀ more,
    (Ipv6Header.ofBytes? (bytes ++ more)).bind Ipv6Header.extensions = some stop.chain

theorem walksInBounds (bytes : Bytes) : WalksInBounds bytes where
  finds := extensions_eq bytes
  terminates := wellFounded_advances bytes
  grows _ _ advances := advances.grows.2
  reached _ := reaches_of_extensions
  inside := extensions_inside bytes
  bounded _ _ := Reaches.bounds
  leads found led := by
    rw [extensions_eq] at led
    obtain ⟨stop, ended, rfl⟩ := Option.map_eq_some_iff.1 led
    obtain ⟨count, reaches, _⟩ := reaches_of_extensions ended
    have bounds := reaches.bounds
    simp only [chain]
    omega
  fits short count stop reaches := by
    have bounds := reaches.bounds
    omega
  fitsBehind data offset short found stop ended := by
    obtain ⟨count, reaches, _⟩ := reaches_of_extensions ended
    have bounds := reaches.bounds
    unfold Bytes.from? at found
    split at found
    · cases found
      rw [List.length_drop] at bounds
      omega
    · contradiction
  same _ ended _ := extensions_same ended
  appended stop ended more := by
    rw [extensions_eq, extensions_append ended, ended]
    rfl

namespace Capture

variable {data : Bytes} {offset networkOffset : Nat}

theorem le_transportOffset? {header : IpHeader} (told : header.transportOffset? = some offset) :
    20 ≤ offset := by
  unfold IpHeader.transportOffset? at told
  split at told
  · contradiction
  · cases header with
    | v4 header =>
        dsimp only at told
        split at told
        · contradiction
        · cases told
          omega
    | v6 header =>
        obtain ⟨chain, _, rfl⟩ := Option.map_eq_some_iff.1 told
        exact Nat.le_trans (by decide) (Nat.le_add_right 40 chain.length)

/-- A place that was located is behind the network header and within the data. -/
theorem bounds_of_locate (located : (locate data networkOffset).transportOffset = some offset) :
    networkOffset + 20 ≤ offset ∧ offset ≤ data.length := by
  obtain ⟨told, inside⟩ := Option.filter_eq_some_iff.1 located
  obtain ⟨place, found, rfl⟩ := Option.map_eq_some_iff.1 told
  obtain ⟨header, _, told⟩ := Option.bind_eq_some_iff.1 found
  exact ⟨Nat.add_le_add_left (le_transportOffset? told) networkOffset, of_decide_eq_true inside⟩

theorem exists_locate {capture : Capture}
    (found : capture = ofIp data ∨ ofEthernet? data = some capture) :
    ∃ networkOffset, capture = locate data networkOffset := by
  rcases found with rfl | found
  · exact ⟨0, rfl⟩
  · obtain ⟨networkOffset, _, located⟩ := ofEthernet?_eq_some_iff.1 found
    exact ⟨networkOffset, located⟩

/-- The walk through extension headers is bounded by the bytes that it gets, and where a transport
header has been located there is one. -/
theorem walks_in_bounds :
    (∀ bytes, WalksInBounds bytes) ∧
      ∀ data capture, capture = ofIp data ∨ ofEthernet? data = some capture →
        ∀ offset, capture.transportOffset = some offset →
          capture.networkOffset + 20 ≤ offset ∧ offset ≤ data.length ∧
            capture.packet.transport = some (data.drop offset) := by
  refine ⟨walksInBounds, ?_⟩
  intro data capture found offset located
  obtain ⟨networkOffset, rfl⟩ := exists_locate found
  obtain ⟨behind, inside⟩ := bounds_of_locate located
  exact ⟨behind, inside, transport_eq_drop located inside⟩

/-- A datagram that ends within its options, which tell the greatest length. -/
def overshooting : Bytes :=
  [0x60, 0, 0, 0, 0, 2, 0, 64] ++ List.replicate 32 1 ++ [6, 255]

def bare : Bytes :=
  List.replicate 12 2 ++ [8, 0] ++ [0x45, 0, 0, 20, 0, 0, 0, 0, 64, 6, 0, 0] ++ List.replicate 8 1

/-- The walk ends past the last byte by as much as there can be, more bytes do not change that, and
the transport header of a frame can start at the end. -/
theorem walks_in_bounds_of_overshooting :
    (extensions overshooting).outcome = some ⟨6, 2088, none⟩ ∧
      2088 = overshooting.length + 2046 ∧
      (Ipv6Header.ofBytes? (overshooting ++ [7])).bind Ipv6Header.extensions =
        some ⟨2048, 6, none⟩ ∧
      (∃ capture, ofEthernet? bare = some capture ∧ capture.transportOffset = some 34 ∧
        capture.networkOffset + 20 = 34 ∧ bare.length = 34 ∧
        capture.packet.transport = some []) := by
  obtain ⟨walks, located⟩ := walks_in_bounds
  have ended : (extensions overshooting).outcome = some ⟨6, 2088, none⟩ := by decide +kernel
  have found : ofEthernet? bare = some (locate bare 14) := by decide +kernel
  have offset : (locate bare 14).transportOffset = some 34 := by decide +kernel
  obtain ⟨_, _, transport⟩ := located bare _ (.inr found) 34 offset
  have appended := (walks overshooting).appended _ ended [7]
  exact ⟨ended, rfl, appended, _, found, offset, rfl, rfl, transport⟩

end Capture

end PacketFilter
