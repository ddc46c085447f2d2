import PacketFilter.Proofs.Packet.Ipv6Transport

/-!
Datagrams in frames. The Ethernet types in front tell whether a frame carries a datagram and where
it starts. What is found in the frame is what is found in the bytes of the datagram alone, at places
that are counted from the start of the frame.
-/

namespace PacketFilter

/-- Two packets look the same from the network header on. -/
structure Packet.SameViews (first second : Packet) : Prop where
  network : first.network = second.network
  transport : first.transport = second.transport
  protocol : first.protocol = second.protocol

namespace Capture

/-- The frame tells by its Ethernet types that a datagram starts at an offset. -/
inductive Carries (frame : Bytes) : Nat → Prop where
  | untagged : 14 ≤ frame.length → frame.field 12 2 ∈ [0x0800, 0x86DD] → Carries frame 14
  | tagged : 18 ≤ frame.length → frame.field 12 2 = 0x8100 →
      frame.field 16 2 ∈ [0x0800, 0x86DD] → Carries frame 18

variable {data frame : Bytes} {offset : Nat}

theorem Carries.le_length (carries : Carries frame offset) : offset ≤ frame.length := by
  cases carries with
  | untagged long | tagged long => exact long

theorem isIpType_iff {type : Nat} : isIpType type = true ↔ type ∈ [0x0800, 0x86DD] := by
  simp [isIpType]

theorem ofEthernet?_eq_some_iff {capture : Capture} :
    ofEthernet? frame = some capture ↔
      ∃ offset, Carries frame offset ∧ capture = locate frame offset := by
  constructor
  · intro found
    unfold ofEthernet? at found
    split at found
    · contradiction
    · rename_i long
      split at found
      · rename_i tag
        split at found
        · contradiction
        · rename_i longer
          split at found
          · rename_i type
            cases found
            exact ⟨18, .tagged (Nat.not_lt.1 longer) tag (isIpType_iff.1 type), rfl⟩
          · contradiction
      · split at found
        · rename_i type
          cases found
          exact ⟨14, .untagged (Nat.not_lt.1 long) (isIpType_iff.1 type), rfl⟩
        · contradiction
  · rintro ⟨offset, carries, rfl⟩
    unfold ofEthernet?
    cases carries with
    | untagged long type =>
        have noTag : frame.field 12 2 ≠ tagType := by
          intro tag
          rw [tag] at type
          contradiction
        have header : ¬ frame.length < ethernetSize := Nat.not_lt.2 long
        rw [if_neg header, if_neg noTag, if_pos (isIpType_iff.2 type)]
        rfl
    | tagged long tag type =>
        have header : ¬ frame.length < ethernetSize := Nat.not_lt.2 (Nat.le_trans (by decide) long)
        have whole : ¬ frame.length < ethernetSize + tagSize := Nat.not_lt.2 long
        rw [if_neg header, if_pos (show frame.field 12 2 = tagType from tag), if_neg whole,
          if_pos (isIpType_iff.2 type)]
        rfl

theorem isSome_ofEthernet?_iff :
    (∃ capture, ofEthernet? frame = some capture) ↔ ∃ offset, Carries frame offset := by
  simp only [ofEthernet?_eq_some_iff]
  constructor
  · rintro ⟨_, offset, carries, _⟩
    exact ⟨offset, carries⟩
  · rintro ⟨offset, carries⟩
    exact ⟨_, offset, carries, rfl⟩

theorem network_locate (inside : offset ≤ data.length) :
    (locate data offset).network = data.drop offset := by
  simp [network, locate, Bytes.from?, inside]

/-- The place of the transport header is counted from the start of the data, and it is within the
data exactly if it is within the datagram. -/
theorem transportOffset_locate (inside : offset ≤ data.length) :
    (locate data offset).transportOffset =
      (ofIp (data.drop offset)).transportOffset.map (offset + ·) := by
  have found : data.from? offset = some (data.drop offset) := if_pos inside
  have foundAlone : Bytes.from? (data.drop offset) 0 = some (data.drop offset) := by
    simp [Bytes.from?]
  simp only [ofIp, locate, found, foundAlone]
  cases (Option.bind (some (data.drop offset)) IpHeader.ofBytes?).bind
      IpHeader.transportOffset? with
  | none => rfl
  | some place =>
      have within : offset + place ≤ data.length ↔ place ≤ data.length - offset := by
        omega
      by_cases located : offset + place ≤ data.length
      · simp [Option.filter, located, within.1 located]
      · simp [Option.filter, located, Nat.lt_of_not_le (mt within.2 located)]

theorem from?_drop (inside : offset ≤ data.length) (place : Nat) :
    data.from? (offset + place) = Bytes.from? (data.drop offset) place := by
  have within : offset + place ≤ data.length ↔ place ≤ (data.drop offset).length := by
    rw [List.length_drop]
    omega
  unfold Bytes.from?
  rw [List.drop_drop]
  simp only [within]

theorem transport?_locate (inside : offset ≤ data.length) :
    (locate data offset).transport? = (ofIp (data.drop offset)).transport? := by
  rw [transport?, transport?, transportOffset_locate inside]
  cases (ofIp (data.drop offset)).transportOffset with
  | none => rfl
  | some place => exact from?_drop inside place

theorem protocol?_locate (inside : offset ≤ data.length) :
    (locate data offset).protocol? = (ofIp (data.drop offset)).protocol? := by
  rw [protocol?, protocol?, network_locate inside, network_ofIp]

theorem sameViews_locate (inside : offset ≤ data.length) :
    (locate data offset).packet.SameViews (ofIp (data.drop offset)).packet where
  network := (network_locate inside).trans (network_ofIp _).symm
  transport := transport?_locate inside
  protocol := protocol?_locate inside

end Capture

end PacketFilter
