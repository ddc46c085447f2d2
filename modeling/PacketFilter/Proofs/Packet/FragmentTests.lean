import PacketFilter.Proofs.Packet.Fragments

/-!
Which packets are told to be fragments. A header of version 4 tells it by itself. For version 6 the
extension headers are followed first, and it is the last fragment header among them that tells it,
and only if the headers behind it are followed to their end.
-/

namespace PacketFilter

namespace Extension

variable {kind : ExtensionKind} {bytes more : Bytes} {extension : Extension}

theorem read?_append (found : read? kind bytes = some extension) (more : Bytes) :
    read? kind (bytes ++ more) = some extension := by
  unfold read? at found
  split at found
  · exact found
  · exact found
  · exact found
  · contradiction

theorem read?_of_append (found : read? kind (bytes ++ more) = some extension)
    (plain : extension.fragment = none) (long : 2 ≤ bytes.length) :
    read? kind bytes = some extension := by
  obtain ⟨first, second, rest, rfl⟩ := ExtensionHeader.exists_eq_cons_cons bytes long
  cases kind with
  | options => exact found
  | authentication => exact found
  | fragment =>
      unfold read? at found
      split at found
      · contradiction
      · contradiction
      · cases found
        contradiction
      · contradiction

theorem two_le_of_read? (found : read? kind bytes = some extension) : 2 ≤ bytes.length := by
  unfold read? at found
  split at found
  · simp
  · simp
  · simp
  · contradiction

end Extension

namespace ExtensionHeader

variable {header part : ExtensionHeader} {protocol : Nat} {bytes rest : Bytes}

/-- From the header that the protocol number announces, the extension headers are followed to their
end. The last of them may pass the end of the bytes, if it is no fragment header. -/
inductive Ends : Nat → Bytes → Prop where
  | here {protocol : Nat} {bytes : Bytes} : protocol ∉ [0, 43, 44, 51, 60] → Ends protocol bytes
  | behind {header : ExtensionHeader} {bytes : Bytes} : header.IsWhole →
      Ends header.next bytes → Ends header.protocol (header.bytes ++ bytes)
  | within {header : ExtensionHeader} {bytes missing : Bytes} : header.IsWhole →
      header.isFragment = false → header.bytes = bytes ++ missing → 2 ≤ bytes.length →
      header.next ∉ [0, 43, 44, 51, 60] → Ends header.protocol bytes

theorem isFragment_eq_false_of_fragment? (absent : header.fragment? = none) :
    header.isFragment = false := by
  unfold fragment? at absent
  split at absent
  · contradiction
  · rename_i plain
    exact Bool.eq_false_iff.2 plain

theorem Ends.two_le_length (ends : Ends protocol bytes)
    (announced : protocol ∈ [0, 43, 44, 51, 60]) : 2 ≤ bytes.length := by
  cases ends with
  | here unannounced => exact absurd announced unannounced
  | behind whole =>
      have long := whole.le_length
      rw [List.length_append]
      omega
  | within _ _ _ long => exact long

theorem Ends.of_follow {chain : ExtensionChain}
    (followed : ExtensionChain.follow protocol bytes = some chain) : Ends protocol bytes := by
  fun_induction ExtensionChain.follow protocol bytes generalizing chain with
  | case1 protocol bytes unnamed => exact .here (ofProtocol?_eq_none_iff.1 unnamed)
  | case2 => contradiction
  | case3 protocol bytes kind named extension found inductionHypothesis =>
      obtain ⟨rest, followedRest, _⟩ := Option.map_eq_some_iff.1 followed
      have ends := inductionHypothesis followedRest
      by_cases inside : extension.length ≤ bytes.length
      · obtain ⟨header, rfl, whole, taken, next, _⟩ := isWhole_of_read? named found inside
        have endsBehind := Ends.behind whole (next ▸ ends)
        rw [taken, List.take_append_drop] at endsBehind
        exact endsBehind
      · -- The header is whole with the bytes that are missing, whatever they are.
        have passes : bytes.length < extension.length := Nat.lt_of_not_le inside
        let missing : Bytes := List.replicate (extension.length - bytes.length) 0
        have length : (bytes ++ missing).length = extension.length := by
          simp only [missing, List.length_append, List.length_replicate]
          omega
        obtain ⟨header, rfl, whole, taken, next, fragment⟩ :=
          isWhole_of_read? named (Extension.read?_append found missing) (Nat.le_of_eq length.symm)
        rw [List.take_of_length_le (Nat.le_of_eq length)] at taken
        rw [List.drop_eq_nil_of_le (Nat.le_of_lt passes), ← next] at ends
        refine .within whole ?_ taken (Extension.two_le_of_read? found) ?_
        · apply isFragment_eq_false_of_fragment?
          rw [fragment]
          by_contra told
          obtain ⟨place, told⟩ := Option.ne_none_iff_exists'.1 told
          exact inside (Extension.length_le_of_fragment found told)
        · intro announced
          exact absurd (ends.two_le_length announced) (by decide)

theorem Ends.exists_follow (ends : Ends protocol bytes) :
    ∃ chain, ExtensionChain.follow protocol bytes = some chain := by
  induction ends with
  | here unannounced => exact ⟨_, follow_of_unannounced _ unannounced⟩
  | behind whole _ inductionHypothesis =>
      obtain ⟨chain, followed⟩ := inductionHypothesis
      rw [whole.follow, followed]
      exact ⟨_, rfl⟩
  | @within header bytes missing whole plain cut long unannounced =>
      obtain ⟨kind, named, found⟩ := whole.read? []
      rw [List.append_nil, cut] at found
      have told : header.fragment? = none := by simp [fragment?, plain]
      rw [follow_of_read? named (Extension.read?_of_append found told long),
        follow_of_unannounced _ unannounced]
      exact ⟨_, rfl⟩

namespace Meets

variable {other : ExtensionHeader} {more : Bytes}

theorem trans (meets : Meets protocol bytes part rest) (behind : Meets part.next rest other more) :
    Meets protocol bytes other more := by
  induction meets with
  | here whole => exact .behind whole behind
  | behind whole _ inductionHypothesis => exact .behind whole (inductionHypothesis behind)

theorem length_lt (meets : Meets protocol bytes part rest) : rest.length < bytes.length := by
  induction meets with
  | here whole =>
      have long := whole.le_length
      rw [List.length_append]
      omega
  | behind whole _ inductionHypothesis =>
      rw [List.length_append]
      omega

/-- If a fragment header is met at all, one of them is the last. -/
theorem exists_last (meets : Meets protocol bytes part rest) :
    ∃ last behind, Meets protocol bytes last behind ∧
      ∀ other more, ¬ Meets last.next behind other more := by
  induction size : rest.length using Nat.strongRecOn generalizing part rest with
  | ind size inductionHypothesis =>
      by_cases further : ∃ other more, Meets part.next rest other more
      · obtain ⟨other, more, behind⟩ := further
        exact inductionHypothesis more.length (size ▸ behind.length_lt) (meets.trans behind) rfl
      · exact ⟨part, rest, meets, fun other more behind => further ⟨other, more, behind⟩⟩

/-- The last fragment header that is met gives the place, if the chain has an end. -/
theorem fragment_follow_of_last (meets : Meets protocol bytes part rest)
    (last : ∀ other more, ¬ Meets part.next rest other more) :
    (ExtensionChain.follow protocol bytes).map ExtensionChain.fragment =
      (ExtensionChain.follow part.next rest).map fun _ => some part.place := by
  rw [meets.fragment_follow]
  cases followed : ExtensionChain.follow part.next rest with
  | none => rfl
  | some tail =>
      cases told : tail.fragment with
      | none => simp [told]
      | some place =>
          obtain ⟨other, more, behind, _⟩ := exists_of_follow followed told
          exact absurd behind (last other more)

end Meets

/-- The bytes are told to be a part of a larger payload by the last fragment header that is met on
the way, behind which the extension headers are followed to their end. -/
def TellsFragment (protocol : Nat) (bytes : Bytes) : Prop :=
  ∃ part rest, Meets protocol bytes part rest ∧
    (part.place.offset ≠ 0 ∨ part.place.more = true) ∧
    (∀ other more, ¬ Meets part.next rest other more) ∧ Ends part.next rest

/-- A chain gives a place that is a part of a larger payload exactly if the last fragment header
tells so. -/
theorem tellsFragment_iff : TellsFragment protocol bytes ↔
    ∃ chain, ExtensionChain.follow protocol bytes = some chain ∧
      ∃ fragment ∈ chain.fragment, fragment.offset ≠ 0 ∨ fragment.more = true := by
  constructor
  · rintro ⟨part, rest, meets, isPart, last, ends⟩
    obtain ⟨tail, followedTail⟩ := ends.exists_follow
    have told := meets.fragment_follow_of_last last
    rw [followedTail] at told
    obtain ⟨chain, followed, place⟩ := Option.map_eq_some_iff.1 told
    exact ⟨chain, followed, part.place, place, isPart⟩
  · rintro ⟨chain, followed, fragment, told, isPart⟩
    obtain ⟨part, rest, meets, _⟩ := Meets.exists_of_follow followed told
    obtain ⟨last, behind, meetsLast, noMore⟩ := meets.exists_last
    have places := meetsLast.fragment_follow_of_last noMore
    rw [followed] at places
    obtain ⟨tail, followedTail, place⟩ := Option.map_eq_some_iff.1 places.symm
    obtain rfl : last.place = fragment := Option.some.inj (place.trans told)
    exact ⟨last, behind, meetsLast, isPart, noMore, .of_follow followedTail⟩

end ExtensionHeader

namespace IpHeader

/-- The upper three bits of the place are flags, of which the last one announces more fragments. -/
theorem isFragment_v4_iff {bytes : Bytes} {header : Ipv4Header}
    (found : Ipv4Header.ofBytes? bytes = some header) :
    (v4 header).isFragment = true ↔
      bytes.field 6 2 / 8192 % 2 = 1 ∨ bytes.field 6 2 % 8192 ≠ 0 := by
  unfold Ipv4Header.ofBytes? at found
  split at found
  · contradiction
  · cases found
    simp [isFragment, fragment?, Fragment.isPartial, Nat.testBit_eq_decide_div_mod_eq, or_comm]

theorem isFragment_v6_iff {bytes : Bytes} {header : Ipv6Header}
    (found : Ipv6Header.ofBytes? bytes = some header) :
    (v6 header).isFragment = true ↔
      ExtensionHeader.TellsFragment (bytes.field 6 1) (bytes.drop 40) := by
  rw [ExtensionHeader.tellsFragment_iff, ← header.extensions_eq found]
  cases followed : header.extensions with
  | none => simp [isFragment, fragment?, followed]
  | some chain => simp [isFragment_of_extensions followed]

end IpHeader

namespace Predicate

/-- A packet of version 4 is a fragment if its header says so. One of version 6 is a fragment if the
last fragment header on the way to the payload says so. Every packet with a network header is
either a fragment or not. -/
theorem fragment_holds_iff (packet : Packet) (comparison : Comparison) :
    (packet.HasVersion4 → (fragment.holds comparison packet = true ↔
      packet.network.field 6 2 / 8192 % 2 = 1 ∨ packet.network.field 6 2 % 8192 ≠ 0)) ∧
    (packet.HasVersion6 → (fragment.holds comparison packet = true ↔
      ExtensionHeader.TellsFragment (packet.network.field 6 1) (packet.network.drop 40))) ∧
    (packet.HasVersion4 ∨ packet.HasVersion6 →
      unfragmented.holds comparison packet = !fragment.holds comparison packet) := by
  refine ⟨?_, ?_, ?_⟩
  · intro version
    obtain ⟨header, found⟩ := Packet.hasVersion4_iff.1 version
    rw [holds, found]
    exact IpHeader.isFragment_v4_iff (IpHeader.ofBytes?_eq_v4_iff.1 found).2
  · intro version
    obtain ⟨header, found⟩ := Packet.hasVersion6_iff.1 version
    rw [holds, found]
    exact IpHeader.isFragment_v6_iff (IpHeader.ofBytes?_eq_v6_iff.1 found).2
  · intro version
    obtain ⟨header, found⟩ := Packet.hasVersion_iff.1 version
    rw [holds, holds, found]
    rfl

end Predicate

namespace Capture

theorem fragment_holds_iff_of_last :
    (ofIp (twiceFragmented 0 8).bytes).packet.HasVersion6 ∧
      Predicate.fragment.holds .eq (ofIp (twiceFragmented 0 8).bytes).packet = true ∧
      Predicate.unfragmented.holds .eq (ofIp (twiceFragmented 0 8).bytes).packet = false := by
  have version : (ofIp (twiceFragmented 0 8).bytes).packet.HasVersion6 := by
    constructor <;> decide
  obtain ⟨_, told, complement⟩ :=
    Predicate.fragment_holds_iff (ofIp (twiceFragmented 0 8).bytes).packet .eq
  have holds := (told version).2 ?_
  · exact ⟨version, holds, (complement (.inr version)).trans (congrArg not holds)⟩
  · have network : (ofIp (twiceFragmented 0 8).bytes).packet.network =
        (twiceFragmented 0 8).bytes := network_ofIp _
    rw [network]
    refine ⟨_, _, meets_inner 0 8, .inl (by decide), ?_, ?_⟩
    · intro other more meets
      have announced := meets.announced
      rw [next_fragmentHeader] at announced
      exact absurd announced (by decide)
    · rw [next_fragmentHeader]
      exact .here (by decide)

/-- A datagram that ends behind a fragment header, though another header is announced. -/
def cutBehindFragment : Bytes :=
  [0x60, 0, 0, 0, 0, 8, 44, 64] ++ List.replicate 32 1 ++ (fragmentHeader 60 8).bytes

/-- What a fragment header tells is forgotten when a later one tells otherwise, and when the headers
behind it are cut short. -/
theorem fragment_forgotten :
    (∃ rest, ExtensionHeader.Meets (Bytes.field (twiceFragmented 1 0).bytes 6 1)
        ((twiceFragmented 1 0).bytes.drop 40) (fragmentHeader 44 1) rest) ∧
      (fragmentHeader 44 1).place.more = true ∧
      (ofIp (twiceFragmented 1 0).bytes).packet.HasVersion6 ∧
      (Test.bind .fragment none false).passes (ofIp (twiceFragmented 1 0).bytes).packet = false ∧
      (Test.bind .unfragmented none false).passes
        (ofIp (twiceFragmented 1 0).bytes).packet = true ∧
      ExtensionHeader.Meets (Bytes.field cutBehindFragment 6 1) (cutBehindFragment.drop 40)
        (fragmentHeader 60 8) [] ∧
      (fragmentHeader 60 8).place.offset = 1 ∧
      (ofIp cutBehindFragment).packet.HasVersion6 ∧
      (Test.bind .fragment none false).passes (ofIp cutBehindFragment).packet = false ∧
      (Test.bind .unfragmented none false).passes (ofIp cutBehindFragment).packet = true := by
  refine ⟨⟨_, meets_outer 1 0⟩, by decide, ?_, ?_, ?_, ?_, by decide, ?_, ?_, ?_⟩
  · constructor <;> decide
  · decide +kernel
  · decide +kernel
  · exact .here (isWhole_fragmentHeader 60 8) rfl
  · constructor <;> decide
  · decide +kernel
  · decide +kernel

end Capture

end PacketFilter
