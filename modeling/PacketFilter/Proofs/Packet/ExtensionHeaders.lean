import Mathlib.Algebra.Ring.Nat
import PacketFilter.Packet.Extension

/-!
Extension headers as they lie in a datagram, apart from the way in which they are followed. A
chain of whole headers is followed to the protocol that its last header names, and a chain that
was followed without passing the end of the bytes consists of whole headers.
-/

namespace PacketFilter

/-- The bytes of an extension header, with the protocol number that announces it. -/
structure ExtensionHeader where
  protocol : Nat
  bytes : Bytes
  deriving DecidableEq, Repr

namespace ExtensionHeader

def next (header : ExtensionHeader) : Nat :=
  header.bytes.field 0 1

/-- The header has exactly the bytes that its kind and its second byte ask for. -/
inductive IsWhole (header : ExtensionHeader) : Prop where
  | options : header.protocol ∈ [0, 43, 60] →
      header.bytes.length = (header.bytes.field 1 1 + 1) * 8 → IsWhole header
  | authentication : header.protocol = 51 →
      header.bytes.length = (header.bytes.field 1 1 + 2) * 4 → IsWhole header
  | fragment : header.protocol = 44 → header.bytes.length = 8 → IsWhole header

def isFragment (header : ExtensionHeader) : Bool :=
  header.protocol == 44

/-- The place that a fragment header gives, which is read from its third and fourth byte. -/
def place (header : ExtensionHeader) : Fragment :=
  ⟨header.bytes.field 2 2 / 8, header.bytes.field 2 2 % 2 == 1⟩

def fragment? (header : ExtensionHeader) : Option Fragment :=
  if header.isFragment then some header.place else none

/-- Whole headers, each announced by the one before it, of which the last announces a protocol
that is no extension. -/
inductive Leads : Nat → List ExtensionHeader → Nat → Prop where
  | nil {upper : Nat} : upper ∉ [0, 43, 44, 51, 60] → Leads upper [] upper
  | cons {header : ExtensionHeader} {headers : List ExtensionHeader} {upper : Nat} :
      header.IsWhole → Leads header.next headers upper →
      Leads header.protocol (header :: headers) upper

def totalLength (headers : List ExtensionHeader) : Nat :=
  (headers.map fun header => header.bytes.length).sum

def lastFragment? (headers : List ExtensionHeader) : Option Fragment :=
  ((headers.filter isFragment).getLast?).map place

@[simp]
theorem lastFragment?_cons (header : ExtensionHeader) (headers : List ExtensionHeader) :
    lastFragment? (header :: headers) = (lastFragment? headers).or header.fragment? := by
  unfold lastFragment? fragment?
  rw [List.filter_cons]
  split
  · rw [List.getLast?_cons]
    cases (headers.filter isFragment).getLast? <;> rfl
  · simp

@[simp]
theorem totalLength_cons (header : ExtensionHeader) (headers : List ExtensionHeader) :
    totalLength (header :: headers) = header.bytes.length + totalLength headers := by
  simp [totalLength]

theorem length_flatMap_bytes (headers : List ExtensionHeader) :
    (headers.flatMap bytes).length = totalLength headers := by
  simp [totalLength, List.length_flatMap]

end ExtensionHeader

namespace Bytes

theorem field_one {bytes : Bytes} {place : Nat} {byte : UInt8} (found : bytes[place]? = some byte) :
    field bytes place 1 = byte.toNat := by
  obtain ⟨inside, rfl⟩ := List.getElem?_eq_some_iff.1 found
  rw [field, List.drop_eq_getElem_cons inside, List.take_succ_cons, List.take_zero]
  simp [Positional.value]

@[simp]
theorem field_zero_one (first : UInt8) (rest : Bytes) : field (first :: rest) 0 1 = first.toNat :=
  field_one rfl

@[simp]
theorem field_one_one (first second : UInt8) (rest : Bytes) :
    field (first :: second :: rest) 1 1 = second.toNat :=
  field_one rfl

@[simp]
theorem field_two_two (first second third fourth : UInt8) (rest : Bytes) :
    field (first :: second :: third :: fourth :: rest) 2 2 =
      third.toNat * 256 + fourth.toNat := by
  simp [field, Positional.value]

end Bytes

namespace ExtensionHeader

theorem exists_eq_cons_cons (bytes : Bytes) (long : 2 ≤ bytes.length) :
    ∃ first second rest, bytes = first :: second :: rest := by
  match bytes, long with
  | first :: second :: rest, _ => exact ⟨first, second, rest, rfl⟩

/-- A whole header is read as what it tells, whatever bytes follow. -/
theorem IsWhole.read? {header : ExtensionHeader} (whole : header.IsWhole) (rest : Bytes) :
    ∃ kind, ExtensionKind.ofProtocol? header.protocol = some kind ∧
      Extension.read? kind (header.bytes ++ rest) =
        some ⟨header.next, header.bytes.length, header.fragment?⟩ := by
  obtain ⟨protocol, bytes⟩ := header
  cases whole with
  | options announced long =>
      have noFragment : protocol ≠ 44 := by
        rintro rfl
        contradiction
      dsimp only at announced long
      obtain ⟨first, units, body, rfl⟩ := exists_eq_cons_cons bytes (by omega)
      refine ⟨.options, ?_, ?_⟩
      · simp only [List.mem_cons, List.not_mem_nil, or_false] at announced
        rcases announced with rfl | rfl | rfl <;> rfl
      · simp_all [Extension.read?, fragment?, isFragment, next]
  | authentication announced long =>
      cases announced
      dsimp only at long
      obtain ⟨first, words, body, rfl⟩ := exists_eq_cons_cons bytes (by omega)
      refine ⟨.authentication, rfl, ?_⟩
      simp_all [Extension.read?, fragment?, isFragment, next]
  | fragment announced long =>
      cases announced
      match bytes, long with
      | [_, _, _, _, _, _, _, _], _ =>
          exact ⟨.fragment, rfl, by simp [Extension.read?, fragment?, isFragment, place, next]⟩

theorem isWhole_of_read? {protocol : Nat} {kind : ExtensionKind} {bytes : Bytes}
    {extension : Extension} (named : ExtensionKind.ofProtocol? protocol = some kind)
    (found : Extension.read? kind bytes = some extension)
    (inside : extension.length ≤ bytes.length) :
    ∃ header : ExtensionHeader, header.protocol = protocol ∧ header.IsWhole ∧
      header.bytes = bytes.take extension.length ∧ header.next = extension.next ∧
      header.fragment? = extension.fragment := by
  refine ⟨⟨protocol, bytes.take extension.length⟩, rfl, ?_⟩
  -- The reader has a case for options, for authentication and for fragments, and fails otherwise.
  unfold Extension.read? at found
  split at found
  case h_1 first units rest =>
    cases found
    have announced : protocol ∈ [0, 43, 60] := by
      unfold ExtensionKind.ofProtocol? at named
      split at named <;> simp_all
    have noFragment : protocol ≠ 44 := by
      rintro rfl
      contradiction
    have taken : (first :: units :: rest).take ((units.toNat + 1) * 8) =
        first :: units :: rest.take ((units.toNat + 1) * 8 - 2) := by
      rw [List.take_cons (by omega), List.take_cons (by omega)]
      rfl
    refine ⟨.options announced ?_, rfl, ?_, ?_⟩
    · rw [List.length_take_of_le inside, taken, Bytes.field_one_one]
    · rw [next, taken, Bytes.field_zero_one]
    · simp [fragment?, isFragment, noFragment]
  case h_2 first words rest =>
    cases found
    obtain rfl : protocol = 51 := by
      unfold ExtensionKind.ofProtocol? at named
      split at named <;> simp_all
    have taken : (first :: words :: rest).take ((words.toNat + 2) * 4) =
        first :: words :: rest.take ((words.toNat + 2) * 4 - 2) := by
      rw [List.take_cons (by omega), List.take_cons (by omega)]
      rfl
    refine ⟨.authentication rfl ?_, rfl, ?_, rfl⟩
    · rw [List.length_take_of_le inside, taken, Bytes.field_one_one]
    · rw [next, taken, Bytes.field_zero_one]
  case h_3 =>
    cases found
    obtain rfl : protocol = 44 := by
      unfold ExtensionKind.ofProtocol? at named
      split at named <;> simp_all
    refine ⟨.fragment rfl rfl, rfl, ?_, ?_⟩
    · simp [next]
    · simp [fragment?, isFragment, place]
  case h_4 => contradiction

theorem ofProtocol?_eq_none_iff {protocol : Nat} :
    ExtensionKind.ofProtocol? protocol = none ↔ protocol ∉ [0, 43, 44, 51, 60] := by
  unfold ExtensionKind.ofProtocol?
  split <;> simp_all

/-- A header that is read is followed by what its successor leads to. -/
theorem follow_of_read? {protocol : Nat} {kind : ExtensionKind} {bytes : Bytes}
    {extension : Extension} (named : ExtensionKind.ofProtocol? protocol = some kind)
    (found : Extension.read? kind bytes = some extension) :
    ExtensionChain.follow protocol bytes =
      (ExtensionChain.follow extension.next (bytes.drop extension.length)).map
        (ExtensionChain.behind extension) := by
  rw [ExtensionChain.follow, named]
  dsimp only
  split
  · simp_all
  · rename_i read again
    rw [Option.some.inj (found.symm.trans again)]

theorem IsWhole.follow {header : ExtensionHeader} (whole : header.IsWhole) (rest : Bytes) :
    ExtensionChain.follow header.protocol (header.bytes ++ rest) =
      (ExtensionChain.follow header.next rest).map
        (ExtensionChain.behind ⟨header.next, header.bytes.length, header.fragment?⟩) := by
  obtain ⟨kind, named, found⟩ := whole.read? rest
  rw [follow_of_read? named found, List.drop_left]

theorem follow_of_unannounced {protocol : Nat} (bytes : Bytes)
    (unannounced : protocol ∉ [0, 43, 44, 51, 60]) :
    ExtensionChain.follow protocol bytes = some ⟨0, protocol, none⟩ := by
  rw [ExtensionChain.follow, ofProtocol?_eq_none_iff.2 unannounced]

/-- Whole headers are followed to their end, whatever payload stands there. -/
theorem Leads.follow {protocol upper : Nat} {headers : List ExtensionHeader}
    (leads : Leads protocol headers upper) (payload : Bytes) :
    ExtensionChain.follow protocol (headers.flatMap bytes ++ payload) =
      some ⟨totalLength headers, upper, lastFragment? headers⟩ := by
  induction leads with
  | nil unannounced => exact follow_of_unannounced _ unannounced
  | cons whole _ inductionHypothesis =>
      rw [List.flatMap_cons, List.append_assoc, whole.follow, inductionHypothesis]
      simp [ExtensionChain.behind]

/-- A chain that was followed within the bytes consists of whole headers. -/
theorem leads_of_follow {protocol : Nat} {bytes : Bytes} {chain : ExtensionChain}
    (followed : ExtensionChain.follow protocol bytes = some chain)
    (inside : chain.length ≤ bytes.length) :
    ∃ headers payload, Leads protocol headers chain.protocol ∧
      bytes = headers.flatMap ExtensionHeader.bytes ++ payload ∧
      chain.length = totalLength headers ∧ chain.fragment = lastFragment? headers := by
  fun_induction ExtensionChain.follow protocol bytes generalizing chain with
  | case1 protocol bytes unnamed =>
      cases followed
      exact ⟨[], bytes, .nil (ofProtocol?_eq_none_iff.1 unnamed), rfl, rfl, rfl⟩
  | case2 => contradiction
  | case3 protocol bytes kind named extension found inductionHypothesis =>
      obtain ⟨rest, followedRest, rfl⟩ := Option.map_eq_some_iff.1 followed
      have within : extension.length + rest.length ≤ bytes.length := inside
      obtain ⟨header, rfl, whole, taken, next, fragment⟩ :=
        isWhole_of_read? named found (by omega)
      obtain ⟨headers, payload, leads, split, length, last⟩ :=
        inductionHypothesis followedRest (by rw [List.length_drop]; omega)
      have size : header.bytes.length = extension.length := by
        rw [taken, List.length_take_of_le (by omega)]
      refine ⟨header :: headers, payload, .cons whole (next ▸ leads), ?_, ?_, ?_⟩
      · rw [List.flatMap_cons, List.append_assoc, ← split, taken, List.take_append_drop]
      · rw [totalLength_cons, size, ← length]
        rfl
      · rw [lastFragment?_cons, fragment, ← last]
        rfl

end ExtensionHeader

end PacketFilter
