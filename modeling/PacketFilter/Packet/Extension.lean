import PacketFilter.Packet.Bytes

/-!
The extension headers of version 6. Each names the kind of the header behind it and tells its own
length, so the chain is followed from header to header until a protocol that is no extension is
named. A chain that is cut short leads nowhere.
-/

namespace PacketFilter

structure Fragment where
  /-- In units of eight bytes. -/
  offset : Nat
  more : Bool
  deriving DecidableEq, Repr

/-- A datagram that is whole may still carry a fragment header, with nothing before or after. -/
def Fragment.isPartial (fragment : Fragment) : Bool :=
  fragment.offset != 0 || fragment.more

inductive ExtensionKind where
  /-- Hop-by-hop options, destination options and routing. -/
  | options
  | fragment
  | authentication
  deriving DecidableEq, Repr

def ExtensionKind.ofProtocol? : Nat → Option ExtensionKind
  | 0 => some .options
  | 43 => some .options
  | 44 => some .fragment
  | 51 => some .authentication
  | 60 => some .options
  | _ => none

/-- What an extension header tells: the protocol behind it, its length in bytes, and the place of
the fragment if it gives one. -/
structure Extension where
  next : Nat
  length : Nat
  fragment : Option Fragment
  deriving DecidableEq, Repr

namespace Extension

/-- Reads the extension header in front. Options tell their length in units of eight bytes beyond
the first, authentication in words of four bytes less two. A fragment header has to be whole. -/
def read? : ExtensionKind → Bytes → Option Extension
  | .options, next :: units :: _ => some ⟨next.toNat, (units.toNat + 1) * 8, none⟩
  | .authentication, next :: words :: _ => some ⟨next.toNat, (words.toNat + 2) * 4, none⟩
  | .fragment, next :: _ :: high :: low :: _ :: _ :: _ :: _ :: _ =>
      let place := high.toNat * 256 + low.toNat
      some ⟨next.toNat, 8, some ⟨place / 8, place % 2 == 1⟩⟩
  | _, _ => none

theorem length_of_read? {kind : ExtensionKind} {bytes : Bytes} {extension : Extension}
    (found : read? kind bytes = some extension) :
    8 ≤ extension.length ∧ 0 < bytes.length := by
  unfold read? at found
  split at found
  all_goals first
    | contradiction
    | (obtain rfl := Option.some.inj found
       constructor
       · simp; try omega
       · simp)

end Extension

structure ExtensionChain where
  /-- The bytes that the extension headers take, by what they tell. -/
  length : Nat
  /-- The first protocol named that is no extension. -/
  protocol : Nat
  /-- What the last fragment header tells. -/
  fragment : Option Fragment
  deriving DecidableEq, Repr

namespace ExtensionChain

def behind (extension : Extension) (chain : ExtensionChain) : ExtensionChain :=
  ⟨extension.length + chain.length, chain.protocol, chain.fragment.or extension.fragment⟩

def follow (protocol : Nat) (bytes : Bytes) : Option ExtensionChain :=
  match ExtensionKind.ofProtocol? protocol with
  | none => some ⟨0, protocol, none⟩
  | some kind =>
      match _found : Extension.read? kind bytes with
      | none => none
      | some extension =>
          (follow extension.next (bytes.drop extension.length)).map (behind extension)
  termination_by bytes.length
  decreasing_by
    have bounds := Extension.length_of_read? _found
    simp only [List.length_drop]
    omega

end ExtensionChain

end PacketFilter
