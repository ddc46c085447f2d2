import PacketFilter.Proofs.Packet.Framing

/-!
The way through the extension headers by places in the bytes. At every turn the place is moved past
one more header before it is known to lie within the bytes, and a byte is looked at only where
there is one. The places of all bytes that are looked at are kept, so that it can be told on which
of them the outcome depends.
-/

namespace PacketFilter

/-- Looking at bytes: the places of those that were looked at, and what was found out unless a
byte was missing. -/
structure Inspection (finding : Type) where
  places : List Nat
  outcome : Option finding

namespace Inspection

variable {first second : Type}

instance : Monad Inspection where
  pure found := ⟨[], some found⟩
  bind look next :=
    match look.outcome with
    | none => ⟨look.places, none⟩
    | some found => ⟨look.places ++ (next found).places, (next found).outcome⟩

def byte (bytes : Bytes) (place : Nat) : Inspection UInt8 :=
  match bytes[place]? with
  | none => ⟨[], none⟩
  | some byte => ⟨[place], some byte⟩

/-- Looks at all bytes of a part, which has to be whole. -/
def part (bytes : Bytes) (place size : Nat) : Inspection Bytes :=
  if place + size ≤ bytes.length then
    ⟨List.range' place size, some ((bytes.drop place).take size)⟩
  else ⟨[], none⟩

@[simp]
theorem outcome_pure (found : first) : (pure found : Inspection first).outcome = some found := rfl

theorem bind_of_none {look : Inspection first} (missing : look.outcome = none)
    (next : first → Inspection second) : look >>= next = ⟨look.places, none⟩ := by
  simp [bind, missing]

theorem bind_of_some {look : Inspection first} {found : first} (present : look.outcome = some found)
    (next : first → Inspection second) :
    look >>= next = ⟨look.places ++ (next found).places, (next found).outcome⟩ := by
  simp [bind, present]

@[simp]
theorem outcome_bind (look : Inspection first) (next : first → Inspection second) :
    (look >>= next).outcome = look.outcome.bind fun found => (next found).outcome := by
  cases outcome : look.outcome with
  | none => rw [bind_of_none outcome, Option.bind_none]
  | some found => rw [bind_of_some outcome, Option.bind_some]

@[simp]
theorem outcome_byte (bytes : Bytes) (place : Nat) :
    (byte bytes place).outcome = bytes[place]? := by
  unfold byte
  cases bytes[place]? <;> rfl

/-- Bytes are looked at only where there are some, and whatever other bytes are the same at these
places, the same is found. -/
structure IsLocal (look : Bytes → Inspection first) : Prop where
  inside : ∀ bytes, ∀ place ∈ (look bytes).places, place < bytes.length
  same : ∀ bytes found, (look bytes).outcome = some found →
    ∀ other : Bytes, (∀ place ∈ (look bytes).places, other[place]? = bytes[place]?) →
      look other = look bytes

theorem isLocal_pure (found : first) : IsLocal fun _ => (pure found : Inspection first) :=
  ⟨fun _ _ member => by contradiction, fun _ _ _ _ _ => rfl⟩

theorem isLocal_byte (place : Nat) : IsLocal (byte · place) := by
  refine ⟨?_, ?_⟩
  · intro bytes other member
    unfold byte at member
    cases found : bytes[place]? with
    | none => simp [found] at member
    | some value =>
        simp only [found, List.mem_singleton] at member
        rw [member]
        exact (List.getElem?_eq_some_iff.1 found).1
  · intro bytes value found other agree
    have present : bytes[place]? = some value := by simpa using found
    have place : other[place]? = bytes[place]? := agree place (by simp [byte, present])
    simp [byte, place]

theorem isLocal_part (place : Nat) {size : Nat} (positive : 0 < size) :
    IsLocal (part · place size) := by
  refine ⟨?_, ?_⟩
  · intro bytes other member
    unfold part at member
    split at member
    · rw [List.mem_range'_1] at member
      omega
    · contradiction
  · intro bytes value found other agree
    unfold part at found agree ⊢
    split at found
    · rename_i inside
      simp only [if_pos inside, List.mem_range'_1] at agree
      have last := agree (place + (size - 1)) (by omega)
      have long : place + size ≤ other.length := by
        rw [List.getElem?_eq_getElem (by omega : place + (size - 1) < bytes.length)] at last
        have within := (List.getElem?_eq_some_iff.1 last).1
        omega
      rw [if_pos long, if_pos inside]
      congr 2
      refine List.ext_getElem? fun index => ?_
      rw [List.getElem?_take, List.getElem?_take]
      split
      · rw [List.getElem?_drop, List.getElem?_drop]
        exact agree (place + index) (by omega)
      · rfl
    · contradiction

theorem IsLocal.bind {look : Bytes → Inspection first} {next : first → Bytes → Inspection second}
    (front : IsLocal look) (behind : ∀ found, IsLocal (next found)) :
    IsLocal fun bytes => look bytes >>= fun found => next found bytes := by
  refine ⟨?_, ?_⟩
  · intro bytes place member
    cases outcome : (look bytes).outcome with
    | none =>
        rw [bind_of_none outcome] at member
        exact front.inside bytes place member
    | some found =>
        rw [bind_of_some outcome] at member
        rcases List.mem_append.1 member with member | member
        · exact front.inside bytes place member
        · exact (behind found).inside bytes place member
  · intro bytes result succeeds other agree
    rw [outcome_bind, Option.bind_eq_some_iff] at succeeds
    obtain ⟨found, outcome, result⟩ := succeeds
    rw [bind_of_some outcome] at agree
    obtain ⟨before, after⟩ := List.forall_mem_append.1 agree
    rw [front.same bytes found outcome other before, bind_of_some outcome, bind_of_some outcome,
      (behind found).same bytes _ result other after]

end Inspection

/-- Where a walk through the extension headers stands: the protocol that was named last, the place
of the header that it announces, and what the last fragment header told. -/
structure ExtensionStop where
  protocol : Nat
  offset : Nat
  fragment : Option Fragment
  deriving DecidableEq, Repr

namespace ExtensionStop

open Inspection

variable {bytes : Bytes} {kind : ExtensionKind} {here next stop : ExtensionStop} {count : Nat}

def chain (stop : ExtensionStop) : ExtensionChain :=
  ⟨stop.offset - 40, stop.protocol, stop.fragment⟩

def past (stop : ExtensionStop) (extension : Extension) : ExtensionStop :=
  ⟨extension.next, stop.offset + extension.length, extension.fragment.or stop.fragment⟩

/-- Looks at the header of a kind at a place: first at what tells its length and its meaning, then
at the protocol that it names. -/
def header (bytes : Bytes) (offset : Nat) : ExtensionKind → Inspection Extension
  | .options => do
      let units ← byte bytes (offset + 1)
      let next ← byte bytes offset
      return ⟨next.toNat, (units.toNat + 1) * 8, none⟩
  | .fragment => do
      let whole ← part bytes offset 8
      let next ← byte bytes offset
      let place := whole.field 2 2
      return ⟨next.toNat, 8, some ⟨place / 8, place % 2 == 1⟩⟩
  | .authentication => do
      let words ← byte bytes (offset + 1)
      let next ← byte bytes offset
      return ⟨next.toNat, (words.toNat + 2) * 4, none⟩

theorem isLocal_header (offset : Nat) (kind : ExtensionKind) :
    IsLocal (header · offset kind) := by
  cases kind with
  | options | authentication =>
      exact (isLocal_byte _).bind fun _ => (isLocal_byte _).bind fun _ => isLocal_pure _
  | fragment =>
      exact (isLocal_part _ (by decide)).bind fun _ => (isLocal_byte _).bind fun _ => isLocal_pure _

theorem outcome_header (bytes : Bytes) (offset : Nat) (kind : ExtensionKind) :
    (header bytes offset kind).outcome = Extension.read? kind (bytes.drop offset) := by
  have front : bytes[offset]? = (bytes.drop offset)[0]? := by rw [List.getElem?_drop, Nat.add_zero]
  have second : bytes[offset + 1]? = (bytes.drop offset)[1]? := by rw [List.getElem?_drop]
  have long : offset + 8 ≤ bytes.length ↔ 8 ≤ (bytes.drop offset).length := by
    rw [List.length_drop]
    omega
  cases kind with
  | options | authentication =>
      simp only [header, outcome_bind, outcome_byte, outcome_pure, front, second]
      match bytes.drop offset with
      | [] => rfl
      | [_] => rfl
      | _ :: _ :: _ => rfl
  | fragment =>
      simp only [header, outcome_bind, outcome_byte, outcome_pure, front, part, long]
      match bytes.drop offset with
      | next :: second :: high :: low :: fifth :: sixth :: seventh :: eighth :: rest =>
          simp [Extension.read?]
      | [] | [_] | [_, _] | [_, _, _] | [_, _, _, _] | [_, _, _, _, _] | [_, _, _, _, _, _]
      | [_, _, _, _, _, _, _] => simp [Extension.read?]

/-- One turn of the walk leads past one more header. -/
def Advances (bytes : Bytes) (here next : ExtensionStop) : Prop :=
  ∃ kind extension, ExtensionKind.ofProtocol? here.protocol = some kind ∧
    (header bytes here.offset kind).outcome = some extension ∧ next = here.past extension

/-- A turn starts within the bytes and takes at least the eight bytes of the smallest header. -/
theorem Advances.grows (advances : Advances bytes here next) :
    here.offset < bytes.length ∧ here.offset + 8 ≤ next.offset := by
  obtain ⟨kind, extension, _, found, rfl⟩ := advances
  rw [outcome_header] at found
  obtain ⟨long, positive⟩ := Extension.length_of_read? found
  rw [List.length_drop] at positive
  exact ⟨by omega, Nat.add_le_add_left long _⟩

/-- A header reaches past the end of its bytes by less than its greatest length: a fragment header
is whole, and of the others there are two bytes. -/
theorem length_le_of_read? {extension : Extension}
    (found : Extension.read? kind bytes = some extension) :
    extension.length ≤ bytes.length + 2046 := by
  unfold Extension.read? at found
  split at found
  · rename_i units rest
    cases found
    have byte := units.toNat_lt
    simp only [List.length_cons]
    omega
  · rename_i words rest
    cases found
    have byte := words.toNat_lt
    simp only [List.length_cons]
    omega
  · cases found
    simp
  · contradiction

theorem Advances.offset_le (advances : Advances bytes here next) :
    next.offset ≤ bytes.length + 2046 := by
  have inside := advances.grows.1
  obtain ⟨kind, extension, _, found, rfl⟩ := advances
  rw [outcome_header] at found
  have long := length_le_of_read? found
  rw [List.length_drop] at long
  simp only [past]
  omega

/-- The stops that a walk makes after a number of turns. -/
inductive Reaches (bytes : Bytes) (start : ExtensionStop) : Nat → ExtensionStop → Prop where
  | start : Reaches bytes start 0 start
  | turn {count : Nat} {here next : ExtensionStop} :
      Reaches bytes start count here → Advances bytes here next →
      Reaches bytes start (count + 1) next

variable {start : ExtensionStop}

theorem Reaches.offset_ge (reaches : Reaches bytes start count stop) :
    start.offset + 8 * count ≤ stop.offset := by
  induction reaches with
  | start => exact Nat.le_refl _
  | turn _ advances inductionHypothesis =>
      have grows := advances.grows.2
      omega

theorem Reaches.offset_le (reaches : Reaches bytes start count stop) :
    stop.offset ≤ max start.offset (bytes.length + 2046) := by
  cases reaches with
  | start => exact Nat.le_max_left ..
  | turn _ advances => exact Nat.le_trans advances.offset_le (Nat.le_max_right ..)

theorem Reaches.of_advances (advances : Advances bytes start next)
    (reaches : Reaches bytes next count stop) : Reaches bytes start (count + 1) stop := by
  induction reaches with
  | start => exact .turn .start advances
  | turn _ further inductionHypothesis => exact .turn inductionHypothesis further

/-- Walks from a stop on to the first protocol that is no extension. -/
def walk (bytes : Bytes) (stop : ExtensionStop) : Inspection ExtensionStop :=
  match _named : ExtensionKind.ofProtocol? stop.protocol with
  | none => pure stop
  | some kind =>
      match _found : (header bytes stop.offset kind).outcome with
      | none => ⟨(header bytes stop.offset kind).places, none⟩
      | some extension =>
          let behind := walk bytes (stop.past extension)
          ⟨(header bytes stop.offset kind).places ++ behind.places, behind.outcome⟩
  termination_by bytes.length - stop.offset
  decreasing_by
    have grows := Advances.grows ⟨kind, extension, _named, _found, rfl⟩
    omega

theorem walk_of_unnamed (unnamed : ExtensionKind.ofProtocol? stop.protocol = none)
    (bytes : Bytes) : walk bytes stop = pure stop := by
  rw [walk]
  split
  · rfl
  · simp_all

theorem walk_of_named (named : ExtensionKind.ofProtocol? stop.protocol = some kind)
    (bytes : Bytes) :
    walk bytes stop =
      header bytes stop.offset kind >>= fun extension => walk bytes (stop.past extension) := by
  rw [walk]
  split
  · simp_all
  · rename_i other again
    obtain rfl := Option.some.inj (named.symm.trans again)
    split
    · rename_i missing
      rw [bind_of_none missing]
    · rename_i found
      rw [bind_of_some found]

theorem reaches_of_walk (ended : (walk bytes start).outcome = some stop) :
    ∃ count, Reaches bytes start count stop ∧ ExtensionKind.ofProtocol? stop.protocol = none := by
  fun_induction walk bytes start with
  | case1 start unnamed =>
      cases ended
      exact ⟨0, .start, unnamed⟩
  | case2 => contradiction
  | case3 start kind named extension found behind inductionHypothesis =>
      obtain ⟨count, reaches, unnamed⟩ := inductionHypothesis ended
      exact ⟨count + 1, reaches.of_advances ⟨kind, extension, named, found, rfl⟩, unnamed⟩

/-- The walk finds what following the chain finds in the bytes from its start on. -/
theorem outcome_walk (bytes : Bytes) (stop : ExtensionStop) :
    (walk bytes stop).outcome =
      (ExtensionChain.follow stop.protocol (bytes.drop stop.offset)).map fun chain =>
        ⟨chain.protocol, stop.offset + chain.length, chain.fragment.or stop.fragment⟩ := by
  fun_induction walk bytes stop with
  | case1 stop unnamed =>
      have unannounced := ExtensionHeader.ofProtocol?_eq_none_iff.1 unnamed
      rw [ExtensionHeader.follow_of_unannounced _ unannounced]
      rfl
  | case2 stop kind named missing =>
      rw [outcome_header] at missing
      rw [ExtensionChain.follow, named]
      dsimp only
      split
      · rfl
      · simp_all
  | case3 stop kind named extension found behind inductionHypothesis =>
      rw [outcome_header] at found
      rw [ExtensionHeader.follow_of_read? named found, Option.map_map, List.drop_drop]
      refine inductionHypothesis.trans ?_
      congr 1
      funext chain
      simp [past, ExtensionChain.behind, Nat.add_assoc, Option.or_assoc]

theorem isLocal_walk (stop : ExtensionStop) : IsLocal (walk · stop) := by
  refine ⟨?_, ?_⟩
  · intro bytes place member
    fun_induction walk bytes stop with
    | case1 => contradiction
    | case2 stop kind => exact (isLocal_header stop.offset kind).inside bytes place member
    | case3 stop kind _ extension _ behind inductionHypothesis =>
        rcases List.mem_append.1 member with member | member
        · exact (isLocal_header stop.offset kind).inside bytes place member
        · exact inductionHypothesis member
  · intro bytes last ended other agree
    fun_induction walk bytes stop with
    | case1 stop unnamed => exact walk_of_unnamed unnamed other
    | case2 => contradiction
    | case3 stop kind named extension found behind inductionHypothesis =>
        obtain ⟨front, rest⟩ := List.forall_mem_append.1 agree
        have same := (isLocal_header stop.offset kind).same bytes extension found other front
        have found' : (header other stop.offset kind).outcome = some extension := same ▸ found
        rw [walk_of_named named other, bind_of_some found', same,
          inductionHypothesis ended rest]

end ExtensionStop

end PacketFilter
