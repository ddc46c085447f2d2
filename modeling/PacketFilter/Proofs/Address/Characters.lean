import PacketFilter.Address.Reader

/-!
The characters of addresses. Whatever the readers of addresses take consists of digits, dots and
colons, so a text with any other character is no address.
-/

namespace PacketFilter

namespace Text

theorem leadingDigits_append (base : Nat) (chars : List Char) :
    ∃ front, chars = front ++ (leadingDigits base chars).2 ∧
      ∀ c ∈ front, (digit? base c).isSome := by
  fun_induction leadingDigits base chars with
  | case1 => exact ⟨[], rfl, by simp⟩
  | case2 c rest absent => exact ⟨[], rfl, by simp⟩
  | case3 c rest digit present digits behind split inductionHypothesis =>
      obtain ⟨front, eq, all⟩ := inductionHypothesis
      rw [split] at eq
      refine ⟨c :: front, congrArg (c :: ·) eq, ?_⟩
      simpa [present] using all

theorem digit?_of_le {small large : Nat} (le : small ≤ large) {c : Char}
    (present : (digit? small c).isSome) : (digit? large c).isSome := by
  unfold digit? at *
  cases value : digitValue c with
  | none => simp [value] at present
  | some digit =>
      simp only [value, Option.filter_some, Option.isSome_ite, decide_eq_true_eq] at *
      omega

end Text

namespace Address

def isAddressChar (c : Char) : Bool :=
  (Text.digit? 16 c).isSome || c == '.' || c == ':'

/-- A reader has taken the front of a text, which has only characters of addresses. -/
def Leaves (chars rest : List Char) : Prop :=
  ∃ front, chars = front ++ rest ∧ ∀ c ∈ front, isAddressChar c

theorem Leaves.refl (chars : List Char) : Leaves chars chars :=
  ⟨[], rfl, by simp⟩

theorem Leaves.trans {first second third : List Char} (left : Leaves first second)
    (right : Leaves second third) : Leaves first third := by
  obtain ⟨front, rfl, all⟩ := left
  obtain ⟨middle, rfl, allMiddle⟩ := right
  refine ⟨front ++ middle, (List.append_assoc ..).symm, ?_⟩
  exact List.forall_mem_append.2 ⟨all, allMiddle⟩

theorem Leaves.cons {c : Char} {chars rest : List Char} (allowed : isAddressChar c)
    (leaves : Leaves chars rest) : Leaves (c :: chars) rest := by
  have first : Leaves (c :: chars) chars := ⟨[c], rfl, by simpa using allowed⟩
  exact first.trans leaves

theorem leaves_leadingDigits {base : Nat} (small : base ≤ 16) (chars : List Char) :
    Leaves chars (Text.leadingDigits base chars).2 := by
  obtain ⟨front, eq, all⟩ := Text.leadingDigits_append base chars
  refine ⟨front, eq, ?_⟩
  intro c member
  simp [isAddressChar, Text.digit?_of_le small (all c member)]

theorem leaves_readOctet {chars rest : List Char} {octet : Nat}
    (read : readOctet chars = some (octet, rest)) : Leaves chars rest := by
  have leaves := leaves_leadingDigits (show 10 ≤ 16 by decide) chars
  unfold readOctet at read
  split at read
  · contradiction
  · contradiction
  · rename_i digits behind _ _ split
    rw [split] at leaves
    split at read
    · cases read
      exact leaves
    · contradiction

theorem leaves_readOctets {count : Nat} {chars rest : List Char} {octets : List Nat}
    (read : readOctets count chars = some (octets, rest)) : Leaves chars rest := by
  fun_induction readOctets count chars generalizing octets rest with
  | case1 chars =>
      cases read
      exact .refl _
  | case2 count chars inductionHypothesis =>
      obtain ⟨⟨octet, middle⟩, first, read⟩ := Option.bind_eq_some_iff.1 read
      obtain ⟨⟨others, behind⟩, others, read⟩ := Option.bind_eq_some_iff.1 read
      cases read
      exact .cons (by decide) ((leaves_readOctet first).trans (inductionHypothesis _ others))
  | case3 => contradiction

theorem leaves_readDotted {chars rest : List Char} {bits : BitVec 32}
    (read : readDotted chars = some (bits, rest)) : Leaves chars rest := by
  obtain ⟨⟨octet, middle⟩, first, read⟩ := Option.bind_eq_some_iff.1 read
  obtain ⟨⟨others, behind⟩, others, read⟩ := Option.bind_eq_some_iff.1 read
  cases read
  exact (leaves_readOctet first).trans (leaves_readOctets others)

theorem leaves_readGroup {chars rest : List Char} {group : Nat}
    (read : readGroup chars = some (group, rest)) : Leaves chars rest := by
  have leaves := leaves_leadingDigits (Nat.le_refl 16) chars
  unfold readGroup at read
  split at read
  · contradiction
  · rename_i digits behind _ split
    rw [split] at leaves
    split at read
    · cases read
      exact leaves
    · contradiction

theorem leaves_afterSeparator {continued : Bool} {chars body : List Char}
    (separated : afterSeparator continued chars = some body) : Leaves chars body := by
  unfold afterSeparator at separated
  split at separated
  · cases separated
    exact .refl _
  · cases separated
    exact .cons (by decide) (.refl _)
  · contradiction

theorem leaves_readGroups (room : Nat) (continued : Bool) (chars : List Char) :
    Leaves chars (readGroups room continued chars).2.2 := by
  fun_induction readGroups room continued chars with
  | case1 => exact .refl _
  | case2 => exact .refl _
  | case3 room continued chars body separated bits rest read =>
      have dotted : readDotted body = some (bits, rest) := by
        split at read
        · contradiction
        · exact read
      exact (leaves_afterSeparator separated).trans (leaves_readDotted dotted)
  | case4 => exact .refl _
  | case5 room continued chars body separated _ group rest read groups isDotted behind split
      inductionHypothesis =>
      rw [split] at inductionHypothesis
      exact ((leaves_afterSeparator separated).trans (leaves_readGroup read)).trans
        inductionHypothesis

theorem leaves_readColonSeparated {chars rest : List Char} {bits : BitVec 128}
    (read : readColonSeparated chars = some (bits, rest)) : Leaves chars rest := by
  have front := leaves_readGroups 8 false chars
  unfold readColonSeparated at read
  split at read
  rename_i groups isDotted middle split
  rw [split] at front
  split at read
  · cases read
    exact front
  · split at read
    · contradiction
    · split at read
      · rename_i chars
        have back := leaves_readGroups (7 - groups.length) false chars
        cases read
        exact front.trans (.cons (by decide) (.cons (by decide) back))
      · contradiction

theorem eq_some_of_atEnd {α : Type} {found : Option (α × List Char)} {value : α}
    (ended : atEnd found = some value) : found = some (value, []) := by
  unfold atEnd at ended
  split at ended
  · cases ended
    rfl
  · contradiction

theorem isAddressChar_of_read? {chars : List Char} {address : Address}
    (read : read? chars = some address) : ∀ c ∈ chars, isAddressChar c := by
  have whole : Leaves chars [] := by
    unfold read? at read
    split at read
    · rename_i dotted
      exact leaves_readDotted (eq_some_of_atEnd dotted)
    · obtain ⟨bits, separated, _⟩ := Option.map_eq_some_iff.1 read
      exact leaves_readColonSeparated (eq_some_of_atEnd separated)
  obtain ⟨front, eq, all⟩ := whole
  rw [eq, List.append_nil]
  exact all

end Address

end PacketFilter
