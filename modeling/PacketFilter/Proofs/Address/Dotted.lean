import PacketFilter.Address.Printer
import PacketFilter.Address.Reader
import PacketFilter.Proofs.Text.Numeral

/-!
Version 4 addresses are read back from their text, in front of anything that does not continue the
last octet. A numeral alone is no such address, since no dot follows it.
-/

namespace PacketFilter

namespace Text

theorem toList_intercalate_cons {α : Type} (separator : String) (written : α → String) (first : α)
    (others : List α) :
    (separator.intercalate ((first :: others).map written)).toList =
      (written first).toList ++
        others.flatMap fun other => separator.toList ++ (written other).toList := by
  induction others generalizing first with
  | nil => simp
  | cons second others inductionHypothesis =>
      have behind := inductionHypothesis second
      rw [List.map_cons, List.map_cons] at *
      rw [String.intercalate_cons_cons, String.toList_append, String.toList_append, behind]
      simp

theorem noDigit_nil (base : Nat) : NoDigit base [] := by
  intro c member
  contradiction

theorem noDigit_cons {base : Nat} {c : Char} {rest : List Char} (other : digit? base c = none) :
    NoDigit base (c :: rest) := by
  intro first member
  cases member
  exact other

end Text

namespace Address

open Text

variable {rest : List Char}

theorem ofOctets_octets (bits : BitVec 32) : ofOctets (octets bits) = bits := by
  rw [ofOctets, octets, Positional.value_digits]
  have fits : bits.toNat < 256 ^ 4 := bits.isLt
  rw [Nat.mod_eq_of_lt fits, BitVec.ofNat_toNat, BitVec.setWidth_eq]

theorem readOctet_append {octet : Nat} (fits : octet < 256) (noDigit : NoDigit 10 rest) :
    readOctet ((decimal octet).toList ++ rest) = some (octet, rest) := by
  obtain ⟨digits, chars, lt, value, head⟩ := exists_spelled (show 1 < 10 by decide) octet
  have short : digits.length ≤ 3 := by
    rw [← List.length_map, ← chars, Nat.length_toDigits_le_iff (by decide) (by decide)]
    omega
  rw [decimal, String.toList_ofList, chars, readOctet, leadingDigits_map (by decide) lt noDigit]
  split
  · rename_i same
    cases same
    exact absurd chars Nat.toDigits_ne_nil
  · rename_i same
    cases same
    by_cases positive : 0 < octet
    · exact absurd rfl (head positive)
    · obtain rfl := Nat.eq_zero_of_not_pos positive
      simp at chars
  · rename_i same
    cases same
    rw [value, if_pos ⟨short, fits⟩]

def behindDots (octets : List Nat) : List Char :=
  octets.flatMap fun octet => '.' :: (decimal octet).toList

theorem noDigit_behindDots (octets : List Nat) (noDigit : NoDigit 10 rest) :
    NoDigit 10 (behindDots octets ++ rest) := by
  cases octets with
  | nil => exact noDigit
  | cons octet octets => exact noDigit_cons (by decide)

theorem readOctets_append {octets : List Nat} (fit : ∀ octet ∈ octets, octet < 256)
    (noDigit : NoDigit 10 rest) :
    readOctets octets.length (behindDots octets ++ rest) = some (octets, rest) := by
  induction octets with
  | nil => rfl
  | cons octet octets inductionHypothesis =>
      have first := readOctet_append (fit octet List.mem_cons_self)
        (noDigit_behindDots octets noDigit)
      have others :=
        inductionHypothesis fun other member => fit other (List.mem_cons_of_mem _ member)
      simp [behindDots] at first others ⊢
      simp [readOctets, first, others]

theorem toList_dotted {bits : BitVec 32} {first : Nat} {others : List Nat}
    (split : octets bits = first :: others) :
    (dotted bits).toList = (decimal first).toList ++ behindDots others := by
  rw [dotted, split, toList_intercalate_cons]
  rfl

theorem readDotted_append (bits : BitVec 32) (noDigit : NoDigit 10 rest) :
    readDotted ((dotted bits).toList ++ rest) = some (bits, rest) := by
  have fit : ∀ octet ∈ octets bits, octet < 256 := by
    intro octet member
    exact Positional.lt_of_mem_digits (by decide) member
  have length : (octets bits).length = 4 := Positional.length_digits ..
  have value := ofOctets_octets bits
  cases split : octets bits with
  | nil => simp [split] at length
  | cons first others =>
      rw [split] at fit length value
      have three : others.length = 3 := by simpa using length
      have front := readOctet_append (fit first List.mem_cons_self)
        (noDigit_behindDots others noDigit)
      have behind := readOctets_append
        (fun other member => fit other (List.mem_cons_of_mem _ member)) noDigit
      rw [three] at behind
      rw [toList_dotted split, List.append_assoc]
      simp [readDotted, front, behind, value]

theorem readV4?_dotted (bits : BitVec 32) : readV4? (dotted bits).toList = some bits := by
  have read := readDotted_append bits (noDigit_nil 10)
  rw [List.append_nil] at read
  rw [readV4?, read]
  rfl

theorem noDot_leadingDigits (digits : List Nat) (noDigit : NoDigit 10 rest)
    (noDot : '.' ∉ rest.head?) :
    '.' ∉ (leadingDigits 10 (digits.map Nat.digitChar ++ rest)).2.head? := by
  induction digits with
  | nil =>
      cases rest with
      | nil => exact noDot
      | cons c rest => simpa [leadingDigits, noDigit c rfl] using noDot
  | cons digit digits inductionHypothesis =>
      cases value : digit? 10 (Nat.digitChar digit) with
      | none =>
          have other : Nat.digitChar digit ≠ '.' := Nat.digitChar_ne '.' (by decide)
          simp [leadingDigits, value, other]
      | some found => simpa [leadingDigits, value] using inductionHypothesis

theorem eq_leadingDigits_of_readOctet {chars : List Char} {octet : Nat}
    (read : readOctet chars = some (octet, rest)) : rest = (leadingDigits 10 chars).2 := by
  unfold readOctet at read
  split at read
  · contradiction
  · contradiction
  · rename_i digits behind _ _ split
    split at read
    · cases read
      rw [split]
    · contradiction

theorem readDotted_eq_none (digits : List Nat) (noDigit : NoDigit 10 rest)
    (noDot : '.' ∉ rest.head?) : readDotted (digits.map Nat.digitChar ++ rest) = none := by
  have absent := noDot_leadingDigits digits noDigit noDot
  unfold readDotted
  cases read : readOctet (digits.map Nat.digitChar ++ rest) with
  | none => rfl
  | some found =>
      obtain ⟨octet, behind⟩ := found
      rw [← eq_leadingDigits_of_readOctet read] at absent
      cases behind with
      | nil => rfl
      | cons c behind =>
          have other : c ≠ '.' := by simpa using absent
          simp [readOctets, other]

end Address

end PacketFilter
