import PacketFilter.Predicate.Printer
import PacketFilter.Proofs.Network.Reading
import PacketFilter.Proofs.Words

/-!
The text of a test is cut into the words that it was printed with. Numbers, addresses and networks
are printed in small letters, digits and marks that belong to words.
-/

namespace PacketFilter

namespace Word

theorem isPlain_digitChar : ∀ digit < 16, isPlain (Nat.digitChar digit) := by
  decide

theorem isPlain_toDigits {base number : Nat} (large : 1 < base) (small : base ≤ 16) :
    ∀ c ∈ Nat.toDigits base number, isPlain c := by
  obtain ⟨digits, chars, lt, _⟩ := Text.exists_spelled large number
  intro c member
  rw [chars] at member
  obtain ⟨digit, listed, rfl⟩ := List.mem_map.1 member
  exact isPlain_digitChar digit (Nat.lt_of_lt_of_le (lt digit listed) small)

theorem isPlain_decimal (number : Nat) : ∀ c ∈ (Text.decimal number).toList, isPlain c := by
  rw [Text.decimal, String.toList_ofList]
  exact isPlain_toDigits (by decide) (by decide)

theorem isPlain_hexadecimal (number : Nat) :
    ∀ c ∈ (Text.hexadecimal number).toList, isPlain c := by
  rw [Text.hexadecimal, String.toList_ofList]
  exact isPlain_toDigits (by decide) (by decide)

theorem isPlain_append {first second : String} (left : ∀ c ∈ first.toList, isPlain c)
    (right : ∀ c ∈ second.toList, isPlain c) : ∀ c ∈ (first ++ second).toList, isPlain c := by
  rw [String.toList_append]
  exact List.forall_mem_append.2 ⟨left, right⟩

theorem isPlain_intercalate {separator : String} {written : Nat → String} (numbers : List Nat)
    (between : ∀ c ∈ separator.toList, isPlain c)
    (plain : ∀ number, ∀ c ∈ (written number).toList, isPlain c) :
    ∀ c ∈ (separator.intercalate (numbers.map written)).toList, isPlain c := by
  cases numbers with
  | nil =>
      intro c member
      contradiction
  | cons first others =>
      rw [Text.toList_intercalate_cons]
      refine List.forall_mem_append.2 ⟨plain first, ?_⟩
      intro c member
      obtain ⟨other, _, member⟩ := List.mem_flatMap.1 member
      exact List.forall_mem_append.2 ⟨between, plain other⟩ c member

theorem isPlain_of_all {written : String} (all : written.toList.all isPlain = true) :
    ∀ c ∈ written.toList, isPlain c :=
  List.all_eq_true.1 all

theorem cutsInto_keyword (written : String) (nonempty : written ≠ "")
    (all : written.toList.all isPlain = true) : CutsInto written.toList [written] :=
  cutsInto_plain nonempty (isPlain_of_all all)

theorem isPlain_dotted (bits : BitVec 32) : ∀ c ∈ (Address.dotted bits).toList, isPlain c :=
  isPlain_intercalate _ (isPlain_of_all (by decide)) isPlain_decimal

theorem isPlain_colonSeparated (groups : List Nat) :
    ∀ c ∈ (Address.colonSeparated groups).toList, isPlain c :=
  isPlain_intercalate _ (isPlain_of_all (by decide)) isPlain_hexadecimal

theorem isPlain_address (address : Address) : ∀ c ∈ address.text.toList, isPlain c := by
  cases address with
  | v4 bits => exact isPlain_dotted bits
  | v6 bits =>
      rw [Address.text]
      split
      · exact isPlain_append (isPlain_of_all (by decide)) (isPlain_dotted _)
      · unfold Address.compressed
        dsimp only
        split
        · refine isPlain_append (isPlain_append ?_ ?_) (isPlain_colonSeparated _)
          · exact isPlain_colonSeparated _
          · exact isPlain_of_all (by decide)
        · exact isPlain_colonSeparated _

theorem isPlain_network (network : Network) : ∀ c ∈ network.text.toList, isPlain c := by
  have slash : ∀ c ∈ "/".toList, isPlain c := isPlain_of_all (by decide)
  exact isPlain_append (isPlain_append (isPlain_address _) slash) (isPlain_decimal _)

theorem printed_decimal (number : Nat) : Printed (Text.decimal number) := by
  refine .plain (fun empty => ?_) (isPlain_decimal number)
  rw [Text.decimal] at empty
  simp at empty

theorem printed_address (address : Address) : Printed address.text := by
  refine .plain (fun empty => ?_) (isPlain_address address)
  have read := Address.read?_text address
  rw [empty] at read
  contradiction

theorem printed_network (network : Network) : Printed network.text := by
  refine .plain (fun empty => ?_) (isPlain_network network)
  have slash := Network.slash_mem_text network
  rw [empty] at slash
  contradiction

end Word

open Word

theorem printed_of_all (words : List String)
    (plain : words.all (fun word => word != "" && word.toList.all isPlain) = true) :
    ∀ word ∈ words, Printed word := by
  intro word member
  have conditions := List.all_eq_true.1 plain word member
  rw [Bool.and_eq_true, bne_iff_ne] at conditions
  exact .plain conditions.1 (isPlain_of_all conditions.2)

theorem printed_compared {before comparison : List String} {operand : String}
    (named : ∀ word ∈ before, Printed word) (compared : ∀ word ∈ comparison, Printed word)
    (printed : Printed operand) : ∀ word ∈ before ++ comparison ++ [operand], Printed word := by
  refine List.forall_mem_append.2 ⟨?_, List.forall_mem_singleton.2 printed⟩
  exact List.forall_mem_append.2 ⟨named, compared⟩

theorem Field.printed_words (field : Field) : ∀ word ∈ field.words, Printed word := by
  apply printed_of_all field.words
  cases field <;> decide

theorem Side.printed_words (side : Side) {keyword : String} (printed : Printed keyword) :
    ∀ word ∈ side.words ++ [keyword], Printed word := by
  refine List.forall_mem_append.2 ⟨?_, List.forall_mem_singleton.2 printed⟩
  apply printed_of_all side.words
  cases side <;> decide

theorem Comparison.printed_words (comparison : Option Comparison) :
    ∀ word ∈ words comparison, Printed word := by
  unfold words
  split
  · exact List.forall_mem_nil _
  · exact List.forall_mem_nil _
  · exact List.forall_mem_singleton.2 (.symbol _)

theorem Predicate.printed_words {comparison : List String} (predicate : Predicate)
    (printed : ∀ word ∈ comparison, Printed word) :
    ∀ word ∈ predicate.words comparison, Printed word := by
  have keyword : ∀ word ∈ ["host", "net", "port"], Printed word := printed_of_all _ (by decide)
  cases predicate with
  | host side network =>
      have named := side.printed_words (keyword "host" (by simp))
      exact printed_compared named printed (printed_address _)
  | net side network =>
      have named := side.printed_words (keyword "net" (by simp))
      exact printed_compared named printed (printed_network _)
  | port side number =>
      have named := side.printed_words (keyword "port" (by simp))
      exact printed_compared named printed (printed_decimal _)
  | numeric field operand =>
      exact printed_compared field.printed_words printed (printed_decimal _)
  | congested => exact printed_of_all ["ip", "ce"] (by decide)
  | fragment => exact printed_of_all ["ip", "frag"] (by decide)
  | unfragmented => exact printed_of_all ["ip", "unfrag"] (by decide)
  | tcpFlag flag =>
      apply printed_of_all ["tcp", "opt", flag.name]
      cases flag <;> decide
  | constant value =>
      cases value with
      | false => exact printed_of_all ["false"] (by decide)
      | true => exact printed_of_all ["true"] (by decide)

theorem Predicate.words_ne_nil (comparison : List String) (predicate : Predicate) :
    predicate.words comparison ≠ [] := by
  cases predicate with
  | constant value => cases value <;> exact List.cons_ne_nil _ _
  | _ => simp [words]

namespace Test

theorem printed_words (test : Test) : ∀ word ∈ test.words, Printed word := by
  have predicate := test.predicate.printed_words (Comparison.printed_words test.comparison)
  refine List.forall_mem_append.2 ⟨?_, predicate⟩
  split
  · exact printed_of_all ["not"] (by decide)
  · exact List.forall_mem_nil _

/-- The text of a test is cut into its words. -/
theorem cutsInto_text (test : Test) : CutsInto test.text.toList test.words := by
  have printed := test.printed_words
  have nonempty : test.words ≠ [] := by
    intro empty
    exact test.predicate.words_ne_nil _ (List.append_eq_nil_iff.1 empty).2
  rw [text]
  cases words : test.words with
  | nil => exact absurd words nonempty
  | cons word others =>
      rw [words] at printed
      exact cutsInto_intercalate printed

end Test

end PacketFilter
