import PacketFilter.Proofs.Phrase.Operand

/-!
The reader of phrases reads exactly what the grammar allows. What is read is spelled by the words
in front; and the words of a phrase are read as it, provided that the words behind it cannot be
taken for a part of it.
-/

namespace PacketFilter

namespace Operand

theorem comparison_operand {before : List String} {written : Option Comparison} {operand : String}
    {words : List Word} (rest : List Word) (spelled : Comparison.Spells before written)
    (texts : words.map Word.text = before ++ [operand]) (accepted : operand ∉ refused) :
    ∃ word, word.text = operand ∧ comparison (words ++ rest) = (written, word :: rest) ∧
      ∀ keyword expected, take keyword expected (word :: rest) = .ok (word, rest) := by
  obtain ⟨front, last, rfl, before, single⟩ := List.map_eq_append_iff.1 texts
  obtain ⟨word, rfl, rfl⟩ := List.map_eq_singleton_iff.1 single
  refine ⟨word, rfl, ?_, fun keyword expected => take_eq_ok accepted⟩
  rw [List.append_assoc]
  exact comparison_append spelled before (noSymbol_cons accepted)

theorem operand_spelled {α : Type} {keyword : Word} {expected : String}
    {understand : Word → Except FilterError α} {bound : α → Test} {words rest : List Word}
    {test : Test} (before : List Word)
    (read : (take keyword expected words >>= fun taken =>
      understand taken.1 >>= fun value => .ok (bound value, taken.2)) = .ok (test, rest)) :
    ∃ word value front, understand word = .ok value ∧ test = bound value ∧
      before ++ words = front ++ rest ∧
      front.map Word.text = before.map Word.text ++ [word.text] := by
  obtain ⟨⟨word, left⟩, taken, understood⟩ := bind_eq_ok.1 read
  obtain ⟨value, meaning, same⟩ := bind_eq_ok.1 understood
  cases same
  refine ⟨word, value, before ++ [word], meaning, rfl, ?_, List.map_append⟩
  rw [eq_cons_of_take taken, List.append_assoc]
  rfl

end Operand

namespace Phrase

open Operand

/-- What was read behind a keyword is spelled by the words in front of what is left. -/
theorem spelled_of_read {phrase : Phrase} {keyword : Word} {words rest : List Word} {test : Test}
    (read : phrase.read keyword words = .ok (test, rest)) :
    ∃ front, words = front ++ rest ∧ phrase.Spells (front.map Word.text) test := by
  obtain ⟨before, written, behind, comparison, rfl, compared⟩ := comparison_spelled words
  cases phrase with
  | number field =>
      rw [Phrase.read, comparison] at read
      obtain ⟨word, value, front, number, rfl, split, texts⟩ := operand_spelled before read
      have isNumber := (number_eq_ok_iff field.limit_lt).1 number
      rw [isNumber.stored_field, Test.bind_eq_asking]
      exact ⟨front, split, texts ▸ .number compared isNumber⟩
  | protocol field =>
      rw [Phrase.read, comparison] at read
      obtain ⟨word, value, front, number, rfl, split, texts⟩ := operand_spelled before read
      have isProtocol := (protocolNumber_eq_ok_iff field.limit_lt).1 number
      rw [isProtocol.stored_field, Test.bind_eq_asking]
      exact ⟨front, split, texts ▸ .protocol compared isProtocol⟩
  | host side =>
      rw [Phrase.read, comparison] at read
      obtain ⟨word, found, front, address, rfl, split, texts⟩ := operand_spelled before read
      rw [Test.bind_eq_asking]
      exact ⟨front, split, texts ▸ .host compared (address_eq_ok_iff.1 address)⟩
  | net side =>
      rw [Phrase.read, comparison] at read
      obtain ⟨⟨found, left⟩, network, same⟩ := bind_eq_ok.1 read
      cases same
      obtain ⟨front, rfl, spelled⟩ := network_spelled network
      refine ⟨before ++ front, (List.append_assoc ..).symm, ?_⟩
      rw [List.map_append, Test.bind_eq_asking]
      exact .net compared spelled
  | port side =>
      rw [Phrase.read, comparison] at read
      obtain ⟨word, value, front, number, rfl, split, texts⟩ := operand_spelled before read
      have isNumber := (number_eq_ok_iff portLimit_lt).1 number
      rw [isNumber.stored_port, Test.bind_eq_asking]
      exact ⟨front, split, texts ▸ .port compared isNumber⟩
  | flag predicate =>
      obtain ⟨left, equal, same⟩ := bind_eq_ok.1 read
      cases same
      obtain ⟨front, split, spelled⟩ := equality_spelled equal
      rw [Test.bind_eq_asking]
      exact ⟨front, split, .flag spelled⟩
  | tcpFlag =>
      obtain ⟨left, equal, operand⟩ := bind_eq_ok.1 read
      obtain ⟨sign, split, spelled⟩ := equality_spelled equal
      obtain ⟨word, flag, front, name, rfl, split', texts⟩ := operand_spelled sign operand
      rw [Test.bind_eq_asking]
      exact ⟨front, split.trans split', texts ▸ .tcpFlag spelled (flagName_eq_ok_iff.1 name)⟩

/-- The words that stand inside of primitives only. -/
def innerWords : List String :=
  ["==", "=", "!=", ">", ">=", "<", "<=", "mask", "flow", "plen", "hlim", "nxt", "opt", "flags",
   "win", "window"]

/-- The words behind a phrase start with none that could be a part of it. -/
def Ends (words : List Word) : Prop :=
  ∀ word ∈ words.head?, word.text ∉ innerWords

theorem Ends.noSymbol {words : List Word} (ends : Ends words) : NoSymbol words := by
  intro word member
  have outer := ends word member
  generalize word.text = text at outer
  cases found : Comparison.ofSymbol? text with
  | none => rfl
  | some comparison => cases Comparison.symbol_iff.2 found <;> exact absurd (by decide) outer

theorem Ends.noMask {words : List Word} (ends : Ends words) : NoMask words := by
  intro word member mask
  have outer := ends word member
  rw [mask] at outer
  exact outer (by decide)

theorem read_append {phrase : Phrase} {spelled : List String} {test : Test} {keyword : Word}
    {words rest : List Word} (spells : phrase.Spells spelled test)
    (texts : words.map Word.text = spelled) (ends : Ends rest) :
    phrase.read keyword (words ++ rest) = .ok (test, rest) := by
  cases spells with
  | @number field _ _ _ _ compared number =>
      obtain ⟨word, rfl, comparison, taken⟩ :=
        comparison_operand rest compared texts number.not_refused
      have understood := (number_eq_ok_iff field.limit_lt).2 number
      simp [Phrase.read, comparison, taken, understood, number.stored_field,
        Test.bind_eq_asking]
  | @protocol field _ _ _ _ compared number =>
      obtain ⟨word, rfl, comparison, taken⟩ :=
        comparison_operand rest compared texts number.not_refused
      have understood := (protocolNumber_eq_ok_iff field.limit_lt).2 number
      simp [Phrase.read, comparison, taken, understood, number.stored_field,
        Test.bind_eq_asking]
  | host compared address =>
      obtain ⟨word, rfl, comparison, taken⟩ :=
        comparison_operand rest compared texts address.not_refused
      simp [Phrase.read, comparison, taken, address_eq_ok_iff.2 address,
        Test.bind_eq_asking]
  | port compared number =>
      obtain ⟨word, rfl, comparison, taken⟩ :=
        comparison_operand rest compared texts number.not_refused
      have understood := (number_eq_ok_iff portLimit_lt).2 number
      simp [Phrase.read, comparison, taken, understood, number.stored_port,
        Test.bind_eq_asking]
  | net compared network =>
      obtain ⟨front, last, rfl, before, written⟩ := List.map_eq_append_iff.1 texts
      have comparison := comparison_append compared before (network.noSymbol written rest)
      rw [List.append_assoc]
      simp [Phrase.read, comparison, network_append network written ends.noMask,
        Test.bind_eq_asking]
  | flag equality =>
      simp [Phrase.read, equality_append equality texts ends.noSymbol, Test.bind_eq_asking]
  | tcpFlag equality flag =>
      obtain ⟨front, last, rfl, before, single⟩ := List.map_eq_append_iff.1 texts
      obtain ⟨word, rfl, rfl⟩ := List.map_eq_singleton_iff.1 single
      have noSymbol : NoSymbol (word :: rest) := noSymbol_cons (flag_not_refused flag)
      simp [Phrase.read, equality_append equality before noSymbol,
        take_eq_ok (flag_not_refused flag), flagName_eq_ok_iff.2 flag, Test.bind_eq_asking]

end Phrase

end PacketFilter
