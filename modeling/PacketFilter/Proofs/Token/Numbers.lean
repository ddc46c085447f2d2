import PacketFilter.Proofs.Token.Openings

/-!
Expressions that compare a number. Every keyword with a numeric operand has its limit, and the
number is kept with as many bits as the limit needs: whatever the operand word writes is stored as
the number that it writes, or refused. Numerals are read with 32 bits on the way, which no limit
reaches.
-/

namespace PacketFilter

namespace Operand

/-- The number that a word stands for as an operand: a number up to the limit or, where names are
allowed, that of a protocol. -/
inductive Means (limit : Nat) (named : Bool) (written : String) : Nat → Prop where
  | number {value} : WritesNumber written.toList value → value ≤ limit →
      Means limit named written value
  | protocol {value} : named = true → Protocol.Name written value →
      Means limit named written value

variable {limit value : Nat} {named : Bool} {word : Word} {error : FilterError}

def understand (limit : Nat) (named : Bool) (word : Word) : Except FilterError Nat :=
  if named then protocolNumber limit word else number limit word

theorem understand_eq_ok_iff (small : limit < numberBound) :
    understand limit named word = .ok value ↔ Means limit named word.text value := by
  cases named with
  | false =>
      rw [understand, if_neg Bool.false_ne_true, number_eq_ok_iff small]
      constructor
      · rintro ⟨written, within⟩
        exact .number written within
      · rintro (⟨written, within⟩ | ⟨⟨⟩, _⟩)
        exact ⟨written, within⟩
  | true =>
      rw [understand, if_pos rfl, protocolNumber_eq_ok_iff small]
      constructor
      · rintro (named | ⟨written, within⟩)
        · exact .protocol rfl named
        · exact .number written within
      · rintro (⟨written, within⟩ | ⟨_, named⟩)
        · exact .number ⟨written, within⟩
        · exact .name named

theorem understand_refuses (failed : understand limit named word = .error error) :
    error.Refuses word := by
  unfold understand at failed
  split at failed
  · exact protocolNumber_refuses failed
  · exact number_refuses failed

end Operand

open Operand

namespace Phrase

/-- The phrases with a number for an operand: the limit of the number, the bits that it is stored
with, whether names of protocols stand for numbers, and what the number becomes. -/
inductive TakesNumber : Phrase → Nat → Nat → Bool → (Nat → Predicate) → Prop where
  | number (field : Field) :
      TakesNumber (.number field) field.limit field.width false (.numeric field)
  | protocol (field : Field) :
      TakesNumber (.protocol field) field.limit field.width true (.numeric field)
  | port (side : Side) : TakesNumber (.port side) portLimit portWidth false (.port side)

namespace TakesNumber

variable {phrase : Phrase} {limit width : Nat} {named : Bool} {predicate : Nat → Predicate}
  (takes : TakesNumber phrase limit width named predicate)

include takes

theorem limit_lt : limit < 2 ^ width ∧ limit < numberBound := by
  cases takes with
  | number field | protocol field => cases field <;> decide
  | port side => decide

/-- No number is too large for the bits that it is stored with. -/
theorem stored_eq {value : Nat} (within : value ≤ limit) : stored width value = value :=
  stored_of_lt (Nat.lt_of_le_of_lt within takes.limit_lt.1)

theorem stored_eq_of_means {written : String} {value : Nat}
    (means : Means limit named written value) : stored width value = value := by
  cases means with
  | number _ within => exact takes.stored_eq within
  | protocol allowed found =>
      cases takes with
      | number | port => contradiction
      | protocol field =>
          have isProtocol : IsProtocol field.limit written value := .name found
          exact isProtocol.stored_field

theorem predicate_injective : Function.Injective predicate := by
  intro first second same
  cases takes with
  | number | protocol => exact (Predicate.numeric.inj same).2
  | port => exact (Predicate.port.inj same).2

theorem read_eq {keyword word : Word} {behind : List Word} {comparison : Option Comparison}
    (compared : Operand.comparison behind = (comparison, [word]))
    (plain : Mark.ofText? word.text = none) :
    phrase.read keyword behind =
      (understand limit named word >>= fun value =>
        .ok (.bind (predicate (stored width value)) comparison false, [])) := by
  cases takes with
  | number | protocol | port => simp [Phrase.read, compared, take, plain, understand]

end TakesNumber

end Phrase

namespace Token

open Phrase

variable {phrase : Phrase} {comparison : Option Comparison} {start : List String}
  {tokens : Test → List Token} {limit width : Nat} {named : Bool} {predicate : Nat → Predicate}
  {operand : String}

section Operand

variable (leads : Leads phrase comparison start tokens)
  (takes : TakesNumber phrase limit width named predicate)
  (plain : Mark.ofText? operand = none) (noSymbol : Comparison.ofSymbol? operand = none)

include leads takes plain noSymbol

theorem lexes_number {value : Nat} (means : Means limit named operand value) :
    Lexes (start ++ [operand]) (tokens (.bind (predicate value) comparison false)) := by
  refine lexes_of_leads leads (noSymbol_of_operand noSymbol) ?_
  intro keyword behind words texts compared
  obtain ⟨word, rfl, rfl⟩ := List.map_eq_singleton_iff.1 texts
  have understood := (understand_eq_ok_iff takes.limit_lt.2).2 means
  rw [takes.read_eq compared plain, understood, ok_bind, takes.stored_eq_of_means means]

theorem refusesLast_number (meaningless : ¬ ∃ value, Means limit named operand value) :
    RefusesLast (start ++ [operand]) := by
  refine refusesLast_of_leads leads (noSymbol_of_operand noSymbol) ?_
  intro keyword behind words texts compared
  obtain ⟨word, rfl, rfl⟩ := List.map_eq_singleton_iff.1 texts
  cases understood : understand limit named word with
  | ok value =>
      have means := (understand_eq_ok_iff takes.limit_lt.2).1 understood
      exact absurd ⟨value, means⟩ meaningless
  | error error =>
      refine ⟨word, error, rfl, ?_, understand_refuses understood⟩
      rw [takes.read_eq compared plain, understood]
      rfl

/-- Behind every keyword with a numeric operand a word is taken for the number that it writes, if
this is within the limit, and is refused in any other case. No number within the limit is changed
by the bits that it is stored with. -/
theorem number_is_never_truncated :
    (∀ expression, (Word.cut expression).map Word.text = start ++ [operand] → ∀ value,
      (lex expression = .ok (tokens (.bind (predicate value) comparison false)) ↔
        Means limit named operand value)) ∧
    ((¬ ∃ value, Means limit named operand value) → RefusesLast (start ++ [operand])) ∧
    ∀ value ≤ limit, stored width value = value := by
  have refused := refusesLast_number leads takes plain noSymbol
  refine ⟨fun expression texts value => ⟨fun lexed => ?_, fun means => ?_⟩, refused, ?_⟩
  · by_cases meaningful : ∃ other, Means limit named operand other
    · -- The tokens tell the number that is stored, so the word means no other.
      obtain ⟨other, means⟩ := meaningful
      have same := lexed.symm.trans
        (lexes_number leads takes plain noSymbol means expression texts)
      have tests := leads.injective (Except.ok.inj same)
      obtain rfl := takes.predicate_injective (congrArg Test.predicate tests)
      exact means
    · obtain ⟨word, error, _, failed, _⟩ := refused meaningful expression texts
      cases lexed.symm.trans failed
  · exact lexes_number leads takes plain noSymbol means expression texts
  · exact fun value within => takes.stored_eq within

end Operand

/-- The largest number of a field, with leading zeros, and one that 32 bits would cut to it. -/
theorem number_is_never_truncated_of_overflow :
    let tokens : List Token := [.test (.bind (.numeric .hopLimit 255) (some .ge) true)]
    lex "NOT ip6 hlim>=0x+000FF" = .ok tokens ∧
      ∃ error, lex "NOT ip6 hlim>=4294967551" = .error error ∧
        error.Refuses ⟨"4294967551", 14⟩ := by
  intro tokens
  have negated : ∀ word ∈ ["not"], Mark.Spells .not word := by simp [Mark.spells_iff, Mark.ofText?]
  have leads : Leads (.number .hopLimit) (some .ge) _ _ :=
    .mk negated (.ip6Field .hlim) (.written .ge)
  have takes : TakesNumber (.number .hopLimit) 255 8 false (.numeric .hopLimit) := .number .hopLimit
  have numeral (operand : String) (plain : Mark.ofText? operand = none) :=
    number_is_never_truncated leads takes plain
  constructor
  · have written : WritesNumber "0x+000ff".toList 255 ∧ 255 < numberBound :=
      numeral_eq_ok_iff.1 rfl
    have lexes := (numeral "0x+000ff" rfl rfl).1 "NOT ip6 hlim>=0x+000FF" (by decide +kernel) 255
    exact lexes.2 (.number written.1 (by decide))
  · have meaningless : ¬ ∃ value, Means 255 false "4294967551" value := by
      rintro ⟨value, ⟨written, within⟩ | ⟨⟨⟩, _⟩⟩
      have read := numeral_eq_ok_iff.2 ⟨written, Nat.lt_of_le_of_lt within (by decide)⟩
      have unread : (Operand.numeral "4294967551".toList).toOption = none := by decide +kernel
      rw [read] at unread
      contradiction
    obtain ⟨word, error, last, failed, refuses⟩ :=
      (numeral "4294967551" rfl rfl).2.1 meaningless "NOT ip6 hlim>=4294967551" (by decide +kernel)
    have found : (Word.cut "NOT ip6 hlim>=4294967551").getLast? = some ⟨"4294967551", 14⟩ := by
      decide +kernel
    obtain rfl := Option.some.inj (last.symm.trans found)
    exact ⟨error, failed, refuses⟩

end Token

end PacketFilter
