import PacketFilter.Operand
import PacketFilter.Proofs.Positional

/-!
Numerals are read as the numbers that they were printed for. The digits of a printed numeral are
known by their values: the first is no zero, unless zero itself is printed, and their value is the
number.
-/

namespace PacketFilter

namespace Text

variable {base number bound : Nat} {digits : List Nat} {rest : List Char}

structure Spelled (base number : Nat) (digits : List Nat) : Prop where
  chars : Nat.toDigits base number = digits.map Nat.digitChar
  lt : ∀ digit ∈ digits, digit < base
  value : Positional.value base digits = number
  head : 0 < number → digits.head? ≠ some 0

theorem exists_spelled (large : 1 < base) (number : Nat) :
    ∃ digits, Spelled base number digits := by
  induction number using Nat.base_induction base large with
  | single digit lt =>
      refine ⟨[digit], Nat.toDigits_of_lt_base lt, ?_, ?_, ?_⟩
      · simpa using lt
      · simp [Positional.value]
      · intro positive
        simp
        omega
  | digit front digit lt positive inductionHypothesis =>
      obtain ⟨digits, chars, small, value, head⟩ := inductionHypothesis
      refine ⟨digits ++ [digit], ?_, ?_, ?_, ?_⟩
      · rw [← Nat.toDigits_append_toDigits large positive lt, chars,
          Nat.toDigits_of_lt_base lt, List.map_append]
        rfl
      · intro other member
        rcases List.mem_append.1 member with member | member
        · exact small other member
        · rw [List.mem_singleton.1 member]
          exact lt
      · rw [Positional.value_append, value, Nat.mul_comm]
      · intro _
        cases digits with
        | nil => exact absurd chars Nat.toDigits_ne_nil
        | cons first others => exact head positive

theorem digitValue_digitChar : ∀ digit < 16, digitValue (Nat.digitChar digit) = some digit := by
  decide

theorem digit?_digitChar {digit : Nat} (small : base ≤ 16) (lt : digit < base) :
    digit? base (Nat.digitChar digit) = some digit := by
  rw [digit?, digitValue_digitChar digit (by omega)]
  simp [lt]

def NoDigit (base : Nat) (rest : List Char) : Prop :=
  ∀ c ∈ rest.head?, digit? base c = none

theorem leadingDigits_map (small : base ≤ 16) (lt : ∀ digit ∈ digits, digit < base)
    (noDigit : NoDigit base rest) :
    leadingDigits base (digits.map Nat.digitChar ++ rest) = (digits, rest) := by
  induction digits with
  | nil =>
      cases rest with
      | nil => rfl
      | cons c rest => simp [leadingDigits, noDigit c rfl]
  | cons digit digits inductionHypothesis =>
      have first := digit?_digitChar small (lt digit List.mem_cons_self)
      have others :=
        inductionHypothesis fun other member => lt other (List.mem_cons_of_mem _ member)
      simp [leadingDigits, first, others]

theorem le_foldl (positive : 0 < base) (number : Nat) (digits : List Nat) :
    number ≤ digits.foldl (fun number digit => number * base + digit) number := by
  induction digits generalizing number with
  | nil => exact Nat.le_refl _
  | cons digit digits inductionHypothesis =>
      have step : number ≤ number * base + digit :=
        Nat.le_trans (Nat.le_mul_of_pos_right number positive) (Nat.le_add_right ..)
      exact Nat.le_trans step (inductionHypothesis _)

theorem foldlM_appendDigit (large : 1 < base) (small : base ≤ 16)
    (lt : ∀ digit ∈ digits, digit < base)
    (fits : digits.foldl (fun number digit => number * base + digit) number < bound) :
    (digits.map Nat.digitChar).foldlM (appendDigit base bound) number =
      .ok (digits.foldl (fun number digit => number * base + digit) number) := by
  induction digits generalizing number with
  | nil => rfl
  | cons digit digits inductionHypothesis =>
      have first := digit?_digitChar small (lt digit List.mem_cons_self)
      have below : number * base + digit < bound :=
        Nat.lt_of_le_of_lt (le_foldl (by omega) _ digits) fits
      have appended : appendDigit base bound number (Nat.digitChar digit) =
          .ok (number * base + digit) := by
        simp [appendDigit, first, below]
      rw [List.map_cons, List.foldlM_cons, appended, ok_bind]
      exact inductionHypothesis (fun other member => lt other (List.mem_cons_of_mem _ member)) fits

theorem readNumeral_toDigits (large : 1 < base) (small : base ≤ 16) (fits : number < bound) :
    readNumeral base bound (Nat.toDigits base number) = .ok number := by
  obtain ⟨digits, chars, lt, rfl, _⟩ := exists_spelled large number
  have folded := foldlM_appendDigit large small lt fits
  rw [chars]
  cases digits with
  | nil => exact absurd chars Nat.toDigits_ne_nil
  | cons digit digits =>
      have noPlus : Nat.digitChar digit ≠ '+' := Nat.digitChar_ne '+' (by decide)
      unfold readNumeral
      split
      · contradiction
      · rename_i same
        exact absurd (List.cons.inj same).1 noPlus
      · rename_i same
        exact absurd (List.cons.inj same).1 noPlus
      · exact folded

end Text

/-- A printed number is read back, for no second digit is the letter that announces a hexadecimal
numeral. -/
theorem Operand.numeral_decimal {number : Nat} (fits : number < numberBound) :
    numeral (Text.decimal number).toList = .ok number := by
  have read := Text.readNumeral_toDigits (show 1 < 10 by decide) (by decide) fits
  rw [Text.decimal, String.toList_ofList]
  unfold numeral
  split
  · rename_i digits chars
    obtain ⟨values, spelled, _⟩ := Text.exists_spelled (show 1 < 10 by decide) number
    rw [spelled] at chars
    obtain ⟨first, others, rfl, _, behind⟩ := List.map_eq_cons_iff.1 chars
    obtain ⟨second, further, rfl, letter, _⟩ := List.map_eq_cons_iff.1 behind
    exact absurd letter (Nat.digitChar_ne 'x' (by decide))
  · exact read

end PacketFilter
