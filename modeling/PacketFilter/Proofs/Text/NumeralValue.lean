import Mathlib.Data.List.Forall2
import PacketFilter.Proofs.Text.Numeral

/-!
What numerals mean. A numeral is an optional plus sign and one or more digits, and its value is the
number that the digits stand for, however long it is. The reader keeps to a bound digit by digit,
and gives the value exactly if the whole of it stays below the bound.
-/

namespace PacketFilter

namespace Text

variable {base bound number value : Nat} {chars : List Char} {c : Char}

/-- The digit is written as in printed numerals, or with the capital of its letter. -/
def WritesDigit (base : Nat) (c : Char) (digit : Nat) : Prop :=
  digit < base ∧ (c = Nat.digitChar digit ∨ c = (Nat.digitChar digit).toUpper)

/-- One or more digits with their value, behind a plus sign or not. -/
inductive Numeral (base : Nat) : List Char → Nat → Prop where
  | digits {chars digits} : chars ≠ [] → List.Forall₂ (WritesDigit base) chars digits →
      Numeral base chars (Positional.value base digits)
  | plus {chars digits} : chars ≠ [] → List.Forall₂ (WritesDigit base) chars digits →
      Numeral base ('+' :: chars) (Positional.value base digits)

theorem lt_of_digitValue {digit : Nat} (found : digitValue c = some digit) : c.toNat < 128 := by
  unfold digitValue at found
  split at found
  · rename_i decimal
    exact Nat.lt_of_le_of_lt decimal.2 (by decide)
  · split at found
    · rename_i small
      exact Nat.lt_of_le_of_lt small.2 (by decide)
    · split at found
      · rename_i capital
        exact Nat.lt_of_le_of_lt capital.2 (by decide)
      · contradiction

theorem digitValue_ofNat : ∀ code < 128, ∀ digit < 16,
    digitValue (Char.ofNat code) = some digit ↔
      Char.ofNat code = Nat.digitChar digit ∨
        Char.ofNat code = (Nat.digitChar digit).toUpper := by
  decide +kernel

theorem digitChar_lt : ∀ digit < 16,
    (Nat.digitChar digit).toNat < 128 ∧ (Nat.digitChar digit).toUpper.toNat < 128 := by
  decide

theorem digit?_eq_some_iff (small : base ≤ 16) {digit : Nat} :
    digit? base c = some digit ↔ WritesDigit base c digit := by
  have writes (below : c.toNat < 128) (lt : digit < 16) :
      digitValue c = some digit ↔
        c = Nat.digitChar digit ∨ c = (Nat.digitChar digit).toUpper := by
    simpa only [Char.ofNat_toNat] using digitValue_ofNat c.toNat below digit lt
  rw [digit?, Option.filter_eq_some_iff, decide_eq_true_eq]
  constructor
  · rintro ⟨found, lt⟩
    exact ⟨lt, (writes (lt_of_digitValue found) (by omega)).1 found⟩
  · rintro ⟨lt, written⟩
    have below : c.toNat < 128 := by
      obtain ⟨plain, capital⟩ := digitChar_lt digit (by omega)
      rcases written with rfl | rfl
      · exact plain
      · exact capital
    exact ⟨(writes below (by omega)).2 written, lt⟩

theorem appendDigit_eq_ok_iff (small : base ≤ 16) {next : Nat} :
    appendDigit base bound number c = .ok next ↔
      ∃ digit, WritesDigit base c digit ∧ next = number * base + digit ∧ next < bound := by
  simp only [← digit?_eq_some_iff small, appendDigit]
  cases digit? base c with
  | none => simp
  | some digit =>
      simp only [Option.some.injEq, exists_eq_left']
      split
      · rename_i below
        rw [Except.ok.injEq]
        constructor
        · rintro rfl
          exact ⟨rfl, below⟩
        · rintro ⟨rfl, _⟩
          rfl
      · rename_i above
        simp only [reduceCtorEq, false_iff]
        rintro ⟨rfl, below⟩
        exact above below

/-- Digits are appended one after the other up to their value if it is below the bound: the numbers
on the way are not larger. -/
theorem foldlM_appendDigit_eq_ok_iff (positive : 0 < base) (small : base ≤ 16)
    (start : number < bound) :
    chars.foldlM (appendDigit base bound) number = .ok value ↔
      ∃ digits, List.Forall₂ (WritesDigit base) chars digits ∧
        value = digits.foldl (fun number digit => number * base + digit) number ∧
        value < bound := by
  induction chars generalizing number with
  | nil =>
      simp only [List.forall₂_nil_left_iff, exists_eq_left, List.foldl_nil]
      constructor
      · intro same
        cases same
        exact ⟨rfl, start⟩
      · rintro ⟨rfl, _⟩
        rfl
  | cons c chars inductionHypothesis =>
      rw [List.foldlM_cons, bind_eq_ok]
      constructor
      · rintro ⟨next, appended, folded⟩
        obtain ⟨digit, writes, rfl, below⟩ := (appendDigit_eq_ok_iff small).1 appended
        obtain ⟨digits, others, rfl, fits⟩ := (inductionHypothesis below).1 folded
        exact ⟨digit :: digits, .cons writes others, rfl, fits⟩
      · rintro ⟨_, written, rfl, fits⟩
        cases written with
        | @cons _ digit _ digits writes others =>
            -- The digits to come make no number smaller, so this one is below the bound already.
            have below : number * base + digit < bound :=
              Nat.lt_of_le_of_lt (le_foldl positive _ digits) fits
            refine ⟨number * base + digit, ?_, ?_⟩
            · exact (appendDigit_eq_ok_iff small).2 ⟨digit, writes, rfl, below⟩
            · exact (inductionHypothesis below).2 ⟨digits, others, rfl, fits⟩

theorem not_writesDigit (small : base ≤ 16)
    (other : ∀ digit < 16, c ≠ Nat.digitChar digit ∧ c ≠ (Nat.digitChar digit).toUpper)
    (digit : Nat) : ¬ WritesDigit base c digit := by
  rintro ⟨lt, written⟩
  obtain ⟨notPlain, notCapital⟩ := other digit (by omega)
  rcases written with plain | capital
  · exact notPlain plain
  · exact notCapital capital

/-- The characters that a decimal numeral can start with. -/
def numeralStarts : List Char := ['+', '0', '1', '2', '3', '4', '5', '6', '7', '8', '9']

theorem digitChar_mem_numeralStarts : ∀ digit < 10,
    Nat.digitChar digit ∈ numeralStarts ∧ (Nat.digitChar digit).toUpper ∈ numeralStarts := by
  decide

theorem Numeral.exists_head (numeral : Numeral 10 chars value) :
    ∃ c ∈ numeralStarts, chars.head? = some c := by
  cases numeral with
  | plus => exact ⟨'+', by decide, rfl⟩
  | digits nonempty written =>
      cases written with
      | nil => contradiction
      | @cons c digit _ _ writes _ =>
          obtain ⟨lt, rfl | rfl⟩ := writes
          · exact ⟨_, (digitChar_mem_numeralStarts digit lt).1, rfl⟩
          · exact ⟨_, (digitChar_mem_numeralStarts digit lt).2, rfl⟩

theorem numeral_plus_iff (small : base ≤ 16) :
    Numeral base ('+' :: chars) value ↔
      chars ≠ [] ∧ ∃ digits, List.Forall₂ (WritesDigit base) chars digits ∧
        value = Positional.value base digits := by
  constructor
  · intro numeral
    cases numeral with
    | digits _ written =>
        cases written with
        | cons writes _ => exact absurd writes (not_writesDigit small (by decide) _)
    | plus nonempty written => exact ⟨nonempty, _, written, rfl⟩
  · rintro ⟨nonempty, digits, written, rfl⟩
    exact .plus nonempty written

theorem numeral_iff_of_head_ne (other : '+' ∉ chars.head?) :
    Numeral base chars value ↔
      chars ≠ [] ∧ ∃ digits, List.Forall₂ (WritesDigit base) chars digits ∧
        value = Positional.value base digits := by
  constructor
  · intro numeral
    cases numeral with
    | digits nonempty written => exact ⟨nonempty, _, written, rfl⟩
    | plus => exact absurd rfl other
  · rintro ⟨nonempty, digits, written, rfl⟩
    exact .digits nonempty written

/-- A text is read as a number exactly if it is a numeral of the number, and the number is below
the bound. -/
theorem readNumeral_eq_ok_iff (positive : 0 < base) (small : base ≤ 16) (bounded : 0 < bound) :
    readNumeral base bound chars = .ok value ↔ Numeral base chars value ∧ value < bound := by
  have folds (chars : List Char) (nonempty : chars ≠ []) :
      chars.foldlM (appendDigit base bound) 0 = .ok value ↔
        (chars ≠ [] ∧ ∃ digits, List.Forall₂ (WritesDigit base) chars digits ∧
          value = Positional.value base digits) ∧ value < bound := by
    rw [foldlM_appendDigit_eq_ok_iff positive small bounded]
    simp only [nonempty, ne_eq, not_false_eq_true, true_and, ← and_assoc, exists_and_right]
    rfl
  unfold readNumeral
  split
  · simp [numeral_iff_of_head_ne]
  · simp [numeral_plus_iff small]
  · rename_i digits nonempty
    rw [numeral_plus_iff small, folds digits nonempty]
  · rename_i nonempty _ noPlus
    rw [numeral_iff_of_head_ne, folds _ nonempty]
    intro member
    obtain ⟨rest, rfl⟩ := List.head?_eq_some_iff.1 member
    exact noPlus rest rfl

end Text

end PacketFilter
