import PacketFilter.Proofs.Formula.Grammar

/-!
Normal forms of filters. A normal filter has no negation in front of a test or of another negation,
which is how filters are compiled; every filter has a normal one that matches the same packets.
-/

namespace PacketFilter

variable {packet : Packet}

theorem Test.passes_negate (test : Test) : test.negate.passes packet = !test.passes packet := by
  simp [passes, negate]

namespace Formula

def isJunction : Formula → Bool
  | and _ _ => true
  | or _ _ => true
  | _ => false

/-- Only connectives are negated from outside. -/
def Canonical : Formula → Prop
  | test _ => True
  | not operand => operand.isJunction = true ∧ operand.Canonical
  | and left right => left.Canonical ∧ right.Canonical
  | or left right => left.Canonical ∧ right.Canonical

/-- The filter in which negations are taken in or taken off from the inside out. -/
def normal : Formula → Formula
  | test leaf => test leaf
  | not operand => operand.normal.negate
  | and left right => and left.normal right.normal
  | or left right => or left.normal right.normal

theorem negated_mod (formula : Formula) (negations : Nat) :
    formula.negated (negations % 2) = formula.negated negations := by
  rw [negated, negated, Nat.mod_mod]

theorem Canonical.negate {formula : Formula} (canonical : formula.Canonical) :
    formula.negate.Canonical := by
  cases formula with
  | test leaf => trivial
  | not operand => exact canonical.2
  | and left right => exact ⟨rfl, canonical⟩
  | or left right => exact ⟨rfl, canonical⟩

theorem Canonical.negate_negate {formula : Formula} (canonical : formula.Canonical) :
    formula.negate.negate = formula := by
  cases formula with
  | test leaf => rw [Formula.negate, Formula.negate, Test.negate_negate]
  | not operand =>
      have junction := canonical.1
      cases operand with
      | test leaf => contradiction
      | not operand => contradiction
      | and left right => rfl
      | or left right => rfl
  | and left right => rfl
  | or left right => rfl

theorem Canonical.negated_succ {formula : Formula} (canonical : formula.Canonical)
    (negations : Nat) : formula.negated (negations + 1) = formula.negate.negated negations := by
  unfold Formula.negated
  by_cases odd : negations % 2 = 1
  · have even : (negations + 1) % 2 ≠ 1 := by omega
    rw [if_neg even, if_pos odd, canonical.negate_negate]
  · have next : (negations + 1) % 2 = 1 := by omega
    rw [if_pos next, if_neg odd]

theorem canonical_normal (formula : Formula) : formula.normal.Canonical := by
  induction formula with
  | test leaf => trivial
  | not operand inductionHypothesis => exact inductionHypothesis.negate
  | and left right leftHypothesis rightHypothesis => exact ⟨leftHypothesis, rightHypothesis⟩
  | or left right leftHypothesis rightHypothesis => exact ⟨leftHypothesis, rightHypothesis⟩

theorem Canonical.normal_eq {formula : Formula} (canonical : formula.Canonical) :
    formula.normal = formula := by
  induction formula with
  | test leaf => rfl
  | not operand inductionHypothesis =>
      rw [normal, inductionHypothesis canonical.2]
      have junction := canonical.1
      cases operand with
      | test leaf => contradiction
      | not operand => contradiction
      | and left right => rfl
      | or left right => rfl
  | and left right leftHypothesis rightHypothesis =>
      rw [normal, leftHypothesis canonical.1, rightHypothesis canonical.2]
  | or left right leftHypothesis rightHypothesis =>
      rw [normal, leftHypothesis canonical.1, rightHypothesis canonical.2]

theorem accepts_negate (formula : Formula) :
    formula.negate.accepts packet = !formula.accepts packet := by
  cases formula with
  | test leaf => exact leaf.passes_negate
  | not operand => simp [negate, accepts]
  | and left right => rfl
  | or left right => rfl

/-- The normal form of a filter matches the same packets. -/
theorem accepts_normal (formula : Formula) :
    formula.normal.accepts packet = formula.accepts packet := by
  induction formula with
  | test leaf => rfl
  | not operand inductionHypothesis =>
      rw [normal, accepts_negate, inductionHypothesis, accepts]
  | and left right leftHypothesis rightHypothesis =>
      rw [normal, accepts, accepts, leftHypothesis, rightHypothesis]
  | or left right leftHypothesis rightHypothesis =>
      rw [normal, accepts, accepts, leftHypothesis, rightHypothesis]

end Formula

/-- Derivations lead to normal filters. -/
theorem Derives.canonical {level : Level} {tokens : List Token} {formula : Formula}
    (derived : Derives level tokens formula) : formula.Canonical := by
  induction derived with
  | test leaf => trivial
  | group _ inductionHypothesis => exact inductionHypothesis
  | even _ _ _ inductionHypothesis => exact inductionHypothesis
  | odd _ _ _ inductionHypothesis => exact inductionHypothesis.negate
  | factor _ inductionHypothesis => exact inductionHypothesis
  | and _ _ leftHypothesis rightHypothesis => exact ⟨leftHypothesis, rightHypothesis⟩
  | term _ inductionHypothesis => exact inductionHypothesis
  | or _ _ leftHypothesis rightHypothesis => exact ⟨leftHypothesis, rightHypothesis⟩

end PacketFilter
