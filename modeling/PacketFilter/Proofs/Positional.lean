import Mathlib.Algebra.Ring.Nat
import PacketFilter.Positional

/-!
The value of digits. A fixed count of digits keeps the remainder of a number by the power of the
base.
-/

namespace PacketFilter.Positional

theorem lt_of_mem_digits {base count number digit : Nat} (positive : 0 < base)
    (member : digit ∈ digits base count number) : digit < base := by
  induction count with
  | zero => contradiction
  | succ count inductionHypothesis =>
      rcases List.mem_cons.1 member with rfl | member
      · exact Nat.mod_lt _ positive
      · exact inductionHypothesis member

theorem value_append (base : Nat) (digits : List Nat) (digit : Nat) :
    value base (digits ++ [digit]) = value base digits * base + digit := by
  simp [value]

theorem foldl_digits (base count number start : Nat) :
    (digits base count number).foldl (fun number digit => number * base + digit) start =
      start * base ^ count + number % base ^ count := by
  induction count generalizing start with
  | zero => simp [digits, Nat.mod_one]
  | succ count inductionHypothesis =>
      have power : base.pow count = base ^ count := rfl
      rw [digits, List.foldl_cons, inductionHypothesis, power, Nat.pow_succ, Nat.mod_mul]
      grind

theorem value_digits (base count number : Nat) :
    value base (digits base count number) = number % base ^ count := by
  rw [value, foldl_digits, Nat.zero_mul, Nat.zero_add]

end PacketFilter.Positional
