/-!
Numbers written with a fixed count of digits, the most significant first. Octets of an address,
groups of an address and the bytes of a header field are all read and written this way.
-/

namespace PacketFilter.Positional

/-- The last `count` digits of `value` in `base`. -/
def digits (base : Nat) : Nat → Nat → List Nat
  | 0, _ => []
  | count + 1, value => value / base.pow count % base :: digits base count value

def value (base : Nat) (digits : List Nat) : Nat :=
  digits.foldl (fun number digit => number * base + digit) 0

@[simp]
theorem length_digits (base count number : Nat) : (digits base count number).length = count := by
  induction count with
  | zero => rfl
  | succ count inductionHypothesis => simp [digits, inductionHypothesis]

end PacketFilter.Positional
