/-!
The extent of a text in bytes. A character takes between one and four.
-/

namespace PacketFilter.Text

def byteLength : List Char → Nat
  | [] => 0
  | c :: rest => c.utf8Size + byteLength rest

@[simp]
theorem byteLength_append (first second : List Char) :
    byteLength (first ++ second) = byteLength first + byteLength second := by
  induction first with
  | nil => simp [byteLength]
  | cons c rest inductionHypothesis => simp [byteLength, inductionHypothesis, Nat.add_assoc]

theorem byteLength_eq (chars : List Char) :
    byteLength chars = (String.ofList chars).utf8ByteSize := by
  induction chars with
  | nil => rfl
  | cons c chars inductionHypothesis =>
      rw [byteLength, inductionHypothesis, String.ofList_cons, String.utf8ByteSize_append,
        String.utf8ByteSize_singleton]

theorem byteLength_pos {chars : List Char} (nonempty : chars ≠ []) :
    0 < byteLength chars := by
  cases chars with
  | nil => contradiction
  | cons c chars => exact Nat.lt_of_lt_of_le c.utf8Size_pos (Nat.le_add_right _ _)

end PacketFilter.Text
