import PacketFilter.Proofs.Token.Parentheses
import PacketFilter.Proofs.Token.Seams

/-!
How the parentheses that are lexed nest. Every parenthesis that is written becomes a token, inside
of those inside of which it is written; the others come in pairs around the conjunction of a
qualifier and a test, with nothing else in between, so that no written one is between them.
-/

namespace PacketFilter

namespace Token

def IsParenthesis (token : Token) : Prop :=
  token = openParen ∨ token = closeParen

def parenthesis? (word : String) : Option Token :=
  match Mark.ofText? word with
  | some .openParen => some openParen
  | some .closeParen => some closeParen
  | _ => none

def parentheses (words : List String) : List Token :=
  words.filterMap parenthesis?

/-- Two tests that both have to hold, in parentheses. -/
def conjunction (qualifier leaf : Test) : List Token :=
  [openParen, .test qualifier, and, .test leaf, closeParen]

/-- The tokens with the written parentheses among them, and with others around conjunctions. -/
inductive Emits : List Token → List Token → Prop where
  | nil : Emits [] []
  | parenthesis {tokens written token} : IsParenthesis token → Emits tokens written →
      Emits (tokens ++ [token]) (written ++ [token])
  | other {tokens written token} : ¬ IsParenthesis token → Emits tokens written →
      Emits (tokens ++ [token]) written
  | conjunction {tokens written} (qualifier leaf : Test) : Emits tokens written →
      Emits (tokens ++ conjunction qualifier leaf) written

def OfConjunction (tokens : List Token) (place : Nat) : Prop :=
  ∃ before qualifier leaf behind, tokens = before ++ (conjunction qualifier leaf ++ behind) ∧
    (place = before.length ∨ place = before.length + 4)

/-- The written parentheses are found among the tokens at their places, each inside of those inside
of which it is written, and all other parentheses are those of conjunctions. -/
structure NestsAs (tokens written : List Token) (places : Nat → Nat) : Prop where
  increasing : ∀ first second, first < second → second < written.length →
    places first < places second
  found : ∀ index < written.length, tokens[places index]? = written[index]?
  enclosed : ∀ index < written.length,
    openPlaces (tokens.take (places index)) = (openPlaces (written.take index)).map places
  opened : openPlaces tokens = (openPlaces written).map places
  others : ∀ place token, tokens[place]? = some token → IsParenthesis token →
    (∃ index < written.length, places index = place) ∨ OfConjunction tokens place

variable {tokens written more : List Token} {token : Token} {places : Nat → Nat}

theorem openPlaces_append_other (other : ¬ IsParenthesis token) (tokens : List Token) :
    openPlaces (tokens ++ [token]) = openPlaces tokens := by
  rw [openPlaces_concat]
  cases token with
  | openParen => exact absurd (.inl rfl) other
  | closeParen => exact absurd (.inr rfl) other
  | test | and | or | not => rfl

theorem openPlaces_conjunction_front (tokens : List Token) (qualifier leaf : Test) :
    openPlaces (tokens ++ [openParen, .test qualifier, and, .test leaf]) =
      tokens.length :: openPlaces tokens := by
  have cut : tokens ++ [openParen, .test qualifier, and, .test leaf] =
      tokens ++ [openParen] ++ [.test qualifier] ++ [and] ++ [.test leaf] := by simp
  rw [cut, openPlaces_concat, openPlaces_concat, openPlaces_concat, openPlaces_concat]
  rfl

theorem openPlaces_append_conjunction (tokens : List Token) (qualifier leaf : Test) :
    openPlaces (tokens ++ conjunction qualifier leaf) = openPlaces tokens := by
  have cut : tokens ++ conjunction qualifier leaf =
      tokens ++ [openParen, .test qualifier, and, .test leaf] ++ [closeParen] := by
    simp [conjunction]
  rw [cut, openPlaces_concat, openPlaces_conjunction_front]
  rfl

theorem place_of_conjunction {qualifier leaf : Test} {offset : Nat}
    (found : (conjunction qualifier leaf)[offset]? = some token)
    (parenthesis : IsParenthesis token) : offset = 0 ∨ offset = 4 := by
  match offset with
  | 0 => exact .inl rfl
  | 1 | 2 | 3 =>
      cases found
      rcases parenthesis with same | same <;> contradiction
  | 4 => exact .inr rfl
  | offset + 5 => contradiction

theorem OfConjunction.append {place : Nat} (inside : OfConjunction tokens place)
    (more : List Token) : OfConjunction (tokens ++ more) place := by
  obtain ⟨before, qualifier, leaf, behind, rfl, same⟩ := inside
  exact ⟨before, qualifier, leaf, behind ++ more, by simp, same⟩

namespace NestsAs

theorem lt_length (nests : NestsAs tokens written places) {index : Nat}
    (inside : index < written.length) : places index < tokens.length := by
  have found := nests.found index inside
  rw [List.getElem?_eq_getElem inside] at found
  exact (List.getElem?_eq_some_iff.1 found).1

theorem nil : NestsAs [] [] id where
  increasing := by simp
  found := by simp
  enclosed := by simp
  opened := rfl
  others := by simp

theorem append (nests : NestsAs tokens written places)
    (same : openPlaces (tokens ++ more) = openPlaces tokens)
    (others : ∀ (offset : Nat) token, more[offset]? = some token → IsParenthesis token →
      OfConjunction (tokens ++ more) (tokens.length + offset)) :
    NestsAs (tokens ++ more) written places where
  increasing := nests.increasing
  found index inside := by
    rw [List.getElem?_append_left (nests.lt_length inside)]
    exact nests.found index inside
  enclosed index inside := by
    rw [List.take_append_of_le_length (Nat.le_of_lt (nests.lt_length inside))]
    exact nests.enclosed index inside
  opened := same.trans nests.opened
  others place token found parenthesis := by
    by_cases front : place < tokens.length
    · rw [List.getElem?_append_left front] at found
      rcases nests.others place token found parenthesis with listed | inside
      · exact .inl listed
      · exact .inr (inside.append more)
    · have beyond : tokens.length ≤ place := Nat.le_of_not_lt front
      rw [List.getElem?_append_right beyond] at found
      have inside := others _ token found parenthesis
      rw [Nat.add_sub_cancel' beyond] at inside
      exact .inr inside

def next (tokens written : List Token) (places : Nat → Nat) (index : Nat) : Nat :=
  if index < written.length then places index else tokens.length

theorem next_of_lt {index : Nat} (inside : index < written.length) :
    next tokens written places index = places index :=
  if_pos inside

theorem next_length : next tokens written places written.length = tokens.length :=
  if_neg (Nat.lt_irrefl _)

theorem map_next (tokens : List Token) (places : Nat → Nat) {count : Nat}
    (inside : count ≤ written.length) :
    (openPlaces (written.take count)).map (next tokens written places) =
      (openPlaces (written.take count)).map places := by
  apply List.map_congr_left
  intro place member
  have front := lt_length_of_mem_openPlaces member
  rw [List.length_take] at front
  exact next_of_lt (by omega)

theorem concat (nests : NestsAs tokens written places) (parenthesis : IsParenthesis token) :
    NestsAs (tokens ++ [token]) (written ++ [token]) (next tokens written places) := by
  have opened : openPlaces tokens = (openPlaces written).map (next tokens written places) := by
    have same := map_next tokens places (Nat.le_refl written.length)
    rw [List.take_length] at same
    rw [same, nests.opened]
  -- A parenthesis is one of those so far, which stay where they are, or the new one behind them.
  have front_or_last {index : Nat} (inside : index < (written ++ [token]).length) :
      index < written.length ∨ index = written.length := by
    rw [List.length_append, List.length_singleton] at inside
    omega
  refine ⟨fun first second before inside => ?_, fun index inside => ?_, fun index inside => ?_, ?_,
    fun place other found isOther => ?_⟩
  · rcases front_or_last inside with front | rfl
    · rw [next_of_lt (Nat.lt_trans before front), next_of_lt front]
      exact nests.increasing first second before front
    · rw [next_of_lt before, next_length]
      exact nests.lt_length before
  · rcases front_or_last inside with front | rfl
    · rw [next_of_lt front, List.getElem?_append_left (nests.lt_length front),
        List.getElem?_append_left front]
      exact nests.found index front
    · simp [next_length]
  · rcases front_or_last inside with front | rfl
    · rw [next_of_lt front, List.take_append_of_le_length (Nat.le_of_lt (nests.lt_length front)),
        List.take_append_of_le_length (Nat.le_of_lt front), map_next _ _ (Nat.le_of_lt front)]
      exact nests.enclosed index front
    · rw [next_length, List.take_left, List.take_left]
      exact opened
  · rw [openPlaces_concat, openPlaces_concat, opened]
    rcases parenthesis with rfl | rfl
    · simp [opensNext, next_length]
    · simp [opensNext, List.map_tail]
  · by_cases front : place < tokens.length
    · rw [List.getElem?_append_left front] at found
      rcases nests.others place other found isOther with ⟨index, listed, rfl⟩ | inside
      · refine .inl ⟨index, ?_, next_of_lt listed⟩
        rw [List.length_append]
        exact Nat.lt_add_right _ listed
      · exact .inr (inside.append [token])
    · have last : place = tokens.length := by
        have inside := (List.getElem?_eq_some_iff.1 found).1
        rw [List.length_append, List.length_singleton] at inside
        omega
      refine .inl ⟨written.length, ?_, next_length.trans last.symm⟩
      simp

end NestsAs

theorem Emits.exists_nestsAs (emits : Emits tokens written) :
    ∃ places, NestsAs tokens written places := by
  induction emits with
  | nil => exact ⟨id, .nil⟩
  | parenthesis parenthesis _ inductionHypothesis =>
      obtain ⟨places, nests⟩ := inductionHypothesis
      exact ⟨_, nests.concat parenthesis⟩
  | @other tokens written token other _ inductionHypothesis =>
      obtain ⟨places, nests⟩ := inductionHypothesis
      refine ⟨places, nests.append (openPlaces_append_other other tokens) ?_⟩
      intro offset found same parenthesis
      have listed : found ∈ [token] := List.mem_of_getElem? same
      rw [List.mem_singleton.1 listed] at parenthesis
      exact absurd parenthesis other
  | @conjunction tokens written qualifier leaf _ inductionHypothesis =>
      obtain ⟨places, nests⟩ := inductionHypothesis
      refine ⟨places, nests.append (openPlaces_append_conjunction tokens qualifier leaf) ?_⟩
      intro offset found same parenthesis
      refine ⟨tokens, qualifier, leaf, [], by simp, ?_⟩
      rcases place_of_conjunction same parenthesis with rfl | rfl
      · exact .inl rfl
      · exact .inr rfl

namespace NestsAs

variable (nests : NestsAs tokens written places)

include nests

/-- The tokens are balanced exactly if the written parentheses are: a conjunction closes the
parenthesis that it opens. -/
theorem balanced_iff : Balanced tokens ↔ Balanced written := by
  constructor
  · rintro ⟨matched, closed⟩
    refine ⟨fun index closing places_nil => ?_, ?_⟩
    · have inside := (List.getElem?_eq_some_iff.1 closing).1
      apply matched _ ((nests.found index inside).trans closing)
      rw [nests.enclosed index inside, places_nil, List.map_nil]
    · rw [nests.opened] at closed
      exact List.map_eq_nil_iff.1 closed
  · rintro ⟨matched, closed⟩
    refine ⟨fun place closing => ?_, ?_⟩
    · rcases nests.others place _ closing (.inr rfl) with ⟨index, inside, rfl⟩ | conjunction
      · rw [nests.enclosed index inside]
        have written := (nests.found index inside).symm.trans closing
        exact mt List.map_eq_nil_iff.1 (matched index written)
      · obtain ⟨before, qualifier, leaf, behind, rfl, rfl | rfl⟩ := conjunction
        · simp [Token.conjunction] at closing
        · have front : (before ++ (Token.conjunction qualifier leaf ++ behind)).take
              (before.length + 4) = before ++ [openParen, .test qualifier, and, .test leaf] := by
            simp [Token.conjunction, List.take_append]
          rw [front, openPlaces_conjunction_front]
          exact List.cons_ne_nil _ _
    · rw [nests.opened, closed, List.map_nil]

end NestsAs

theorem parentheses_append (first second : List String) :
    parentheses (first ++ second) = parentheses first ++ parentheses second :=
  List.filterMap_append

theorem parentheses_of_unmarked {words : List String} (unmarked : Unmarked words) :
    parentheses words = [] := by
  rw [parentheses, List.filterMap_eq_nil_iff]
  intro word member
  rw [parenthesis?, unmarked word member]

theorem Emits.append_piece {piece : Piece} {words : List String} (emits : Emits tokens written)
    (spells : piece.Spells words) (negations : Nat) :
    Emits (tokens ++ piece.tokens negations) (written ++ parentheses words) := by
  have negated (condition : Prop) [Decidable condition] :
      Emits (tokens ++ if condition then [.not] else []) written := by
    split
    · exact emits.other (by simp [IsParenthesis])
    · rwa [List.append_nil]
  cases spells with
  | @mark mark word spelled =>
      have found := Mark.spells_iff.1 spelled
      cases mark with
      | not => simpa [parentheses, parenthesis?, found, Piece.tokens] using emits
      | openParen =>
          have opened := Emits.parenthesis (.inl rfl) (negated (negations % 2 = 1))
          simpa [parentheses, parenthesis?, found, Piece.tokens] using opened
      | closeParen =>
          have closed := Emits.parenthesis (.inr rfl) emits
          simpa [parentheses, parenthesis?, found, Piece.tokens] using closed
      | and | or =>
          simpa [parentheses, parenthesis?, found, Piece.tokens] using
            emits.other (by simp [IsParenthesis])
  | @primitive form primitive words spelled =>
      rw [parentheses_of_unmarked spelled.unmarked, List.append_nil]
      cases primitive with
      | single leaf => exact emits.other (by simp [IsParenthesis])
      | qualified qualifier leaf =>
          have grouped := Emits.conjunction qualifier leaf (negated (negations % 2 = 1))
          simpa [Piece.tokens, Primitive.tokensBehind, Token.conjunction] using grouped

theorem Emits.append_tokensOf {pieces : List Piece} {words : List String}
    (emits : Emits tokens written) (cut : Piece.Cut pieces words) (negations : Nat) :
    Emits (tokens ++ Piece.tokensOf negations pieces) (written ++ parentheses words) := by
  induction cut generalizing tokens written negations with
  | nil => simpa [Piece.tokensOf, parentheses] using emits
  | @cons piece pieces front rest spells _ inductionHypothesis =>
      have next := inductionHypothesis (emits.append_piece spells negations)
        (piece.count negations)
      rw [List.append_assoc, List.append_assoc] at next
      rw [parentheses_append]
      exact next

/-- The parentheses that are lexed nest as they are written. -/
theorem Lexed.exists_nestsAs {words : List String} (lexed : Lexed words tokens) :
    ∃ places, NestsAs tokens (parentheses words) places := by
  obtain ⟨pieces, cut, _, _, rfl⟩ := lexed
  exact (Emits.nil.append_tokensOf cut 0).exists_nestsAs

end Token

end PacketFilter
