import PacketFilter.Proofs.Phrase.Faults
import PacketFilter.Proofs.Token.Lexing

/-!
The faults of expressions that cannot be lexed. Every word has its place in the expression: the
bytes in front of it are those of whole characters, and the word is the lowercased text that starts
there, so the place of a fault tells the word. A fault of the lexer is one of a reader, or a
negation that nothing follows, whose place has been kept since it was met.
-/

namespace PacketFilter

open Text

namespace Word

variable {chars : List Char} {offset : Nat}

theorem splitFirst_ne_nil (c : Char) (rest : List Char) : (splitFirst c rest).1 ≠ [] := by
  unfold splitFirst
  split
  · simp
  · split
    · split
      · split <;> simp
      · simp
    · simp

theorem exists_of_mem_slices {slice : Slice} (member : slice ∈ slices offset chars) :
    ∃ before after, chars = before ++ slice.chars ++ after ∧ slice.chars ≠ [] ∧
      slice.offset = offset + byteLength before := by
  fun_induction slices offset chars with
  | case1 => contradiction
  | case2 offset c rest blank inductionHypothesis =>
      obtain ⟨before, after, split, nonempty, place⟩ := inductionHypothesis member
      refine ⟨c :: before, after, ?_, nonempty, ?_⟩
      · rw [split]
        rfl
      · rw [place, byteLength, Nat.add_assoc]
  | case3 offset c rest other word inductionHypothesis =>
      rcases List.mem_cons.1 member with rfl | member
      · exact ⟨[], _, (splitFirst_append c rest).symm, splitFirst_ne_nil c rest, rfl⟩
      · obtain ⟨before, after, split, nonempty, place⟩ := inductionHypothesis member
        refine ⟨word ++ before, after, ?_, nonempty, ?_⟩
        · rw [← splitFirst_append c rest, split]
          simp [word]
        · rw [place, byteLength_append, Nat.add_assoc]

theorem pairwise_slices (offset : Nat) (chars : List Char) :
    (slices offset chars).Pairwise (·.offset < ·.offset) := by
  fun_induction slices offset chars with
  | case1 => exact .nil
  | case2 offset c rest blank inductionHypothesis => exact inductionHypothesis
  | case3 offset c rest other word inductionHypothesis =>
      refine .cons (fun slice member => ?_) inductionHypothesis
      obtain ⟨before, after, _, _, place⟩ := exists_of_mem_slices member
      have positive : 0 < byteLength word := byteLength_pos (splitFirst_ne_nil c rest)
      rw [place]
      dsimp only
      omega

/-- The word is the lowercased text that starts at its place in the expression, behind whole
characters. -/
def StandsIn (word : Word) (expression : String) : Prop :=
  ∃ front written behind : String, expression = front ++ written ++ behind ∧ written ≠ "" ∧
    word.position = front.utf8ByteSize ∧ word.text = String.ofList (lowercase written.toList)

theorem standsIn_of_mem_cut {word : Word} {expression : String}
    (member : word ∈ cut expression) : word.StandsIn expression := by
  obtain ⟨slice, listed, rfl⟩ := List.mem_map.1 member
  obtain ⟨before, after, split, nonempty, place⟩ := exists_of_mem_slices listed
  refine ⟨String.ofList before, String.ofList slice.chars, String.ofList after, ?_, ?_, ?_, ?_⟩
  · rw [← String.ofList_append, ← String.ofList_append, ← split, String.ofList_toList]
  · exact fun empty => nonempty (String.ofList_eq_empty_iff.1 empty)
  · rw [← byteLength_eq, ofSlice, place, Nat.zero_add]
  · rw [ofSlice, String.toList_ofList]

theorem pairwise_cut (expression : String) :
    (cut expression).Pairwise (·.position < ·.position) :=
  (pairwise_slices 0 expression.toList).map ofSlice fun _ _ before => before

end Word

theorem Mark.Spells.negation {text : String} (spells : Spells .not text) :
    text = "not" ∨ text = "!" := by
  cases spells with
  | not => exact .inl rfl
  | exclamation => exact .inr rfl

namespace Token

variable {words : List Word} {pending : Option Nat} {error : FilterError}

def KeepsPlace (all : List Word) (pending : Option Nat) : Prop :=
  ∀ position ∈ pending, ∃ word ∈ all, (word.text = "not" ∨ word.text = "!") ∧
    word.position = position

theorem keepsPlace_none (all : List Word) : KeepsPlace all none := by
  intro position pending
  contradiction

theorem KeepsPlace.points {all : List Word} {position : Nat}
    (keeps : KeepsPlace all (some position)) :
    FilterError.PointsInto all (.danglingNot position) := by
  obtain ⟨word, member, negation, rfl⟩ := keeps position rfl
  exact .danglingNot member negation

/-- A fault of the lexer is in the words that it was given. Those in front have been read. -/
theorem ofWords_points {all : List Word} (inside : words <:+ all) (keeps : KeepsPlace all pending)
    (failed : ofWords pending words = .error error) : error.PointsInto all := by
  fun_induction ofWords pending words with
  | case1 position =>
      cases failed
      exact keeps.points
  | case2 => contradiction
  | case3 pending word rest negation inductionHypothesis =>
      have behind := (List.suffix_cons word rest).trans inside
      refine inductionHypothesis behind ?_ failed
      split
      · exact keepsPlace_none all
      · intro position same
        cases same
        have spelled := (Mark.spells_iff.2 negation).negation
        exact ⟨word, inside.subset List.mem_cons_self, spelled, rfl⟩
  | case4 pending word rest opening inductionHypothesis =>
      have behind := (List.suffix_cons word rest).trans inside
      rcases bind_eq_error.1 failed with failed | ⟨tokens, _, joined⟩
      · exact inductionHypothesis behind (keepsPlace_none all) failed
      · contradiction
  | case5 word rest mark _ _ _ position =>
      cases failed
      exact keeps.points
  | case6 word rest mark _ _ _ inductionHypothesis =>
      have behind := (List.suffix_cons word rest).trans inside
      rcases bind_eq_error.1 failed with failed | ⟨tokens, _, joined⟩
      · exact inductionHypothesis behind (keepsPlace_none all) failed
      · contradiction
  | case7 pending word rest _ fault unread =>
      cases failed
      exact (Primitive.read_points unread).of_suffix inside
  | case8 pending word rest _ primitive left read inductionHypothesis =>
      obtain ⟨form, front, split, _⟩ := Primitive.spelled_of_read read
      have behind : left <:+ all := .trans ⟨front, split.symm⟩ inside
      rcases bind_eq_error.1 failed with failed | ⟨tokens, _, joined⟩
      · exact inductionHypothesis behind (keepsPlace_none all) failed
      · contradiction

/-- An expression that cannot be lexed has a fault of the lexer, which names one of its words: by
its text, or a negation by its place alone. The words stand where they say, one behind the
other, so that the place tells the word. -/
theorem lex_points {expression : String} (failed : lex expression = .error error) :
    error.PointsInto (Word.cut expression) ∧
      (∀ word ∈ Word.cut expression, word.StandsIn expression) ∧
      (Word.cut expression).Pairwise (·.position < ·.position) ∧
      error ≠ .emptyExpression ∧ error ≠ .unbalancedParenthesis ∧
      ∀ reason, error ≠ .incomplete reason := by
  have points : error.PointsInto (Word.cut expression) :=
    ofWords_points (List.suffix_refl _) (keepsPlace_none _) failed
  refine ⟨points, fun word => Word.standsIn_of_mem_cut, Word.pairwise_cut expression, ?_, ?_, ?_⟩
  · rintro rfl
    contradiction
  · rintro rfl
    contradiction
  · rintro reason rfl
    contradiction

/-- Blanks of two and three bytes stand in front of a letter that takes two, and three when
lowercased. -/
theorem lex_points_of_wide_blanks :
    let expression := "\u00a0ttl\u3000\u0130"
    let word : Word := ⟨"i\u0307", 8⟩
    let error : FilterError :=
      .invalidOperand word "integer in 0..=255" "invalid digit found in string"
    lex expression = .error error ∧ Word.cut expression = [⟨"ttl", 2⟩, word] ∧
      error.PointsInto (Word.cut expression) ∧ word.StandsIn expression := by
  intro expression word error
  have failed : lex expression = .error error := by
    have fault : (match lex expression with
        | .error fault => some fault
        | .ok _ => none) = some error := by decide +kernel
    split at fault
    · rename_i refused
      cases fault
      exact refused
    · contradiction
  have cut : Word.cut expression = [⟨"ttl", 2⟩, word] := by decide +kernel
  obtain ⟨points, stands, _⟩ := lex_points failed
  refine ⟨failed, cut, points, stands word ?_⟩
  rw [cut]
  exact List.mem_cons_of_mem _ List.mem_cons_self

end Token

end PacketFilter
