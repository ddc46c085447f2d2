import PacketFilter.Proofs.Text.LetterCase
import PacketFilter.Proofs.Token.Relocation
import PacketFilter.Proofs.Word.First

/-!
Blanks and letter case make no difference to an expression. Each of its words is cut into itself
when it stands apart, whatever blanks stand around it and in whichever case its ASCII letters are
written, so that an expression can be written with blanks between its words or, where they are cut
apart, without. Only the places of the words change, and with them those that faults name.
-/

namespace PacketFilter

open Text

/-- The characters of a piece of a text with the case of ASCII letters taken off. -/
def Slice.letters (slice : Slice) : List Char :=
  slice.chars.map Char.toLower

/-- A text that starts at `offset` is made of the pieces, one behind the other, with at least one
blank between neighbours and any blanks at the ends. -/
inductive Spaced : Nat → List Char → List Slice → Prop where
  | nil {offset} : Spaced offset [] []
  | blank {offset c rest places} : isBlank c → Spaced (offset + c.utf8Size) rest places →
      Spaced offset (c :: rest) places
  | piece {offset chars rest places} : rest.head?.all isBlank →
      Spaced (offset + byteLength chars) rest places →
      Spaced offset (chars ++ rest) (⟨chars, offset⟩ :: places)

namespace Word

inductive IsWhole : List Char → Prop where
  | single {c} : ¬ isBlank c → IsWhole [c]
  | pair {first second} : isSymbolPair first second → IsWhole [first, second]
  | text {first others} : (∀ c ∈ first :: others, isText c) → IsWhole (first :: others)

variable {c first second : Char} {chars others rest : List Char} {offset : Nat}

theorem isText_toLower (c : Char) : isText c.toLower = isText c := by
  have parenthesis : isParenthesis c.toLower = isParenthesis c := apply_toLower (by decide) c
  have operator : isOperator c.toLower = isOperator c := apply_toLower (by decide) c
  rw [isText, isText, isBlank_toLower, parenthesis, operator]

theorem toLower_of_not_isText (special : ¬ isText c) : c.toLower = c := by
  have same : (if isText c.toLower then none else some c.toLower) =
      if isText c then none else some c :=
    apply_toLower (f := fun c => if isText c then none else some c) (by decide +kernel) c
  rw [isText_toLower, if_neg special, if_neg special] at same
  exact Option.some.inj same

theorem eq_of_toLower {d : Char} (special : ¬ isText c) (same : d.toLower = c.toLower) : d = c := by
  have other : ¬ isText d := by
    rwa [← isText_toLower, same, isText_toLower]
  rw [← toLower_of_not_isText other, same, toLower_of_not_isText special]

theorem IsFirst.isWhole (isFirst : IsFirst chars rest) : IsWhole chars := by
  cases isFirst with
  | parenthesis parenthesis => exact .single (not_isBlank_of_isParenthesis parenthesis)
  | pair pair => exact .pair pair
  | operator operator => exact .single (special_of_isOperator operator).1
  | text nonempty text =>
      obtain ⟨c, others, rfl⟩ := List.exists_cons_of_ne_nil nonempty
      exact .text text

theorem isWhole_of_mem_slices {slice : Slice} (member : slice ∈ slices offset chars) :
    IsWhole slice.chars := by
  fun_induction slices offset chars with
  | case1 => contradiction
  | case2 offset c rest blank inductionHypothesis => exact inductionHypothesis member
  | case3 offset c rest other word inductionHypothesis =>
      rcases List.mem_cons.1 member with rfl | member
      · exact (isFirst_splitFirst c rest other).isWhole
      · exact inductionHypothesis member

theorem IsWhole.of_letters (whole : IsWhole chars)
    (same : others.map Char.toLower = chars.map Char.toLower) : IsWhole others := by
  cases whole with
  | @single c other =>
      obtain ⟨d, rfl, lower⟩ := List.map_eq_singleton_iff.1 same
      apply IsWhole.single
      rwa [← isBlank_toLower, lower, isBlank_toLower]
  | @pair first second pair =>
      obtain ⟨before, behind⟩ := isOperator_of_isSymbolPair pair
      obtain ⟨d, rest, rfl, front, back⟩ := List.map_eq_cons_iff.1 same
      obtain ⟨e, rfl, last⟩ := List.map_eq_singleton_iff.1 back
      rw [eq_of_toLower (not_isText_of_isOperator before) front,
        eq_of_toLower (not_isText_of_isOperator behind) last]
      exact .pair pair
  | @text first chars text =>
      obtain ⟨d, rest, rfl, _⟩ := List.map_eq_cons_iff.1 same
      apply IsWhole.text
      intro c member
      have listed := List.mem_map_of_mem (f := Char.toLower) member
      rw [same] at listed
      obtain ⟨e, member, lower⟩ := List.mem_map.1 listed
      rw [← isText_toLower, ← lower, isText_toLower]
      exact text e member

theorem IsWhole.isFirst (whole : IsWhole chars) (apart : rest.head?.all isBlank) :
    IsFirst chars rest := by
  have blank : ∀ d ∈ rest.head?, isBlank d := fun d head => (Option.all_eq_true _ _).1 apart d head
  have stops : ∀ d ∈ rest.head?, ¬ isText d := fun d head => not_isText_iff.2 (.inl (blank d head))
  cases whole with
  | @single c other =>
      by_cases parenthesis : isParenthesis c
      · exact .parenthesis parenthesis
      · by_cases operator : isOperator c
        · exact .operator operator fun d head => not_isSymbolPair c (.inl (blank d head))
        · have text : isText c := isText_iff.2 ⟨other, parenthesis, operator⟩
          exact .text (by simp) (List.forall_mem_singleton.2 text) stops
  | pair pair => exact .pair pair
  | text text => exact .text (by simp) text stops

end Word

/-- The pieces that a text is made of are its words, if each of them is one word. -/
theorem Spaced.slices_eq {offset : Nat} {chars : List Char} {places : List Slice}
    (spaced : Spaced offset chars places) (whole : ∀ place ∈ places, Word.IsWhole place.chars) :
    Word.slices offset chars = places := by
  induction spaced with
  | nil => rw [Word.slices]
  | blank blank spaced inductionHypothesis =>
      rw [Word.slices, if_pos blank]
      exact inductionHypothesis whole
  | piece apart spaced inductionHypothesis =>
      obtain ⟨first, others⟩ := List.forall_mem_cons.1 whole
      rw [(first.isFirst apart).slices_append, inductionHypothesis others]

namespace Word

theorem text_ofSlice (slice : Slice) :
    (ofSlice slice).text = String.ofList (lowercase slice.letters) := by
  rw [Slice.letters, lowercase_toLower]
  rfl

theorem map_text_ofSlice (slices : List Slice) :
    (slices.map ofSlice).map text =
      (slices.map Slice.letters).map fun letters => String.ofList (lowercase letters) := by
  rw [List.map_map, List.map_map]
  exact List.map_congr_left fun slice _ => text_ofSlice slice

/-- Words with the same texts are the same words at other places, if no two stand at one place. -/
theorem exists_relocate {words others : List Word}
    (apart : words.Pairwise (·.position < ·.position)) (texts : others.map text = words.map text) :
    ∃ moved, others = words.map (relocate moved) := by
  induction words generalizing others with
  | nil => exact ⟨id, List.map_eq_nil_iff.1 texts⟩
  | cons word words inductionHypothesis =>
      obtain ⟨other, others, rfl, same, texts⟩ := List.map_eq_cons_iff.1 texts
      obtain ⟨front, apart⟩ := List.pairwise_cons.1 apart
      obtain ⟨moved, rfl⟩ := inductionHypothesis apart texts
      refine ⟨fun position => if position = word.position then other.position else moved position,
        ?_⟩
      rw [List.map_cons]
      congr 1
      · rw [relocate, if_pos rfl, ← same]
      · apply List.map_congr_left
        intro behind member
        rw [relocate, relocate, if_neg (Nat.ne_of_gt (front behind member))]

end Word

namespace Token

/-- A text that is made of the words of an expression, with blanks between all of them and with
ASCII letters in any case, has the same words at other places, and is lexed as the same tokens or
with the same fault, whose word is the same one at its other place. -/
theorem lex_spaced {expression other : String} {places : List Slice}
    (spaced : Spaced 0 other.toList places)
    (same : places.map Slice.letters = (Word.slices 0 expression.toList).map Slice.letters) :
    Word.slices 0 other.toList = places ∧
    ∃ moved, Word.cut other = (Word.cut expression).map (Word.relocate moved) ∧
      lex other = (lex expression).mapError (FilterError.relocate moved) := by
  have whole : ∀ place ∈ places, Word.IsWhole place.chars := by
    intro place member
    have listed := List.mem_map_of_mem (f := Slice.letters) member
    rw [same] at listed
    obtain ⟨slice, member, letters⟩ := List.mem_map.1 listed
    exact (Word.isWhole_of_mem_slices member).of_letters letters.symm
  have slices := spaced.slices_eq whole
  refine ⟨slices, ?_⟩
  have texts : (Word.cut other).map Word.text = (Word.cut expression).map Word.text := by
    rw [Word.cut, Word.cut, slices, Word.map_text_ofSlice, Word.map_text_ofSlice, same]
  obtain ⟨moved, relocated⟩ := Word.exists_relocate (Word.pairwise_cut expression) texts
  refine ⟨moved, relocated, ?_⟩
  rw [lex, relocated, ← relocated_id]
  exact ofWords_relocate none (Word.cut expression)

theorem lex_spaced_of_fault :
    let expression := "!ttl>=x"
    let other := "! TTL\u3000>=  X\n"
    let places : List Slice :=
      [⟨['!'], 0⟩, ⟨['T', 'T', 'L'], 2⟩, ⟨['>', '='], 8⟩, ⟨['X'], 12⟩]
    let fault (position : Nat) : FilterError :=
      .invalidOperand ⟨"x", position⟩ "integer in 0..=255" "invalid digit found in string"
    Spaced 0 other.toList places ∧
      places.map Slice.letters = (Word.slices 0 expression.toList).map Slice.letters ∧
      lex expression = .error (fault 6) ∧ lex other = .error (fault 12) := by
  intro expression other places fault
  have spaced : Spaced 0 other.toList places := by
    have chars : other.toList = ['!'] ++ ' ' :: (['T', 'T', 'L'] ++ '\u3000' ::
        (['>', '='] ++ ' ' :: ' ' :: (['X'] ++ ['\n']))) := by
      decide +kernel
    rw [chars]
    exact .piece (by decide) (.blank (by decide) (.piece (by decide) (.blank (by decide)
      (.piece (by decide) (.blank (by decide) (.blank (by decide)
        (.piece (by decide) (.blank (by decide) .nil))))))))
  have same : places.map Slice.letters =
      (Word.slices 0 expression.toList).map Slice.letters := by
    decide +kernel
  have failed : lex expression = .error (fault 6) := by
    have found : (match lex expression with
        | .error fault => some fault
        | .ok _ => none) = some (fault 6) := by decide +kernel
    split at found
    · rename_i refused
      cases found
      exact refused
    · contradiction
  obtain ⟨_, moved, words, lexed⟩ := lex_spaced spaced same
  have place : moved 6 = 12 := by
    have position := congrArg (fun words : List Word => words.map Word.position) words
    have before : Word.cut expression = [⟨"!", 0⟩, ⟨"ttl", 1⟩, ⟨">=", 4⟩, ⟨"x", 6⟩] := by
      decide +kernel
    have behind : Word.cut other = [⟨"!", 0⟩, ⟨"ttl", 2⟩, ⟨">=", 8⟩, ⟨"x", 12⟩] := by
      decide +kernel
    rw [before, behind] at position
    simp [Word.relocate] at position
    exact position.2.2.2.symm
  refine ⟨spaced, same, failed, ?_⟩
  rw [lexed, failed, ← place]
  rfl

end Token

end PacketFilter
