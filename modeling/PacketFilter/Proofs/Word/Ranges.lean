import PacketFilter.Proofs.Word.Scan

/-!
The words of a text as ranges of its bytes. The ranges are those of whole characters, they lie one
behind the other and hold every character that is no blank. Each is a parenthesis, a symbol of two
characters, an operator character that makes no symbol with the character behind it, or a run of
other characters that goes on at neither end. Only one way to cut the text has such ranges.
-/

namespace PacketFilter

open Text

/-- The place behind the last byte of a piece. -/
def Slice.stop (slice : Slice) : Nat :=
  slice.offset + byteLength slice.chars

namespace Word

/-- What a word can be between the characters before and after it. -/
inductive IsRange (before : List Char) : List Char → List Char → Prop where
  | parenthesis {c after} : isParenthesis c → IsRange before [c] after
  | pair {first second after} : isSymbolPair first second → IsRange before [first, second] after
  | operator {c after} : isOperator c → (∀ d ∈ after.head?, ¬ isSymbolPair c d) →
      IsRange before [c] after
  | run {word after} : word ≠ [] →
      (∀ c ∈ word, ¬ isBlank c ∧ ¬ isParenthesis c ∧ ¬ isOperator c) →
      (∀ d ∈ before.getLast?, isBlank d ∨ isParenthesis d ∨ isOperator d) →
      (∀ d ∈ after.head?, isBlank d ∨ isParenthesis d ∨ isOperator d) → IsRange before word after

/-- The rest of a text is cut into ranges of whole characters, one behind the other, and the
characters in them are the ones that are no blanks. -/
structure IsCut (before rest : List Char) (slices : List Slice) : Prop where
  ranges : ∀ slice ∈ slices, ∃ between after, rest = between ++ (slice.chars ++ after) ∧
    slice.chars ≠ [] ∧ slice.offset = byteLength (before ++ between) ∧
    IsRange (before ++ between) slice.chars after
  ordered : slices.Pairwise fun first second => first.stop ≤ second.offset
  covers : ∀ between c after, rest = between ++ c :: after →
    (¬ isBlank c ↔ ∃ slice ∈ slices, slice.offset ≤ byteLength (before ++ between) ∧
      byteLength (before ++ between) < slice.stop)

variable {c : Char} {before rest word after : List Char} {slices : List Slice}

theorem IsRange.isFirst (isRange : IsRange before word after) : IsFirst word after := by
  cases isRange with
  | parenthesis parenthesis => exact .parenthesis parenthesis
  | pair pair => exact .pair pair
  | operator operator alone => exact .operator operator alone
  | run nonempty text _ behind =>
      exact .text nonempty (fun c member => isText_iff.2 (text c member))
        fun d head => not_isText_iff.2 (behind d head)

/-- No word goes on from one text to the other. -/
def Apart (before rest : List Char) : Prop :=
  ∀ d ∈ before.getLast?, isText d → ∀ c ∈ rest.head?, ¬ isText c

theorem IsFirst.isRange (isFirst : IsFirst word after) (apart : Apart before (word ++ after)) :
    IsRange before word after := by
  cases isFirst with
  | parenthesis parenthesis => exact .parenthesis parenthesis
  | pair pair => exact .pair pair
  | operator operator alone => exact .operator operator alone
  | text nonempty text behind =>
      obtain ⟨c, others, rfl⟩ := List.exists_cons_of_ne_nil nonempty
      refine .run nonempty (fun c member => isText_iff.1 (text c member)) ?_
        fun d head => not_isText_iff.1 (behind d head)
      intro d last
      exact not_isText_iff.1 fun goesOn => apart d last goesOn c rfl (text c List.mem_cons_self)

theorem IsFirst.apart (isFirst : IsFirst word after) (before : List Char) :
    Apart (before ++ word) after := by
  intro d last
  cases isFirst with
  | parenthesis parenthesis =>
      rw [List.getLast?_append] at last
      cases last
      exact fun text => absurd text (not_isText_iff.2 (.inr (.inl parenthesis)))
  | pair pair =>
      rw [List.getLast?_append] at last
      cases last
      exact fun text =>
        absurd text (not_isText_of_isOperator (isOperator_of_isSymbolPair pair).2)
  | operator operator =>
      rw [List.getLast?_append] at last
      cases last
      exact fun text => absurd text (not_isText_of_isOperator operator)
  | text _ _ behind => exact fun _ => behind

theorem apart_of_isBlank (blank : isBlank c) (before rest : List Char) :
    Apart (before ++ [c]) rest := by
  intro d last
  rw [List.getLast?_append] at last
  cases last
  exact fun text => absurd text (not_isText_iff.2 (.inl blank))

/-- There is only one first word. -/
theorem IsFirst.unique {other rest : List Char} (isFirst : IsFirst word after)
    (again : IsFirst other rest) (same : word ++ after = other ++ rest) :
    word = other ∧ after = rest := by
  obtain ⟨c, others, rfl, _, split⟩ := isFirst.exists_splitFirst
  obtain ⟨d, further, rfl, _, resplit⟩ := again.exists_splitFirst
  obtain ⟨rfl, tails⟩ := List.cons.inj same
  have tails : others ++ after = further ++ rest := tails
  rw [tails, resplit] at split
  exact ⟨(congrArg Prod.fst split).symm, (congrArg Prod.snd split).symm⟩

theorem IsRange.not_isBlank (isRange : IsRange before word after) : ∀ c ∈ word, ¬ isBlank c := by
  cases isRange with
  | parenthesis parenthesis =>
      exact List.forall_mem_singleton.2 (not_isBlank_of_isParenthesis parenthesis)
  | @pair first second _ pair =>
      obtain ⟨front, behind⟩ := isOperator_of_isSymbolPair pair
      rw [List.forall_mem_cons, List.forall_mem_singleton]
      exact ⟨(special_of_isOperator front).1, (special_of_isOperator behind).1⟩
  | operator operator => exact List.forall_mem_singleton.2 (special_of_isOperator operator).1
  | run _ text => exact fun c member => (text c member).1

theorem exists_between {first second third fourth : List Char}
    (same : first ++ second = third ++ fourth) (le : byteLength first ≤ byteLength third) :
    ∃ between, third = first ++ between ∧ second = between ++ fourth := by
  rcases List.append_eq_append_iff.1 same with ⟨between, split, rest⟩ | ⟨between, rfl, rest⟩
  · exact ⟨between, split, rest⟩
  · cases between with
    | nil => exact ⟨[], by simp, by simpa using rest.symm⟩
    | cons c between =>
        have positive := byteLength_pos (List.cons_ne_nil c between)
        rw [byteLength_append] at le
        omega

namespace IsCut

theorem nil_iff : IsCut before [] slices ↔ slices = [] := by
  constructor
  · intro isCut
    refine List.eq_nil_iff_forall_not_mem.2 fun slice member => ?_
    obtain ⟨between, after, split, nonempty, _⟩ := isCut.ranges slice member
    simp_all
  · rintro rfl
    refine ⟨nofun, .nil, ?_⟩
    intro between c after split
    simp at split

theorem blank_iff (blank : isBlank c) :
    IsCut before (c :: rest) slices ↔ IsCut (before ++ [c]) rest slices := by
  constructor
  · rintro ⟨ranges, ordered, covers⟩
    refine ⟨?_, ordered, ?_⟩
    · intro slice member
      obtain ⟨between, after, split, nonempty, place, isRange⟩ := ranges slice member
      -- A range that started at once would hold the blank.
      cases between with
      | nil =>
          obtain ⟨d, others, chars⟩ := List.exists_cons_of_ne_nil nonempty
          have first : d ∈ slice.chars := chars ▸ List.mem_cons_self
          rw [chars] at split
          cases split
          exact absurd blank (isRange.not_isBlank c first)
      | cons d between =>
          obtain ⟨rfl, left⟩ := List.cons.inj split
          refine ⟨between, after, left, nonempty, ?_, ?_⟩
          · simpa using place
          · simpa using isRange
    · intro between d after split
      simpa using covers (c :: between) d after (by rw [split]; rfl)
  · rintro ⟨ranges, ordered, covers⟩
    refine ⟨?_, ordered, ?_⟩
    · intro slice member
      obtain ⟨between, after, split, nonempty, place, isRange⟩ := ranges slice member
      refine ⟨c :: between, after, ?_, nonempty, ?_, ?_⟩
      · rw [split]
        rfl
      · simpa using place
      · simpa using isRange
    · intro between d after split
      cases between with
      | nil =>
          cases split
          refine iff_of_false (not_not_intro blank) ?_
          rintro ⟨slice, member, le, _⟩
          obtain ⟨between, _, _, _, place, _⟩ := ranges slice member
          have positive := byteLength_pos (List.cons_ne_nil c [])
          simp only [byteLength_append] at place le
          simp only [byteLength] at *
          omega
      | cons d between =>
          obtain ⟨rfl, left⟩ := List.cons.inj split
          simpa using covers between _ after left

/-- The range that holds the first character of a word is that word, and the others lie behind. -/
theorem exists_cons (isRange : IsRange before word after)
    (isCut : IsCut before (word ++ after) slices) :
    ∃ others, slices = ⟨word, byteLength before⟩ :: others := by
  obtain ⟨c, rest, chars, other, _⟩ := isRange.isFirst.exists_splitFirst
  have covered := (isCut.covers [] c (rest ++ after) (by rw [chars]; rfl)).1 other
  rw [List.append_nil] at covered
  obtain ⟨slice, member, le, lt⟩ := covered
  have starts : ∀ slice ∈ slices, byteLength before ≤ slice.offset ∧ slice.offset < slice.stop := by
    intro slice member
    obtain ⟨between, _, _, nonempty, place, _⟩ := isCut.ranges slice member
    have positive := byteLength_pos nonempty
    rw [Slice.stop, place, byteLength_append]
    omega
  obtain ⟨between, behind, split, nonempty, place, again⟩ := isCut.ranges slice member
  obtain rfl : between = [] := by
    rw [place, byteLength_append] at le
    refine Decidable.byContradiction fun further => ?_
    have positive := byteLength_pos further
    omega
  rw [List.nil_append] at split
  rw [List.append_nil] at place again
  obtain ⟨same, _⟩ := isRange.isFirst.unique again.isFirst split
  cases slices with
  | nil => contradiction
  | cons first others =>
      obtain rfl : slice = first := by
        rcases List.mem_cons.1 member with same | later
        · exact same
        · have ordered := (List.pairwise_cons.1 isCut.ordered).1 slice later
          have first := starts first List.mem_cons_self
          omega
      exact ⟨others, by rw [same, ← place]⟩

theorem stop_word (before word : List Char) :
    Slice.stop ⟨word, byteLength before⟩ = byteLength (before ++ word) := by
  rw [byteLength_append]
  rfl

theorem tail (isCut : IsCut before (word ++ after) (⟨word, byteLength before⟩ :: slices)) :
    IsCut (before ++ word) after slices := by
  obtain ⟨ranges, ordered, covers⟩ := isCut
  obtain ⟨front, ordered⟩ := List.pairwise_cons.1 ordered
  refine ⟨?_, ordered, ?_⟩
  · intro slice member
    obtain ⟨between, rest, split, nonempty, place, isRange⟩ :=
      ranges slice (List.mem_cons_of_mem _ member)
    have le := front slice member
    rw [stop_word, place, byteLength_append, byteLength_append] at le
    obtain ⟨more, rfl, left⟩ := exists_between split (by omega)
    refine ⟨more, rest, left, nonempty, ?_, ?_⟩ <;> rwa [List.append_assoc]
  · intro between c rest split
    have covered := covers (word ++ between) c rest (by rw [split, List.append_assoc])
    rw [covered, List.append_assoc]
    constructor
    · rintro ⟨slice, member, le, lt⟩
      rcases List.mem_cons.1 member with rfl | member
      · rw [stop_word] at lt
        simp only [byteLength_append] at lt
        omega
      · exact ⟨slice, member, le, lt⟩
    · rintro ⟨slice, member, within⟩
      exact ⟨slice, List.mem_cons_of_mem _ member, within⟩

theorem cons_word (isRange : IsRange before word after)
    (isCut : IsCut (before ++ word) after slices) :
    IsCut before (word ++ after) (⟨word, byteLength before⟩ :: slices) := by
  obtain ⟨ranges, ordered, covers⟩ := isCut
  -- All other ranges lie behind the word, which is the first.
  have late : ∀ slice ∈ slices, byteLength (before ++ word) ≤ slice.offset := by
    intro slice member
    obtain ⟨between, _, _, _, place, _⟩ := ranges slice member
    rw [place, byteLength_append (before ++ word)]
    omega
  refine ⟨?_, ?_, ?_⟩
  · intro slice member
    rcases List.mem_cons.1 member with rfl | member
    · obtain ⟨c, rest, chars, _⟩ := isRange.isFirst.exists_splitFirst
      refine ⟨[], after, rfl, ?_, ?_, ?_⟩
      · simp [chars]
      · rw [List.append_nil]
      · rwa [List.append_nil]
    · obtain ⟨between, rest, split, nonempty, place, kind⟩ := ranges slice member
      refine ⟨word ++ between, rest, ?_, nonempty, ?_, ?_⟩
      · rw [split, List.append_assoc]
      · rwa [← List.append_assoc]
      · rwa [← List.append_assoc]
  · refine List.pairwise_cons.2 ⟨fun slice member => ?_, ordered⟩
    rw [stop_word]
    exact late slice member
  · intro between c rest split
    by_cases inside : byteLength between < byteLength word
    · -- The character is one of the word.
      obtain ⟨more, chars, left⟩ := exists_between split.symm (Nat.le_of_lt inside)
      have member : c ∈ word := by
        cases more with
        | nil => simp [chars] at inside
        | cons d more =>
            cases left
            simp [chars]
      refine iff_of_true (isRange.not_isBlank c member) ?_
      refine ⟨⟨word, byteLength before⟩, List.mem_cons_self, ?_⟩
      rw [stop_word]
      simp only [byteLength_append]
      omega
    · obtain ⟨more, rfl, left⟩ := exists_between split (Nat.not_lt.1 inside)
      rw [covers more c rest left, ← List.append_assoc]
      constructor
      · rintro ⟨slice, member, within⟩
        exact ⟨slice, List.mem_cons_of_mem _ member, within⟩
      · rintro ⟨slice, member, le, lt⟩
        rcases List.mem_cons.1 member with rfl | member
        · rw [stop_word, byteLength_append (before ++ word)] at lt
          omega
        · exact ⟨slice, member, le, lt⟩

theorem word_iff (isRange : IsRange before word after) :
    IsCut before (word ++ after) slices ↔
      ∃ others, slices = ⟨word, byteLength before⟩ :: others ∧
        IsCut (before ++ word) after others := by
  constructor
  · intro isCut
    obtain ⟨others, rfl⟩ := exists_cons isRange isCut
    exact ⟨others, rfl, isCut.tail⟩
  · rintro ⟨others, rfl, isCut⟩
    exact cons_word isRange isCut

/-- The words are the only way to cut a text like this, if no word goes on into it. -/
theorem iff_eq_slices (apart : Apart before rest) :
    IsCut before rest slices ↔ slices = Word.slices (byteLength before) rest := by
  generalize place : byteLength before = offset
  fun_induction Word.slices offset rest generalizing before slices with
  | case1 => exact nil_iff
  | case2 offset c rest blank inductionHypothesis =>
      rw [blank_iff blank]
      refine inductionHypothesis (apart_of_isBlank blank before rest) ?_
      rw [byteLength_append, place]
      rfl
  | case3 offset c rest other word =>
      rename_i inductionHypothesis
      have isFirst : IsFirst word (splitFirst c rest).2 := isFirst_splitFirst c rest other
      have split : word ++ (splitFirst c rest).2 = c :: rest := splitFirst_append c rest
      have stop : byteLength (before ++ word) = offset + byteLength word := by
        rw [byteLength_append, place]
      rw [← split] at apart ⊢
      rw [word_iff (isFirst.isRange apart)]
      simp only [inductionHypothesis (isFirst.apart before) stop, place, exists_eq_right]

end IsCut

/-- The words of an expression are the pieces that the scan finds, in small letters and with the
places of their first bytes. They are ranges of whole characters, one behind the other, that hold
all characters but blanks, and no other ranges of the expression are like that. -/
theorem cut_exactly (expression : String) :
    ∃ slices : List Slice,
      (cut expression =
        slices.map fun slice => ⟨String.ofList (lowercase slice.chars), slice.offset⟩) ∧
      IsCut [] expression.toList slices ∧
      (∀ others, IsCut [] expression.toList others → others = slices) ∧
      Scan.read expression.toList = slices := by
  have apart : Apart [] expression.toList := nofun
  have only (slices : List Slice) :
      IsCut [] expression.toList slices ↔ slices = Word.slices 0 expression.toList :=
    IsCut.iff_eq_slices apart
  exact ⟨Word.slices 0 expression.toList, rfl, (only _).2 rfl, fun others => (only others).1,
    Scan.read_eq_slices expression.toList⟩

/-- Runs of operator characters are cut from the left. -/
example : cut "(\u00c9=>=1 &&&" =
    [⟨"(", 0⟩, ⟨"\u00e9", 1⟩, ⟨"=", 3⟩, ⟨">=", 4⟩, ⟨"1", 6⟩, ⟨"&&", 8⟩, ⟨"&", 10⟩] := by
  decide +kernel

end Word

end PacketFilter
