import PacketFilter.Comparison
import PacketFilter.Word

/-!
How a printed text is cut into its words. A part of a text is cut by itself if a blank or a
parenthesis follows it, and small letters, digits and symbols are cut as they stand.
-/

namespace PacketFilter

namespace Text

theorem lowercaseAfter_eq {chars : List Char} (before : List Char)
    (small : ∀ c ∈ chars, c.toNat < 0x80 ∧ c.toLower = c) :
    lowercaseAfter before chars = chars := by
  induction chars generalizing before with
  | nil => rfl
  | cons c chars inductionHypothesis =>
      obtain ⟨ascii, same⟩ := small c List.mem_cons_self
      have noSigma : c ≠ 'Σ' := by
        rintro rfl
        contradiction
      have others := inductionHypothesis (c :: before)
        fun other member => small other (List.mem_cons_of_mem _ member)
      rw [lowercaseAfter, if_neg noSigma, lowercaseChar, if_pos ascii, same, others]
      rfl

theorem lowercase_eq {chars : List Char} (small : ∀ c ∈ chars, c.toNat < 0x80 ∧ c.toLower = c) :
    lowercase chars = chars :=
  lowercaseAfter_eq [] small

end Text

namespace Word

variable {c : Char} {chars rest : List Char}

def texts (chars : List Char) : List String :=
  (slices 0 chars).map fun slice => (ofSlice slice).text

theorem map_text_cut (expression : String) :
    (cut expression).map text = texts expression.toList := by
  simp [cut, texts, Function.comp_def]

theorem texts_slices (offset : Nat) (chars : List Char) :
    (slices offset chars).map (fun slice => (ofSlice slice).text) = texts chars := by
  have chars_slices : ∀ first second, (slices first chars).map Slice.chars =
      (slices second chars).map Slice.chars := by
    intro first second
    fun_induction slices first chars generalizing second with
    | case1 => simp [slices]
    | case2 offset c rest blank inductionHypothesis =>
        rw [slices, if_pos blank]
        exact inductionHypothesis _
    | case3 offset c rest other word inductionHypothesis =>
        rw [slices, if_neg other]
        dsimp only
        rw [List.map_cons, List.map_cons, inductionHypothesis]
  have apart (list : List Slice) : list.map (fun slice => (ofSlice slice).text) =
      (list.map Slice.chars).map fun chars => String.ofList (Text.lowercase chars) := by
    simp [ofSlice]
  rw [texts, apart, apart, chars_slices offset 0]

theorem texts_blank (blank : Text.isBlank c) (rest : List Char) :
    texts (c :: rest) = texts rest := by
  rw [texts, slices, if_pos blank, texts_slices]

theorem texts_word (other : ¬ Text.isBlank c) (rest : List Char) :
    texts (c :: rest) =
      String.ofList (Text.lowercase (splitFirst c rest).1) :: texts (splitFirst c rest).2 := by
  rw [texts, slices, if_neg other]
  dsimp only
  rw [List.map_cons, texts_slices]
  rfl

/-- No word goes on at the start of a text. -/
def Starts (rest : List Char) : Prop :=
  ∀ c ∈ rest.head?, Text.isBlank c ∨ isParenthesis c

/-- A text is cut into words, whatever follows it. -/
def CutsInto (chars : List Char) (words : List String) : Prop :=
  ∀ rest, Starts rest → texts (chars ++ rest) = words ++ texts rest

theorem starts_nil : Starts [] := by
  intro c member
  contradiction

theorem starts_cons (separates : Text.isBlank c ∨ isParenthesis c) (rest : List Char) :
    Starts (c :: rest) := by
  intro first member
  cases member
  exact separates

theorem CutsInto.texts_eq {words : List String} (cuts : CutsInto chars words) :
    texts chars = words := by
  have whole := cuts [] starts_nil
  have nil : texts [] = [] := by simp [texts, slices]
  simpa [nil] using whole

theorem CutsInto.append {left right : List Char} {first second : List String}
    (before : CutsInto left first) (behind : CutsInto right second) :
    CutsInto (left ++ ' ' :: right) (first ++ second) := by
  intro rest starts
  have blank : Text.isBlank ' ' := by decide
  rw [List.append_assoc, List.cons_append, before _ (starts_cons (.inl blank) _),
    texts_blank blank, behind rest starts, List.append_assoc]

theorem texts_parenthesis (parenthesis : isParenthesis c) (rest : List Char) :
    texts (c :: rest) = String.ofList [c] :: texts rest := by
  have single : ∀ c, isParenthesis c → ¬ Text.isBlank c ∧ Text.lowercase [c] = [c] := by
    intro c parenthesis
    rcases Bool.or_eq_true_iff.1 parenthesis with left | right
    · rw [eq_of_beq left]
      decide
    · rw [eq_of_beq right]
      decide
  obtain ⟨other, small⟩ := single c parenthesis
  simp [texts_word other, splitFirst, parenthesis, small]

theorem CutsInto.parenthesized {words : List String} (cuts : CutsInto chars words) :
    CutsInto ('(' :: (chars ++ [')'])) ("(" :: (words ++ [")"])) := by
  intro rest starts
  have closing : isParenthesis ')' := by decide
  rw [List.cons_append, texts_parenthesis (by decide), List.append_assoc, List.singleton_append,
    cuts _ (starts_cons (.inr closing) _), texts_parenthesis closing]
  simp

def isPlain (c : Char) : Bool :=
  isText c && decide (c.toNat < 0x80) && c.toLower == c

theorem not_isText_of_starts (starts : Starts rest) : ∀ c ∈ rest.head?, ¬ isText c := by
  intro c member
  rcases starts c member with blank | parenthesis
  · simp [isText, blank]
  · simp [isText, parenthesis]

theorem span_isText {others : List Char} (text : ∀ c ∈ others, isText c) (starts : Starts rest) :
    (others ++ rest).takeWhile isText = others ∧ (others ++ rest).dropWhile isText = rest := by
  rw [List.takeWhile_append_of_pos text, List.dropWhile_append_of_pos text]
  cases rest with
  | nil => simp
  | cons c rest => simp [not_isText_of_starts starts c rfl]

theorem cutsInto_plain {word : String} (nonempty : word ≠ "")
    (plain : ∀ c ∈ word.toList, isPlain c) : CutsInto word.toList [word] := by
  intro rest starts
  have small : Text.lowercase word.toList = word.toList := by
    apply Text.lowercase_eq
    intro c member
    have conditions := plain c member
    simp [isPlain] at conditions
    exact ⟨conditions.1.2, conditions.2⟩
  have text : ∀ c ∈ word.toList, isText c := by
    intro c member
    have conditions := plain c member
    simp [isPlain] at conditions
    exact conditions.1.1
  cases chars : word.toList with
  | nil => exact absurd (String.toList_eq_nil_iff.1 chars) nonempty
  | cons c others =>
      rw [chars] at small text
      have first := text c List.mem_cons_self
      simp [isText] at first
      obtain ⟨taken, left⟩ :=
        span_isText (fun other member => text other (List.mem_cons_of_mem _ member)) starts
      have split : splitFirst c (others ++ rest) = (c :: others, rest) := by
        simp [splitFirst, first, taken, left]
      rw [List.cons_append, texts_word (by simp [first]), split, small, ← chars,
        String.ofList_toList]
      rfl

theorem not_isSymbolPair {second : Char} (first : Char)
    (separates : Text.isBlank second ∨ isParenthesis second) : ¬ isSymbolPair first second := by
  have others : ∀ pair ∈ [('&', '&'), ('|', '|'), ('=', '='), ('!', '='), ('>', '='), ('<', '=')],
      ¬ (Text.isBlank pair.2 ∨ isParenthesis pair.2) := by
    decide
  intro pair
  exact others (first, second) (List.contains_iff_mem.1 pair) separates

theorem splitFirst_operator (operator : isOperator c) (apart : ¬ isParenthesis c)
    (starts : Starts rest) : splitFirst c rest = ([c], rest) := by
  cases rest with
  | nil => simp [splitFirst, operator, apart]
  | cons second further =>
      have noPair := not_isSymbolPair c (starts second rfl)
      simp [splitFirst, operator, apart, noPair]

/-- No word reaches over the end of a text. -/
theorem span_isText_append (others : List Char) (starts : Starts rest) :
    (others ++ rest).takeWhile isText = others.takeWhile isText ∧
      (others ++ rest).dropWhile isText = others.dropWhile isText ++ rest := by
  induction others with
  | nil => simpa using span_isText (List.forall_mem_nil _) starts
  | cons c others inductionHypothesis =>
      by_cases text : isText c
      · simpa [text] using inductionHypothesis
      · simp [text]

theorem splitFirst_append_of_starts (c : Char) (others : List Char) (starts : Starts rest) :
    splitFirst c (others ++ rest) = ((splitFirst c others).1, (splitFirst c others).2 ++ rest) := by
  by_cases parenthesis : isParenthesis c
  · simp [splitFirst, parenthesis]
  · by_cases operator : isOperator c
    · cases others with
      | nil =>
          rw [List.nil_append, splitFirst_operator operator parenthesis starts]
          simp [splitFirst, parenthesis, operator]
      | cons second further =>
          by_cases pair : isSymbolPair c second <;>
            simp [splitFirst, parenthesis, operator, pair]
    · simp [splitFirst, parenthesis, operator, span_isText_append others starts]

/-- A text is cut by itself, whatever its words are, if no word goes on behind it. -/
theorem cutsInto_texts (chars : List Char) : CutsInto chars (texts chars) := by
  intro rest starts
  cases chars with
  | nil => simp [texts, slices]
  | cons c others =>
      by_cases blank : Text.isBlank c
      · rw [List.cons_append, texts_blank blank, texts_blank blank]
        exact cutsInto_texts others rest starts
      · rw [List.cons_append, texts_word blank, texts_word blank,
          splitFirst_append_of_starts c others starts]
        dsimp only
        rw [cutsInto_texts (splitFirst c others).2 rest starts, List.cons_append]
  termination_by chars.length
  decreasing_by
    · simp
    · exact Nat.lt_succ_of_le (length_splitFirst_le c others)

theorem cutsInto_symbol (comparison : Comparison) :
    CutsInto comparison.symbol.toList [comparison.symbol] := by
  intro rest starts
  cases comparison with
  | gt =>
      have word := texts_word (c := '>') (by decide) rest
      rw [splitFirst_operator (by decide) (by decide) starts] at word
      exact word
  | lt =>
      have word := texts_word (c := '<') (by decide) rest
      rw [splitFirst_operator (by decide) (by decide) starts] at word
      exact word
  | eq | ne | ge | le => exact texts_word (by decide) _

/-- The words that are printed: comparisons, and words of plain characters. -/
inductive Printed : String → Prop where
  | symbol (comparison : Comparison) : Printed comparison.symbol
  | plain {word} : word ≠ "" → (∀ c ∈ word.toList, isPlain c) → Printed word

theorem Printed.cutsInto {word : String} (printed : Printed word) :
    CutsInto word.toList [word] := by
  cases printed with
  | symbol comparison => exact cutsInto_symbol comparison
  | plain nonempty plain => exact cutsInto_plain nonempty plain

theorem cutsInto_intercalate {word : String} {words : List String}
    (printed : ∀ other ∈ word :: words, Printed other) :
    CutsInto (" ".intercalate (word :: words)).toList (word :: words) := by
  induction words generalizing word with
  | nil =>
      rw [String.intercalate_singleton]
      exact (printed word List.mem_cons_self).cutsInto
  | cons next words inductionHypothesis =>
      have first := (printed word List.mem_cons_self).cutsInto
      have others := inductionHypothesis fun other member =>
        printed other (List.mem_cons_of_mem _ member)
      have joined := first.append others
      rw [String.intercalate_cons_cons]
      simpa using joined

end Word

end PacketFilter
