import PacketFilter.Proofs.Words

/-!
The first word of a text. It is a parenthesis, a symbol of two characters, an operator character
that makes no symbol with the next character, or a run of other characters up to the next one that
is none of them. Every text that begins with no blank begins with such a word, and the words that
it is cut into are this one and those of the rest.
-/

namespace PacketFilter.Word

open Text

/-- The characters of a word that a text begins with, in front of what comes after it. -/
inductive IsFirst : List Char → List Char → Prop where
  | parenthesis {c after} : isParenthesis c → IsFirst [c] after
  | pair {first second after} : isSymbolPair first second → IsFirst [first, second] after
  | operator {c after} : isOperator c → (∀ d ∈ after.head?, ¬ isSymbolPair c d) →
      IsFirst [c] after
  | text {word after} : word ≠ [] → (∀ c ∈ word, isText c) → (∀ d ∈ after.head?, ¬ isText d) →
      IsFirst word after

variable {c first second : Char} {word rest after : List Char}

theorem not_isBlank_of_isParenthesis (parenthesis : isParenthesis c) : ¬ isBlank c := by
  rcases Bool.or_eq_true_iff.1 parenthesis with same | same <;> rw [eq_of_beq same] <;> decide

theorem special_of_isOperator (operator : isOperator c) : ¬ isBlank c ∧ ¬ isParenthesis c := by
  simp only [isOperator, Bool.or_eq_true, beq_iff_eq, or_assoc] at operator
  rcases operator with rfl | rfl | rfl | rfl | rfl | rfl <;> decide

theorem isOperator_of_isSymbolPair (pair : isSymbolPair first second) :
    isOperator first ∧ isOperator second := by
  have listed : ∀ pair ∈ [('&', '&'), ('|', '|'), ('=', '='), ('!', '='), ('>', '='), ('<', '=')],
      isOperator pair.1 ∧ isOperator pair.2 := by
    decide
  exact listed (first, second) (List.contains_iff_mem.1 pair)

theorem isText_iff : isText c ↔ ¬ isBlank c ∧ ¬ isParenthesis c ∧ ¬ isOperator c := by
  simp [isText, and_assoc]

theorem not_isText_iff : ¬ isText c ↔ isBlank c ∨ isParenthesis c ∨ isOperator c := by
  grind [isText]

theorem not_isText_of_isOperator (operator : isOperator c) : ¬ isText c :=
  not_isText_iff.2 (.inr (.inr operator))

theorem isFirst_splitFirst (c : Char) (rest : List Char) (other : ¬ isBlank c) :
    IsFirst (splitFirst c rest).1 (splitFirst c rest).2 := by
  by_cases parenthesis : isParenthesis c
  · simpa [splitFirst, parenthesis] using IsFirst.parenthesis parenthesis
  · by_cases operator : isOperator c
    · cases rest with
      | nil =>
          have alone : IsFirst [c] [] := .operator operator (by simp)
          simpa [splitFirst, parenthesis, operator] using alone
      | cons second further =>
          by_cases pair : isSymbolPair c second
          · simpa [splitFirst, parenthesis, operator, pair] using IsFirst.pair pair
          · have alone : ∀ d ∈ (second :: further).head?, ¬ isSymbolPair c d := by
              rintro d ⟨⟩
              exact pair
            simpa [splitFirst, parenthesis, operator, pair] using IsFirst.operator operator alone
    · have text : isText c := by
        simp [isText, other, parenthesis, operator]
      have all : ∀ d ∈ c :: rest.takeWhile isText, isText d := by
        rw [List.forall_mem_cons]
        exact ⟨text, List.all_eq_true.1 List.all_takeWhile⟩
      have stops : ∀ d ∈ (rest.dropWhile isText).head?, ¬ isText d := by
        intro d head
        have stopped := List.head?_dropWhile_not isText rest
        rw [head] at stopped
        simpa using stopped
      simpa [splitFirst, parenthesis, operator] using IsFirst.text (by simp) all stops

theorem IsFirst.exists_splitFirst (isFirst : IsFirst word after) :
    ∃ c others, word = c :: others ∧ ¬ isBlank c ∧
      splitFirst c (others ++ after) = (word, after) := by
  cases isFirst with
  | @parenthesis c _ parenthesis =>
      have other := not_isBlank_of_isParenthesis parenthesis
      exact ⟨c, [], rfl, other, by simp [splitFirst, parenthesis]⟩
  | @pair first second _ pair =>
      have operator := (isOperator_of_isSymbolPair pair).1
      obtain ⟨other, apart⟩ := special_of_isOperator operator
      exact ⟨first, [second], rfl, other, by simp [splitFirst, apart, operator, pair]⟩
  | @operator c _ operator alone =>
      obtain ⟨other, apart⟩ := special_of_isOperator operator
      refine ⟨c, [], rfl, other, ?_⟩
      cases after with
      | nil => simp [splitFirst, apart, operator]
      | cons d further => simp [splitFirst, apart, operator, alone d rfl]
  | text nonempty text stops =>
      obtain ⟨c, others, rfl⟩ := List.exists_cons_of_ne_nil nonempty
      obtain ⟨front, behind⟩ := List.forall_mem_cons.1 text
      have left : after.takeWhile isText = [] ∧ after.dropWhile isText = after := by
        cases after with
        | nil => simp
        | cons d after => simp [stops d rfl]
      have taken : (others ++ after).takeWhile isText = others := by
        rw [List.takeWhile_append_of_pos behind, left.1, List.append_nil]
      have dropped : (others ++ after).dropWhile isText = after := by
        rw [List.dropWhile_append_of_pos behind, left.2]
      simp [isText] at front
      exact ⟨c, others, rfl, by simp [front], by simp [splitFirst, front, taken, dropped]⟩

theorem slices_blank (blank : isBlank c) (offset : Nat) (rest : List Char) :
    slices offset (c :: rest) = slices (offset + c.utf8Size) rest := by
  rw [slices, if_pos blank]

theorem IsFirst.slices_append (isFirst : IsFirst word after) (offset : Nat) :
    slices offset (word ++ after) = ⟨word, offset⟩ :: slices (offset + byteLength word) after := by
  obtain ⟨c, others, rfl, other, split⟩ := isFirst.exists_splitFirst
  rw [List.cons_append, slices, if_neg other, split]

end PacketFilter.Word
