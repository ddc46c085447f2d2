import PacketFilter.Json.Basic
import PacketFilter.Json.Lexeme
import PacketFilter.Proofs.Text.Numeral

/-!
The lexemes of the text that a JSON value is written with. Every part of the text is read back
whatever comes after it, as long as that does not continue a numeral.
-/

namespace PacketFilter.Json

open Text

def Number.ofNat (value : Nat) : Number :=
  Numeral.number ⟨false, (leadingDigits 10 (Nat.toDigits 10 value)).1, none, none⟩

mutual

/-- The lexemes that a value is written with. -/
def spelling : Json → List Lexeme
  | null => [.null]
  | bool value => [.bool value]
  | number value => [.number (.ofNat value)]
  | string value => [.string (some value)]
  | array items => .openBracket :: itemSpelling items ++ [.closeBracket]
  | object members => .openBrace :: memberSpelling members ++ [.closeBrace]

def itemSpelling : List Json → List Lexeme
  | [] => []
  | [item] => item.spelling
  | item :: rest => item.spelling ++ .comma :: itemSpelling rest

def memberSpelling : List (String × Json) → List Lexeme
  | [] => []
  | [(key, value)] => .string (some key) :: .colon :: value.spelling
  | (key, value) :: rest =>
      .string (some key) :: .colon :: value.spelling ++ .comma :: memberSpelling rest

end

variable {c : Char} {chars seen rest : List Char} {value : Nat}

theorem lexemes_cons (solid : isBlank c = false) :
    lexemes (c :: rest) = (readLexeme c rest).1 :: lexemes (readLexeme c rest).2 := by
  rw [lexemes, solid]
  rfl

section Strings

theorem digit?_hexDigit (number : Nat) : digit? 16 (hexDigit number) = some (number % 16) :=
  digit?_digitChar (Nat.le_refl 16) (Nat.mod_lt number (by decide))

/-- The code unit of a control character is read from its two last digits. -/
theorem readCodeUnit_control (control : value < 32) (rest : List Char) :
    readCodeUnit ('0' :: '0' :: hexDigit (value / 16) :: hexDigit value :: rest) = .ok value := by
  have zero : digit? 16 '0' = some 0 := by decide
  have number : Positional.value 16 [0, 0, value / 16 % 16, value % 16] = value := by
    simp only [Positional.value, List.foldl_cons, List.foldl_nil]
    omega
  simp [readCodeUnit, zero, digit?_hexDigit, number]

theorem readString_letter {letter : Char} (seen rest : List Char)
    (known : readEscape (letter :: rest) = .ok (.plain c, 1)) :
    readString ⟨some seen, none⟩ ('\\' :: letter :: rest) =
      readString ⟨some (c :: seen), none⟩ rest := by
  simp [readString, known, PartialString.add, PartialString.addChar]

theorem readString_escape (seen : List Char) (c : Char) (rest : List Char) :
    readString ⟨some seen, none⟩ (escape c ++ rest) = readString ⟨some (c :: seen), none⟩ rest := by
  unfold escape
  -- The characters that have a letter of their own come first.
  iterate 7
    split
    case isTrue named =>
      subst named
      exact readString_letter seen rest rfl
  split
  case isTrue control =>
    have unit := readCodeUnit_control control rest
    have below : ¬ (0xD800 ≤ c.toNat ∧ c.toNat < 0xDC00) := by omega
    have above : ¬ (0xDC00 ≤ c.toNat ∧ c.toNat < 0xE000) := by omega
    simp [readString, readEscape, unit, Except.map, PartialString.add, PartialString.addCodeUnit,
      below, above, PartialString.addChar, Char.ofNat_toNat]
  case isFalse printable =>
    simp [readString, printable, PartialString.addChar]

theorem readString_flatMap_escape (chars seen rest : List Char) :
    readString ⟨some seen, none⟩ (chars.flatMap escape ++ '"' :: rest) =
      (.string (some (String.ofList (seen.reverse ++ chars))), rest) := by
  induction chars generalizing seen with
  | nil => simp [readString, PartialString.finish]
  | cons c chars inductionHypothesis =>
      rw [List.flatMap_cons, List.append_assoc, readString_escape, inductionHypothesis]
      simp

theorem lexemes_quoted (text : String) (rest : List Char) :
    lexemes (quoted text ++ rest) = .string (some text) :: lexemes rest := by
  have read := readString_flatMap_escape text.toList [] rest
  rw [List.reverse_nil, List.nil_append, String.ofList_toList] at read
  have lexeme : readLexeme '"' (text.toList.flatMap escape ++ '"' :: rest) =
      (.string (some text), rest) := read
  have split : quoted text ++ rest = '"' :: (text.toList.flatMap escape ++ '"' :: rest) := by
    simp [quoted]
  rw [split, lexemes_cons (by decide), lexeme]

end Strings

section Numbers

def EndsNumeral (rest : List Char) : Prop :=
  ∀ c ∈ rest.head?, c = ',' ∨ c = ']' ∨ c = '}'

theorem EndsNumeral.noDigit (ends : EndsNumeral rest) : NoDigit 10 rest := by
  intro c head
  rcases ends c head with rfl | rfl | rfl <;> rfl

theorem EndsNumeral.readExponent (ends : EndsNumeral rest)
    (finish : Option (Bool × List Nat) → Lexeme) :
    readExponent finish rest = (finish none, rest) := by
  cases rest with
  | nil => rfl
  | cons c rest =>
      rcases ends c rfl with rfl | rfl | rfl <;> rfl

theorem EndsNumeral.head_ne_point (ends : EndsNumeral rest) (others : List Char) :
    rest ≠ '.' :: others := by
  rintro rfl
  exact absurd (ends '.' rfl) (by decide)

theorem Number.ofNat_eq {digits : List Nat} (spelled : Spelled 10 value digits) :
    ofNat value = Numeral.number ⟨false, digits, none, none⟩ := by
  have noDigit : NoDigit 10 [] := nofun
  have alone := leadingDigits_map (show 10 ≤ 16 by decide) spelled.lt noDigit
  rw [List.append_nil] at alone
  rw [ofNat, spelled.chars, alone]

theorem Number.ofNat_of_lt (fits : value < wordBound) : ofNat value = .natural value := by
  obtain ⟨digits, spelled⟩ := exists_spelled (show 1 < 10 by decide) value
  simp [ofNat_eq spelled, Numeral.number, spelled.value, fits]

theorem readNumber_toDigits (ends : EndsNumeral rest) (value : Nat) :
    readNumber false (Nat.toDigits 10 value ++ rest) = (.number (.ofNat value), rest) := by
  obtain ⟨digits, spelled⟩ := exists_spelled (show 1 < 10 by decide) value
  have leading : leadingDigits 10 (digits.map Nat.digitChar ++ rest) = (digits, rest) :=
    leadingDigits_map (by decide) spelled.lt ends.noDigit
  rw [Number.ofNat_eq spelled, spelled.chars]
  unfold readNumber
  rw [leading]
  split
  · rename_i same
    obtain ⟨rfl, _⟩ := Prod.mk.inj same
    exact absurd spelled.chars Nat.toDigits_ne_nil
  · rename_i first second _ same
    obtain ⟨rfl, _⟩ := Prod.mk.inj same
    have zero : value = 0 := Nat.eq_zero_of_not_pos fun positive => spelled.head positive rfl
    subst zero
    have short := congrArg List.length spelled.chars
    simp at short
  · rename_i same
    obtain ⟨_, point⟩ := Prod.mk.inj same
    exact absurd point (ends.head_ne_point _)
  · rename_i same
    obtain ⟨rfl, rfl⟩ := Prod.mk.inj same
    exact ends.readExponent _

theorem readLexeme_of_digit (isDigit : (digit? 10 c).isSome) (rest : List Char) :
    readLexeme c rest = readNumber false (c :: rest) := by
  unfold readLexeme
  split
  case h_12 => exact if_pos isDigit
  all_goals exact absurd isDigit (by decide)

theorem lexemes_number (ends : EndsNumeral rest) (value : Nat) :
    lexemes (Nat.toDigits 10 value ++ rest) = .number (.ofNat value) :: lexemes rest := by
  obtain ⟨digits, chars, lt, _⟩ := exists_spelled (show 1 < 10 by decide) value
  have read := readNumber_toDigits ends value
  rw [chars] at read ⊢
  cases digits with
  | nil => exact absurd chars Nat.toDigits_ne_nil
  | cons digit digits =>
      have small : digit < 10 := lt digit List.mem_cons_self
      have solid : ∀ digit < 10, isBlank (Nat.digitChar digit) = false := by decide
      have isDigit : (digit? 10 (Nat.digitChar digit)).isSome := by
        rw [digit?_digitChar (by decide) small]
        rfl
      rw [List.map_cons, List.cons_append, lexemes_cons (solid digit small),
        readLexeme_of_digit isDigit, ← List.cons_append, ← List.map_cons, read]

end Numbers

theorem endsNumeral_cons (closes : c = ',' ∨ c = ']' ∨ c = '}') (rest : List Char) :
    EndsNumeral (c :: rest) := by
  rintro d ⟨⟩
  exact closes

theorem lexemes_comma (rest : List Char) : lexemes (',' :: rest) = .comma :: lexemes rest :=
  lexemes_cons (by decide)

theorem lexemes_colon (rest : List Char) : lexemes (':' :: rest) = .colon :: lexemes rest :=
  lexemes_cons (by decide)

theorem lexemes_brackets (rest : List Char) :
    lexemes ('[' :: rest) = .openBracket :: lexemes rest ∧
      lexemes (']' :: rest) = .closeBracket :: lexemes rest :=
  ⟨lexemes_cons (by decide), lexemes_cons (by decide)⟩

theorem lexemes_braces (rest : List Char) :
    lexemes ('{' :: rest) = .openBrace :: lexemes rest ∧
      lexemes ('}' :: rest) = .closeBrace :: lexemes rest :=
  ⟨lexemes_cons (by decide), lexemes_cons (by decide)⟩

mutual

/-- A value is read as the lexemes that it is written with. -/
theorem lexemes_chars (json : Json) {rest : List Char} (ends : EndsNumeral rest) :
    lexemes (json.chars ++ rest) = json.spelling ++ lexemes rest := by
  cases json with
  | null => exact lexemes_cons (by decide)
  | bool value => cases value <;> exact lexemes_cons (by decide)
  | number value => exact lexemes_number ends value
  | string value => exact lexemes_quoted value rest
  | array items =>
      have inner := lexemes_itemChars items (endsNumeral_cons (.inr (.inl rfl)) rest)
      simp [chars, spelling, (lexemes_brackets _).1, (lexemes_brackets _).2, inner]
  | object members =>
      have inner := lexemes_memberChars members (endsNumeral_cons (.inr (.inr rfl)) rest)
      simp [chars, spelling, (lexemes_braces _).1, (lexemes_braces _).2, inner]

theorem lexemes_itemChars (items : List Json) {rest : List Char} (ends : EndsNumeral rest) :
    lexemes (itemChars items ++ rest) = itemSpelling items ++ lexemes rest := by
  match items with
  | [] => rfl
  | [item] => exact lexemes_chars item ends
  | item :: next :: others =>
      have first := lexemes_chars item
        (endsNumeral_cons (.inl rfl) (itemChars (next :: others) ++ rest))
      have behind := lexemes_itemChars (next :: others) ends
      simp [itemChars, itemSpelling, first, lexemes_comma, behind]

theorem lexemes_memberChars (members : List (String × Json)) {rest : List Char}
    (ends : EndsNumeral rest) :
    lexemes (memberChars members ++ rest) = memberSpelling members ++ lexemes rest := by
  match members with
  | [] => rfl
  | [(key, value)] =>
      have last := lexemes_chars value ends
      simp [memberChars, memberSpelling, lexemes_quoted, lexemes_colon, last]
  | (key, value) :: next :: others =>
      have first := lexemes_chars value
        (endsNumeral_cons (.inl rfl) (memberChars (next :: others) ++ rest))
      have behind := lexemes_memberChars (next :: others) ends
      simp [memberChars, memberSpelling, lexemes_quoted, lexemes_colon, first, lexemes_comma,
        behind]

end

end PacketFilter.Json
