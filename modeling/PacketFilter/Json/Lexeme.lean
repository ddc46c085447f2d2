import PacketFilter.Json.Number
import PacketFilter.Text.Extent
import PacketFilter.Text.Numeral

/-!
The lexemes of a JSON text. A text that breaks off or goes wrong inside a lexeme still has the
lexemes before it. What is wrong may depend on the use that is made of the lexeme: a string with
an unpaired surrogate can be skipped but not read.
-/

namespace PacketFilter.Json

inductive Fault where
  /-- A character stands where it cannot stand. -/
  | malformed
  /-- The text ends too early. -/
  | truncated
  deriving DecidableEq, Repr

/-- The fault at a place of a text that is met by reading it, and by skipping it. -/
structure Break where
  whenRead : Fault
  whenSkipped : Fault
  deriving DecidableEq, Repr

/-- A fault that is met in any case. -/
def Break.always (fault : Fault) : Break := ⟨fault, fault⟩

inductive Lexeme where
  | openBracket
  | closeBracket
  | openBrace
  | closeBrace
  | comma
  | colon
  | null
  | bool (value : Bool)
  | number (value : Number)
  /-- A string, known unless a surrogate in it is unpaired. -/
  | string (value : Option String)
  | brokenString (place : Break)
  | broken (place : Break)
  deriving DecidableEq, Repr

def isBlank (c : Char) : Bool :=
  c == ' ' || c == '\n' || c == '\t' || c == '\r'

/-- What stands for itself in a string, or a code unit given by its number. -/
inductive Piece where
  | plain (c : Char)
  | codeUnit (code : Nat)
  deriving DecidableEq, Repr

/-- The code unit that four hexadecimal digits in front give. A text of less than four bytes is too
short for them. -/
def readCodeUnit (chars : List Char) : Except Fault Nat :=
  match (chars.take 4).mapM (Text.digit? 16) with
  | some [a, b, c, d] => .ok (Positional.value 16 [a, b, c, d])
  | _ => if Text.byteLength chars < 4 then .error .truncated else .error .malformed

/-- Reads what is written behind a backslash, and gives the number of characters it takes. -/
def readEscape : List Char → Except Fault (Piece × Nat)
  | [] => .error .truncated
  | '"' :: _ => .ok (.plain '"', 1)
  | '\\' :: _ => .ok (.plain '\\', 1)
  | '/' :: _ => .ok (.plain '/', 1)
  | 'b' :: _ => .ok (.plain '\x08', 1)
  | 'f' :: _ => .ok (.plain '\x0C', 1)
  | 'n' :: _ => .ok (.plain '\n', 1)
  | 'r' :: _ => .ok (.plain '\r', 1)
  | 't' :: _ => .ok (.plain '\t', 1)
  | 'u' :: rest => (readCodeUnit rest).map fun code => (.codeUnit code, 5)
  | _ => .error .malformed

/-- A string as far as it has been read: its characters, the last one first, unless a surrogate is
unpaired, and the high surrogate that waits for its partner. -/
structure PartialString where
  chars : Option (List Char)
  high : Option Nat
  deriving DecidableEq, Repr

namespace PartialString

def empty : PartialString := ⟨some [], none⟩

def unreadable : PartialString := ⟨none, none⟩

def addChar (text : PartialString) (c : Char) : PartialString :=
  match text.high with
  | none => ⟨text.chars.map (c :: ·), none⟩
  | some _ => unreadable

def addCodeUnit (text : PartialString) (code : Nat) : PartialString :=
  if 0xD800 ≤ code ∧ code < 0xDC00 then
    if text.high.isSome then unreadable else ⟨text.chars, some code⟩
  else if 0xDC00 ≤ code ∧ code < 0xE000 then
    match text.high with
    | some high =>
        let c := Char.ofNat ((high - 0xD800) * 0x400 + (code - 0xDC00) + 0x10000)
        ⟨text.chars.map (c :: ·), none⟩
    | none => unreadable
  else text.addChar (Char.ofNat code)

def add (text : PartialString) : Piece → PartialString
  | .plain c => text.addChar c
  | .codeUnit code => text.addCodeUnit code

def finish (text : PartialString) : Option String :=
  match text.high with
  | none => text.chars.map fun chars => String.ofList chars.reverse
  | some _ => none

/-- The place at which the string breaks off. A reader stops earlier at an unpaired surrogate. -/
def breakAt (text : PartialString) (fault : Fault) : Break :=
  ⟨if text.chars.isSome then fault else .malformed, fault⟩

end PartialString

def readString (text : PartialString) : List Char → Lexeme × List Char
  | [] => (.brokenString (text.breakAt .truncated), [])
  | '"' :: rest => (.string text.finish, rest)
  | '\\' :: rest =>
      match readEscape rest with
      | .ok (piece, size) => readString (text.add piece) (rest.drop size)
      | .error fault => (.brokenString (text.breakAt fault), [])
  | c :: rest =>
      if c.toNat < 32 then (.brokenString (text.breakAt .malformed), [])
      else readString (text.addChar c) rest
  termination_by chars => chars.length
  decreasing_by
    · simp only [List.length_drop, List.length_cons]
      omega
    · simp only [List.length_cons]
      omega

def readName (value : Lexeme) : List Char → List Char → Lexeme × List Char
  | [], rest => (value, rest)
  | _ :: _, [] => (.broken (.always .truncated), [])
  | expected :: letters, c :: rest =>
      if c = expected then readName value letters rest
      else (.broken (.always .malformed), [])

/-- The place behind which a digit has to stand. Skipping takes the end of the text for a character
that is no digit. -/
def digitMissing (rest : List Char) : Lexeme × List Char :=
  (.broken ⟨if rest.isEmpty then .truncated else .malformed, .malformed⟩, [])

def readScale (finish : Option (Bool × List Nat) → Lexeme) (isNegative : Bool)
    (chars : List Char) : Lexeme × List Char :=
  match Text.leadingDigits 10 chars with
  | ([], rest) => digitMissing rest
  | (digits, rest) => (finish (some (isNegative, digits)), rest)

def readExponent (finish : Option (Bool × List Nat) → Lexeme) : List Char → Lexeme × List Char
  | [] => (finish none, [])
  | c :: rest =>
      if c = 'e' ∨ c = 'E' then
        match rest with
        | '+' :: rest => readScale finish false rest
        | '-' :: rest => readScale finish true rest
        | rest => readScale finish false rest
      else (finish none, c :: rest)

def numberLexeme (isNegative : Bool) (integer : List Nat) (fraction : Option (List Nat))
    (exponent : Option (Bool × List Nat)) : Lexeme :=
  .number (Numeral.number ⟨isNegative, integer, fraction, exponent⟩)

/-- Reads a numeral behind its sign. A numeral has no leading zeros. -/
def readNumber (isNegative : Bool) (chars : List Char) : Lexeme × List Char :=
  match Text.leadingDigits 10 chars with
  | ([], rest) => digitMissing rest
  | (0 :: _ :: _, _) => (.broken (.always .malformed), [])
  | (integer, '.' :: rest) =>
      match Text.leadingDigits 10 rest with
      | ([], rest) => digitMissing rest
      | (fraction, rest) => readExponent (numberLexeme isNegative integer (some fraction)) rest
  | (integer, rest) => readExponent (numberLexeme isNegative integer none) rest

def readLexeme (c : Char) (rest : List Char) : Lexeme × List Char :=
  match c with
  | '[' => (.openBracket, rest)
  | ']' => (.closeBracket, rest)
  | '{' => (.openBrace, rest)
  | '}' => (.closeBrace, rest)
  | ',' => (.comma, rest)
  | ':' => (.colon, rest)
  | '"' => readString .empty rest
  | 'n' => readName .null "ull".toList rest
  | 't' => readName (.bool true) "rue".toList rest
  | 'f' => readName (.bool false) "alse".toList rest
  | '-' => readNumber true rest
  | c =>
      if (Text.digit? 10 c).isSome then readNumber false (c :: rest)
      else (.broken (.always .malformed), [])

theorem readString_length (text : PartialString) (chars : List Char) :
    (readString text chars).2.length ≤ chars.length := by
  fun_induction readString text chars with
  | case1 => simp
  | case2 => simp
  | case3 text rest piece size _ inductionHypothesis =>
      simp only [List.length_drop, List.length_cons] at *
      omega
  | case4 => simp
  | case5 => simp
  | case6 text c rest _ _ _ inductionHypothesis =>
      simp only [List.length_cons]
      omega

theorem readName_length (value : Lexeme) (letters chars : List Char) :
    (readName value letters chars).2.length ≤ chars.length := by
  fun_induction readName value letters chars with
  | case1 => simp
  | case2 => simp
  | case3 letters expected rest inductionHypothesis =>
      simp only [List.length_cons]
      omega
  | case4 => simp

theorem readScale_length (finish : Option (Bool × List Nat) → Lexeme) (isNegative : Bool)
    (chars : List Char) : (readScale finish isNegative chars).2.length ≤ chars.length := by
  have digits := Text.length_leadingDigits_le 10 chars
  unfold readScale
  split
  · simp [digitMissing]
  · simp_all

theorem readExponent_length (finish : Option (Bool × List Nat) → Lexeme) (chars : List Char) :
    (readExponent finish chars).2.length ≤ chars.length := by
  unfold readExponent
  split
  · simp
  · split
    · split
      all_goals
        apply Nat.le_trans (readScale_length _ _ _)
        simp only [List.length_cons]
        omega
    · simp

theorem readNumber_length (isNegative : Bool) (chars : List Char) :
    (readNumber isNegative chars).2.length ≤ (Text.leadingDigits 10 chars).2.length := by
  unfold readNumber
  split
  · simp [digitMissing]
  · simp
  · rename_i rest _ _ found
    rw [found]
    have further := Text.length_leadingDigits_le 10 rest
    split
    · simp [digitMissing]
    · rename_i found
      rw [found] at further
      apply Nat.le_trans (readExponent_length _ _)
      simp only [List.length_cons] at *
      omega
  · rename_i found
    rw [found]
    exact readExponent_length _ _

theorem readLexeme_length (c : Char) (rest : List Char) :
    (readLexeme c rest).2.length ≤ rest.length := by
  unfold readLexeme
  split
  case h_7 => exact readString_length _ _
  case h_8 => exact readName_length _ _ _
  case h_9 => exact readName_length _ _ _
  case h_10 => exact readName_length _ _ _
  case h_11 =>
    exact Nat.le_trans (readNumber_length _ _) (Text.length_leadingDigits_le 10 rest)
  case h_12 =>
    split
    · rename_i isDigit
      obtain ⟨digit, isDigit⟩ := Option.isSome_iff_exists.1 isDigit
      apply Nat.le_trans (readNumber_length _ _)
      simp only [Text.leadingDigits, isDigit]
      exact Text.length_leadingDigits_le 10 rest
    · simp
  all_goals exact Nat.le_refl _

/-- The lexemes of a text, up to the first that is broken. -/
def lexemes : List Char → List Lexeme
  | [] => []
  | c :: rest =>
      if isBlank c then lexemes rest
      else (readLexeme c rest).1 :: lexemes (readLexeme c rest).2
  termination_by chars => chars.length
  decreasing_by
    · simp
    · exact Nat.lt_succ_of_le (readLexeme_length c rest)

end PacketFilter.Json
