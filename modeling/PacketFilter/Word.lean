import PacketFilter.Text.Blank
import PacketFilter.Text.Extent
import PacketFilter.Text.Lowercase

/-!
Cutting an expression into words. Blanks separate words, a parenthesis is a word of its own, and a
run of operator characters is cut from the left into the longest symbols. Everything else is a word
of maximal length. A word is known by its lowercased text and by the place of its first byte.
-/

namespace PacketFilter

/-- A piece of a text with the byte offset at which it starts. -/
structure Slice where
  chars : List Char
  offset : Nat
  deriving DecidableEq, Repr

/-- A lowercased word of an expression and the byte offset at which it starts. -/
structure Word where
  text : String
  position : Nat
  deriving DecidableEq, Repr

namespace Word

def isParenthesis (c : Char) : Bool :=
  c == '(' || c == ')'

def isOperator (c : Char) : Bool :=
  c == '=' || c == '!' || c == '<' || c == '>' || c == '&' || c == '|'

def isText (c : Char) : Bool :=
  !(Text.isBlank c || isParenthesis c || isOperator c)

/-- The operator characters that are read together. -/
def isSymbolPair (first second : Char) : Bool :=
  [('&', '&'), ('|', '|'), ('=', '='), ('!', '='), ('>', '='), ('<', '=')].contains (first, second)

def splitFirst (c : Char) (rest : List Char) : List Char × List Char :=
  if isParenthesis c then ([c], rest)
  else if isOperator c then
    match rest with
    | d :: further => if isSymbolPair c d then ([c, d], further) else ([c], d :: further)
    | [] => ([c], [])
  else (c :: rest.takeWhile isText, rest.dropWhile isText)

theorem splitFirst_append (c : Char) (rest : List Char) :
    (splitFirst c rest).1 ++ (splitFirst c rest).2 = c :: rest := by
  unfold splitFirst
  split
  · rfl
  · split
    · split
      · split <;> rfl
      · rfl
    · simp

theorem length_splitFirst_le (c : Char) (rest : List Char) :
    (splitFirst c rest).2.length ≤ rest.length := by
  unfold splitFirst
  split
  · exact Nat.le_refl _
  · split
    · split
      · split <;> simp
      · simp
    · exact (List.dropWhile_suffix isText).length_le

/-- The words of a text as pieces of it; the text starts at `offset`. -/
def slices (offset : Nat) : List Char → List Slice
  | [] => []
  | c :: rest =>
      if Text.isBlank c then slices (offset + c.utf8Size) rest
      else
        let word := (splitFirst c rest).1
        ⟨word, offset⟩ :: slices (offset + Text.byteLength word) (splitFirst c rest).2
  termination_by chars => chars.length
  decreasing_by
    · simp
    · exact Nat.lt_succ_of_le (length_splitFirst_le c rest)

def ofSlice (slice : Slice) : Word :=
  ⟨String.ofList (Text.lowercase slice.chars), slice.offset⟩

def cut (expression : String) : List Word :=
  (slices 0 expression.toList).map ofSlice

end Word

end PacketFilter
