import PacketFilter.Json.Lexeme

/-!
A JSON text as far as it can be read. The text is read from left to right, and where it breaks off
or goes wrong the containers that are open end with what they hold. Whoever reads a draft in order
therefore meets its parts in the order of the text and the break last, and may well be content, or
have found another fault, before that.
-/

namespace PacketFilter.Json

inductive Draft where
  | null
  | bool (value : Bool)
  | number (value : Number)
  /-- A string, known unless a surrogate in it is unpaired. -/
  | string (value : Option String)
  /-- Items, and the break where a comma or the end of the array has to stand. -/
  | array (items : List Draft) (cut : Option Break)
  /-- Keys with their values, and the break where a comma, a key or the end has to stand. -/
  | object (members : List (Option String × Draft)) (cut : Option Break)
  /-- The break where a value has to stand. -/
  | broken (place : Break)
  deriving Repr

/-- A container that is open while one of its parts is read, the parts so far in reverse. -/
inductive Frame where
  | array (items : List Draft)
  | object (members : List (Option String × Draft)) (key : Option String)
  deriving Repr

/-- A whole text: its value, and whether anything follows it. -/
structure Document where
  root : Draft
  isFollowed : Bool
  deriving Repr

/-- What may come next, and the containers around it, the innermost first. -/
inductive State where
  | valueNext (outer : List Frame)
  | firstItem (outer : List Frame)
  | firstKey (outer : List Frame)
  | keyNext (members : List (Option String × Draft)) (outer : List Frame)
  | colonNext (members : List (Option String × Draft)) (key : Option String) (outer : List Frame)
  | afterItem (items : List Draft) (outer : List Frame)
  | afterMember (members : List (Option String × Draft)) (outer : List Frame)
  | finished (root : Draft)
  deriving Repr

namespace State

def behind (value : Draft) : List Frame → State
  | [] => finished value
  | .array items :: outer => afterItem (value :: items) outer
  | .object members key :: outer => afterMember ((key, value) :: members) outer

/-- Ends the text with a value behind which nothing can be read any more. -/
def abandon (value : Draft) : List Frame → Document
  | [] => ⟨value, false⟩
  | .array items :: outer => abandon (.array (value :: items).reverse none) outer
  | .object members key :: outer =>
      abandon (.object ((key, value) :: members).reverse none) outer

def stopAt (place : Break) : State → Document
  | valueNext outer => abandon (.broken place) outer
  | firstItem outer => abandon (.broken place) (.array [] :: outer)
  | firstKey outer => abandon (.object [] (some place)) outer
  | keyNext members outer => abandon (.object members.reverse (some place)) outer
  | colonNext members key outer => abandon (.broken place) (.object members key :: outer)
  | afterItem items outer => abandon (.array items.reverse (some place)) outer
  | afterMember members outer => abandon (.object members.reverse (some place)) outer
  | finished root => ⟨root, false⟩

def readValue (outer : List Frame) : Lexeme → Except Document State
  | .openBracket => .ok (firstItem outer)
  | .openBrace => .ok (firstKey outer)
  | .null => .ok (behind .null outer)
  | .bool value => .ok (behind (.bool value) outer)
  | .number value => .ok (behind (.number value) outer)
  | .string value => .ok (behind (.string value) outer)
  | .brokenString place => .error (abandon (.broken place) outer)
  | .broken place => .error (abandon (.broken place) outer)
  | _ => .error (abandon (.broken (.always .malformed)) outer)

def readKey (members : List (Option String × Draft)) (outer : List Frame) :
    Lexeme → Except Document State
  | .string name => .ok (colonNext members name outer)
  | .brokenString place => .error ((keyNext members outer).stopAt place)
  | _ => .error ((keyNext members outer).stopAt (.always .malformed))

def step : State → Lexeme → Except Document State
  | valueNext outer, lexeme => readValue outer lexeme
  | firstItem outer, .closeBracket => .ok (behind (.array [] none) outer)
  | firstItem outer, lexeme => readValue (.array [] :: outer) lexeme
  | firstKey outer, .closeBrace => .ok (behind (.object [] none) outer)
  | firstKey outer, lexeme => readKey [] outer lexeme
  | keyNext members outer, lexeme => readKey members outer lexeme
  | colonNext members name outer, .colon => .ok (valueNext (.object members name :: outer))
  | afterItem items outer, .comma => .ok (valueNext (.array items :: outer))
  | afterItem items outer, .closeBracket => .ok (behind (.array items.reverse none) outer)
  | afterMember members outer, .comma => .ok (keyNext members outer)
  | afterMember members outer, .closeBrace => .ok (behind (.object members.reverse none) outer)
  | finished root, _ => .error ⟨root, true⟩
  | state, _ => .error (state.stopAt (.always .malformed))

end State

def Document.ofLexemes (lexemes : List Lexeme) : Document :=
  match lexemes.foldlM State.step (State.valueNext []) with
  | .ok state => state.stopAt (.always .truncated)
  | .error document => document

def Document.read (text : String) : Document :=
  Document.ofLexemes (lexemes text.toList)

end PacketFilter.Json
