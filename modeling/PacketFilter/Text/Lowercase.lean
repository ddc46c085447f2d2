import PacketFilter.Text.Case

/-!
Lowercasing of whole texts. Every character is lowercased on its own, except the capital sigma,
which becomes a final sigma at the end of a word: a cased letter precedes it and none follows,
characters without influence on case passed over on both sides.
-/

namespace PacketFilter.Text

/-- The lowercase form of one character. The dotted capital I is the only one with two. -/
def lowercaseChar (c : Char) : List Char :=
  if c.toNat < 0x80 then [c.toLower]
  else if c.toNat = 0x130 then ['i', '\u0307']
  else
    match caseRuns.find? fun run => run.contains c.toNat with
    | some run => [Char.ofNat (run.partner c.toNat)]
    | none => [c]

/-- A cased letter is the first character that is not passed over. -/
def meetsCased (chars : List Char) : Bool :=
  match chars.dropWhile isCaseIgnorable with
  | [] => false
  | c :: _ => isCased c

/-- The lowercase form of a capital sigma between `before`, nearest character first, and `after`. -/
def lowercaseSigma (before after : List Char) : Char :=
  if meetsCased before && !meetsCased after then 'ς' else 'σ'

/-- Lowercases the rest of a text; `before` holds the characters passed, nearest first. -/
def lowercaseAfter (before : List Char) : List Char → List Char
  | [] => []
  | c :: after =>
      (if c = 'Σ' then [lowercaseSigma before after] else lowercaseChar c) ++
        lowercaseAfter (c :: before) after

def lowercase (chars : List Char) : List Char :=
  lowercaseAfter [] chars

end PacketFilter.Text
