import PacketFilter.Operand

/-!
Reading one primitive: a keyword with what is written behind it, or a qualifier with the address or
port that it qualifies. The first word decides by itself or together with the next one, so nothing
has to be taken back.
-/

namespace PacketFilter

/-- A primitive as it is written: a test, or a test behind a qualifier that both have to hold. -/
inductive Primitive where
  | single (test : Test)
  | qualified (qualifier test : Test)
  deriving DecidableEq, Repr

def Phrase.read (keyword : Word) (words : List Word) :
    Phrase → Except FilterError (Test × List Word)
  | .number field => do
      let (comparison, rest) := Operand.comparison words
      let (word, rest) ← Operand.take keyword "an integer" rest
      let operand ← Operand.number field.limit word
      .ok (.bind (.numeric field (Operand.stored field.width operand)) comparison false, rest)
  | .protocol field => do
      let (comparison, rest) := Operand.comparison words
      let (word, rest) ← Operand.take keyword "a protocol number or name" rest
      let operand ← Operand.protocolNumber field.limit word
      .ok (.bind (.numeric field (Operand.stored field.width operand)) comparison false, rest)
  | .host side => do
      let (comparison, rest) := Operand.comparison words
      let (word, rest) ← Operand.take keyword "an IPv4 or IPv6 address" rest
      let address ← Operand.address word
      .ok (.bind (.host side (.single address)) comparison false, rest)
  | .net side => do
      let (comparison, rest) := Operand.comparison words
      let (network, rest) ← Operand.network keyword rest
      .ok (.bind (.net side network) comparison false, rest)
  | .port side => do
      let (comparison, rest) := Operand.comparison words
      let (word, rest) ← Operand.take keyword "an integer" rest
      let number ← Operand.number portLimit word
      .ok (.bind (.port side (Operand.stored portWidth number)) comparison false, rest)
  | .flag predicate => do
      let rest ← Operand.equality keyword words
      .ok (.bind predicate none false, rest)
  | .tcpFlag => do
      let rest ← Operand.equality keyword words
      let (word, rest) ← Operand.take keyword "a TCP flag name" rest
      let flag ← Operand.flagName word
      .ok (.bind (.tcpFlag flag) none false, rest)

theorem Phrase.read_suffix {phrase : Phrase} {keyword : Word} {words rest : List Word}
    {test : Test} (read : phrase.read keyword words = .ok (test, rest)) : rest <:+ words := by
  have compared := Operand.comparison_suffix words
  cases phrase with
  | net side =>
      obtain ⟨⟨network, left⟩, found, read⟩ := bind_eq_ok.1 read
      cases read
      exact (Operand.network_suffix found).trans compared
  | flag predicate =>
      obtain ⟨left, found, read⟩ := bind_eq_ok.1 read
      cases read
      exact Operand.equality_suffix found
  | tcpFlag =>
      obtain ⟨left, found, read⟩ := bind_eq_ok.1 read
      obtain ⟨⟨word, left⟩, taken, read⟩ := bind_eq_ok.1 read
      obtain ⟨flag, _, read⟩ := bind_eq_ok.1 read
      cases read
      exact (Operand.take_suffix taken).trans (Operand.equality_suffix found)
  | _ =>
      obtain ⟨⟨word, left⟩, taken, read⟩ := bind_eq_ok.1 read
      obtain ⟨value, _, read⟩ := bind_eq_ok.1 read
      cases read
      exact (Operand.take_suffix taken).trans compared

structure Recognised where
  phrase : Phrase
  keyword : Word
  rest : List Word

def Keywords.next? (keywords : Keywords) : List Word → Option Recognised
  | [] => none
  | word :: rest => (keywords.lookup word.text).map (⟨·, word, rest⟩)

theorem Keywords.next?_suffix {keywords : Keywords} {words : List Word} {recognised : Recognised}
    (found : keywords.next? words = some recognised) :
    recognised.keyword :: recognised.rest <:+ words := by
  unfold Keywords.next? at found
  split at found
  · contradiction
  · obtain ⟨phrase, _, rfl⟩ := Option.map_eq_some_iff.1 found
    exact List.suffix_refl _

/-- Recognises the phrase of an address or port. Behind the name of an end the keyword may be left
out, and an address is meant. -/
def Recognised.endpoint? (words : List Word) : Option Recognised :=
  match words with
  | [] => none
  | word :: rest =>
      match Side.ofName? word.text with
      | some side => some (((Keywords.endpoint side).next? rest).getD ⟨.host side, word, rest⟩)
      | none => (Keywords.endpoint .either).next? words

theorem Recognised.endpoint?_suffix {words : List Word} {recognised : Recognised}
    (found : endpoint? words = some recognised) :
    recognised.keyword :: recognised.rest <:+ words := by
  unfold endpoint? at found
  split at found
  · contradiction
  · rename_i word rest
    split at found
    · rename_i side _
      obtain rfl := Option.some.inj found
      cases next : (Keywords.endpoint side).next? rest with
      | none => exact List.suffix_refl _
      | some inner => exact (Keywords.next?_suffix next).trans (List.suffix_cons _ _)
    · exact Keywords.next?_suffix found

def Recognised.phrase? (words : List Word) : Option Recognised :=
  (Keywords.ip.next? words).or ((endpoint? words).or (Keywords.constant.next? words))

theorem Recognised.phrase?_suffix {words : List Word} {recognised : Recognised}
    (found : phrase? words = some recognised) :
    recognised.keyword :: recognised.rest <:+ words := by
  unfold phrase? at found
  rcases Option.or_eq_some_iff.1 found with found | ⟨_, found⟩
  · exact Keywords.next?_suffix found
  · rcases Option.or_eq_some_iff.1 found with found | ⟨_, found⟩
    · exact endpoint?_suffix found
    · exact Keywords.next?_suffix found

def Recognised.read (recognised : Recognised) : Except FilterError (Test × List Word) :=
  recognised.phrase.read recognised.keyword recognised.rest

namespace Primitive

def ofPhrase (recognised : Recognised) : Except FilterError (Primitive × List Word) := do
  let (test, rest) ← recognised.read
  .ok (.single test, rest)

/-- Reads what follows a qualifier that asks for something: an address or port that it qualifies,
or nothing. -/
def behindQualifier (predicate : Predicate) (words : List Word) :
    Except FilterError (Primitive × List Word) :=
  let qualifier := Test.bind predicate none false
  match Recognised.endpoint? words with
  | some recognised => do
      let (test, rest) ← recognised.read
      .ok (.qualified qualifier test, rest)
  | none => .ok (.single qualifier, words)

theorem ofPhrase_length {recognised : Recognised} {words rest : List Word} {primitive : Primitive}
    (recognition : recognised.keyword :: recognised.rest <:+ words)
    (read : ofPhrase recognised = .ok (primitive, rest)) : rest.length < words.length := by
  obtain ⟨⟨test, left⟩, found, read⟩ := bind_eq_ok.1 read
  cases read
  exact Nat.lt_of_le_of_lt (Phrase.read_suffix found).length_le recognition.length_le

theorem behindQualifier_length {predicate : Predicate} {words rest : List Word}
    {primitive : Primitive} (read : behindQualifier predicate words = .ok (primitive, rest)) :
    rest.length ≤ words.length := by
  unfold behindQualifier at read
  dsimp only at read
  split at read
  · rename_i recognised recognition
    obtain ⟨⟨test, left⟩, found, read⟩ := bind_eq_ok.1 read
    cases read
    have shorter := (Recognised.endpoint?_suffix recognition).length_le
    exact Nat.le_trans (Phrase.read_suffix found).length_le (Nat.le_of_lt shorter)
  · cases read
    exact Nat.le_refl _

def read (word : Word) (words : List Word) : Except FilterError (Primitive × List Word) :=
  match Recognised.phrase? (word :: words) with
  | some recognised => ofPhrase recognised
  | none =>
      match Qualifier.ofName? word.text with
      | some qualifier =>
          match qualifier.keywords.next? words with
          | some recognised => ofPhrase recognised
          | none => behindQualifier qualifier.predicate words
      | none => .error (.unexpectedWord word)

theorem length_le_of_read {word : Word} {words rest : List Word} {primitive : Primitive}
    (found : read word words = .ok (primitive, rest)) : rest.length ≤ words.length := by
  unfold read at found
  split at found
  · rename_i recognised recognition
    exact Nat.le_of_lt_succ (ofPhrase_length (Recognised.phrase?_suffix recognition) found)
  · split at found
    · split at found
      · rename_i recognised recognition
        exact Nat.le_of_lt (ofPhrase_length (Keywords.next?_suffix recognition) found)
      · exact behindQualifier_length found
    · contradiction

end Primitive

end PacketFilter
