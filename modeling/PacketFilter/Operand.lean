import PacketFilter.Error
import PacketFilter.Network.Reader
import PacketFilter.Phrase.Basic
import PacketFilter.Sequence
import PacketFilter.Token.Basic

/-!
Reading what is written behind a keyword. Each reader takes the words that follow and gives back
what it read with the words that are left, which are always the last ones of those it was given.
-/

namespace PacketFilter.Operand

def comparison : List Word → Option Comparison × List Word
  | [] => (none, [])
  | word :: rest =>
      match Comparison.ofSymbol? word.text with
      | some comparison => (some comparison, rest)
      | none => (none, word :: rest)

/-- Reads a sign of equality if one is written, and refuses the other comparisons. -/
def equality (keyword : Word) : List Word → Except FilterError (List Word)
  | [] => .ok []
  | word :: rest =>
      match Comparison.ofSymbol? word.text with
      | some .eq => .ok rest
      | some _ => .error (.unsupportedComparison word keyword.text)
      | none => .ok (word :: rest)

/-- Reads the word in the place of an operand, which can be every word but a mark. -/
def take (keyword : Word) (expected : String) :
    List Word → Except FilterError (Word × List Word)
  | [] => .error (.missingOperand keyword expected)
  | word :: rest =>
      match Mark.ofText? word.text with
      | some _ => .error (.missingOperand keyword expected)
      | none => .ok (word, rest)

/-- Numbers are read with 32 bits, whatever the limit of the field. -/
def numberBound : Nat := 1 <<< 32

def numeral : List Char → Except Text.NumeralFault Nat
  | '0' :: 'x' :: digits => Text.readNumeral 16 numberBound digits
  | digits => Text.readNumeral 10 numberBound digits

def number (limit : Nat) (word : Word) : Except FilterError Nat :=
  let expected := "integer in 0..=" ++ Text.decimal limit
  match numeral word.text.toList with
  | .error fault => .error (.invalidOperand word expected fault.message)
  | .ok value =>
      if limit < value then .error (.invalidOperand word expected "out of range") else .ok value

/-- Keeps the lowest bits of a number, as many as an operand is stored with. -/
def stored (width value : Nat) : Nat :=
  (BitVec.ofNat width value).toNat

def protocolNumber (limit : Nat) (word : Word) : Except FilterError Nat :=
  match Protocol.ofName? word.text with
  | some protocol => .ok protocol
  | none => number limit word

def address (word : Word) : Except FilterError Address :=
  match Address.read? word.text.toList with
  | some address => .ok address
  | none => .error (.invalidOperand word "IpAddr" Address.malformed)

def flagName (word : Word) : Except FilterError TcpFlag :=
  match TcpFlag.ofName? word.text with
  | some flag => .ok flag
  | none => .error (.invalidOperand word "TcpFlag" "Matching variant not found")

def slashed (word : Word) : Except FilterError Network :=
  match Network.read? word.text.toList with
  | some network => .ok network
  | none => .error (.invalidOperand word "IpNetwork" (Network.malformed word.text))

/-- Understands a word as the mask of an address. Only version 4 has masks. -/
def masked (written : Address) (word : Word) : Except FilterError Network := do
  match written, ← address word with
  | .v4 bits, .v4 mask =>
      match Block.ofCountedMask? bits mask with
      | some block => .ok (.v4 block)
      | none => .error (.invalidOperand word "IPv4 mask" "non-contiguous mask")
  | _, _ => .error (.invalidOperand word "IPv4 mask" "mask form only supported for IPv4")

def maskBehind (written : Address) : List Word → Except FilterError (Network × List Word)
  | [] => .ok (.single written, [])
  | word :: rest =>
      if word.text = "mask" then do
        let (mask, rest) ← take word "an IPv4 mask" rest
        let network ← masked written mask
        .ok (network, rest)
      else .ok (.single written, word :: rest)

def network (keyword : Word) (words : List Word) : Except FilterError (Network × List Word) := do
  let (word, rest) ← take keyword "a network" words
  if word.text.toList.contains '/' then
    let network ← slashed word
    .ok (network, rest)
  else
    let written ← address word
    maskBehind written rest

theorem comparison_suffix (words : List Word) : (comparison words).2 <:+ words := by
  unfold comparison
  split
  · exact List.suffix_refl _
  · split
    · exact List.suffix_cons _ _
    · exact List.suffix_refl _

theorem equality_suffix {keyword : Word} {words rest : List Word}
    (read : equality keyword words = .ok rest) : rest <:+ words := by
  unfold equality at read
  split at read
  · obtain rfl := Except.ok.inj read
    exact List.suffix_refl _
  · split at read
    · obtain rfl := Except.ok.inj read
      exact List.suffix_cons _ _
    · contradiction
    · obtain rfl := Except.ok.inj read
      exact List.suffix_refl _

theorem take_suffix {keyword word : Word} {expected : String} {words rest : List Word}
    (read : take keyword expected words = .ok (word, rest)) : rest <:+ words := by
  unfold take at read
  split at read
  · contradiction
  · split at read
    · contradiction
    · cases read
      exact List.suffix_cons _ _

theorem maskBehind_suffix {written : Address} {network : Network} {words rest : List Word}
    (read : maskBehind written words = .ok (network, rest)) : rest <:+ words := by
  unfold maskBehind at read
  split at read
  · cases read
    exact List.suffix_refl _
  · split at read
    · obtain ⟨⟨mask, left⟩, taken, read⟩ := bind_eq_ok.1 read
      obtain ⟨block, _, read⟩ := bind_eq_ok.1 read
      cases read
      exact (take_suffix taken).trans (List.suffix_cons _ _)
    · cases read
      exact List.suffix_refl _

theorem network_suffix {keyword : Word} {found : Network} {words rest : List Word}
    (read : network keyword words = .ok (found, rest)) : rest <:+ words := by
  obtain ⟨⟨word, left⟩, taken, read⟩ := bind_eq_ok.1 read
  dsimp only at read
  split at read
  · obtain ⟨block, _, read⟩ := bind_eq_ok.1 read
    cases read
    exact take_suffix taken
  · obtain ⟨written, _, read⟩ := bind_eq_ok.1 read
    exact (maskBehind_suffix read).trans (take_suffix taken)

end PacketFilter.Operand
