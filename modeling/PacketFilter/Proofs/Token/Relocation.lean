import PacketFilter.Proofs.Token.Faults

/-!
The places of words mean nothing to the readers. Words at other places are read as the same, and
what stops a reader is the same word at its other place.
-/

namespace PacketFilter

def Word.relocate (moved : Nat → Nat) (word : Word) : Word :=
  ⟨word.text, moved word.position⟩

def FilterError.relocate (moved : Nat → Nat) : FilterError → FilterError
  | unexpectedWord word => unexpectedWord (word.relocate moved)
  | missingOperand keyword expected => missingOperand (keyword.relocate moved) expected
  | invalidOperand word expected reason => invalidOperand (word.relocate moved) expected reason
  | unsupportedComparison symbol keyword => unsupportedComparison (symbol.relocate moved) keyword
  | danglingNot position => danglingNot (moved position)
  | other => other

/-- What a reader gives back when words are at other places: `carry` moves the words in what it
read. -/
def relocated {α : Type} (moved : Nat → Nat) (carry : α → α) :
    Except FilterError α → Except FilterError α
  | .ok value => .ok (carry value)
  | .error fault => .error (fault.relocate moved)

def carryRest {α : Type} (moved : Nat → Nat) (read : α × List Word) : α × List Word :=
  (read.1, read.2.map (Word.relocate moved))

variable {moved : Nat → Nat}

theorem relocated_bind {α β : Type} {carry : α → α} {carryBehind : β → β}
    {step other : Except FilterError α} {next behind : α → Except FilterError β}
    (first : other = relocated moved carry step)
    (later : ∀ value, behind (carry value) = relocated moved carryBehind (next value)) :
    (other >>= behind) = relocated moved carryBehind (step >>= next) := by
  rw [first]
  cases step with
  | error fault => rfl
  | ok value => exact later value

theorem relocated_id {α : Type} (step : Except FilterError α) :
    relocated moved id step = step.mapError (FilterError.relocate moved) := by
  cases step <;> rfl

namespace Operand

variable (word keyword : Word) (words : List Word)

theorem comparison_relocate :
    comparison (words.map (Word.relocate moved)) = carryRest moved (comparison words) := by
  cases words with
  | nil => rfl
  | cons word rest =>
      rw [List.map_cons, comparison, comparison, Word.relocate]
      cases Comparison.ofSymbol? word.text <;> rfl

theorem equality_relocate :
    equality (keyword.relocate moved) (words.map (Word.relocate moved)) =
      relocated moved (List.map (Word.relocate moved)) (equality keyword words) := by
  cases words with
  | nil => rfl
  | cons word rest =>
      rw [List.map_cons, equality, equality, Word.relocate]
      cases Comparison.ofSymbol? word.text with
      | none => rfl
      | some found => cases found <;> rfl

theorem take_relocate (expected : String) :
    take (keyword.relocate moved) expected (words.map (Word.relocate moved)) =
      relocated moved (Prod.map (Word.relocate moved) (List.map (Word.relocate moved)))
        (take keyword expected words) := by
  cases words with
  | nil => rfl
  | cons word rest =>
      rw [List.map_cons, take, take]
      dsimp only [Word.relocate]
      cases Mark.ofText? word.text <;> rfl

theorem number_relocate (limit : Nat) :
    number limit (word.relocate moved) = relocated moved id (number limit word) := by
  unfold number Word.relocate
  dsimp only
  cases numeral word.text.toList with
  | error fault => rfl
  | ok value =>
      dsimp only
      split <;> rfl

theorem protocolNumber_relocate (limit : Nat) :
    protocolNumber limit (word.relocate moved) =
      relocated moved id (protocolNumber limit word) := by
  unfold protocolNumber
  rw [number_relocate, Word.relocate]
  cases Protocol.ofName? word.text <;> rfl

theorem address_relocate :
    address (word.relocate moved) = relocated moved id (address word) := by
  unfold address Word.relocate
  cases Address.read? word.text.toList <;> rfl

theorem flagName_relocate :
    flagName (word.relocate moved) = relocated moved id (flagName word) := by
  unfold flagName Word.relocate
  cases TcpFlag.ofName? word.text <;> rfl

theorem slashed_relocate :
    slashed (word.relocate moved) = relocated moved id (slashed word) := by
  unfold slashed Word.relocate
  cases Network.read? word.text.toList <;> rfl

theorem masked_relocate (written : Address) :
    masked written (word.relocate moved) = relocated moved id (masked written word) := by
  refine relocated_bind (address_relocate word) fun mask => ?_
  cases written with
  | v6 bits => rfl
  | v4 bits =>
      cases mask with
      | v6 mask => rfl
      | v4 mask =>
          dsimp only [id]
          cases Block.ofCountedMask? bits mask <;> rfl

theorem maskBehind_relocate (written : Address) :
    maskBehind written (words.map (Word.relocate moved)) =
      relocated moved (carryRest moved) (maskBehind written words) := by
  cases words with
  | nil => rfl
  | cons word rest =>
      rw [List.map_cons, maskBehind, maskBehind]
      by_cases named : word.text = "mask"
      · rw [if_pos named, if_pos (show (word.relocate moved).text = "mask" from named)]
        refine relocated_bind (take_relocate word rest _) fun taken => ?_
        exact relocated_bind (masked_relocate taken.1 written) fun network => rfl
      · rw [if_neg named, if_neg (show (word.relocate moved).text ≠ "mask" from named)]
        rfl

theorem network_relocate :
    network (keyword.relocate moved) (words.map (Word.relocate moved)) =
      relocated moved (carryRest moved) (network keyword words) := by
  refine relocated_bind (take_relocate keyword words _) fun taken => ?_
  dsimp only [Prod.map, Word.relocate]
  split
  · exact relocated_bind (slashed_relocate taken.1) fun network => rfl
  · exact relocated_bind (address_relocate taken.1) fun written => maskBehind_relocate _ written

theorem operand_relocate {α β : Type} {understand : Word → Except FilterError α}
    {bound : α → β} (expected : String)
    (understood : ∀ word,
      understand (word.relocate moved) = relocated moved id (understand word)) :
    (take (keyword.relocate moved) expected (words.map (Word.relocate moved)) >>= fun taken =>
      understand taken.1 >>= fun value => .ok (bound value, taken.2)) =
      relocated moved (carryRest moved) (take keyword expected words >>= fun taken =>
        understand taken.1 >>= fun value => .ok (bound value, taken.2)) := by
  refine relocated_bind (take_relocate keyword words expected) fun taken => ?_
  exact relocated_bind (understood taken.1) fun value => rfl

end Operand

open Operand

theorem Phrase.read_relocate (phrase : Phrase) (keyword : Word) (words : List Word) :
    phrase.read (keyword.relocate moved) (words.map (Word.relocate moved)) =
      relocated moved (carryRest moved) (phrase.read keyword words) := by
  have compared := @comparison_relocate moved words
  cases phrase with
  | number field | port side =>
      rw [Phrase.read, compared]
      exact operand_relocate keyword _ _ fun word => number_relocate word _
  | protocol field =>
      rw [Phrase.read, compared]
      exact operand_relocate keyword _ _ fun word => protocolNumber_relocate word _
  | host side =>
      rw [Phrase.read, compared]
      exact operand_relocate keyword _ _ fun word => address_relocate word
  | net side =>
      rw [Phrase.read, compared]
      exact relocated_bind (network_relocate keyword _) fun network => rfl
  | flag predicate =>
      exact relocated_bind (equality_relocate keyword words) fun rest => rfl
  | tcpFlag =>
      refine relocated_bind (equality_relocate keyword words) fun rest => ?_
      exact operand_relocate keyword rest _ fun word => flagName_relocate word

def Recognised.relocate (moved : Nat → Nat) (recognised : Recognised) : Recognised :=
  ⟨recognised.phrase, recognised.keyword.relocate moved,
    recognised.rest.map (Word.relocate moved)⟩

theorem Keywords.next?_relocate (keywords : Keywords) (words : List Word) :
    keywords.next? (words.map (Word.relocate moved)) =
      (keywords.next? words).map (Recognised.relocate moved) := by
  cases words with
  | nil => rfl
  | cons word rest =>
      rw [List.map_cons, Keywords.next?, Keywords.next?, Word.relocate]
      cases keywords.lookup word.text <;> rfl

theorem Recognised.endpoint?_relocate (words : List Word) :
    endpoint? (words.map (Word.relocate moved)) =
      (endpoint? words).map (Recognised.relocate moved) := by
  cases words with
  | nil => rfl
  | cons word rest =>
      rw [List.map_cons, endpoint?, endpoint?, ← List.map_cons, Keywords.next?_relocate,
        Word.relocate]
      cases Side.ofName? word.text with
      | none => rfl
      | some side =>
          dsimp only
          rw [Keywords.next?_relocate]
          cases (Keywords.endpoint side).next? rest <;> rfl

theorem Recognised.phrase?_relocate (words : List Word) :
    phrase? (words.map (Word.relocate moved)) =
      (phrase? words).map (Recognised.relocate moved) := by
  unfold phrase?
  rw [Keywords.next?_relocate, endpoint?_relocate, Keywords.next?_relocate]
  cases Keywords.ip.next? words with
  | some recognised => rfl
  | none => cases endpoint? words <;> rfl

theorem Recognised.read_relocate (recognised : Recognised) :
    (recognised.relocate moved).read = relocated moved (carryRest moved) recognised.read :=
  Phrase.read_relocate _ _ _

namespace Primitive

theorem ofPhrase_relocate (recognised : Recognised) :
    ofPhrase (recognised.relocate moved) =
      relocated moved (carryRest moved) (ofPhrase recognised) :=
  relocated_bind recognised.read_relocate fun _ => rfl

theorem behindQualifier_relocate (predicate : Predicate) (words : List Word) :
    behindQualifier predicate (words.map (Word.relocate moved)) =
      relocated moved (carryRest moved) (behindQualifier predicate words) := by
  unfold behindQualifier
  rw [Recognised.endpoint?_relocate]
  cases Recognised.endpoint? words with
  | none => rfl
  | some recognised => exact relocated_bind recognised.read_relocate fun _ => rfl

theorem read_relocate (word : Word) (words : List Word) :
    read (word.relocate moved) (words.map (Word.relocate moved)) =
      relocated moved (carryRest moved) (read word words) := by
  unfold read
  rw [← List.map_cons, Recognised.phrase?_relocate]
  cases Recognised.phrase? (word :: words) with
  | some recognised => exact ofPhrase_relocate recognised
  | none =>
      dsimp only [Option.map, Word.relocate]
      cases Qualifier.ofName? word.text with
      | none => rfl
      | some qualifier =>
          dsimp only
          rw [Keywords.next?_relocate]
          cases qualifier.keywords.next? words with
          | some recognised => exact ofPhrase_relocate recognised
          | none => exact behindQualifier_relocate _ words

end Primitive

namespace Token

theorem ofWords_relocate (pending : Option Nat) (words : List Word) :
    ofWords (pending.map moved) (words.map (Word.relocate moved)) =
      relocated moved id (ofWords pending words) := by
  fun_induction ofWords pending words with
  | case1 position => simp [ofWords, relocated, FilterError.relocate]
  | case2 => simp [ofWords, relocated]
  | case3 pending word rest negation inductionHypothesis =>
      rw [List.map_cons, ofWords, Word.relocate, negation]
      refine Eq.trans ?_ inductionHypothesis
      cases pending <;> rfl
  | case4 pending word rest opening inductionHypothesis =>
      rw [List.map_cons, ofWords, Word.relocate, opening]
      refine relocated_bind inductionHypothesis fun tokens => ?_
      rw [Option.isSome_map]
      rfl
  | case5 word rest mark _ _ marked position =>
      rw [List.map_cons, ofWords, Word.relocate, marked]
      cases mark with
      | not | openParen => contradiction
      | and | or | closeParen => rfl
  | case6 word rest mark _ _ marked inductionHypothesis =>
      rw [List.map_cons, ofWords, Word.relocate, marked]
      cases mark with
      | not | openParen => contradiction
      | and | or | closeParen => exact relocated_bind inductionHypothesis fun tokens => rfl
  | case7 pending word rest unmarked fault unread =>
      have found := @Primitive.read_relocate moved word rest
      have still : Mark.ofText? (word.relocate moved).text = none := unmarked
      rw [List.map_cons, ofWords_of_unmarked _ still, found, unread]
      rfl
  | case8 pending word rest unmarked primitive left read inductionHypothesis =>
      have found := @Primitive.read_relocate moved word rest
      have still : Mark.ofText? (word.relocate moved).text = none := unmarked
      rw [List.map_cons, ofWords_of_unmarked _ still, found, read]
      refine relocated_bind inductionHypothesis fun tokens => ?_
      rw [Option.isSome_map]
      rfl

end Token

end PacketFilter
