import PacketFilter.Phrase.Reader

/-!
The faults that readers report. Whatever stops a reader, the fault names a word of those that it
was given: a keyword without an operand, an operand that is none, or a comparison that its keyword,
the word directly in front of it, does not allow.
-/

namespace PacketFilter

namespace FilterError

/-- A fault of an expression names one of its words, by its text and place. -/
inductive PointsInto (words : List Word) : FilterError → Prop where
  | unexpectedWord {word} : word ∈ words → PointsInto words (.unexpectedWord word)
  | missingOperand {keyword expected} : keyword ∈ words →
      PointsInto words (.missingOperand keyword expected)
  | invalidOperand {word expected reason} : word ∈ words →
      PointsInto words (.invalidOperand word expected reason)
  | unsupportedComparison {keyword symbol} : [keyword, symbol] <:+: words →
      PointsInto words (.unsupportedComparison symbol keyword.text)
  | danglingNot {word} : word ∈ words → word.text = "not" ∨ word.text = "!" →
      PointsInto words (.danglingNot word.position)

/-- The word stands in the place of an operand and is refused. -/
def Refuses (error : FilterError) (word : Word) : Prop :=
  ∃ expected reason, error = .invalidOperand word expected reason

variable {error : FilterError} {word : Word} {words others : List Word}

theorem Refuses.pointsInto (refuses : error.Refuses word) (member : word ∈ words) :
    error.PointsInto words := by
  obtain ⟨expected, reason, rfl⟩ := refuses
  exact .invalidOperand member

theorem PointsInto.of_suffix (points : error.PointsInto words) (inside : words <:+ others) :
    error.PointsInto others := by
  cases points with
  | unexpectedWord member => exact .unexpectedWord (inside.subset member)
  | missingOperand member => exact .missingOperand (inside.subset member)
  | invalidOperand member => exact .invalidOperand (inside.subset member)
  | unsupportedComparison adjacent =>
      exact .unsupportedComparison (adjacent.trans inside.isInfix)
  | danglingNot member negation => exact .danglingNot (inside.subset member) negation

end FilterError

namespace Operand

variable {keyword word : Word} {expected : String} {words rest : List Word} {error : FilterError}

theorem take_eq_error (failed : take keyword expected words = .error error) :
    error = .missingOperand keyword expected := by
  unfold take at failed
  split at failed
  · exact (Except.error.inj failed).symm
  · split at failed
    · exact (Except.error.inj failed).symm
    · contradiction

theorem mem_of_take (taken : take keyword expected words = .ok (word, rest)) : word ∈ words := by
  unfold take at taken
  split at taken
  · contradiction
  · split at taken
    · contradiction
    · cases taken
      exact List.mem_cons_self

theorem number_refuses {limit : Nat} (failed : number limit word = .error error) :
    error.Refuses word := by
  unfold number at failed
  dsimp only at failed
  split at failed
  · exact ⟨_, _, (Except.error.inj failed).symm⟩
  · split at failed
    · exact ⟨_, _, (Except.error.inj failed).symm⟩
    · contradiction

theorem protocolNumber_refuses {limit : Nat} (failed : protocolNumber limit word = .error error) :
    error.Refuses word := by
  unfold protocolNumber at failed
  split at failed
  · contradiction
  · exact number_refuses failed

theorem address_refuses (failed : address word = .error error) : error.Refuses word := by
  unfold address at failed
  split at failed
  · contradiction
  · exact ⟨_, _, (Except.error.inj failed).symm⟩

theorem flagName_refuses (failed : flagName word = .error error) : error.Refuses word := by
  unfold flagName at failed
  split at failed
  · contradiction
  · exact ⟨_, _, (Except.error.inj failed).symm⟩

theorem slashed_refuses (failed : slashed word = .error error) : error.Refuses word := by
  unfold slashed at failed
  split at failed
  · contradiction
  · exact ⟨_, _, (Except.error.inj failed).symm⟩

theorem masked_refuses {written : Address} (failed : masked written word = .error error) :
    error.Refuses word := by
  rcases bind_eq_error.1 failed with unread | ⟨mask, _, unmatched⟩
  · exact address_refuses unread
  · split at unmatched
    · split at unmatched
      · contradiction
      · exact ⟨_, _, (Except.error.inj unmatched).symm⟩
    · exact ⟨_, _, (Except.error.inj unmatched).symm⟩

theorem equality_points (failed : equality keyword words = .error error) :
    error.PointsInto (keyword :: words) := by
  unfold equality at failed
  split at failed
  · contradiction
  · split at failed
    · contradiction
    · cases failed
      exact .unsupportedComparison (List.prefix_append _ _).isInfix
    · contradiction

theorem take_points (failed : take keyword expected words = .error error) (others : List Word) :
    error.PointsInto (keyword :: others) := by
  rw [take_eq_error failed]
  exact .missingOperand List.mem_cons_self

theorem maskBehind_points {written : Address} (failed : maskBehind written words = .error error) :
    error.PointsInto words := by
  unfold maskBehind at failed
  split at failed
  · contradiction
  · split at failed
    · rcases bind_eq_error.1 failed with absent | ⟨⟨mask, rest⟩, taken, refused⟩
      · exact take_points absent _
      · rcases bind_eq_error.1 refused with refused | ⟨network, _, bound⟩
        · exact (masked_refuses refused).pointsInto (List.mem_cons_of_mem _ (mem_of_take taken))
        · contradiction
    · contradiction

theorem network_points (inside : rest <:+ words) (failed : network keyword rest = .error error) :
    error.PointsInto (keyword :: words) := by
  rcases bind_eq_error.1 failed with absent | ⟨⟨word, behind⟩, taken, failed⟩
  · exact take_points absent _
  · have inside := inside.trans (List.suffix_cons keyword words)
    have member := inside.subset (mem_of_take taken)
    dsimp only at failed
    split at failed
    · rcases bind_eq_error.1 failed with refused | ⟨network, _, bound⟩
      · exact (slashed_refuses refused).pointsInto member
      · contradiction
    · rcases bind_eq_error.1 failed with refused | ⟨written, _, failed⟩
      · exact (address_refuses refused).pointsInto member
      · exact (maskBehind_points failed).of_suffix ((take_suffix taken).trans inside)

theorem operand_points {α β : Type} {understand : Word → Except FilterError α}
    {bound : α → List Word → β} (inside : rest <:+ words)
    (refuses : ∀ {word error}, understand word = .error error → error.Refuses word)
    (failed : (take keyword expected rest >>= fun taken =>
      understand taken.1 >>= fun value => .ok (bound value taken.2)) = .error error) :
    error.PointsInto (keyword :: words) := by
  rcases bind_eq_error.1 failed with absent | ⟨⟨word, behind⟩, taken, failed⟩
  · exact take_points absent _
  · rcases bind_eq_error.1 failed with refused | ⟨value, _, bound⟩
    · have member := inside.subset (mem_of_take taken)
      exact (refuses refused).pointsInto (List.mem_cons_of_mem _ member)
    · contradiction

end Operand

open Operand

variable {words : List Word} {error : FilterError}

theorem Phrase.read_points {phrase : Phrase} {keyword : Word}
    (failed : phrase.read keyword words = .error error) : error.PointsInto (keyword :: words) := by
  have compared := comparison_suffix words
  cases phrase with
  | number field => exact operand_points compared number_refuses failed
  | protocol field => exact operand_points compared protocolNumber_refuses failed
  | host side => exact operand_points compared address_refuses failed
  | port side => exact operand_points compared number_refuses failed
  | net side =>
      rcases bind_eq_error.1 failed with failed | ⟨network, _, bound⟩
      · exact network_points compared failed
      · contradiction
  | flag predicate =>
      rcases bind_eq_error.1 failed with failed | ⟨rest, _, bound⟩
      · exact equality_points failed
      · contradiction
  | tcpFlag =>
      rcases bind_eq_error.1 failed with failed | ⟨rest, equal, failed⟩
      · exact equality_points failed
      · exact operand_points (equality_suffix equal) flagName_refuses failed

theorem Recognised.read_points {recognised : Recognised}
    (recognition : recognised.keyword :: recognised.rest <:+ words)
    (failed : recognised.read = .error error) : error.PointsInto words :=
  (Phrase.read_points failed).of_suffix recognition

namespace Primitive

theorem ofPhrase_points {recognised : Recognised}
    (recognition : recognised.keyword :: recognised.rest <:+ words)
    (failed : ofPhrase recognised = .error error) : error.PointsInto words := by
  rcases bind_eq_error.1 failed with unread | ⟨test, _, bound⟩
  · exact Recognised.read_points recognition unread
  · contradiction

theorem behindQualifier_points {predicate : Predicate}
    (failed : behindQualifier predicate words = .error error) : error.PointsInto words := by
  unfold behindQualifier at failed
  dsimp only at failed
  split at failed
  · rename_i recognised recognition
    rcases bind_eq_error.1 failed with unread | ⟨test, _, bound⟩
    · exact Recognised.read_points (Recognised.endpoint?_suffix recognition) unread
    · contradiction
  · contradiction

theorem read_points {word : Word} (failed : read word words = .error error) :
    error.PointsInto (word :: words) := by
  have inside := List.suffix_cons word words
  unfold read at failed
  split at failed
  · rename_i recognised recognition
    exact ofPhrase_points (Recognised.phrase?_suffix recognition) failed
  · split at failed
    · split at failed
      · rename_i recognised recognition
        exact (ofPhrase_points (Keywords.next?_suffix recognition) failed).of_suffix inside
      · exact (behindQualifier_points failed).of_suffix inside
    · cases failed
      exact .unexpectedWord List.mem_cons_self

end Primitive

end PacketFilter
