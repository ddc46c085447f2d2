import PacketFilter.Proofs.Formula.Composition

/-!
Where the words of an expression can be taken apart. No word of a primitive is a mark, so whatever
an expression is cut into, a piece ends in front of every mark; in front of such a place and behind
it the words are cut by themselves, with the negations counted on from one side to the other.
-/

namespace PacketFilter

def Unmarked (words : List String) : Prop :=
  ∀ word ∈ words, Mark.ofText? word = none

namespace Unmarked

variable {first second : List String} {word : String}

theorem nil : Unmarked [] := by
  intro word member
  contradiction

theorem cons (plain : Mark.ofText? word = none) (others : Unmarked first) :
    Unmarked (word :: first) :=
  List.forall_mem_cons.2 ⟨plain, others⟩

theorem append (before : Unmarked first) (behind : Unmarked second) : Unmarked (first ++ second) :=
  List.forall_mem_append.2 ⟨before, behind⟩

theorem operand (accepted : word ∉ Operand.refused) : Unmarked [word] :=
  nil.cons (Operand.mark_of_not_refused accepted)

end Unmarked

theorem Comparison.Symbol.unmarked {symbol : String} {comparison : Comparison}
    (written : Symbol symbol comparison) : Unmarked [symbol] := by
  cases written <;> exact Unmarked.nil.cons rfl

theorem Comparison.Spells.unmarked {words : List String} {comparison : Option Comparison}
    (spells : Spells words comparison) : Unmarked words := by
  cases spells with
  | absent => exact .nil
  | written symbol => exact symbol.unmarked

theorem Comparison.Equality.unmarked {words : List String} (equality : Equality words) :
    Unmarked words := by
  cases equality with
  | absent => exact .nil
  | written symbol => exact symbol.unmarked

theorem Operand.SpellsNetwork.unmarked {words : List String} {network : Network}
    (spells : SpellsNetwork words network) : Unmarked words := by
  cases spells with
  | slashed slash read => exact .operand (slashed_not_refused read)
  | @masked written mask _ _ _ address number =>
      have behind : Unmarked ["mask", mask] := (Unmarked.operand number.not_refused).cons rfl
      exact behind.cons (mark_of_not_refused address.not_refused)
  | single address => exact .operand address.not_refused

theorem Phrase.Spells.unmarked {phrase : Phrase} {words : List String} {test : Test}
    (spells : Phrase.Spells phrase words test) : Unmarked words := by
  cases spells with
  | number compared number | port compared number =>
      exact compared.unmarked.append (.operand number.not_refused)
  | protocol compared number => exact compared.unmarked.append (.operand number.not_refused)
  | host compared address => exact compared.unmarked.append (.operand address.not_refused)
  | net compared network => exact compared.unmarked.append network.unmarked
  | flag equality => exact equality.unmarked
  | tcpFlag equality flag =>
      exact equality.unmarked.append (.operand (Operand.flag_not_refused flag))

theorem SpellsEndpoint.unmarked {words : List String} {test : Test}
    (spells : SpellsEndpoint words test) : Unmarked words := by
  cases spells with
  | either keyword phrase => cases keyword <;> exact phrase.unmarked.cons rfl
  | sided name keyword phrase =>
      cases name <;> cases keyword <;> exact (phrase.unmarked.cons rfl).cons rfl
  | bare name phrase => cases name <;> exact phrase.unmarked.cons rfl

theorem Qualifier.Name.unmarked {form : Form} {name : String} {predicate : Predicate}
    (named : Name form name predicate) : Mark.ofText? name = none :=
  Mark.ofText?_eq_none (name_not_mem named (by decide +kernel))

theorem Primitive.Spells.unmarked {form : Form} {primitive : Primitive} {words : List String}
    (spells : Spells form primitive words) : Unmarked words := by
  cases spells with
  | field keyword phrase | constant keyword phrase =>
      cases keyword <;> exact phrase.unmarked.cons rfl
  | ipField keyword phrase | ip6Field keyword phrase =>
      cases keyword <;> exact (phrase.unmarked.cons rfl).cons rfl
  | tcpField name keyword phrase =>
      have named := (Qualifier.Name.protocol name).unmarked
      cases keyword <;> exact (phrase.unmarked.cons rfl).cons named
  | endpoint written => exact written.unmarked
  | qualifier named => exact Unmarked.nil.cons named.unmarked
  | qualified named written => exact written.unmarked.cons named.unmarked

namespace Piece

variable {piece : Piece} {pieces first second : List Piece} {words left right : List String}

theorem Spells.eq_singleton {word : String} (spells : Spells piece words) (member : word ∈ words)
    (marked : Mark.ofText? word ≠ none) : words = [word] := by
  cases spells with
  | mark spelled => rw [List.mem_singleton.1 member]
  | primitive spelled => exact absurd (spelled.unmarked word member) marked

theorem Cut.eq_nil_of_no_words (cut : Cut pieces []) : pieces = [] := by
  generalize same : [] = words at cut
  cases cut with
  | nil => rfl
  | cons spells cut =>
      obtain ⟨first, others, rfl, _⟩ := spells.first_word
      contradiction

/-- A piece ends in front of every mark. -/
theorem Cut.split (cut : Cut pieces words) (whole : words = left ++ right)
    (marked : ∀ word ∈ right.head?, Mark.ofText? word ≠ none) :
    ∃ first second, pieces = first ++ second ∧ Cut first left ∧ Cut second right := by
  induction cut generalizing left with
  | nil =>
      obtain ⟨rfl, rfl⟩ := List.append_eq_nil_iff.1 whole.symm
      exact ⟨[], [], rfl, .nil, .nil⟩
  | @cons piece pieces front rest spells cut inductionHypothesis =>
      rcases List.append_eq_append_iff.1 whole with ⟨others, rfl, behind⟩ | ⟨others, rfl, rfl⟩
      · obtain ⟨first, second, rfl, before, after⟩ := inductionHypothesis behind
        exact ⟨piece :: first, second, rfl, .cons spells before, after⟩
      · cases others with
        | nil =>
            have single : Cut [piece] (left ++ []) := by
              simpa using Cut.cons spells .nil
            rw [List.append_nil] at single
            exact ⟨[piece], pieces, rfl, single, cut⟩
        | cons word others =>
            -- The mark is a word of the piece, so it is all of it and nothing is in front.
            have single := spells.eq_singleton (List.mem_append_right _ List.mem_cons_self)
              (marked word rfl)
            have nothing : left = [] := by
              have lengths := congrArg List.length single
              rw [List.length_append, List.length_cons, List.length_singleton] at lengths
              exact List.eq_nil_of_length_eq_zero (by omega)
            rw [nothing] at spells ⊢
            exact ⟨[], piece :: pieces, rfl, .nil, .cons spells cut⟩

theorem Cut.of_mark {mark : Mark} {word : String} (cut : Cut pieces (word :: words))
    (spells : mark.Spells word) : ∃ rest, pieces = .mark mark :: rest ∧ Cut rest words := by
  have marked : Mark.ofText? word = some mark := Mark.spells_iff.1 spells
  generalize whole : word :: words = spelled at cut
  cases cut with
  | nil => contradiction
  | @cons piece pieces front rest found cut =>
      obtain ⟨first, others, rfl, _⟩ := found.first_word
      obtain ⟨rfl, rfl⟩ := List.cons.inj whole
      have single := found.eq_singleton List.mem_cons_self (by simp [marked])
      obtain rfl : others = [] := (List.cons.inj single).2
      cases found with
      | mark other =>
          obtain rfl := Option.some.inj (marked.symm.trans (Mark.spells_iff.1 other))
          exact ⟨pieces, rfl, cut⟩
      | primitive spelled =>
          rw [spelled.unmarked word List.mem_cons_self] at marked
          contradiction

theorem Cut.exists_append (cut : Cut (first ++ second) words) :
    ∃ left right, words = left ++ right ∧ Cut first left ∧ Cut second right := by
  induction first generalizing words with
  | nil => exact ⟨[], words, rfl, .nil, cut⟩
  | cons piece pieces inductionHypothesis =>
      cases cut with
      | cons spells cut =>
          obtain ⟨left, right, rfl, before, behind⟩ := inductionHypothesis cut
          exact ⟨_, right, (List.append_assoc ..).symm, .cons spells before, behind⟩

/-- The count of negations in a row behind pieces, with `negations` of them in front. -/
def countAll (negations : Nat) (pieces : List Piece) : Nat :=
  pieces.foldl count negations

def AdmitsAll (negations : Nat) : List Piece → Prop
  | [] => True
  | piece :: pieces => piece.Admits negations ∧ AdmitsAll (piece.count negations) pieces

theorem paired_append {negations : Nat} :
    Paired negations (first ++ second) ↔
      AdmitsAll negations first ∧ Paired (countAll negations first) second := by
  induction first generalizing negations with
  | nil => exact (iff_of_eq (true_and _)).symm
  | cons piece pieces inductionHypothesis =>
      rw [List.cons_append, Paired, AdmitsAll, inductionHypothesis, and_assoc]
      rfl

theorem tokensOf_append (negations : Nat) :
    tokensOf negations (first ++ second) =
      tokensOf negations first ++ tokensOf (countAll negations first) second := by
  induction first generalizing negations with
  | nil => rfl
  | cons piece pieces inductionHypothesis =>
      rw [List.cons_append, tokensOf, tokensOf, inductionHypothesis, List.append_assoc]
      rfl

theorem Greedy.tail (greedy : Greedy (piece :: pieces)) : Greedy pieces := by
  cases pieces with
  | nil => trivial
  | cons next pieces => exact greedy.2

theorem Greedy.of_append (greedy : Greedy (first ++ second)) : Greedy first ∧ Greedy second := by
  induction first with
  | nil => exact ⟨trivial, greedy⟩
  | cons piece pieces inductionHypothesis =>
      obtain ⟨before, behind⟩ := inductionHypothesis greedy.tail
      cases pieces with
      | nil => exact ⟨trivial, behind⟩
      | cons next pieces => exact ⟨⟨greedy.1, before⟩, behind⟩

end Piece

end PacketFilter
