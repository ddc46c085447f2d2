import Mathlib.Data.List.Induction
import PacketFilter.Token.Basic

/-!
Which parentheses belong together. A closing parenthesis closes the innermost one that is still
open; if none is open, it is unmatched. Parentheses are known by their places, counted from zero.
-/

namespace PacketFilter.Token

/-- What one more token at its place does to the places of the open parentheses. -/
def opensNext : List Nat → Token × Nat → List Nat
  | places, (.openParen, place) => place :: places
  | places, (.closeParen, _) => places.tail
  | places, _ => places

/-- The places of the parentheses that tokens leave open, the innermost first. -/
def openPlaces (tokens : List Token) : List Nat :=
  tokens.zipIdx.foldl opensNext []

variable {tokens : List Token} {token : Token} {place : Nat}

theorem openPlaces_concat (tokens : List Token) (token : Token) :
    openPlaces (tokens ++ [token]) = opensNext (openPlaces tokens) (token, tokens.length) := by
  simp [openPlaces, List.zipIdx_append]

theorem mem_opensNext {places : List Nat} {token : Token} {next : Nat}
    (member : place ∈ opensNext places (token, next)) :
    place = next ∧ token = .openParen ∨ place ∈ places := by
  cases token with
  | openParen =>
      rcases List.mem_cons.1 member with same | listed
      · exact .inl ⟨same, rfl⟩
      · exact .inr listed
  | closeParen => exact .inr (List.mem_of_mem_tail member)
  | test | and | or | not => exact .inr member

/-- The parentheses around an open one are those that were open in front of it. -/
theorem openPlaces_of_suffix {outer : List Nat} (suffix : place :: outer <:+ openPlaces tokens) :
    tokens[place]? = some .openParen ∧ openPlaces (tokens.take place) = outer := by
  induction tokens using List.reverseRecOn with
  | nil => exact absurd (List.eq_nil_of_suffix_nil suffix) (List.cons_ne_nil _ _)
  | append_singleton tokens token inductionHypothesis =>
      have earlier (suffix : place :: outer <:+ openPlaces tokens) :
          (tokens ++ [token])[place]? = some .openParen ∧
            openPlaces ((tokens ++ [token]).take place) = outer := by
        obtain ⟨found, enclosing⟩ := inductionHypothesis suffix
        obtain ⟨inside, _⟩ := List.getElem?_eq_some_iff.1 found
        rw [List.getElem?_append_left inside, List.take_append_of_le_length (Nat.le_of_lt inside)]
        exact ⟨found, enclosing⟩
      rw [openPlaces_concat] at suffix
      cases token with
      | openParen =>
          rcases List.suffix_cons_iff.1 suffix with same | suffix
          · cases same
            simp
          · exact earlier suffix
      | closeParen => exact earlier (suffix.trans (List.tail_suffix _))
      | test | and | or | not => exact earlier suffix

theorem getElem?_of_mem_openPlaces (member : place ∈ openPlaces tokens) :
    tokens[place]? = some .openParen := by
  obtain ⟨inner, outer, places⟩ := List.append_of_mem member
  exact (openPlaces_of_suffix ⟨inner, places.symm⟩).1

theorem lt_length_of_mem_openPlaces (member : place ∈ openPlaces tokens) :
    place < tokens.length := by
  induction tokens using List.reverseRecOn with
  | nil => contradiction
  | append_singleton tokens token inductionHypothesis =>
      rw [openPlaces_concat] at member
      rw [List.length_append, List.length_singleton]
      rcases mem_opensNext member with ⟨rfl, _⟩ | earlier
      · exact Nat.lt_succ_self _
      · exact Nat.lt_succ_of_lt (inductionHypothesis earlier)

theorem mem_openPlaces_take {count : Nat} (member : place ∈ openPlaces tokens)
    (behind : place < count) : place ∈ openPlaces (tokens.take count) := by
  induction tokens using List.reverseRecOn with
  | nil => contradiction
  | append_singleton tokens token inductionHypothesis =>
      by_cases whole : (tokens ++ [token]).length ≤ count
      · rwa [List.take_of_length_le whole]
      · rw [List.length_append, List.length_singleton] at whole
        have inside : count ≤ tokens.length := by omega
        rw [List.take_append_of_le_length inside]
        rw [openPlaces_concat] at member
        rcases mem_opensNext member with ⟨rfl, _⟩ | earlier
        · omega
        · exact inductionHypothesis earlier

/-- The parentheses further out stand further in front. -/
theorem pairwise_openPlaces (tokens : List Token) :
    (openPlaces tokens).Pairwise (fun inner outer => outer < inner) := by
  induction tokens using List.reverseRecOn with
  | nil => exact .nil
  | append_singleton tokens token inductionHypothesis =>
      rw [openPlaces_concat]
      cases token with
      | openParen =>
          exact .cons (fun place member => lt_length_of_mem_openPlaces member) inductionHypothesis
      | closeParen => exact inductionHypothesis.tail
      | test | and | or | not => exact inductionHypothesis

/-- Every closing parenthesis closes one that is open, and none is open in the end. -/
structure Balanced (tokens : List Token) : Prop where
  matched : ∀ place : Nat, tokens[place]? = some .closeParen → openPlaces (tokens.take place) ≠ []
  closed : openPlaces tokens = []

/-- The place from which a closing parenthesis behind the tokens closes a group: that of the
innermost open parenthesis, or its own place if none is open. -/
def groupStart (tokens : List Token) : Nat :=
  (openPlaces tokens).headD tokens.length

theorem groupStart_le_length (tokens : List Token) : groupStart tokens ≤ tokens.length := by
  unfold groupStart
  cases places : openPlaces tokens with
  | nil => exact Nat.le_refl _
  | cons place outer =>
      have member : place ∈ openPlaces tokens := places ▸ List.mem_cons_self
      exact Nat.le_of_lt (lt_length_of_mem_openPlaces member)

/-- No group starts in front of a parenthesis that is open inside of it. -/
theorem le_groupStart (member : place ∈ openPlaces tokens) : place ≤ groupStart tokens := by
  unfold groupStart
  have ordered := pairwise_openPlaces tokens
  cases places : openPlaces tokens with
  | nil =>
      rw [places] at member
      contradiction
  | cons first outer =>
      rw [places] at member ordered
      rcases List.mem_cons.1 member with rfl | further
      · exact Nat.le_refl _
      · exact Nat.le_of_lt (List.rel_of_pairwise_cons ordered further)

end PacketFilter.Token
