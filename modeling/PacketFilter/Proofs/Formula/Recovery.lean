import PacketFilter.Proofs.Formula.FlatStack
import PacketFilter.Proofs.Formula.Parsing
import PacketFilter.Proofs.Token.Parentheses

/-!
Pushing goes on after an error. A closing parenthesis that fails leaves the stack that was there
before its group was opened, and an unmatched one leaves the stack as it is, so that what is on the
stack in the end has been read from the tokens without the failed groups and the unmatched
parentheses. The invariant is that the run in front of an open parenthesis is the innermost run of
the stack that was there before the parenthesis was pushed.
-/

namespace PacketFilter

open Token

namespace ParseStack

/-- The stack behind tokens that are pushed one after the other, whether they fail or not. -/
def taken (tokens : List Token) : ParseStack :=
  tokens.foldl (fun stack token => (stack.push token).1) empty

/-- The token at a place fails when it is pushed behind those in front of it. -/
def failsAt (tokens : List Token) (place : Nat) : Bool :=
  tokens[place]?.any fun token => !((taken (tokens.take place)).push token).2.isOk

/-- The place lies in a group that fails, from its opening to its closing parenthesis, or is that
of an unmatched closing parenthesis. -/
def isDeleted (tokens : List Token) (place : Nat) : Bool :=
  (List.range tokens.length).any fun last =>
    failsAt tokens last && decide (groupStart (tokens.take last) ≤ place ∧ place ≤ last)

/-- The tokens without the groups that fail and the unmatched closing parentheses. -/
def retained (tokens : List Token) : List Token :=
  (tokens.zipIdx.filter fun entry => !isDeleted tokens entry.2).map Prod.fst

variable {tokens : List Token} {token : Token} {place last : Nat} {outer : List Nat}

theorem taken_concat (tokens : List Token) (token : Token) :
    taken (tokens ++ [token]) = ((taken tokens).push token).1 := by
  simp [taken]

theorem push_of_ne_closeParen (stack : ParseStack) (other : token ≠ .closeParen) :
    (stack.push token).2 = .ok none := by
  cases token with
  | closeParen => contradiction
  | test | and | or | not | openParen => rfl

theorem enclosing_close (stack : ParseStack) :
    stack.close.1.enclosing = stack.enclosing.tail := by
  unfold close
  split
  · rename_i unmatched
    rw [unmatched]
    rfl
  · rename_i run enclosing matched
    rw [matched]
    split <;> rfl

/-- In front of every open parenthesis stands the run that was innermost before it was pushed. -/
theorem enclosing_taken (tokens : List Token) :
    (taken tokens).enclosing =
      (openPlaces tokens).map fun place => (taken (tokens.take place)).current := by
  induction tokens using List.reverseRecOn with
  | nil => rfl
  | append_singleton tokens token inductionHypothesis =>
      have earlier : ∀ place ∈ openPlaces tokens,
          (taken ((tokens ++ [token]).take place)).current =
            (taken (tokens.take place)).current := by
        intro place member
        have inside := Nat.le_of_lt (lt_length_of_mem_openPlaces member)
        rw [List.take_append_of_le_length inside]
      have unchanged := inductionHypothesis.trans (List.map_congr_left earlier).symm
      rw [taken_concat, openPlaces_concat]
      cases token with
      | openParen =>
          have whole : (tokens ++ [openParen]).take tokens.length = tokens := by simp
          rw [opensNext, List.map_cons, whole, ← unchanged]
          rfl
      | closeParen => rw [push, enclosing_close, unchanged, opensNext, List.map_tail]
      | test | and | or | not => exact unchanged

theorem enclosing_eq_nil_iff : (taken tokens).enclosing = [] ↔ openPlaces tokens = [] := by
  rw [enclosing_taken, List.map_eq_nil_iff]

/-- Behind an open parenthesis the stack consists of the stack that was there before it was pushed,
and of the run since then. -/
theorem taken_eq_of_openPlaces (places : openPlaces tokens = place :: outer) :
    taken tokens = ⟨(taken tokens).current,
      (taken (tokens.take place)).current :: (taken (tokens.take place)).enclosing⟩ := by
  have suffix : place :: outer <:+ openPlaces tokens := places.symm ▸ List.suffix_refl _
  obtain ⟨_, around⟩ := openPlaces_of_suffix suffix
  have within : ∀ further ∈ outer, (taken ((tokens.take place).take further)).current =
      (taken (tokens.take further)).current := by
    intro further member
    have inside := lt_length_of_mem_openPlaces (around.symm ▸ member)
    rw [List.length_take] at inside
    rw [List.take_take, Nat.min_eq_left (by omega)]
  have enclosing := enclosing_taken tokens
  rw [places, List.map_cons, ← List.map_congr_left within, ← around, ← enclosing_taken]
    at enclosing
  rw [← enclosing]

theorem push_unmatched (places : openPlaces tokens = []) :
    (taken tokens).push .closeParen = (taken tokens, .error .unbalancedParenthesis) := by
  simp [push, close, enclosing_eq_nil_iff.2 places, Except.map]

/-- A closing parenthesis leaves the stack that was there before its group was opened, with the
group on it as one element if it is well-formed. -/
theorem push_matched (places : openPlaces tokens = place :: outer) :
    (taken tokens).push .closeParen =
      match group (taken tokens).current.reverse with
      | .ok formula => ((taken (tokens.take place)).add (.formula formula), .ok (some formula))
      | .error error => (taken (tokens.take place), .error error) := by
  rw [push, close]
  have stack := taken_eq_of_openPlaces places
  have enclosing := congrArg ParseStack.enclosing stack
  simp only [enclosing]
  cases group (taken tokens).current.reverse <;> rfl

theorem taken_concat_of_error {error : FilterError}
    (failed : ((taken tokens).push token).2 = .error error) :
    taken (tokens ++ [token]) = taken (tokens.take (groupStart tokens)) := by
  rw [taken_concat]
  cases token with
  | closeParen =>
      cases places : openPlaces tokens with
      | nil => simp [push_unmatched places, groupStart, places]
      | cons place outer =>
          rw [push_matched places] at failed ⊢
          cases grouped : group (taken tokens).current.reverse with
          | ok formula =>
              rw [grouped] at failed
              contradiction
          | error fault => simp [groupStart, places]
  | test | and | or | not | openParen => contradiction

theorem failsAt_take {count : Nat} (inside : last < count) :
    failsAt (tokens.take count) last = failsAt tokens last := by
  rw [failsAt, failsAt, List.getElem?_take_of_lt inside, List.take_take,
    Nat.min_eq_left (Nat.le_of_lt inside)]

theorem failsAt_length (tokens : List Token) (token : Token) :
    failsAt (tokens ++ [token]) tokens.length = !((taken tokens).push token).2.isOk := by
  simp [failsAt]

theorem isDeleted_iff :
    isDeleted tokens place ↔ ∃ last < tokens.length,
      failsAt tokens last ∧ groupStart (tokens.take last) ≤ place ∧ place ≤ last := by
  simp [isDeleted]

/-- A token that does not fail deletes nothing, and one that fails deletes what stands behind the
start of its group. -/
theorem isDeleted_concat (inside : place ≤ tokens.length) :
    isDeleted (tokens ++ [token]) place ↔
      isDeleted tokens place ∨
        ((taken tokens).push token).2.isOk = false ∧ groupStart tokens ≤ place := by
  have whole : (tokens ++ [token]).take tokens.length = tokens := by simp
  have fails {last : Nat} (inside : last < tokens.length) :
      failsAt (tokens ++ [token]) last = failsAt tokens last := by
    rw [← failsAt_take inside, whole]
  have before {last : Nat} (inside : last < tokens.length) :
      (tokens ++ [token]).take last = tokens.take last :=
    List.take_append_of_le_length (Nat.le_of_lt inside)
  simp only [isDeleted_iff, List.length_append, List.length_singleton]
  constructor
  · rintro ⟨last, bound, failed, start, order⟩
    rcases Nat.lt_succ_iff_lt_or_eq.1 bound with bound | rfl
    · rw [fails bound] at failed
      rw [before bound] at start
      exact .inl ⟨last, bound, failed, start, order⟩
    · rw [failsAt_length, Bool.not_eq_true'] at failed
      rw [whole] at start
      exact .inr ⟨failed, start⟩
  · rintro (⟨last, bound, failed, start, order⟩ | ⟨failed, start⟩)
    · rw [← fails bound] at failed
      rw [← before bound] at start
      exact ⟨last, Nat.lt_succ_of_lt bound, failed, start, order⟩
    · refine ⟨tokens.length, Nat.lt_succ_self _, ?_, whole.symm ▸ start, inside⟩
      rw [failsAt_length, failed]
      rfl

theorem isDeleted_take {further : Nat} (member : place ∈ openPlaces tokens)
    (front : further < place) :
    isDeleted (tokens.take place) further ↔ isDeleted tokens further := by
  have inside := lt_length_of_mem_openPlaces member
  have within {last : Nat} (bound : last < place) :
      (tokens.take place).take last = tokens.take last := by
    rw [List.take_take, Nat.min_eq_left (Nat.le_of_lt bound)]
  rw [isDeleted_iff, isDeleted_iff, List.length_take, Nat.min_eq_left (Nat.le_of_lt inside)]
  constructor
  · rintro ⟨last, bound, failed, start, order⟩
    rw [failsAt_take bound] at failed
    rw [within bound] at start
    exact ⟨last, Nat.lt_trans bound inside, failed, start, order⟩
  · rintro ⟨last, -, failed, start, order⟩
    have bound : last < place := by
      by_contra behind
      rcases Nat.eq_or_lt_of_le (Nat.le_of_not_lt behind) with rfl | later
      · have opened := getElem?_of_mem_openPlaces member
        simp [failsAt, opened, push, Except.isOk, Except.toBool] at failed
      · exact absurd (le_groupStart (mem_openPlaces_take member later)) (by omega)
    rw [← failsAt_take bound] at failed
    rw [← within bound] at start
    exact ⟨last, bound, failed, start, order⟩

/-- What is retained of tokens whose first part is deleted as if nothing followed. -/
theorem retained_append {first second : List Token}
    (same : ∀ further < first.length,
      isDeleted (first ++ second) further = isDeleted first further) :
    retained (first ++ second) = retained first ++
      ((second.zipIdx first.length).filter fun entry =>
        !isDeleted (first ++ second) entry.2).map Prod.fst := by
  have front : (first.zipIdx.filter fun entry => !isDeleted (first ++ second) entry.2) =
      first.zipIdx.filter fun entry => !isDeleted first entry.2 := by
    refine List.filter_congr fun entry member => ?_
    rw [same _ (by simpa using List.snd_lt_of_mem_zipIdx member)]
  rw [retained, List.zipIdx_append, List.filter_append, front, List.map_append, Nat.zero_add]
  rfl

theorem retained_concat_of_ok (succeeded : ((taken tokens).push token).2.isOk = true) :
    retained (tokens ++ [token]) = retained tokens ++ [token] := by
  have same (further : Nat) (inside : further ≤ tokens.length) :
      isDeleted (tokens ++ [token]) further = isDeleted tokens further := by
    rw [Bool.eq_iff_iff, isDeleted_concat inside]
    simp [succeeded]
  have last : isDeleted tokens tokens.length = false := by
    rw [Bool.eq_false_iff, Ne, isDeleted_iff]
    rintro ⟨_, bound, -, -, order⟩
    omega
  rw [retained_append fun further inside => same further (Nat.le_of_lt inside)]
  simp [same, last]

theorem retained_concat_of_error (failed : ((taken tokens).push token).2.isOk = false) :
    retained (tokens ++ [token]) = retained (tokens.take (groupStart tokens)) := by
  have bound := groupStart_le_length tokens
  have before {further : Nat} (front : further < groupStart tokens) :
      isDeleted (tokens ++ [token]) further =
        isDeleted (tokens.take (groupStart tokens)) further := by
    have outside : ¬ groupStart tokens ≤ further := Nat.not_le_of_lt front
    rw [Bool.eq_iff_iff, isDeleted_concat (by omega), or_iff_left fun group => outside group.2]
    cases places : openPlaces tokens with
    | nil => rw [groupStart, places, List.headD_nil, List.take_length]
    | cons place outer =>
        have member : place ∈ openPlaces tokens := places ▸ List.mem_cons_self
        rw [groupStart, places] at front ⊢
        exact (isDeleted_take member front).symm
  have behind {further : Nat} (start : groupStart tokens ≤ further)
      (inside : further ≤ tokens.length) : isDeleted (tokens ++ [token]) further = true :=
    (isDeleted_concat inside).2 (.inr ⟨failed, start⟩)
  have cut : tokens ++ [token] =
      tokens.take (groupStart tokens) ++ (tokens.drop (groupStart tokens) ++ [token]) := by
    rw [← List.append_assoc, List.take_append_drop]
  have length : (tokens.take (groupStart tokens)).length = groupStart tokens :=
    List.length_take_of_le bound
  rw [cut] at before behind ⊢
  have nothing : (((tokens.drop (groupStart tokens) ++ [token]).zipIdx
      (groupStart tokens)).filter fun entry => !isDeleted (tokens.take (groupStart tokens) ++
        (tokens.drop (groupStart tokens) ++ [token])) entry.2) = [] := by
    refine List.filter_eq_nil_iff.2 fun entry member => ?_
    have start := List.le_snd_of_mem_zipIdx member
    have inside := List.snd_lt_of_mem_zipIdx member
    rw [List.length_append, List.length_drop, List.length_singleton] at inside
    simp [behind start (by omega)]
  rw [retained_append fun further front => before (length ▸ front), length, nothing,
    List.map_nil, List.append_nil]

theorem pushAll_singleton_eq_ok_iff {stack final : ParseStack} :
    stack.pushAll [token] = .ok final ↔
      (stack.push token).2.isOk = true ∧ (stack.push token).1 = final := by
  rw [pushAll]
  rcases stack.push token with ⟨next, error | group⟩ <;>
    simp [pushAll, Except.isOk, Except.toBool]

/-- What is retained is taken without an error, and leaves the stack that all tokens leave. -/
theorem pushAll_retained (tokens : List Token) :
    empty.pushAll (retained tokens) = .ok (taken tokens) := by
  rcases List.eq_nil_or_concat tokens with rfl | ⟨front, token, rfl⟩
  · rfl
  · rw [List.concat_eq_append]
    cases pushed : ((taken front).push token).2 with
    | ok group =>
        have succeeded : ((taken front).push token).2.isOk = true := by rw [pushed]; rfl
        rw [retained_concat_of_ok succeeded, pushAll_append, pushAll_retained front, ok_bind,
          taken_concat, pushAll_singleton_eq_ok_iff.2 ⟨succeeded, rfl⟩]
    | error error =>
        have failed : ((taken front).push token).2.isOk = false := by rw [pushed]; rfl
        rw [retained_concat_of_error failed, taken_concat_of_error pushed,
          pushAll_retained (front.take (groupStart front))]
termination_by tokens.length
decreasing_by all_goals subst_vars; rw [List.length_concat]; grind

/-- How a stack takes one more token, and how it ends, behind tokens of which any may have
failed. -/
structure Recovers (tokens : List Token) : Prop where
  fails : ∀ token error, ((taken tokens).push token).2 = .error error → token = .closeParen
  unmatched : openPlaces tokens = [] →
    (taken tokens).push .closeParen = (taken tokens, .error .unbalancedParenthesis)
  /-- On top of the matching parenthesis lies one run. If it is empty or malformed, the stack from
  in front of the parenthesis is left, and otherwise that stack with the group on it. -/
  matched : ∀ place outer, openPlaces tokens = place :: outer →
    tokens[place]? = some .openParen ∧ ∃ run : Run,
      (taken tokens).flat = run.map .item ++ .openParen :: (taken (tokens.take place)).flat ∧
      (∀ error, group run.reverse = .error error →
        (taken tokens).push .closeParen = (taken (tokens.take place), .error error)) ∧
      ∀ formula, group run.reverse = .ok formula →
        ((taken tokens).push .closeParen).2 = .ok (some formula) ∧
          ((taken tokens).push .closeParen).1.flat =
            .item (.formula formula) :: (taken (tokens.take place)).flat
  /-- Nothing fails among the tokens without the failed groups and the unmatched parentheses. -/
  pushed : empty.pushAll (retained tokens) = .ok (taken tokens)
  finished : (taken tokens).finish = Formula.ofTokens (retained tokens)
  /-- A flat stack, from which a group is taken off before it is looked at, takes the same steps. -/
  flat : ∀ token, FlatStack.push (taken tokens).flat token =
    (((taken tokens).push token).1.flat, ((taken tokens).push token).2)

theorem push_recovers (tokens : List Token) : Recovers tokens where
  fails token error failed := by
    by_contra other
    rw [push_of_ne_closeParen _ other] at failed
    contradiction
  unmatched places := push_unmatched places
  matched place outer places := by
    have member : place ∈ openPlaces tokens := places ▸ List.mem_cons_self
    refine ⟨getElem?_of_mem_openPlaces member, (taken tokens).current, ?_, ?_, ?_⟩
    · rw [taken_eq_of_openPlaces places, flat_cons]
    · intro error malformed
      rw [push_matched places, malformed]
    · intro formula wellFormed
      rw [push_matched places, wellFormed]
      exact ⟨rfl, flat_add _ _⟩
  pushed := pushAll_retained tokens
  finished := by rw [Formula.ofTokens, pushAll_retained, ok_bind]
  flat := FlatStack.push_flat (taken tokens)

/-- Empty parentheses in a group, an unmatched parenthesis and a malformed group fail, and the
group around the empty parentheses is closed. -/
theorem push_recovers_of_failures :
    let pass : Test := .bind (.constant true) none false
    let drop : Test := .bind (.constant false) none false
    let tokens : List Token :=
      [.test pass, .and, .openParen, .test drop, .or, .openParen, .closeParen, .test pass,
        .closeParen, .closeParen, .openParen, .or, .closeParen]
    Recovers tokens ∧
      (List.range tokens.length).filter (failsAt tokens) = [6, 9, 12] ∧
      (List.range tokens.length).filter (isDeleted tokens) = [5, 6, 9, 10, 11, 12] ∧
      (taken tokens).finish = .ok (.and (.test pass) (.or (.test drop) (.test pass))) ∧
      Formula.ofTokens tokens = .error (.incomplete "empty parentheses") := by
  intro pass drop tokens
  exact ⟨push_recovers tokens, by decide +kernel, by decide +kernel, rfl, rfl⟩

end ParseStack

end PacketFilter
