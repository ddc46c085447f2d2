import Mathlib.Data.List.TakeWhile
import Mathlib.Data.Nat.Find
import PacketFilter.Proofs.Formula.Recovery

/-!
Which error the tokens of no filter give. Reading stops at the first closing parenthesis that fails:
it is unmatched, or its group is not what the grammar calls an expression. If none fails, the
parentheses that are still open are the error, and only then what stands outside of them. While a
flat run is reduced, neither a parenthesis nor the lack of any element is ever met.
-/

namespace PacketFilter

open Token

section Runs

variable {run : Run} {progress next : Run.Progress} {item : Item} {error : FilterError}

theorem Run.Progress.step_error (stepped : progress.step item = .error error) :
    ∃ reason, error = .incomplete reason := by
  cases progress <;> cases item <;> cases stepped <;> exact ⟨_, rfl⟩

theorem Run.Progress.step_ne_start (stepped : progress.step item = .ok next) :
    next ≠ .start := by
  cases progress <;> cases item <;> cases stepped <;> simp [start]

theorem Run.Progress.finish_error (finished : progress.finish = .error error) :
    progress = .start ∧ error = .emptyExpression ∨ ∃ reason, error = .incomplete reason := by
  unfold finish at finished
  split at finished
  · contradiction
  · cases finished
    exact .inl ⟨rfl, rfl⟩
  · cases finished
    exact .inr ⟨_, rfl⟩
  · cases finished
    exact .inr ⟨_, rfl⟩

theorem Run.foldlM_error (folded : run.foldlM Progress.step progress = .error error) :
    ∃ reason, error = .incomplete reason := by
  induction run generalizing progress with
  | nil => contradiction
  | cons item run inductionHypothesis =>
      rw [List.foldlM_cons] at folded
      rcases bind_eq_error.1 folded with stepped | ⟨next, _, folded⟩
      · exact Progress.step_error stepped
      · exact inductionHypothesis folded

theorem Run.eq_nil_of_foldlM (folded : run.foldlM Progress.step progress = .ok .start) :
    run = [] := by
  rcases List.eq_nil_or_concat run with rfl | ⟨front, last, rfl⟩
  · rfl
  · rw [List.concat_eq_append, List.foldlM_append] at folded
    obtain ⟨middle, _, folded⟩ := bind_eq_ok.1 folded
    obtain ⟨next, stepped, finished⟩ := bind_eq_ok.1 folded
    cases finished
    exact absurd rfl (Progress.step_ne_start stepped)

/-- A run that is not empty lacks something if it cannot be reduced. -/
theorem Run.reduce_error (reduced : run.reduce = .error error) :
    run = [] ∧ error = .emptyExpression ∨ ∃ reason, error = .incomplete reason := by
  rcases bind_eq_error.1 reduced with folded | ⟨progress, folded, finished⟩
  · exact .inr (foldlM_error folded)
  · rcases Progress.finish_error finished with ⟨rfl, empty⟩ | incomplete
    · exact .inl ⟨eq_nil_of_foldlM folded, empty⟩
    · exact .inr incomplete

theorem ParseStack.group_error (grouped : group run = .error error) :
    ∃ reason, error = .incomplete reason := by
  unfold group at grouped
  split at grouped
  · cases grouped
    exact ⟨_, rfl⟩
  · rename_i nonempty
    rcases Run.reduce_error grouped with ⟨empty, _⟩ | incomplete
    · contradiction
    · exact incomplete

end Runs

theorem openPlaces_negations (before : List Token) (count : Nat) :
    openPlaces (before ++ List.replicate count .not) = openPlaces before := by
  induction count with
  | zero => rw [List.replicate_zero, List.append_nil]
  | succ count inductionHypothesis =>
      rw [List.replicate_succ', ← List.append_assoc, openPlaces_concat]
      exact inductionHypothesis

theorem Derives.openPlaces_append {level : Level} {tokens : List Token} {formula : Formula}
    (derived : Derives level tokens formula) (before : List Token) :
    openPlaces (before ++ tokens) = openPlaces before := by
  induction derived generalizing before with
  | test leaf => exact openPlaces_concat before (.test leaf)
  | @group tokens formula _ inductionHypothesis =>
      have cut : before ++ .openParen :: (tokens ++ [.closeParen]) =
          before ++ [.openParen] ++ tokens ++ [.closeParen] := by simp
      rw [cut, openPlaces_concat, inductionHypothesis, openPlaces_concat]
      rfl
  | even count _ _ inductionHypothesis | odd count _ _ inductionHypothesis =>
      rw [← List.append_assoc, inductionHypothesis, openPlaces_negations]
  | factor _ inductionHypothesis | term _ inductionHypothesis => exact inductionHypothesis before
  | @and first second _ _ _ _ leftHypothesis rightHypothesis =>
      have cut : before ++ (first ++ .and :: second) = before ++ first ++ [.and] ++ second := by
        simp
      rw [cut, rightHypothesis, openPlaces_concat]
      exact leftHypothesis before
  | @or first second _ _ _ _ leftHypothesis rightHypothesis =>
      have cut : before ++ (first ++ .or :: second) = before ++ first ++ [.or] ++ second := by simp
      rw [cut, rightHypothesis, openPlaces_concat]
      exact leftHypothesis before

namespace ParseStack

variable {tokens : List Token} {place : Nat}

/-- A closing parenthesis behind the tokens closes a group: an expression stands behind the
innermost open parenthesis. -/
def Closes (tokens : List Token) : Prop :=
  ∃ place outer formula, openPlaces tokens = place :: outer ∧
    Derives .expression (tokens.drop (place + 1)) formula

def ClosesAll (tokens : List Token) : Prop :=
  ∀ place : Nat, tokens[place]? = some .closeParen → Closes (tokens.take place)

def FailsFirst (tokens : List Token) (place : Nat) : Prop :=
  failsAt tokens place ∧ ∀ earlier < place, failsAt tokens earlier = false

instance (tokens : List Token) (place : Nat) : Decidable (FailsFirst tokens place) :=
  inferInstanceAs (Decidable (_ ∧ _))

def Clean (tokens : List Token) : Prop :=
  ∀ place, failsAt tokens place = false

theorem eq_take_cons_drop {token : Token} (found : tokens[place]? = some token) :
    tokens = tokens.take place ++ token :: tokens.drop (place + 1) := by
  obtain ⟨inside, found⟩ := List.getElem?_eq_some_iff.1 found
  rw [← found, ← List.drop_eq_getElem_cons inside, List.take_append_drop]

theorem closes_of_close {stack : ParseStack} {formula : Formula}
    (stands : stack.StandsFor tokens) (closed : stack.close.2 = .ok formula) : Closes tokens := by
  cases stands with
  | flat run => contradiction
  | @nested current run enclosing before inner outer stands =>
      have grouped : group current.reverse = .ok formula := by
        unfold close at closed
        cases grouped : group current.reverse with
        | ok found =>
            rw [grouped] at closed
            exact closed
        | error fault =>
            rw [grouped] at closed
            contradiction
      have derived := derives_of_group stands grouped
      have cut : before ++ .openParen :: inner = before ++ [.openParen] ++ inner := by simp
      refine ⟨before.length, openPlaces before, formula, ?_, ?_⟩
      · rw [cut, derived.openPlaces_append, openPlaces_concat]
        rfl
      · rw [cut, List.drop_left' (by simp)]
        exact derived

theorem pushAll_of_closes {stack : ParseStack} (pushed : empty.pushAll tokens = .ok stack)
    (closes : Closes tokens) : ∃ final, empty.pushAll (tokens ++ [.closeParen]) = .ok final := by
  obtain ⟨place, outer, formula, places, derived⟩ := closes
  have opened := getElem?_of_mem_openPlaces (places ▸ List.mem_cons_self)
  have cut := eq_take_cons_drop opened
  obtain ⟨items, yields, folds⟩ := derived.yields
  rw [cut, pushAll_append] at pushed
  obtain ⟨below, before, _⟩ := bind_eq_ok.1 pushed
  rw [cut, List.append_assoc, pushAll_append, before, ok_bind]
  exact ⟨_, yields.group (Run.reduce_of_folds folds) below.current below.enclosing⟩

section Clean

theorem clean_take (clean : ∀ earlier < place, failsAt tokens earlier = false) :
    Clean (tokens.take place) := by
  intro earlier
  by_cases front : earlier < place
  · rw [failsAt_take front]
    exact clean earlier front
  · have beyond : (tokens.take place)[earlier]? = none :=
      List.getElem?_eq_none (Nat.le_trans (List.length_take_le _ _) (Nat.le_of_not_lt front))
    simp [failsAt, beyond]

theorem Clean.pushAll (clean : Clean tokens) : empty.pushAll tokens = .ok (taken tokens) := by
  have kept (place : Nat) : isDeleted tokens place = false := by
    rw [Bool.eq_false_iff, Ne, isDeleted_iff]
    rintro ⟨last, _, failed, _⟩
    rw [clean last] at failed
    contradiction
  have whole : retained tokens = tokens := by
    rw [retained, List.filter_eq_self.2 (by simp [kept]), List.zipIdx_map_fst]
  rw [← pushAll_retained, whole]

theorem Clean.standsFor (clean : Clean tokens) : (taken tokens).StandsFor tokens :=
  (StandsFor.flat Run.StandsFor.nil).pushAll clean.pushAll

theorem Clean.isOk_push_iff (clean : Clean tokens) :
    ((taken tokens).push .closeParen).2.isOk = true ↔ Closes tokens := by
  constructor
  · intro succeeded
    cases closed : (taken tokens).close.2 with
    | ok formula => exact closes_of_close clean.standsFor closed
    | error error =>
        rw [push, closed] at succeeded
        contradiction
  · intro closes
    obtain ⟨final, pushed⟩ := pushAll_of_closes clean.pushAll closes
    rw [pushAll_append, clean.pushAll, ok_bind] at pushed
    exact (pushAll_singleton_eq_ok_iff.1 pushed).1

/-- Behind tokens that do not fail, a closing parenthesis fails unless it closes a group. -/
theorem failsAt_eq_false_iff (clean : ∀ earlier < place, failsAt tokens earlier = false)
    (closing : tokens[place]? = some .closeParen) :
    failsAt tokens place = false ↔ Closes (tokens.take place) := by
  rw [← (clean_take clean).isOk_push_iff]
  simp [failsAt, closing]

theorem closeParen_of_failsAt (failed : failsAt tokens place = true) :
    tokens[place]? = some .closeParen := by
  unfold failsAt at failed
  cases found : tokens[place]? with
  | none => simp [found] at failed
  | some token =>
      by_contra other
      rw [found, Option.any_some, push_of_ne_closeParen _ fun same => other (by rw [same])]
        at failed
      contradiction

theorem clean_iff : Clean tokens ↔ ClosesAll tokens := by
  constructor
  · intro clean place closing
    exact (failsAt_eq_false_iff (fun earlier _ => clean earlier) closing).1 (clean place)
  · intro closes place
    induction place using Nat.strong_induction_on with
    | _ place earlier =>
        by_contra failed
        have closing := closeParen_of_failsAt (eq_true_of_ne_false failed)
        exact failed ((failsAt_eq_false_iff earlier closing).2 (closes place closing))

theorem exists_failsFirst (faulty : ¬ Clean tokens) : ∃ place, FailsFirst tokens place := by
  have reached : ∃ place, failsAt tokens place = true := by
    by_contra never
    exact faulty fun place => Bool.eq_false_iff.2 fun failed => never ⟨place, failed⟩
  exact ⟨Nat.find reached, Nat.find_spec reached,
    fun earlier front => Bool.eq_false_iff.2 (Nat.find_min reached front)⟩

end Clean

variable {error : FilterError}

/-- A closing parenthesis that fails is unmatched, or something lacks in its group. -/
theorem push_closeParen_error
    (failed : ((taken tokens).push .closeParen).2 = .error error) :
    openPlaces tokens = [] ∧ error = .unbalancedParenthesis ∨
      openPlaces tokens ≠ [] ∧ ∃ reason, error = .incomplete reason := by
  cases places : openPlaces tokens with
  | nil =>
      rw [push_unmatched places] at failed
      cases failed
      exact .inl ⟨rfl, rfl⟩
  | cons place outer =>
      refine .inr ⟨List.cons_ne_nil _ _, ?_⟩
      rw [push_matched places] at failed
      cases grouped : group (taken tokens).current.reverse with
      | ok formula =>
          rw [grouped] at failed
          contradiction
      | error fault =>
          rw [grouped] at failed
          cases failed
          exact group_error grouped

theorem finish_of_open (places : openPlaces tokens ≠ []) :
    (taken tokens).finish = .error .unbalancedParenthesis := by
  unfold finish
  split
  · rename_i unmatched
    exact absurd (enclosing_eq_nil_iff.1 unmatched) places
  · rfl

theorem finish_of_closed (places : openPlaces tokens = []) :
    (taken tokens).finish = Run.reduce (taken tokens).current.reverse := by
  rw [finish, enclosing_eq_nil_iff.2 places]

/-- Where no token fails, only the lack of any token leaves nothing to reduce in the end. -/
theorem Clean.finish_error (clean : Clean tokens) (places : openPlaces tokens = [])
    (finished : (taken tokens).finish = .error error) :
    tokens = [] ∧ error = .emptyExpression ∨ ∃ reason, error = .incomplete reason := by
  have enclosing := enclosing_eq_nil_iff.2 places
  have stands := clean.standsFor
  rw [finish_of_closed places] at finished
  rcases Run.reduce_error finished with ⟨empty, kind⟩ | incomplete
  · refine .inl ⟨?_, kind⟩
    generalize taken tokens = stack at stands enclosing empty
    cases stands with
    | nested outer run => contradiction
    | flat run =>
        cases List.reverse_eq_nil_iff.1 empty
        cases run
        rfl
  · exact .inr incomplete

theorem FailsFirst.pushAll_eq {place : Nat} (first : FailsFirst tokens place) :
    ∃ error, ((taken (tokens.take place)).push .closeParen).2 = .error error ∧
      empty.pushAll tokens = .error error := by
  obtain ⟨failed, clean⟩ := first
  have closing := closeParen_of_failsAt failed
  have cut := eq_take_cons_drop closing
  cases pushed : ((taken (tokens.take place)).push .closeParen).2 with
  | ok closed => simp [failsAt, closing, pushed, Except.isOk, Except.toBool] at failed
  | error error =>
      refine ⟨error, rfl, ?_⟩
      rw [cut, pushAll_append, (clean_take clean).pushAll, ok_bind, pushAll]
      split
      · rename_i next closed succeeded
        rw [succeeded] at pushed
        contradiction
      · rename_i next fault faulty
        rw [faulty] at pushed
        cases pushed
        rfl

end ParseStack

namespace FlatStack

theorem exists_run {elements : List StackElement} (closed : .openParen ∉ elements) :
    ∃ run : Run, elements = run.map .item := by
  induction elements with
  | nil => exact ⟨[], rfl⟩
  | cons element elements inductionHypothesis =>
      obtain ⟨run, rfl⟩ := inductionHypothesis fun member => closed (List.mem_cons_of_mem _ member)
      cases element with
      | openParen => exact absurd List.mem_cons_self closed
      | item item => exact ⟨item :: run, rfl⟩

theorem openParen_notMem_innermost (stack : FlatStack) : .openParen ∉ stack.innermost := by
  intro member
  have differs := List.mem_takeWhile_imp (List.mem_reverse.1 member)
  simp at differs

theorem reduce_error {elements : List StackElement} {error : FilterError}
    (nonempty : elements ≠ []) (closed : .openParen ∉ elements)
    (reduced : reduce elements = .error error) : ∃ reason, error = .incomplete reason := by
  obtain ⟨run, rfl⟩ := exists_run closed
  rw [reduce_map] at reduced
  rcases Run.reduce_error reduced with ⟨rfl, _⟩ | incomplete
  · exact absurd rfl nonempty
  · exact incomplete

end FlatStack

namespace Formula

open ParseStack

variable {tokens : List Token} {error : FilterError}

theorem ofTokens_of_clean (clean : Clean tokens) : ofTokens tokens = (taken tokens).finish := by
  rw [ofTokens, clean.pushAll, ok_bind]

theorem ofTokens_of_failsFirst {place : Nat} (first : FailsFirst tokens place) :
    ∃ error, ((taken (tokens.take place)).push .closeParen).2 = .error error ∧
      ofTokens tokens = .error error := by
  obtain ⟨error, failed, pushed⟩ := first.pushAll_eq
  refine ⟨error, failed, ?_⟩
  rw [ofTokens, pushed]
  rfl

/-- The errors of reading tokens, each with what it comes from. -/
inductive FailsBy (tokens : List Token) : FilterError → Prop where
  | unmatched {place} : FailsFirst tokens place → openPlaces (tokens.take place) = [] →
      FailsBy tokens .unbalancedParenthesis
  | group {place} (reason : String) : FailsFirst tokens place →
      FailsBy tokens (.incomplete reason)
  | unclosed : Clean tokens → openPlaces tokens ≠ [] → FailsBy tokens .unbalancedParenthesis
  | nothing : tokens = [] → FailsBy tokens .emptyExpression
  | outside (reason : String) : Clean tokens → FailsBy tokens (.incomplete reason)

theorem failsBy_of_ofTokens (failed : ofTokens tokens = .error error) : FailsBy tokens error := by
  by_cases clean : Clean tokens
  · rw [ofTokens_of_clean clean] at failed
    by_cases places : openPlaces tokens = []
    · rcases clean.finish_error places failed with ⟨empty, rfl⟩ | ⟨reason, rfl⟩
      · exact .nothing empty
      · exact .outside reason clean
    · rw [finish_of_open places] at failed
      cases failed
      exact .unclosed clean places
  · obtain ⟨place, first⟩ := exists_failsFirst clean
    obtain ⟨fault, pushed, read⟩ := ofTokens_of_failsFirst first
    cases read.symm.trans failed
    rcases push_closeParen_error pushed with ⟨places, rfl⟩ | ⟨_, reason, rfl⟩
    · exact .unmatched first places
    · exact .group reason first

theorem balanced_of_ofTokens {formula : Formula} (read : ofTokens tokens = .ok formula) :
    Balanced tokens := by
  by_cases clean : Clean tokens
  · rw [ofTokens_of_clean clean] at read
    refine ⟨fun place closing => ?_, ?_⟩
    · obtain ⟨opened, outer, _, places, _⟩ := clean_iff.1 clean place closing
      rw [places]
      exact List.cons_ne_nil _ _
    · by_contra places
      rw [finish_of_open places] at read
      contradiction
  · obtain ⟨place, first⟩ := exists_failsFirst clean
    obtain ⟨error, _, failed⟩ := ofTokens_of_failsFirst first
    cases read.symm.trans failed

structure SortsErrors (tokens : List Token) : Prop where
  empty : ofTokens tokens = .error .emptyExpression ↔ tokens = []
  /-- The first closing parenthesis that fails is unmatched, or all of them close groups and a
  parenthesis is left open. -/
  unbalanced : ofTokens tokens = .error .unbalancedParenthesis ↔
    (∃ place, FailsFirst tokens place ∧ openPlaces (tokens.take place) = []) ∨
      ClosesAll tokens ∧ openPlaces tokens ≠ []
  incomplete : ∀ error, ofTokens tokens = .error error →
    error = .emptyExpression ∨ error = .unbalancedParenthesis ∨
      ∃ reason, error = .incomplete reason
  /-- Behind tokens that do not fail, what fails is a closing parenthesis that closes no group. -/
  fails : ∀ place : Nat, (∀ earlier < place, failsAt tokens earlier = false) →
    (failsAt tokens place ↔ tokens[place]? = some .closeParen ∧ ¬ Closes (tokens.take place))
  balanced : tokens ≠ [] → Balanced tokens → ofTokens tokens ≠ .error .unbalancedParenthesis
  rejected : ¬ Balanced tokens → ∀ formula, ofTokens tokens ≠ .ok formula
  /-- Reading on a flat stack gives the same, and whatever the stack is, no run that is reduced is
  empty or has a parenthesis in it. -/
  flat : FlatStack.read tokens = ofTokens tokens
  closing : ∀ (stack : FlatStack) (error : FilterError), stack.innermost ≠ [] →
    FlatStack.reduce stack.innermost = .error error → ∃ reason, error = .incomplete reason
  ending : ∀ (stack : FlatStack) (error : FilterError), stack ≠ [] → .openParen ∉ stack →
    FlatStack.reduce stack.reverse = .error error → ∃ reason, error = .incomplete reason

theorem ofTokens_sortsErrors (tokens : List Token) : SortsErrors tokens where
  empty := by
    constructor
    · intro failed
      cases failsBy_of_ofTokens failed with
      | nothing empty => exact empty
    · rintro rfl
      rfl
  unbalanced := by
    constructor
    · intro failed
      cases failsBy_of_ofTokens failed with
      | unmatched first places => exact .inl ⟨_, first, places⟩
      | unclosed clean places => exact .inr ⟨clean_iff.1 clean, places⟩
    · rintro (⟨place, first, places⟩ | ⟨closes, places⟩)
      · obtain ⟨error, pushed, failed⟩ := ofTokens_of_failsFirst first
        rw [push_unmatched places] at pushed
        cases pushed
        exact failed
      · rw [ofTokens_of_clean (clean_iff.2 closes)]
        exact finish_of_open places
  incomplete error failed := by
    cases failsBy_of_ofTokens failed with
    | nothing => exact .inl rfl
    | unmatched | unclosed => exact .inr (.inl rfl)
    | group reason | outside reason => exact .inr (.inr ⟨reason, rfl⟩)
  fails place clean := by
    constructor
    · intro failed
      have closing := closeParen_of_failsAt failed
      refine ⟨closing, fun closes => ?_⟩
      rw [(failsAt_eq_false_iff clean closing).2 closes] at failed
      contradiction
    · rintro ⟨closing, closes⟩
      exact eq_true_of_ne_false (closes ∘ (failsAt_eq_false_iff clean closing).1)
  balanced _ balanced failed := by
    cases failsBy_of_ofTokens failed with
    | unmatched first places => exact balanced.matched _ (closeParen_of_failsAt first.1) places
    | unclosed clean places => exact places balanced.closed
  rejected unbalanced formula read := unbalanced (balanced_of_ofTokens read)
  flat := FlatStack.read_eq_ofTokens tokens
  closing stack error nonempty reduced :=
    FlatStack.reduce_error nonempty stack.openParen_notMem_innermost reduced
  ending stack error nonempty closed reduced := by
    refine FlatStack.reduce_error (mt List.reverse_eq_nil_iff.1 nonempty) ?_ reduced
    exact fun member => closed (List.mem_reverse.1 member)

/-- A parenthesis left open behind a connective without an operand, and a malformed group and an
unmatched parenthesis in either order. -/
theorem ofTokens_sortsErrors_of_precedence :
    let pass : Test := .bind (.constant true) none false
    let unclosed : List Token := [.and, .openParen, .test pass]
    let malformed : List Token := [.openParen, .or, .closeParen, .closeParen]
    let unmatched : List Token :=
      [.openParen, .test pass, .closeParen, .closeParen, .openParen, .or, .closeParen]
    SortsErrors unclosed ∧ ofTokens unclosed = .error .unbalancedParenthesis ∧
      SortsErrors malformed ∧ FailsFirst malformed 2 ∧
      ofTokens malformed = .error (.incomplete "'or' is missing its left operand") ∧
      SortsErrors unmatched ∧ FailsFirst unmatched 3 ∧
      ofTokens unmatched = .error .unbalancedParenthesis := by
  intro pass unclosed malformed unmatched
  have first : FailsFirst malformed 2 := by decide +kernel
  have second : FailsFirst unmatched 3 := by decide +kernel
  exact ⟨ofTokens_sortsErrors unclosed, rfl, ofTokens_sortsErrors malformed, first, rfl,
    ofTokens_sortsErrors unmatched, second, rfl⟩

end Formula

end PacketFilter
