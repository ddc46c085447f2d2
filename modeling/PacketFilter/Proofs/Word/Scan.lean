import PacketFilter.Proofs.Word.First

/-!
The scan for words. The characters are taken one after the other. A run of characters of one class
is kept open until a character of another class comes or the text ends, and is then cut off: as one
word, or, if it consists of operator characters, symbol by symbol from the left, two characters at
once where they make a symbol. A parenthesis is cut off at any other character. The words that are
found are the ones that the text is cut into.
-/

namespace PacketFilter.Word

open Text

variable {c : Char} {chars after : List Char}

inductive CharClass where
  | blank
  | parenthesis
  | operator
  | text
  deriving DecidableEq

def CharClass.of (c : Char) : CharClass :=
  if isBlank c then .blank
  else if isParenthesis c then .parenthesis
  else if isOperator c then .operator
  else .text

theorem of_eq_blank_iff : CharClass.of c = .blank ↔ isBlank c := by
  grind [CharClass.of]

theorem isParenthesis_of_class (parenthesis : CharClass.of c = .parenthesis) :
    isParenthesis c := by
  grind [CharClass.of]

theorem of_eq_operator_iff : CharClass.of c = .operator ↔ isOperator c := by
  have special := special_of_isOperator (c := c)
  grind [CharClass.of]

theorem of_eq_text_iff : CharClass.of c = .text ↔ isText c := by
  grind [CharClass.of, isText]

def symbols (offset : Nat) : List Char → List Slice
  | [] => []
  | [c] => [⟨[c], offset⟩]
  | first :: second :: rest =>
      if isSymbolPair first second then
        ⟨[first, second], offset⟩ :: symbols (offset + byteLength [first, second]) rest
      else ⟨[first], offset⟩ :: symbols (offset + byteLength [first]) (second :: rest)

/-- A run of operator characters is cut into its symbols. -/
theorem slices_symbols (offset : Nat) (operators : ∀ c ∈ chars, isOperator c)
    (ends : ∀ d ∈ after.head?, ¬ isOperator d) :
    slices offset (chars ++ after) =
      symbols offset chars ++ slices (offset + byteLength chars) after := by
  fun_induction symbols offset chars with
  | case1 => rfl
  | case2 offset c =>
      have alone : IsFirst [c] after :=
        .operator (operators c List.mem_cons_self) fun d head pair =>
          ends d head (isOperator_of_isSymbolPair pair).2
      exact alone.slices_append offset
  | case3 offset first second others pair inductionHypothesis =>
      have isFirst : IsFirst [first, second] (others ++ after) := .pair pair
      have behind := inductionHypothesis fun c member =>
        operators c (List.mem_cons_of_mem _ (List.mem_cons_of_mem _ member))
      have cut := isFirst.slices_append offset
      rw [behind, Nat.add_assoc, ← byteLength_append] at cut
      exact cut
  | case4 offset first second others noPair inductionHypothesis =>
      have alone : IsFirst [first] ((second :: others) ++ after) := by
        refine .operator (operators first List.mem_cons_self) ?_
        rintro d ⟨⟩
        exact noPair
      have behind := inductionHypothesis fun c member => operators c (List.mem_cons_of_mem _ member)
      have cut := alone.slices_append offset
      rw [behind, Nat.add_assoc, ← byteLength_append] at cut
      exact cut

/-- Characters of one class, the first of them at an offset, that may go on. -/
structure OpenRun where
  kind : CharClass
  chars : List Char
  offset : Nat

namespace OpenRun

variable {run : OpenRun}

def words (run : OpenRun) : List Slice :=
  match run.kind with
  | .operator => symbols run.offset run.chars
  | _ => [⟨run.chars, run.offset⟩]

/-- What a scan keeps of a run while it is open. -/
structure IsUniform (run : OpenRun) : Prop where
  nonempty : run.chars ≠ []
  uniform : ∀ c ∈ run.chars, CharClass.of c = run.kind
  not_blank : run.kind ≠ .blank
  single : run.kind = .parenthesis → ∃ c, run.chars = [c]

/-- A run that does not go on is cut into its words, whatever comes after it. -/
theorem IsUniform.slices_append (isUniform : run.IsUniform)
    (ends : ∀ d ∈ after.head?, CharClass.of d = run.kind → run.kind = .parenthesis) :
    slices run.offset (run.chars ++ after) =
      run.words ++ slices (run.offset + byteLength run.chars) after := by
  obtain ⟨kind, chars, offset⟩ := run
  obtain ⟨nonempty, uniform, not_blank, single⟩ := isUniform
  dsimp only at *
  cases kind with
  | blank => contradiction
  | parenthesis =>
      obtain ⟨c, rfl⟩ := single rfl
      have isFirst : IsFirst [c] after :=
        .parenthesis (isParenthesis_of_class (uniform c List.mem_cons_self))
      exact isFirst.slices_append offset
  | operator =>
      refine slices_symbols offset (fun c member => of_eq_operator_iff.1 (uniform c member)) ?_
      intro d head operator
      exact CharClass.noConfusion (ends d head (of_eq_operator_iff.2 operator))
  | text =>
      have isFirst : IsFirst chars after := by
        refine .text nonempty (fun c member => of_eq_text_iff.1 (uniform c member)) ?_
        intro d head text
        exact CharClass.noConfusion (ends d head (of_eq_text_iff.2 text))
      exact isFirst.slices_append offset

end OpenRun

structure Scan where
  found : List Slice
  current : Option OpenRun
  /-- The bytes of the characters that have been taken. -/
  position : Nat

namespace Scan

variable {scan : Scan}

def start : Scan := ⟨[], none, 0⟩

def close (scan : Scan) : Scan :=
  { scan with found := scan.found ++ scan.current.toList.flatMap OpenRun.words, current := none }

def begin (scan : Scan) (c : Char) : Scan :=
  ⟨scan.found, if CharClass.of c = .blank then none else some ⟨.of c, [c], scan.position⟩,
    scan.position + c.utf8Size⟩

def step (scan : Scan) (c : Char) : Scan :=
  match scan.current with
  | none => scan.begin c
  | some run =>
      if run.kind = .of c ∧ CharClass.of c ≠ .parenthesis then
        ⟨scan.found, some { run with chars := run.chars ++ [c] }, scan.position + c.utf8Size⟩
      else scan.close.begin c

def read (chars : List Char) : List Slice :=
  (chars.foldl step start).close.found

/-- The words that are still to come when `rest` is left of the text. -/
def remaining (scan : Scan) (rest : List Char) : List Slice :=
  match scan.current with
  | none => slices scan.position rest
  | some run => slices run.offset (run.chars ++ rest)

/-- The open run is uniform and ends where the scan stands. -/
def Follows (scan : Scan) : Prop :=
  ∀ run ∈ scan.current, run.IsUniform ∧ scan.position = run.offset + byteLength run.chars

theorem follows_start : start.Follows := by
  intro run member
  contradiction

theorem begin_remaining (closed : scan.current = none) (c : Char) (rest : List Char) :
    (scan.begin c).Follows ∧
      (scan.begin c).found ++ (scan.begin c).remaining rest =
        scan.found ++ scan.remaining (c :: rest) := by
  unfold begin remaining
  rw [closed]
  by_cases blank : CharClass.of c = .blank
  · rw [if_pos blank]
    refine ⟨nofun, ?_⟩
    dsimp only
    rw [slices_blank (of_eq_blank_iff.1 blank)]
  · rw [if_neg blank]
    refine ⟨?_, rfl⟩
    intro run member
    cases member
    exact ⟨⟨by simp, by simp, blank, fun _ => ⟨c, rfl⟩⟩, by simp [byteLength]⟩

/-- Cutting the open run off loses nothing if no character goes on with it. -/
theorem close_remaining (follows : scan.Follows) (rest : List Char)
    (ends : ∀ run ∈ scan.current, ∀ d ∈ rest.head?, CharClass.of d = run.kind →
      run.kind = .parenthesis) :
    scan.close.found ++ scan.close.remaining rest = scan.found ++ scan.remaining rest := by
  unfold close remaining
  cases current : scan.current with
  | none => simp
  | some run =>
      obtain ⟨isUniform, position⟩ := follows run current
      dsimp only
      rw [isUniform.slices_append (ends run current), position]
      simp

/-- One character on, the words found and those to come are the same. -/
theorem step_remaining (follows : scan.Follows) (c : Char) (rest : List Char) :
    (scan.step c).Follows ∧
      (scan.step c).found ++ (scan.step c).remaining rest =
        scan.found ++ scan.remaining (c :: rest) := by
  unfold step
  cases current : scan.current with
  | none => exact begin_remaining current c rest
  | some run =>
      obtain ⟨isUniform, position⟩ := follows run current
      dsimp only
      by_cases goesOn : run.kind = .of c ∧ CharClass.of c ≠ .parenthesis
      · obtain ⟨same, other⟩ := goesOn
        rw [if_pos ⟨same, other⟩]
        refine ⟨?_, by simp [remaining, current]⟩
        intro longer member
        cases member
        have uniform : ∀ d ∈ run.chars ++ [c], CharClass.of d = run.kind := by
          rw [List.forall_mem_append, List.forall_mem_singleton]
          exact ⟨isUniform.uniform, same.symm⟩
        have noParenthesis : run.kind ≠ .parenthesis := same ▸ other
        refine ⟨⟨by simp, uniform, isUniform.not_blank, fun single => ?_⟩, ?_⟩
        · exact absurd single noParenthesis
        · simp [byteLength, position, Nat.add_assoc]
      · rw [if_neg goesOn]
        have closed : scan.close.current = none := rfl
        obtain ⟨begun, same⟩ := begin_remaining closed c rest
        refine ⟨begun, same.trans (close_remaining follows (c :: rest) ?_)⟩
        rintro other member d ⟨⟩ kind
        obtain rfl := Option.some.inj (current.symm.trans member)
        exact Decidable.byContradiction fun apart => goesOn ⟨kind.symm, kind ▸ apart⟩

theorem foldl_remaining (follows : scan.Follows) (rest : List Char) :
    (rest.foldl step scan).close.found = scan.found ++ scan.remaining rest := by
  induction rest generalizing scan with
  | nil =>
      have closed := close_remaining follows [] fun run _ d head => nomatch head
      rw [← closed, List.foldl_nil]
      simp [remaining, close, slices]
  | cons c rest inductionHypothesis =>
      obtain ⟨follows, same⟩ := step_remaining follows c rest
      rw [List.foldl_cons, inductionHypothesis follows, same]

/-- The scan finds the words that the text is cut into. -/
theorem read_eq_slices (chars : List Char) : read chars = slices 0 chars :=
  foldl_remaining follows_start chars

end Scan

end PacketFilter.Word
