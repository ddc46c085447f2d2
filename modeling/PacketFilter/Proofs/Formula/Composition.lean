import PacketFilter.Proofs.Formula.RoundTrip

/-!
Filters are composed on their texts. A text in parentheses, behind a negation or beside a
connective is cut into the words that it is cut into by itself, and these are lexed and read as
they are by themselves: neither a qualifier nor a pending negation reaches over a parenthesis or a
connective. Without parentheses two texts with `or` in between are read as one sum, which is
another filter than the sum of the two but matches the same packets.
-/

namespace PacketFilter

/-- The marks that nothing in front of them reaches over. -/
inductive Mark.Separates : Mark → Prop where
  | and : Separates .and
  | or : Separates .or
  | closeParen : Separates .closeParen

namespace Piece

variable {mark : Mark} {negations : Nat} {pieces first second : List Piece}

theorem Paired.append_mark (separates : mark.Separates) (before : Paired negations first)
    (behind : Paired 0 second) : Paired negations (first ++ .mark mark :: second) := by
  induction first generalizing negations with
  | nil => cases separates <;> exact ⟨before, behind⟩
  | cons piece pieces inductionHypothesis => exact ⟨before.1, inductionHypothesis before.2⟩

theorem tokensOf_append_mark (separates : mark.Separates) :
    tokensOf negations (first ++ .mark mark :: second) =
      tokensOf negations first ++ mark.token :: tokensOf 0 second := by
  induction first generalizing negations with
  | nil => cases separates <;> rfl
  | cons piece pieces inductionHypothesis =>
      rw [List.cons_append, tokensOf, tokensOf, inductionHypothesis, List.append_assoc]

theorem Greedy.cons_mark (greedy : Greedy pieces) : Greedy (.mark mark :: pieces) := by
  cases pieces with
  | nil => trivial
  | cons next pieces => exact ⟨settled_mark mark next, greedy⟩

theorem Greedy.append_mark (before : Greedy first) (behind : Greedy second) :
    Greedy (first ++ .mark mark :: second) := by
  induction first with
  | nil => exact behind.cons_mark
  | cons piece pieces inductionHypothesis =>
      cases pieces with
      | nil =>
          refine ⟨?_, behind.cons_mark⟩
          rintro ⟨⟩
      | cons next pieces => exact ⟨before.1, inductionHypothesis before.2⟩

end Piece

def Token.Lexed (words : List String) (tokens : List Token) : Prop :=
  ∃ pieces, Piece.Cut pieces words ∧ Piece.Paired 0 pieces ∧ Piece.Greedy pieces ∧
    tokens = Piece.tokensOf 0 pieces

namespace Token.Lexed

variable {words left right : List String} {tokens first second : List Token}

theorem nil : Lexed [] [] :=
  ⟨[], .nil, rfl, trivial, rfl⟩

theorem append_mark {mark : Mark} {text : String} (spells : mark.Spells text)
    (separates : mark.Separates) (before : Lexed left first) (behind : Lexed right second) :
    Lexed (left ++ text :: right) (first ++ mark.token :: second) := by
  obtain ⟨pieces, cut, paired, greedy, rfl⟩ := before
  obtain ⟨others, cutBehind, pairedBehind, greedyBehind, rfl⟩ := behind
  refine ⟨pieces ++ .mark mark :: others, ?_, ?_, ?_, ?_⟩
  · exact cut.append (.cons (.mark spells) cutBehind)
  · exact paired.append_mark separates pairedBehind
  · exact greedy.append_mark greedyBehind
  · exact (Piece.tokensOf_append_mark separates).symm

theorem opened (lexed : Lexed words tokens) : Lexed ("(" :: words) (.openParen :: tokens) := by
  obtain ⟨pieces, cut, paired, greedy, rfl⟩ := lexed
  exact ⟨.mark .openParen :: pieces, .cons (.mark .openParen) cut, ⟨trivial, paired⟩,
    greedy.cons_mark, rfl⟩

theorem negatedOpened (lexed : Lexed words tokens) :
    Lexed ("not" :: "(" :: words) (.not :: .openParen :: tokens) := by
  obtain ⟨pieces, cut, paired, greedy, rfl⟩ := lexed
  exact ⟨.mark .not :: .mark .openParen :: pieces,
    .cons (.mark .not) (.cons (.mark .openParen) cut), ⟨trivial, trivial, paired⟩,
    greedy.cons_mark.cons_mark, rfl⟩

theorem closed (lexed : Lexed words tokens) :
    Lexed (words ++ [")"]) (tokens ++ [.closeParen]) :=
  lexed.append_mark .closeParen .closeParen nil

theorem grouped (lexed : Lexed words tokens) :
    Lexed ("(" :: (words ++ [")"])) (.openParen :: (tokens ++ [.closeParen])) :=
  lexed.closed.opened

theorem negatedGroup (lexed : Lexed words tokens) :
    Lexed ("not" :: "(" :: (words ++ [")"])) (.not :: .openParen :: (tokens ++ [.closeParen])) :=
  lexed.closed.negatedOpened

end Token.Lexed

theorem Derives.grouped {tokens : List Token} {formula : Formula}
    (derived : Derives .expression tokens formula) :
    Derives .factor (.openParen :: (tokens ++ [.closeParen])) formula :=
  .even 0 rfl (.group derived)

theorem Derives.negatedGroup {tokens : List Token} {formula : Formula}
    (derived : Derives .expression tokens formula) :
    Derives .factor (.not :: .openParen :: (tokens ++ [.closeParen])) formula.negate :=
  .odd 1 rfl (.group derived)

/-- Two expressions with `or` in between are an expression: the terms of the second are added to
the first one after the other. -/
theorem Derives.exists_or {first second : List Token} {left right : Formula}
    (before : Derives .expression first left) (behind : Derives .expression second right) :
    ∃ formula, Derives .expression (first ++ .or :: second) formula ∧
      ∀ packet, formula.accepts packet = (left.accepts packet || right.accepts packet) := by
  generalize layer : Level.expression = level at behind
  -- The sum on the right joins to the left, so its terms are added from the first one on.
  induction behind with
  | test | group | even | odd | factor | and => contradiction
  | term derived => exact ⟨_, before.or derived, fun packet => rfl⟩
  | @or sum term sumFormula termFormula _ derived inductionHypothesis =>
      obtain ⟨formula, joined, accepts⟩ := inductionHypothesis rfl
      refine ⟨.or formula termFormula, ?_, fun packet => ?_⟩
      · simpa using joined.or derived
      · rw [Formula.accepts, accepts, Formula.accepts, Bool.or_assoc]

theorem Token.lex_eq_ok_iff_lexed {expression : String} {tokens : List Token} :
    lex expression = .ok tokens ↔ Lexed (Word.texts expression.toList) tokens := by
  rw [← Word.map_text_cut]
  constructor
  · exact cut_of_ofWords isPending_zero
  · rintro ⟨pieces, cut, paired, greedy, rfl⟩
    exact ofWords_of_cut cut rfl greedy paired isPending_zero

namespace Formula

def WrittenAs (formula : Formula) (words : List String) : Prop :=
  ∃ tokens, Token.Lexed words tokens ∧ Derives .expression tokens formula

/-- A text is compiled to exactly the filter that its words stand for. -/
theorem compile_eq_ok_iff {expression : String} {formula : Formula} :
    compile expression = .ok formula ↔ formula.WrittenAs (Word.texts expression.toList) := by
  constructor
  · intro compiled
    obtain ⟨tokens, lexed, read⟩ := bind_eq_ok.1 compiled
    exact ⟨tokens, Token.lex_eq_ok_iff_lexed.1 lexed, derives_of_ofTokens read⟩
  · rintro ⟨tokens, lexed, derived⟩
    rw [compile, Token.lex_eq_ok_iff_lexed.2 lexed, ok_bind]
    exact ofTokens_of_derives derived

theorem WrittenAs.compile {formula : Formula} {words : List String} {expression : String}
    (written : formula.WrittenAs words) (cuts : Word.CutsInto expression.toList words) :
    Formula.compile expression = .ok formula := by
  rw [compile_eq_ok_iff, cuts.texts_eq]
  exact written

namespace WrittenAs

variable {words left right : List String} {formula front back : Formula}

theorem canonical (written : formula.WrittenAs words) : formula.Canonical := by
  obtain ⟨tokens, _, derived⟩ := written
  exact derived.canonical

theorem grouped (written : formula.WrittenAs words) :
    formula.WrittenAs ("(" :: (words ++ [")"])) := by
  obtain ⟨tokens, lexed, derived⟩ := written
  exact ⟨_, lexed.grouped, .term (.factor derived.grouped)⟩

theorem negate (written : formula.WrittenAs words) :
    formula.negate.WrittenAs ("not" :: "(" :: (words ++ [")"])) := by
  obtain ⟨tokens, lexed, derived⟩ := written
  exact ⟨_, lexed.negatedGroup, .term (.factor derived.negatedGroup)⟩

theorem and (before : front.WrittenAs left) (behind : back.WrittenAs right) :
    (Formula.and front back).WrittenAs
      ("(" :: (left ++ [")"]) ++ "and" :: "(" :: (right ++ [")"])) := by
  obtain ⟨tokens, lexed, derived⟩ := before
  obtain ⟨others, lexedBehind, derivedBehind⟩ := behind
  exact ⟨_, lexed.grouped.append_mark .and .and lexedBehind.grouped,
    .term (.and (.factor derived.grouped) derivedBehind.grouped)⟩

theorem or (before : front.WrittenAs left) (behind : back.WrittenAs right) :
    (Formula.or front back).WrittenAs
      ("(" :: (left ++ [")"]) ++ "or" :: "(" :: (right ++ [")"])) := by
  obtain ⟨tokens, lexed, derived⟩ := before
  obtain ⟨others, lexedBehind, derivedBehind⟩ := behind
  exact ⟨_, lexed.grouped.append_mark .or .or lexedBehind.grouped,
    .or (.term (.factor derived.grouped)) (.factor derivedBehind.grouped)⟩

theorem exists_or (before : front.WrittenAs left) (behind : back.WrittenAs right) :
    ∃ formula : Formula, formula.WrittenAs (left ++ "or" :: right) ∧
      ∀ packet, formula.accepts packet = (front.accepts packet || back.accepts packet) := by
  obtain ⟨tokens, lexed, derived⟩ := before
  obtain ⟨others, lexedBehind, derivedBehind⟩ := behind
  obtain ⟨formula, joined, accepts⟩ := derived.exists_or derivedBehind
  exact ⟨formula, ⟨_, lexed.append_mark .or .or lexedBehind, joined⟩, accepts⟩

end WrittenAs

/-- Parentheses, negations and connectives around texts compose the filters that the texts are
compiled to. Without parentheses `or` gives a filter that matches what either of the two
matches. -/
theorem compile_compose {first second : String} {left right : Formula}
    (compiledFirst : compile first = .ok left) (compiledSecond : compile second = .ok right) :
    compile ("(" ++ first ++ ")") = .ok left ∧
    compile ("not (" ++ first ++ ")") = .ok left.negate ∧
    compile ("not (not (" ++ first ++ "))") = .ok left ∧
    compile ("(" ++ first ++ ") and (" ++ second ++ ")") = .ok (.and left right) ∧
    compile ("(" ++ first ++ ") or (" ++ second ++ ")") = .ok (.or left right) ∧
    ∃ formula, compile (first ++ " or " ++ second) = .ok formula ∧
      ∀ packet, formula.accepts packet = (left.accepts packet || right.accepts packet) := by
  have before := compile_eq_ok_iff.1 compiledFirst
  have behind := compile_eq_ok_iff.1 compiledSecond
  have cutFirst := Word.cutsInto_texts first.toList
  have cutSecond := Word.cutsInto_texts second.toList
  have negation := Word.cutsInto_keyword "not" (by decide) (by decide)
  have conjunction := Word.cutsInto_keyword "and" (by decide) (by decide)
  have disjunction := Word.cutsInto_keyword "or" (by decide) (by decide)
  have negated := negation.append cutFirst.parenthesized
  refine ⟨?_, ?_, ?_, ?_, ?_, ?_⟩
  · apply before.grouped.compile
    simpa using cutFirst.parenthesized
  · apply before.negate.compile
    simpa using negated
  · have twice := before.negate.negate
    rw [before.canonical.negate_negate] at twice
    apply twice.compile
    simpa using negation.append negated.parenthesized
  · apply (before.and behind).compile
    simpa using cutFirst.parenthesized.append (conjunction.append cutSecond.parenthesized)
  · apply (before.or behind).compile
    simpa using cutFirst.parenthesized.append (disjunction.append cutSecond.parenthesized)
  · obtain ⟨formula, joined, accepts⟩ := before.exists_or behind
    refine ⟨formula, joined.compile ?_, accepts⟩
    simpa using cutFirst.append (disjunction.append cutSecond)

theorem compile_compose_of_sums :
    let first := "tcp or not ip"
    let second := "frag and udp or ip6"
    let left : Formula := .or (.test (.bind (.numeric .protocol 6) none false))
      (.test (.bind (.numeric .version 4) none true))
    let right : Formula := .or
      (.and (.test (.bind .fragment none false)) (.test (.bind (.numeric .protocol 17) none false)))
      (.test (.bind (.numeric .version 6) none false))
    compile first = .ok left ∧ compile second = .ok right ∧
      compile ("(" ++ first ++ ")") = .ok left ∧
      compile ("not (" ++ first ++ ")") = .ok (.not left) ∧
      compile ("not (not (" ++ first ++ "))") = .ok left ∧
      compile ("(" ++ first ++ ") and (" ++ second ++ ")") = .ok (.and left right) ∧
      compile ("(" ++ first ++ ") or (" ++ second ++ ")") = .ok (.or left right) ∧
      ∃ formula, compile (first ++ " or " ++ second) = .ok formula ∧
        ∀ packet, formula.accepts packet = (left.accepts packet || right.accepts packet) := by
  intro first second left right
  have compiledFirst : compile first = .ok left := eq_ok_of_toOption (by decide +kernel)
  have compiledSecond : compile second = .ok right := eq_ok_of_toOption (by decide +kernel)
  exact ⟨compiledFirst, compiledSecond, compile_compose compiledFirst compiledSecond⟩

end Formula

end PacketFilter
