import PacketFilter.Proofs.Phrase.Faults
import PacketFilter.Proofs.Token.Lexing

/-!
Expressions of one phrase. The words up to the keyword decide by themselves which phrase is read,
so what the lexer makes of such an expression is what the reader of the phrase makes of the words
behind the keyword, whether it reads or refuses them.
-/

namespace PacketFilter

namespace Phrase

inductive OpensEndpoint : List String → Phrase → Prop where
  | either {keyword phrase} : Keywords.Endpoint .either keyword phrase →
      OpensEndpoint [keyword] phrase
  | sided {name side keyword phrase} : Side.Name name side →
      Keywords.Endpoint side keyword phrase → OpensEndpoint [name, keyword] phrase

/-- The words up to a keyword with an operand, the phrase behind it, and the primitive that a test
becomes. -/
inductive Opens : List String → Phrase → (Test → Primitive) → Prop where
  | field {keyword phrase} : Keywords.Ip keyword phrase → Opens [keyword] phrase .single
  | ipField {keyword phrase} : Keywords.Ip keyword phrase → Opens ["ip", keyword] phrase .single
  | ip6Field {keyword phrase} : Keywords.Ip6 keyword phrase →
      Opens ["ip6", keyword] phrase .single
  | tcpField {name keyword phrase} : Protocol.Name name Protocol.tcp →
      Keywords.Tcp keyword phrase → Opens [name, keyword] phrase .single
  | endpoint {front phrase} : OpensEndpoint front phrase → Opens front phrase .single
  | qualified {form name predicate front phrase} : Qualifier.Name form name predicate →
      OpensEndpoint front phrase →
      Opens (name :: front) phrase (.qualified (.bind predicate none false))

end Phrase

theorem Phrase.Opens.injective {front : List String} {phrase : Phrase} {wrap : Test → Primitive}
    (opens : Opens front phrase wrap) : Function.Injective wrap := by
  intro first second same
  cases opens with
  | field | ipField | ip6Field | tcpField | endpoint => exact Primitive.single.inj same
  | qualified => exact (Primitive.qualified.inj same).2

theorem Test.negate_injective : Function.Injective negate := by
  intro first second same
  rw [← first.negate_negate, same, negate_negate]

theorem Primitive.tokens_injective (negated : Bool) : Function.Injective (tokens negated) := by
  intro first second same
  cases first with
  | single first =>
      cases second with
      | single second =>
          cases negated <;> simpa [tokens, Test.negate_injective.eq_iff] using same
      | qualified => cases negated <;> simp [tokens] at same
  | qualified =>
      cases second with
      | single => cases negated <;> simp [tokens] at same
      | qualified => cases negated <;> simpa [tokens] using same

theorem Primitive.tokensBehind_injective (negations : Nat) :
    Function.Injective (tokensBehind negations) := by
  intro first second same
  rw [← tokens_eq_tokensBehind, ← tokens_eq_tokensBehind] at same
  exact tokens_injective _ same

open Phrase

variable {phrase : Phrase} {wrap : Test → Primitive} {front : List Word}

theorem Recognised.endpoint?_of_opens (opens : OpensEndpoint (front.map Word.text) phrase)
    (rest : List Word) :
    ∃ keyword, endpoint? (front ++ rest) = some ⟨phrase, keyword, rest⟩ := by
  generalize texts : front.map Word.text = spelled at opens
  cases opens with
  | either keyword =>
      obtain ⟨word, rfl, rfl⟩ := List.map_eq_singleton_iff.1 texts
      have noSide : Side.ofName? word.text = none := by
        generalize word.text = text at keyword
        cases keyword <;> rfl
      have looked := Keywords.endpoint_lookup_iff.2 keyword
      exact ⟨word, by simp [endpoint?, noSide, Keywords.next?_cons _ looked]⟩
  | sided name keyword =>
      obtain ⟨first, others, rfl, rfl, behind⟩ := List.map_eq_cons_iff.1 texts
      obtain ⟨word, rfl, rfl⟩ := List.map_eq_singleton_iff.1 behind
      have looked := Keywords.endpoint_lookup_iff.2 keyword
      exact ⟨word, by simp [endpoint?, Side.name_iff.1 name, Keywords.next?_cons _ looked]⟩

namespace Primitive

theorem read_of_field {name keyword : String} {predicate : Predicate} {keywords : Keywords}
    (plain : Mark.ofText? name = none) (absent : name ∉ Keywords.starts)
    (named : Qualifier.ofName? name = some ⟨predicate, keywords⟩)
    (looked : keywords.lookup keyword = some phrase)
    (texts : front.map Word.text = [name, keyword]) (rest : List Word) :
    ∃ word others keyword, front = word :: others ∧ Mark.ofText? word.text = none ∧
      read word (others ++ rest) =
        (phrase.read keyword rest >>= fun found => .ok (.single found.1, found.2)) := by
  obtain ⟨word, others, rfl, rfl, behind⟩ := List.map_eq_cons_iff.1 texts
  obtain ⟨inner, rfl, rfl⟩ := List.map_eq_singleton_iff.1 behind
  exact ⟨word, [inner], inner, rfl, plain, read_field absent named looked rest⟩

/-- The words up to the keyword are read as the phrase behind it. -/
theorem read_of_opens (opens : Opens (front.map Word.text) phrase wrap) (rest : List Word) :
    ∃ word others keyword, front = word :: others ∧ Mark.ofText? word.text = none ∧
      read word (others ++ rest) =
        (phrase.read keyword rest >>= fun found => .ok (wrap found.1, found.2)) := by
  generalize texts : front.map Word.text = spelled at opens
  cases opens with
  | field keyword =>
      obtain ⟨word, rfl, rfl⟩ := List.map_eq_singleton_iff.1 texts
      have recognition := Recognised.phrase?_of_ip keyword rest
      refine ⟨word, [], word, rfl, ?_, read_eq_ofPhrase recognition⟩
      generalize word.text = text at keyword
      cases keyword <;> rfl
  | ipField keyword =>
      exact read_of_field rfl (by decide) rfl (Keywords.ip_lookup_iff.2 keyword) texts rest
  | ip6Field keyword =>
      exact read_of_field rfl (by decide) rfl (Keywords.ip6_lookup_iff.2 keyword) texts rest
  | tcpField found keyword =>
      have protocol : Qualifier.Name .qualifier _ _ := .protocol found
      have plain := Mark.ofText?_eq_none (Qualifier.name_not_mem protocol (by decide +kernel))
      have named := Qualifier.ofName?_protocol found
      exact read_of_field plain (Qualifier.name_not_starts protocol) named
        (Keywords.tcp_lookup_iff.2 keyword) texts rest
  | endpoint opens =>
      rw [← texts] at opens
      obtain ⟨keyword, found⟩ := Recognised.endpoint?_of_opens opens rest
      cases front with
      | nil =>
          generalize same : [].map Word.text = empty at opens
          cases opens <;> contradiction
      | cons word others =>
          rw [List.cons_append] at found
          have opening := Recognised.mem_openings found
          refine ⟨word, others, keyword, rfl, ?_, ?_⟩
          · have plain : ∀ name ∈ Recognised.openings, Mark.ofText? name = none := by decide
            exact plain _ opening
          · exact read_eq_ofPhrase (Recognised.phrase?_of_endpoint? found)
  | qualified named opens =>
      obtain ⟨name, others, rfl, rfl, rfl⟩ := List.map_eq_cons_iff.1 texts
      obtain ⟨keyword, found⟩ := Recognised.endpoint?_of_opens opens rest
      have noField := Recognised.next?_ip_of_endpoint? found
      refine ⟨name, others, keyword, rfl, ?_, ?_⟩
      · exact Mark.ofText?_eq_none (Qualifier.name_not_mem named (by decide +kernel))
      · rw [read_eq_behindQualifier named (Recognised.ends_of_endpoint? found) fun _ => noField]
        simp only [behindQualifier, found]
        rfl

end Primitive

namespace Token

variable {pending : Option Nat} {negations : Nat} {run rest : List Word} {expression : String}

theorem ofWords_negations (negated : ∀ word ∈ run, Mark.Spells .not word.text)
    (counted : IsPending pending negations) (rest : List Word) :
    ∃ after, IsPending after (negations + run.length) ∧
      ofWords pending (run ++ rest) = ofWords after rest := by
  induction run generalizing pending negations with
  | nil => exact ⟨pending, counted, rfl⟩
  | cons word run inductionHypothesis =>
      obtain ⟨first, others⟩ := List.forall_mem_cons.1 negated
      obtain ⟨after, behind, same⟩ := inductionHypothesis others (counted.succ word.position)
      refine ⟨after, ?_, ?_⟩
      · rwa [List.length_cons, Nat.add_comm run.length, ← Nat.add_assoc]
      · rw [List.cons_append, ofWords, Mark.spells_iff.1 first]
        exact same

theorem ofWords_of_opens (pending : Option Nat)
    (opens : Opens (front.map Word.text) phrase wrap) (rest : List Word) :
    ∃ keyword, ofWords pending (front ++ rest) =
      (phrase.read keyword rest >>= fun found =>
        ofWords none found.2 >>= fun tokens =>
          .ok ((wrap found.1).tokens pending.isSome ++ tokens)) := by
  obtain ⟨word, others, keyword, rfl, plain, read⟩ := Primitive.read_of_opens opens rest
  refine ⟨keyword, ?_⟩
  rw [List.cons_append, ofWords_of_unmarked pending plain, read]
  cases phrase.read keyword rest <;> rfl

/-- What stands in front of an operand: negations, the words up to the keyword of its phrase, and a
comparison. The test that is bound to the operand becomes the given tokens. -/
inductive Leads (phrase : Phrase) (comparison : Option Comparison) :
    List String → (Test → List Token) → Prop where
  | mk {negations front before wrap} : (∀ word ∈ negations, Mark.Spells .not word) →
      Opens front phrase wrap → Comparison.Spells before comparison →
      Leads phrase comparison (negations ++ (front ++ before))
        fun test => (wrap test).tokensBehind negations.length

theorem Leads.injective {comparison : Option Comparison} {start : List String}
    {tokens : Test → List Token} (leads : Leads phrase comparison start tokens) :
    Function.Injective tokens := by
  obtain ⟨_, opens, _⟩ := leads
  exact fun first second same => opens.injective (Primitive.tokensBehind_injective _ same)

/-- All expressions with these words are lexed to the tokens. -/
def Lexes (words : List String) (tokens : List Token) : Prop :=
  ∀ expression, (Word.cut expression).map Word.text = words → lex expression = .ok tokens

/-- All expressions with these words are refused, at the last word as an operand. -/
def RefusesLast (words : List String) : Prop :=
  ∀ expression, (Word.cut expression).map Word.text = words →
    ∃ word error, (Word.cut expression).getLast? = some word ∧ lex expression = .error error ∧
      error.Refuses word

/-- Where one word is the whole operand, no symbol is written if the word is none. -/
theorem noSymbol_of_operand {operand : String} (noSymbol : Comparison.ofSymbol? operand = none)
    (words : List Word) (texts : words.map Word.text = [operand]) : Operand.NoSymbol words := by
  obtain ⟨word, rfl, rfl⟩ := List.map_eq_singleton_iff.1 texts
  rintro _ ⟨rfl⟩
  exact noSymbol

section Leads

variable {comparison : Option Comparison} {start operand : List String}
  {tokens : Test → List Token} (leads : Leads phrase comparison start tokens)
  (noSymbol : ∀ words : List Word, words.map Word.text = operand → Operand.NoSymbol words)

include leads noSymbol

theorem lex_of_leads (texts : (Word.cut expression).map Word.text = start ++ operand) :
    ∃ keyword behind words, words.map Word.text = operand ∧ words <:+ Word.cut expression ∧
      Operand.comparison behind = (comparison, words) ∧
      lex expression =
        (phrase.read keyword behind >>= fun found =>
          ofWords none found.2 >>= fun others => .ok (tokens found.1 ++ others)) := by
  obtain ⟨negated, opens, compared⟩ := leads
  rw [List.append_assoc, List.append_assoc] at texts
  obtain ⟨run, others, cut, rfl, further⟩ := List.map_eq_append_iff.1 texts
  obtain ⟨front, others, rfl, rfl, behind⟩ := List.map_eq_append_iff.1 further
  obtain ⟨before, words, rfl, compares, rfl⟩ := List.map_eq_append_iff.1 behind
  have negations : ∀ word ∈ run, Mark.Spells .not word.text :=
    fun word member => negated _ (List.mem_map_of_mem member)
  obtain ⟨pending, counted, skipped⟩ :=
    ofWords_negations negations isPending_zero (front ++ (before ++ words))
  obtain ⟨keyword, read⟩ := ofWords_of_opens pending opens (before ++ words)
  refine ⟨keyword, before ++ words, words, rfl, ?_, ?_, ?_⟩
  · rw [cut, ← List.append_assoc, ← List.append_assoc]
    exact List.suffix_append _ _
  · exact Operand.comparison_append compared compares (noSymbol words rfl)
  · unfold IsPending at counted
    rw [lex, cut, skipped, read, counted, Nat.zero_add, List.length_map]
    simp only [Primitive.tokens_eq_tokensBehind]

theorem lexes_of_leads {test : Test}
    (read : ∀ keyword behind words, words.map Word.text = operand →
      Operand.comparison behind = (comparison, words) →
        phrase.read keyword behind = .ok (test, [])) :
    Lexes (start ++ operand) (tokens test) := by
  intro expression texts
  obtain ⟨keyword, behind, words, same, _, compared, lexed⟩ := lex_of_leads leads noSymbol texts
  rw [lexed, read keyword behind words same compared, ok_bind, ofWords, ok_bind, List.append_nil]

theorem refusesLast_of_leads
    (read : ∀ keyword behind words, words.map Word.text = operand →
      Operand.comparison behind = (comparison, words) →
        ∃ word error, words.getLast? = some word ∧ phrase.read keyword behind = .error error ∧
          error.Refuses word) :
    RefusesLast (start ++ operand) := by
  intro expression texts
  obtain ⟨keyword, behind, words, same, inside, compared, lexed⟩ :=
    lex_of_leads leads noSymbol texts
  obtain ⟨word, error, last, failed, refuses⟩ := read keyword behind words same compared
  refine ⟨word, error, ?_, ?_, refuses⟩
  · obtain ⟨front, cut⟩ := inside
    rw [← cut, List.getLast?_append, last]
    rfl
  · rw [lexed, failed]
    rfl

end Leads

end Token

end PacketFilter
