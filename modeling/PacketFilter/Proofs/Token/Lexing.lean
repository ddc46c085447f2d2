import PacketFilter.Proofs.Phrase.Primitive
import PacketFilter.Proofs.Token.Grammar

/-!
The lexer reads exactly what the grammar allows. One step of it reads one piece, and a pending
negation stands for an odd count of them; what a qualifier takes shows in the first word of the
piece behind it. Words that have a cut at all have a greedy one, for a qualifier can be joined with
what it takes.
-/

namespace PacketFilter

namespace Mark

def spellings : List String := ["and", "&&", "or", "||", "not", "!", "(", ")"]

theorem spells_iff {mark : Mark} {text : String} :
    mark.Spells text ↔ ofText? text = some mark := by
  constructor
  · intro spells
    cases spells <;> rfl
  · intro found
    unfold ofText? at found
    split at found
    all_goals first
      | contradiction
      | cases found; constructor

theorem ofText?_eq_none {text : String} (absent : text ∉ spellings) : ofText? text = none := by
  cases found : ofText? text with
  | none => rfl
  | some mark => cases spells_iff.2 found <;> exact absurd (by decide) absent

end Mark

namespace Keywords

def fields : List String := ip.map Prod.fst

theorem next?_ip_eq_none_iff {word : Word} {rest : List Word} :
    ip.next? (word :: rest) = none ↔ word.text ∉ fields := by
  rw [next?, Option.map_eq_none_iff]
  constructor
  · intro absent member
    obtain ⟨entry, listed, same⟩ := List.mem_map.1 member
    have other := List.lookup_eq_none_iff.1 absent entry listed
    rw [same] at other
    simp at other
  · intro absent
    exact lookup_eq_none (fun entry listed => List.mem_map_of_mem listed) absent

end Keywords

open Keywords Phrase Recognised

/-- The first word of a primitive tells whether it is a field, and whether it is an address or
port. -/
theorem Primitive.Spells.first_word {form : Form} {primitive : Primitive} {spelled : List String}
    (spells : Spells form primitive spelled) :
    ∃ first others, spelled = first :: others ∧ first ∉ innerWords ∧ first ∉ Mark.spellings ∧
      (first ∈ fields ↔ form = .field) ∧ (first ∈ openings ↔ form = .endpoint) := by
  have ofName : ∀ {form name predicate}, Qualifier.Name form name predicate →
      name ∉ innerWords ∧ name ∉ Mark.spellings ∧ name ∉ fields ∧ name ∉ openings := by
    intro form name predicate named
    refine ⟨?_, ?_, ?_, ?_⟩
    all_goals exact Qualifier.name_not_mem named (by decide +kernel)
  cases spells with
  | field keyword phrase =>
      refine ⟨_, _, rfl, ?_⟩
      cases keyword <;> decide
  | ipField | ip6Field => exact ⟨_, _, rfl, by decide⟩
  | constant keyword phrase =>
      refine ⟨_, _, rfl, ?_⟩
      cases keyword <;> decide
  | tcpField name =>
      obtain ⟨inner, marks, fields, openings⟩ := ofName (.protocol name)
      exact ⟨_, _, rfl, inner, marks, by simp [fields], by simp [openings]⟩
  | qualified name =>
      obtain ⟨inner, marks, fields, openings⟩ := ofName name
      exact ⟨_, _, rfl, inner, marks, by simp [fields], by simp [openings]⟩
  | qualifier name =>
      obtain ⟨inner, marks, fields, openings⟩ := ofName name
      refine ⟨_, _, rfl, inner, marks, ?_, ?_⟩
      · cases name <;> simp [fields]
      · cases name <;> simp [openings]
  | endpoint written =>
      cases written with
      | either keyword =>
          refine ⟨_, _, rfl, ?_⟩
          cases keyword <;> decide
      | sided name | bare name =>
          refine ⟨_, _, rfl, ?_⟩
          cases name <;> decide

/-- The lexer emits what the grammar says, by whether a negation is left of those it has read. -/
theorem Primitive.tokens_eq_tokensBehind (written : Primitive) (negations : Nat) :
    written.tokens (negations % 2 = 1) = written.tokensBehind negations := by
  by_cases odd : negations % 2 = 1
  · cases written <;> simp [tokens, tokensBehind, Test.negate, odd]
  · cases written <;> simp [tokens, tokensBehind, odd]

namespace Piece

theorem Spells.first_word {piece : Piece} {spelled : List String} (spells : Spells piece spelled) :
    ∃ first others, spelled = first :: others ∧ first ∉ innerWords ∧
      (first ∈ fields ↔ ∃ written, piece = Piece.primitive .field written) ∧
        (first ∈ openings ↔ ∃ written, piece = Piece.primitive .endpoint written) := by
  cases spells with
  | mark spelled =>
      refine ⟨_, _, rfl, ?_⟩
      cases spelled <;> simp <;> decide
  | primitive spelled =>
      obtain ⟨first, others, rfl, inner, _, field, endpoint⟩ := spelled.first_word
      exact ⟨first, others, rfl, inner, by simp [field], by simp [endpoint]⟩

theorem Cut.first_word {piece : Piece} {pieces : List Piece} {words : List Word}
    (cut : Cut (piece :: pieces) (words.map Word.text)) :
    ∃ word rest, words = word :: rest ∧ word.text ∉ innerWords ∧
      (word.text ∈ fields ↔ ∃ written, piece = Piece.primitive .field written) ∧
        (word.text ∈ openings ↔ ∃ written, piece = Piece.primitive .endpoint written) := by
  generalize texts : words.map Word.text = spelled at cut
  cases cut with
  | cons spells cut =>
      obtain ⟨first, others, rfl, tells⟩ := spells.first_word
      obtain ⟨word, rest, rfl, rfl, _⟩ := List.map_eq_cons_iff.1 texts
      exact ⟨word, rest, rfl, tells⟩

theorem Cut.eq_nil {words : List Word} (cut : Cut [] (words.map Word.text)) : words = [] := by
  generalize texts : words.map Word.text = spelled at cut
  cases cut
  exact List.map_eq_nil_iff.1 texts

theorem Cut.ends {pieces : List Piece} {words : List Word}
    (cut : Cut pieces (words.map Word.text)) : Ends words := by
  intro first member
  cases pieces with
  | nil =>
      rw [cut.eq_nil] at member
      contradiction
  | cons piece pieces =>
      obtain ⟨word, rest, rfl, outer, _⟩ := cut.first_word
      cases member
      exact outer

theorem takes_iff {form : Form} {written : Primitive} {next : Piece} :
    Takes (primitive form written) next ↔
      form = .ip ∧ (∃ taken, next = primitive .field taken) ∨
        (form = .ip ∨ form = .qualifier) ∧ ∃ taken, next = primitive .endpoint taken := by
  constructor
  · rintro ⟨_ | _ | _⟩ <;> simp
  · rintro (⟨rfl, taken, rfl⟩ | ⟨rfl | rfl, taken, rfl⟩)
    · exact ⟨.field⟩
    · exact ⟨.endpoint⟩
    · exact ⟨.protocol⟩

/-- A primitive takes nothing of the words behind it exactly if it does not take the piece that
they start with. -/
theorem Cut.stops_iff {next : Piece} {pieces : List Piece} {words : List Word} {form : Form}
    {written : Primitive} (cut : Cut (next :: pieces) (words.map Word.text)) :
    Primitive.Stops words form ↔ ¬ Takes (primitive form written) next := by
  obtain ⟨word, rest, rfl, _, field, endpoint⟩ := cut.first_word
  rw [takes_iff, ← field, ← endpoint]
  cases form <;> simp [Primitive.Stops, next?_ip_eq_none_iff, endpoint?_eq_none_iff]

/-- A cut is greedy exactly if none of its primitives takes anything of the words behind it. -/
theorem Cut.greedy_iff {piece : Piece} {pieces : List Piece} {words : List Word}
    (cut : Cut pieces (words.map Word.text)) :
    Greedy (piece :: pieces) ↔
      (∀ form written, piece = .primitive form written → Primitive.Stops words form) ∧
        Greedy pieces := by
  cases pieces with
  | nil =>
      rw [cut.eq_nil]
      refine iff_of_true trivial ⟨fun form _ _ => ?_, trivial⟩
      cases form <;> simp [Primitive.Stops, next?, endpoint?]
  | cons next pieces =>
      rw [Greedy]
      apply and_congr_left
      intro _
      cases piece with
      | mark found =>
          refine iff_of_true (fun takes => ?_) fun form written same => by contradiction
          cases takes
      | primitive form written =>
          rw [← cut.stops_iff]
          constructor
          · rintro stops _ _ ⟨⟩
            exact stops
          · intro stops
            exact stops form written rfl

end Piece

namespace Token

/-- A negation is pending behind an odd count of negations. -/
def IsPending (pending : Option Nat) (negations : Nat) : Prop :=
  pending.isSome = decide (negations % 2 = 1)

theorem IsPending.eq_none_iff {pending : Option Nat} {negations : Nat}
    (counted : IsPending pending negations) : pending = none ↔ negations % 2 = 0 := by
  rw [← Option.not_isSome_iff_eq_none, counted, decide_eq_true_iff]
  omega

theorem isPending_zero : IsPending none 0 := rfl

/-- One more negation cancels a pending one and is pending otherwise. -/
theorem IsPending.succ {pending : Option Nat} {negations : Nat} (position : Nat)
    (counted : IsPending pending negations) :
    IsPending (if pending.isSome then none else some position) (negations + 1) := by
  unfold IsPending at counted ⊢
  rw [counted]
  by_cases odd : negations % 2 = 1
  · have even : ¬ (negations + 1) % 2 = 1 := by omega
    simp [odd, even]
  · have next : (negations + 1) % 2 = 1 := by omega
    simp [odd, next]

theorem ofWords_of_unmarked (pending : Option Nat) {word : Word} {rest : List Word}
    (unmarked : Mark.ofText? word.text = none) :
    ofWords pending (word :: rest) =
      (Primitive.read word rest >>= fun found =>
        ofWords none found.2 >>= fun tokens =>
          .ok (found.1.tokens pending.isSome ++ tokens)) := by
  rw [ofWords, unmarked]
  dsimp only
  split
  · rename_i error failed
    rw [failed]
    rfl
  · rename_i primitive left read
    rw [read]
    rfl

/-- The lexer reads a piece and goes on behind it. -/
theorem ofWords_append {piece : Piece} {front rest : List Word} {pending : Option Nat}
    {negations : Nat} (spells : piece.Spells (front.map Word.text)) (ends : Ends rest)
    (stops : ∀ form written, piece = .primitive form written → Primitive.Stops rest form)
    (counted : IsPending pending negations) (admits : piece.Admits negations) :
    ∃ after, IsPending after (piece.count negations) ∧
      ofWords pending (front ++ rest) =
        (ofWords after rest >>= fun tokens => .ok (piece.tokens negations ++ tokens)) := by
  generalize texts : front.map Word.text = spelled at spells
  cases spells with
  | @mark mark text spelled =>
      obtain ⟨word, rfl, rfl⟩ := List.map_eq_singleton_iff.1 texts
      have found := Mark.spells_iff.1 spelled
      rw [List.singleton_append, ofWords, found]
      cases mark with
      | not =>
          refine ⟨_, counted.succ word.position, ?_⟩
          cases ofWords _ rest <;> rfl
      | openParen =>
          refine ⟨none, isPending_zero, ?_⟩
          unfold IsPending at counted
          simp [Piece.tokens, counted]
      | and | or | closeParen =>
          refine ⟨none, isPending_zero, ?_⟩
          rw [counted.eq_none_iff.2 admits]
          rfl
  | primitive spelled =>
      obtain ⟨word, others, rfl, read⟩ :=
        Primitive.read_append spelled texts ends (stops _ _ rfl)
      refine ⟨none, isPending_zero, ?_⟩
      obtain ⟨first, behind, rfl, _, outer, _⟩ := spelled.first_word
      obtain ⟨rfl, _⟩ := List.cons.inj texts
      have unmarked := Mark.ofText?_eq_none outer
      unfold IsPending at counted
      rw [List.cons_append, ofWords_of_unmarked pending unmarked, read, ok_bind, counted,
        Primitive.tokens_eq_tokensBehind, Piece.tokens]

theorem piece_of_ofWords {word : Word} {words : List Word} {pending : Option Nat}
    {negations : Nat} {tokens : List Token} (counted : IsPending pending negations)
    (lexed : ofWords pending (word :: words) = .ok tokens) :
    ∃ (piece : Piece) (front rest : List Word) (after : Option Nat) (others : List Token),
      word :: words = front ++ rest ∧ piece.Spells (front.map Word.text) ∧
      (∀ form written, piece = .primitive form written → Primitive.Stops rest form) ∧
      piece.Admits negations ∧ IsPending after (piece.count negations) ∧
      ofWords after rest = .ok others ∧ tokens = piece.tokens negations ++ others := by
  cases mark : Mark.ofText? word.text with
  | some found =>
      rw [ofWords, mark] at lexed
      have spells : Piece.Spells (.mark found) ([word].map Word.text) :=
        .mark (Mark.spells_iff.2 mark)
      have unread : ∀ form written, Piece.mark found = .primitive form written →
          Primitive.Stops words form := by
        rintro _ _ ⟨⟩
      cases found with
      | not =>
          exact ⟨_, [word], words, _, tokens, rfl, spells, unread, trivial,
            counted.succ word.position, lexed, rfl⟩
      | openParen =>
          obtain ⟨others, behind, same⟩ := bind_eq_ok.1 lexed
          cases same
          refine ⟨_, [word], words, none, others, rfl, spells, unread, trivial, isPending_zero,
            behind, ?_⟩
          unfold IsPending at counted
          simp [Piece.tokens, counted]
      | and | or | closeParen =>
          cases pending with
          | some position => contradiction
          | none =>
              obtain ⟨others, behind, same⟩ := bind_eq_ok.1 lexed
              cases same
              exact ⟨_, [word], words, none, others, rfl, spells, unread,
                counted.eq_none_iff.1 rfl, isPending_zero, behind, rfl⟩
  | none =>
      rw [ofWords_of_unmarked pending mark] at lexed
      obtain ⟨⟨written, rest⟩, read, lexed⟩ := bind_eq_ok.1 lexed
      obtain ⟨others, behind, same⟩ := bind_eq_ok.1 lexed
      obtain ⟨form, front, split, spelled, stops⟩ := Primitive.spelled_of_read read
      cases same
      refine ⟨.primitive form written, front, rest, none, others, split, .primitive spelled,
        ?_, trivial, isPending_zero, behind, ?_⟩
      · rintro _ _ ⟨⟩
        exact stops
      · unfold IsPending at counted
        rw [counted, Primitive.tokens_eq_tokensBehind, Piece.tokens]

/-- What was lexed is the greedy cut of its words. -/
theorem cut_of_ofWords {pending : Option Nat} {negations : Nat} {words : List Word}
    {tokens : List Token} (counted : IsPending pending negations)
    (lexed : ofWords pending words = .ok tokens) :
    ∃ pieces, Piece.Cut pieces (words.map Word.text) ∧ Piece.Paired negations pieces ∧
      Piece.Greedy pieces ∧ tokens = Piece.tokensOf negations pieces := by
  cases words with
  | nil =>
      cases pending with
      | some position => simp [ofWords] at lexed
      | none =>
          rw [ofWords] at lexed
          cases lexed
          exact ⟨[], .nil, counted.eq_none_iff.1 rfl, trivial, rfl⟩
  | cons word words =>
      obtain ⟨piece, front, rest, after, others, split, spells, stops, admits, counted, behind,
        rfl⟩ := piece_of_ofWords counted lexed
      -- A piece has a word at least, so the recursion is on fewer words.
      have shorter : rest.length < (word :: words).length := by
        obtain ⟨first, inside, texts, _⟩ := spells.first_word
        have nonempty : 0 < front.length := by
          rw [← List.length_map, texts]
          exact Nat.succ_pos _
        rw [split, List.length_append]
        omega
      obtain ⟨pieces, cut, paired, greedy, rfl⟩ := cut_of_ofWords counted behind
      refine ⟨piece :: pieces, ?_, ⟨admits, paired⟩, ?_, rfl⟩
      · rw [split, List.map_append]
        exact .cons spells cut
      · exact cut.greedy_iff.2 ⟨stops, greedy⟩
  termination_by words.length

/-- The words of a greedy cut are lexed as its tokens. -/
theorem ofWords_of_cut {pieces : List Piece} {spelled : List String} {words : List Word}
    {pending : Option Nat} {negations : Nat} (cut : Piece.Cut pieces spelled)
    (texts : words.map Word.text = spelled) (greedy : Piece.Greedy pieces)
    (paired : Piece.Paired negations pieces) (counted : IsPending pending negations) :
    ofWords pending words = .ok (Piece.tokensOf negations pieces) := by
  induction cut generalizing words pending negations with
  | nil =>
      rw [List.map_eq_nil_iff] at texts
      rw [texts, counted.eq_none_iff.2 paired, ofWords]
      rfl
  | cons spells cut inductionHypothesis =>
      obtain ⟨front, rest, rfl, rfl, rfl⟩ := List.map_eq_append_iff.1 texts
      obtain ⟨stops, greedy⟩ := cut.greedy_iff.1 greedy
      obtain ⟨after, counted, step⟩ := ofWords_append spells cut.ends stops counted paired.1
      rw [step, inductionHypothesis rfl greedy paired.2 counted]
      rfl

end Token

namespace Piece

theorem join {form next : Form} {qualifier taken : Primitive} {front behind : List String}
    (takes : Form.Takes form next) (before : Primitive.Spells form qualifier front)
    (spells : Primitive.Spells next taken behind) :
    ∃ joined, Primitive.Spells .closed joined (front ++ behind) := by
  cases takes with
  | field =>
      cases before with
      | qualifier name =>
          cases name with
          | ip =>
              cases spells with
              | field keyword phrase => exact ⟨_, .ipField keyword phrase⟩
              | qualifier name => cases name
  | endpoint | protocol =>
      cases before with
      | qualifier name =>
          cases spells with
          | endpoint written => exact ⟨_, .qualified name written⟩
          | qualifier other => cases other

theorem Greedy.replace {piece : Piece} {pieces : List Piece} {closed : Primitive}
    (greedy : Greedy (piece :: pieces)) : Greedy (primitive .closed closed :: pieces) := by
  cases pieces with
  | nil => trivial
  | cons next pieces =>
      refine ⟨?_, greedy.2⟩
      rintro ⟨⟨⟩⟩

/-- Words that can be cut can be cut greedily. -/
theorem Cut.exists_greedy {pieces : List Piece} {words : List String} {negations : Nat}
    (cut : Cut pieces words) (paired : Paired negations pieces) :
    ∃ others, Cut others words ∧ Paired negations others ∧ Greedy others := by
  induction cut generalizing negations with
  | nil => exact ⟨[], .nil, paired, trivial⟩
  | @cons piece pieces front rest spells cut inductionHypothesis =>
      obtain ⟨others, cut, pairedBehind, greedy⟩ := inductionHypothesis paired.2
      -- The pieces behind are cut greedily, so at most the first piece has to be joined with its
      -- neighbour, and what they are joined to takes nothing.
      cases others with
      | nil => exact ⟨[piece], .cons spells cut, ⟨paired.1, pairedBehind⟩, trivial⟩
      | cons next others =>
          by_cases takes : Takes piece next
          · obtain ⟨formTakes⟩ := takes
            cases spells with
            | primitive spelled =>
                cases cut with
                | cons nextSpells further =>
                    cases nextSpells with
                    | primitive taken =>
                        obtain ⟨joined, spells⟩ := join formTakes spelled taken
                        refine ⟨.primitive .closed joined :: others, ?_, ?_, greedy.replace⟩
                        · rw [← List.append_assoc]
                          exact .cons (.primitive spells) further
                        · exact ⟨trivial, pairedBehind.2⟩
          · exact ⟨piece :: next :: others, .cons spells cut, ⟨paired.1, pairedBehind⟩,
              takes, greedy⟩

end Piece

/-- An expression can be lexed exactly if its words can be cut into marks and primitives of the
grammar with all negations paired, and its tokens are those of the cut in which every qualifier has
taken what it can. -/
theorem Token.lex_eq_ok_iff_cut (expression : String) :
    ((∃ tokens, lex expression = .ok tokens) ↔
      ∃ pieces, Piece.Cut pieces ((Word.cut expression).map Word.text) ∧
        Piece.Paired 0 pieces) ∧
    ∀ tokens, lex expression = .ok tokens ↔
      ∃ pieces, Piece.Cut pieces ((Word.cut expression).map Word.text) ∧
        Piece.Paired 0 pieces ∧ Piece.Greedy pieces ∧ tokens = Piece.tokensOf 0 pieces := by
  have exact : ∀ tokens, lex expression = .ok tokens ↔
      ∃ pieces, Piece.Cut pieces ((Word.cut expression).map Word.text) ∧
        Piece.Paired 0 pieces ∧ Piece.Greedy pieces ∧ tokens = Piece.tokensOf 0 pieces := by
    intro tokens
    constructor
    · intro lexed
      exact cut_of_ofWords isPending_zero lexed
    · rintro ⟨pieces, cut, paired, greedy, rfl⟩
      exact ofWords_of_cut cut rfl greedy paired isPending_zero
  refine ⟨?_, exact⟩
  constructor
  · rintro ⟨tokens, lexed⟩
    obtain ⟨pieces, cut, paired, _⟩ := (exact tokens).1 lexed
    exact ⟨pieces, cut, paired⟩
  · rintro ⟨pieces, cut, paired⟩
    obtain ⟨others, cut, paired, greedy⟩ := cut.exists_greedy paired
    exact ⟨_, (exact _).2 ⟨others, cut, paired, greedy, rfl⟩⟩

end PacketFilter
