import PacketFilter.Proofs.Phrase.Reading

/-!
How the start of a primitive is recognised: which words are keywords, names of an end or
qualifiers, and that no word is more than one of them where it matters.
-/

namespace PacketFilter

namespace Keywords

variable {name : String} {phrase : Phrase} {side : Side}

theorem mem_of_lookup {keywords : Keywords} (found : keywords.lookup name = some phrase) :
    (name, phrase) ∈ keywords := by
  obtain ⟨before, behind, rfl, _⟩ := List.lookup_eq_some_iff.1 found
  simp

/-- Keywords are looked up in a table as a relation tells that holds of all its entries. -/
theorem lookup_iff {keywords : Keywords} {Keyword : String → Phrase → Prop}
    (listed : ∀ entry ∈ keywords, Keyword entry.1 entry.2)
    (found : Keyword name phrase → keywords.lookup name = some phrase) :
    keywords.lookup name = some phrase ↔ Keyword name phrase := by
  constructor
  · intro looked
    exact listed (name, phrase) (mem_of_lookup looked)
  · exact found

theorem ip_lookup_iff : Keywords.ip.lookup name = some phrase ↔ Ip name phrase := by
  apply lookup_iff
  · simp only [Keywords.ip, List.forall_mem_cons]
    and_intros
    all_goals first
      | exact List.forall_mem_nil _
      | constructor
  · intro keyword
    cases keyword <;> rfl

theorem ip6_lookup_iff : Keywords.ip6.lookup name = some phrase ↔ Ip6 name phrase := by
  apply lookup_iff
  · simp only [Keywords.ip6, List.forall_mem_cons]
    and_intros
    all_goals first
      | exact List.forall_mem_nil _
      | constructor
  · intro keyword
    cases keyword <;> rfl

theorem tcp_lookup_iff : Keywords.tcp.lookup name = some phrase ↔ Tcp name phrase := by
  apply lookup_iff
  · simp only [Keywords.tcp, List.forall_mem_cons]
    and_intros
    all_goals first
      | exact List.forall_mem_nil _
      | constructor
  · intro keyword
    cases keyword <;> rfl

theorem endpoint_lookup_iff :
    (Keywords.endpoint side).lookup name = some phrase ↔ Endpoint side name phrase := by
  apply lookup_iff
  · simp only [Keywords.endpoint, List.forall_mem_cons]
    and_intros
    all_goals first
      | exact List.forall_mem_nil _
      | constructor
  · intro keyword
    cases keyword <;> rfl

theorem constant_lookup_iff :
    Keywords.constant.lookup name = some phrase ↔ Constant name phrase := by
  apply lookup_iff
  · simp only [Keywords.constant, List.forall_mem_cons]
    and_intros
    all_goals first
      | exact List.forall_mem_nil _
      | constructor
  · intro keyword
    cases keyword <;> rfl

theorem eq_cons_of_next? {keywords : Keywords} {words : List Word} {recognised : Recognised}
    (found : keywords.next? words = some recognised) :
    words = recognised.keyword :: recognised.rest ∧
      keywords.lookup recognised.keyword.text = some recognised.phrase := by
  unfold next? at found
  split at found
  · contradiction
  · obtain ⟨phrase, looked, rfl⟩ := Option.map_eq_some_iff.1 found
    exact ⟨rfl, looked⟩

theorem next?_cons {keywords : Keywords} {word : Word} (rest : List Word)
    (found : keywords.lookup word.text = some phrase) :
    keywords.next? (word :: rest) = some ⟨phrase, word, rest⟩ := by
  simp [next?, found]

theorem next?_eq_none {keywords : Keywords} {words : List Word}
    (absent : ∀ word ∈ words.head?, keywords.lookup word.text = none) :
    keywords.next? words = none := by
  cases words with
  | nil => rfl
  | cons word rest => simp [next?, absent word rfl]

theorem lookup_eq_none {keywords : Keywords} {names : List String}
    (listed : ∀ entry ∈ keywords, entry.1 ∈ names) (absent : name ∉ names) :
    keywords.lookup name = none := by
  rw [List.lookup_eq_none_iff]
  intro entry member
  rw [bne_iff_ne]
  rintro rfl
  exact absent (listed entry member)

end Keywords

theorem Side.name_iff {name : String} {side : Side} :
    Name name side ↔ ofName? name = some side := by
  constructor
  · intro named
    cases named <;> rfl
  · intro found
    unfold ofName? at found
    split at found
    all_goals first
      | contradiction
      | cases found; constructor

namespace Phrase

theorem Ends.next?_ip6 {words : List Word} (ends : Ends words) :
    Keywords.ip6.next? words = none := by
  apply Keywords.next?_eq_none
  intro word member
  exact Keywords.lookup_eq_none (by decide) (ends word member)

theorem Ends.next?_tcp {words : List Word} (ends : Ends words) :
    Keywords.tcp.next? words = none := by
  apply Keywords.next?_eq_none
  intro word member
  exact Keywords.lookup_eq_none (by decide) (ends word member)

end Phrase

theorem SpellsEndpoint.ne_nil {written : List String} {test : Test}
    (spells : SpellsEndpoint written test) : written ≠ [] := by
  cases spells <;> exact List.cons_ne_nil _ _

namespace Recognised

open Phrase

theorem endpoint_spelled {words rest : List Word} {recognised : Recognised} {test : Test}
    (found : endpoint? words = some recognised) (read : recognised.read = .ok (test, rest)) :
    ∃ front, words = front ++ rest ∧ SpellsEndpoint (front.map Word.text) test := by
  obtain ⟨front, split, spelled⟩ := spelled_of_read read
  unfold endpoint? at found
  split at found
  · contradiction
  · rename_i word behind
    split at found
    · rename_i side named
      obtain rfl := Option.some.inj found
      have name := Side.name_iff.2 named
      cases next : (Keywords.endpoint side).next? behind with
      | none =>
          rw [next] at split spelled
          refine ⟨word :: front, congrArg (word :: ·) split, ?_⟩
          exact .bare name spelled
      | some inner =>
          rw [next] at split spelled
          obtain ⟨rfl, looked⟩ := Keywords.eq_cons_of_next? next
          refine ⟨word :: inner.keyword :: front, ?_, ?_⟩
          · exact congrArg (word :: inner.keyword :: ·) split
          · exact .sided name (Keywords.endpoint_lookup_iff.1 looked) spelled
    · obtain ⟨same, looked⟩ := Keywords.eq_cons_of_next? found
      refine ⟨recognised.keyword :: front, ?_, ?_⟩
      · rw [same, split, List.cons_append]
      · exact .either (Keywords.endpoint_lookup_iff.1 looked) spelled

theorem next?_endpoint_of_host {side : Side} {spelled : List String} {test : Test}
    {words : List Word} (spells : (Phrase.host side).Spells spelled test)
    (texts : words.map Word.text = spelled) (rest : List Word) :
    (Keywords.endpoint side).next? (words ++ rest) = none := by
  cases spells with
  | host compared address =>
      cases compared with
      | absent =>
          obtain ⟨word, rfl, rfl⟩ := List.map_eq_singleton_iff.1 texts
          apply Keywords.next?_eq_none
          intro first member
          cases member
          exact Operand.lookup_endpoint_of_not_refused address.not_refused side
      | written symbol =>
          obtain ⟨word, others, rfl, rfl, _⟩ := List.map_eq_cons_iff.1 texts
          apply Keywords.next?_eq_none
          intro first member
          cases member
          generalize word.text = text at symbol
          cases symbol <;> rfl

theorem endpoint_append {spelled : List String} {test : Test} {words rest : List Word}
    (spells : SpellsEndpoint spelled test) (texts : words.map Word.text = spelled)
    (ends : Ends rest) :
    ∃ recognised, endpoint? (words ++ rest) = some recognised ∧
      recognised.read = .ok (test, rest) := by
  cases spells with
  | either keyword phrase =>
      obtain ⟨word, others, rfl, rfl, written⟩ := List.map_eq_cons_iff.1 texts
      refine ⟨⟨_, word, others ++ rest⟩, ?_, read_append phrase written ends⟩
      have looked := Keywords.endpoint_lookup_iff.2 keyword
      have noSide : Side.ofName? word.text = none := by
        generalize word.text = text at keyword
        cases keyword <;> rfl
      simp [endpoint?, noSide, Keywords.next?_cons _ looked]
  | sided name keyword phrase =>
      obtain ⟨word, others, rfl, rfl, behind⟩ := List.map_eq_cons_iff.1 texts
      obtain ⟨next, others, rfl, rfl, written⟩ := List.map_eq_cons_iff.1 behind
      refine ⟨⟨_, next, others ++ rest⟩, ?_, read_append phrase written ends⟩
      have looked := Keywords.endpoint_lookup_iff.2 keyword
      simp [endpoint?, Side.name_iff.1 name, Keywords.next?_cons _ looked]
  | @bare _ side _ _ name phrase =>
      obtain ⟨word, others, rfl, rfl, written⟩ := List.map_eq_cons_iff.1 texts
      refine ⟨⟨.host side, word, others ++ rest⟩, ?_, read_append phrase written ends⟩
      simp [endpoint?, Side.name_iff.1 name, next?_endpoint_of_host phrase written rest]

end Recognised

namespace Keywords

def starts : List String :=
  ["vers", "version", "hl", "ihl", "id", "tos", "dscp", "ecn", "ttl", "len", "proto", "ce", "frag",
   "unfrag", "host", "net", "port", "src", "dst", "-", "true", "false"]

end Keywords

namespace Qualifier

theorem ofName?_protocol {name : String} {number : Nat}
    (named : Protocol.Name name number) : ofName? name = some (ofProtocol number) := by
  have found := Protocol.name_iff.1 named
  have ip : Protocol.ofName? "ip" = none := by decide +kernel
  have ip6 : Protocol.ofName? "ip6" = none := by decide +kernel
  unfold ofName?
  split
  · exact absurd (ip.symm.trans found) (Option.some_ne_none number).symm
  · exact absurd (ip6.symm.trans found) (Option.some_ne_none number).symm
  · rw [found]
    rfl

theorem ofName?_eq_some {name : String} {qualifier : Qualifier}
    (found : ofName? name = some qualifier) :
    name = "ip" ∧ qualifier = ⟨.numeric .version 4, Keywords.ip⟩ ∨
      name = "ip6" ∧ qualifier = ⟨.numeric .version 6, Keywords.ip6⟩ ∨
        ∃ number, Protocol.Name name number ∧ qualifier = ofProtocol number := by
  unfold ofName? at found
  split at found
  · exact .inl ⟨rfl, (Option.some.inj found).symm⟩
  · exact .inr (.inl ⟨rfl, (Option.some.inj found).symm⟩)
  · obtain ⟨number, protocol, same⟩ := Option.map_eq_some_iff.1 found
    exact .inr (.inr ⟨number, Protocol.name_iff.2 protocol, same.symm⟩)

theorem ofName?_of_name {form : Form} {name : String} {predicate : Predicate}
    (named : Name form name predicate) :
    ∃ keywords, ofName? name = some ⟨predicate, keywords⟩ ∧
      ∀ words, Phrase.Ends words → (form = .ip → Keywords.ip.next? words = none) →
        keywords.next? words = none := by
  cases named with
  | ip => exact ⟨Keywords.ip, rfl, fun words _ absent => absent rfl⟩
  | ip6 => exact ⟨Keywords.ip6, rfl, fun words ends _ => ends.next?_ip6⟩
  | @protocol _ number found =>
      refine ⟨_, ofName?_protocol found, fun words ends _ => ?_⟩
      by_cases tcp : number = Protocol.tcp
      · rw [if_pos tcp]
        exact ends.next?_tcp
      · rw [if_neg tcp]
        cases words <;> rfl

theorem name_not_mem {form : Form} {name : String} {predicate : Predicate} {names : List String}
    (named : Name form name predicate) (others : ∀ other ∈ names, ofName? other = none) :
    name ∉ names := by
  intro member
  obtain ⟨keywords, found, _⟩ := ofName?_of_name named
  exact Option.some_ne_none _ (found.symm.trans (others name member))

theorem name_not_starts {form : Form} {name : String} {predicate : Predicate}
    (named : Name form name predicate) : name ∉ Keywords.starts :=
  name_not_mem named (by decide +kernel)

end Qualifier

namespace Recognised

theorem phrase?_eq_none {word : Word} {rest : List Word} (absent : word.text ∉ Keywords.starts) :
    phrase? (word :: rest) = none := by
  have ip : Keywords.ip.lookup word.text = none :=
    Keywords.lookup_eq_none (by decide) absent
  have constant : Keywords.constant.lookup word.text = none :=
    Keywords.lookup_eq_none (by decide) absent
  have endpoint : (Keywords.endpoint .either).lookup word.text = none :=
    Keywords.lookup_eq_none (by decide) absent
  have side : Side.ofName? word.text = none := by
    generalize word.text = text at absent
    cases found : Side.ofName? text with
    | none => rfl
    | some side => cases Side.name_iff.2 found <;> exact absurd (by decide) absent
  simp [phrase?, endpoint?, Keywords.next?, ip, constant, endpoint, side]

def openings : List String := ["host", "net", "port", "src", "dst"]

theorem mem_openings {word : Word} {rest : List Word} {recognised : Recognised}
    (found : endpoint? (word :: rest) = some recognised) : word.text ∈ openings := by
  unfold endpoint? at found
  dsimp only at found
  split at found
  · rename_i side named
    generalize word.text = text at named
    cases Side.name_iff.2 named <;> decide
  · obtain ⟨same, looked⟩ := Keywords.eq_cons_of_next? found
    obtain ⟨rfl, rfl⟩ := List.cons.inj same
    have keyword := Keywords.endpoint_lookup_iff.1 looked
    generalize recognised.keyword.text = text, recognised.phrase = phrase at keyword
    cases keyword <;> decide

theorem endpoint?_eq_none_iff {word : Word} {rest : List Word} :
    endpoint? (word :: rest) = none ↔ word.text ∉ openings := by
  constructor
  · intro absent member
    have opens : ∀ name ∈ openings,
        (Side.ofName? name).isSome ∨ ((Keywords.endpoint .either).lookup name).isSome := by
      decide
    rcases opens word.text member with side | keyword
    · obtain ⟨side, named⟩ := Option.isSome_iff_exists.1 side
      simp [endpoint?, named] at absent
    · obtain ⟨phrase, looked⟩ := Option.isSome_iff_exists.1 keyword
      cases named : Side.ofName? word.text <;>
        simp [endpoint?, named, Keywords.next?_cons rest looked] at absent
  · intro absent
    cases found : endpoint? (word :: rest) with
    | none => rfl
    | some recognised => exact absurd (mem_openings found) absent

theorem ends_of_endpoint? {words : List Word} {recognised : Recognised}
    (found : endpoint? words = some recognised) : Phrase.Ends words := by
  cases words with
  | nil => contradiction
  | cons word rest =>
      intro first member
      cases member
      have outer : ∀ name ∈ openings, name ∉ Phrase.innerWords := by decide
      exact outer _ (mem_openings found)

theorem next?_ip_of_endpoint? {words : List Word} {recognised : Recognised}
    (found : endpoint? words = some recognised) : Keywords.ip.next? words = none := by
  apply Keywords.next?_eq_none
  intro first member
  cases words with
  | nil => contradiction
  | cons word rest =>
      cases member
      have other : ∀ name ∈ openings, Keywords.ip.lookup name = none := by decide
      exact other _ (mem_openings found)

end Recognised

namespace Keywords.Constant

variable {name : String} {phrase : Phrase} (keyword : Constant name phrase)

include keyword

theorem lookup_ip : Keywords.ip.lookup name = none := by
  cases keyword <;> rfl

theorem not_mem_openings : name ∉ Recognised.openings := by
  cases keyword <;> decide

end Keywords.Constant

namespace Recognised

variable {word : Word} {words : List Word} {phrase : Phrase} {recognised : Recognised}

theorem phrase?_of_ip (keyword : Keywords.Ip word.text phrase) (rest : List Word) :
    phrase? (word :: rest) = some ⟨phrase, word, rest⟩ := by
  rw [phrase?, Keywords.next?_cons rest (Keywords.ip_lookup_iff.2 keyword), Option.some_or]

theorem phrase?_of_endpoint? (found : endpoint? words = some recognised) :
    phrase? words = some recognised := by
  rw [phrase?, next?_ip_of_endpoint? found, found, Option.none_or, Option.some_or]

theorem phrase?_of_constant (keyword : Keywords.Constant word.text phrase) (rest : List Word) :
    phrase? (word :: rest) = some ⟨phrase, word, rest⟩ := by
  have noField : Keywords.ip.next? (word :: rest) = none := by
    simp [Keywords.next?, keyword.lookup_ip]
  have noEndpoint : endpoint? (word :: rest) = none :=
    endpoint?_eq_none_iff.2 keyword.not_mem_openings
  rw [phrase?, noField, noEndpoint, Option.none_or, Option.none_or,
    Keywords.next?_cons rest (Keywords.constant_lookup_iff.2 keyword)]

end Recognised

end PacketFilter
