import PacketFilter.Proofs.Phrase.Recognition

/-!
The reader of primitives reads exactly what the grammar allows. The first word of a primitive, and
for a qualifier the next one, decide which rule applies; a qualifier stands alone only if the words
behind it are no field, address or port that it takes.
-/

namespace PacketFilter

namespace Primitive

open Phrase

/-- The words behind a primitive hold nothing that it takes. -/
def Stops (words : List Word) : Form → Prop
  | .ip => Keywords.ip.next? words = none ∧ Recognised.endpoint? words = none
  | .qualifier => Recognised.endpoint? words = none
  | _ => True

theorem Stops.next?_ip {words : List Word} {form : Form} (stops : Stops words form)
    (ip : form = .ip) : Keywords.ip.next? words = none := by
  subst ip
  exact stops.1

theorem Stops.endpoint? {words : List Word} {form : Form} {name : String} {predicate : Predicate}
    (stops : Stops words form) (named : Qualifier.Name form name predicate) :
    Recognised.endpoint? words = none := by
  cases named with
  | ip => exact stops.2
  | ip6 | protocol => exact stops

theorem ofPhrase_eq_ok {recognised : Recognised} {test : Test} {rest : List Word}
    (read : recognised.read = .ok (test, rest)) :
    ofPhrase recognised = .ok (.single test, rest) := by
  rw [ofPhrase, read]
  rfl

theorem exists_of_ofPhrase {recognised : Recognised} {primitive : Primitive} {rest : List Word}
    (read : ofPhrase recognised = .ok (primitive, rest)) :
    ∃ test front, primitive = .single test ∧ recognised.rest = front ++ rest ∧
      recognised.phrase.Spells (front.map Word.text) test ∧
      recognised.read = .ok (test, rest) := by
  obtain ⟨⟨test, left⟩, found, same⟩ := bind_eq_ok.1 read
  cases same
  obtain ⟨front, split, spelled⟩ := spelled_of_read found
  exact ⟨test, front, rfl, split, spelled, found⟩

theorem spelled_of_phrase? {words rest : List Word} {recognised : Recognised}
    {primitive : Primitive} (found : Recognised.phrase? words = some recognised)
    (read : ofPhrase recognised = .ok (primitive, rest)) :
    ∃ form front, words = front ++ rest ∧ Spells form primitive (front.map Word.text) ∧
      Stops rest form := by
  obtain ⟨test, front, rfl, split, spelled, read⟩ := exists_of_ofPhrase read
  rcases Option.or_eq_some_iff.1 found with ip | ⟨_, found⟩
  · obtain ⟨rfl, looked⟩ := Keywords.eq_cons_of_next? ip
    refine ⟨.field, recognised.keyword :: front, congrArg (_ :: ·) split, ?_, trivial⟩
    exact .field (Keywords.ip_lookup_iff.1 looked) spelled
  · rcases Option.or_eq_some_iff.1 found with endpoint | ⟨_, constant⟩
    · obtain ⟨front, rfl, spelled⟩ := Recognised.endpoint_spelled endpoint read
      exact ⟨.endpoint, front, rfl, .endpoint spelled, trivial⟩
    · obtain ⟨rfl, looked⟩ := Keywords.eq_cons_of_next? constant
      refine ⟨.closed, recognised.keyword :: front, congrArg (_ :: ·) split, ?_, trivial⟩
      exact .constant (Keywords.constant_lookup_iff.1 looked) spelled

theorem spelled_of_behindQualifier {form : Form} {word : Word} {predicate : Predicate}
    {words rest : List Word} {primitive : Primitive}
    (named : Qualifier.Name form word.text predicate)
    (stops : ∀ left, Recognised.endpoint? left = none → left = words → Stops left form)
    (read : behindQualifier predicate words = .ok (primitive, rest)) :
    ∃ form front, word :: words = front ++ rest ∧
      Spells form primitive (front.map Word.text) ∧ Stops rest form := by
  unfold behindQualifier at read
  dsimp only at read
  split at read
  · rename_i recognised found
    obtain ⟨⟨test, left⟩, phrase, same⟩ := bind_eq_ok.1 read
    cases same
    obtain ⟨front, rfl, spelled⟩ := Recognised.endpoint_spelled found phrase
    rw [Test.bind_eq_asking]
    exact ⟨.closed, word :: front, rfl, .qualified named spelled, trivial⟩
  · rename_i absent
    cases read
    rw [Test.bind_eq_asking]
    exact ⟨form, [word], rfl, .qualifier named, stops words absent rfl⟩

theorem spelled_of_field {keywords : Keywords} {word : Word} {words rest : List Word}
    {recognised : Recognised} {primitive : Primitive}
    (rule : ∀ {keyword phrase written test}, keywords.lookup keyword = some phrase →
      phrase.Spells written test → Spells .closed (.single test) (word.text :: keyword :: written))
    (found : keywords.next? words = some recognised)
    (read : ofPhrase recognised = .ok (primitive, rest)) :
    ∃ form front, word :: words = front ++ rest ∧
      Spells form primitive (front.map Word.text) ∧ Stops rest form := by
  obtain ⟨test, front, rfl, split, spelled, _⟩ := exists_of_ofPhrase read
  obtain ⟨rfl, looked⟩ := Keywords.eq_cons_of_next? found
  refine ⟨.closed, word :: recognised.keyword :: front, ?_, rule looked spelled, trivial⟩
  exact congrArg (word :: recognised.keyword :: ·) split

/-- What was read as a primitive is spelled by the words in front of what is left. -/
theorem spelled_of_read {word : Word} {words rest : List Word} {primitive : Primitive}
    (found : read word words = .ok (primitive, rest)) :
    ∃ form front, word :: words = front ++ rest ∧
      Spells form primitive (front.map Word.text) ∧ Stops rest form := by
  unfold read at found
  split at found
  · rename_i recognised recognition
    exact spelled_of_phrase? recognition found
  · split at found
    · rename_i qualifier named
      rcases Qualifier.ofName?_eq_some named with
        ⟨text, rfl⟩ | ⟨text, rfl⟩ | ⟨number, protocol, rfl⟩
      · split at found
        · rename_i recognised next
          refine spelled_of_field (fun looked spelled => ?_) next found
          rw [text]
          exact .ipField (Keywords.ip_lookup_iff.1 looked) spelled
        · rename_i absent
          have name : Qualifier.Name .ip word.text (.numeric .version 4) := by
            rw [text]
            exact .ip
          refine spelled_of_behindQualifier name (fun left stops same => ?_) found
          exact ⟨same ▸ absent, stops⟩
      · split at found
        · rename_i recognised next
          refine spelled_of_field (fun looked spelled => ?_) next found
          rw [text]
          exact .ip6Field (Keywords.ip6_lookup_iff.1 looked) spelled
        · have name : Qualifier.Name .qualifier word.text (.numeric .version 6) := by
            rw [text]
            exact .ip6
          exact spelled_of_behindQualifier name (fun left stops _ => stops) found
      · split at found
        · rename_i recognised next
          by_cases tcp : number = Protocol.tcp
          · subst tcp
            refine spelled_of_field (fun looked spelled => ?_) next found
            exact .tcpField protocol (Keywords.tcp_lookup_iff.1 looked) spelled
          · obtain ⟨_, looked⟩ := Keywords.eq_cons_of_next? next
            simp [Qualifier.ofProtocol, tcp] at looked
        · exact spelled_of_behindQualifier (.protocol protocol) (fun left stops _ => stops) found
    · contradiction

theorem read_eq_ofPhrase {word : Word} {words : List Word} {recognised : Recognised}
    (found : Recognised.phrase? (word :: words) = some recognised) :
    read word words = ofPhrase recognised := by
  rw [read, found]

/-- A qualifier in front of one of its fields. -/
theorem read_field {name word : Word} {predicate : Predicate} {keywords : Keywords}
    {phrase : Phrase} (absent : name.text ∉ Keywords.starts)
    (named : Qualifier.ofName? name.text = some ⟨predicate, keywords⟩)
    (looked : keywords.lookup word.text = some phrase) (rest : List Word) :
    read name (word :: rest) = ofPhrase ⟨phrase, word, rest⟩ := by
  simp only [read, Recognised.phrase?_eq_none absent, named, Keywords.next?_cons rest looked]

theorem read_append_field {name keyword : String} {predicate : Predicate} {keywords : Keywords}
    {phrase : Phrase} {spelled : List String} {test : Test} {words rest : List Word}
    (absent : name ∉ Keywords.starts)
    (named : Qualifier.ofName? name = some ⟨predicate, keywords⟩)
    (looked : keywords.lookup keyword = some phrase) (spells : phrase.Spells spelled test)
    (texts : words.map Word.text = name :: keyword :: spelled) (ends : Ends rest) :
    ∃ word others, words = word :: others ∧
      read word (others ++ rest) = .ok (.single test, rest) := by
  obtain ⟨word, others, rfl, rfl, behind⟩ := List.map_eq_cons_iff.1 texts
  obtain ⟨inner, others, rfl, rfl, written⟩ := List.map_eq_cons_iff.1 behind
  refine ⟨word, inner :: others, rfl, ?_⟩
  rw [List.cons_append, read_field absent named looked]
  exact ofPhrase_eq_ok (Phrase.read_append spells written ends)

theorem read_eq_behindQualifier {form : Form} {word : Word} {words : List Word}
    {predicate : Predicate} (named : Qualifier.Name form word.text predicate) (ends : Ends words)
    (noField : form = .ip → Keywords.ip.next? words = none) :
    read word words = behindQualifier predicate words := by
  obtain ⟨keywords, found, next⟩ := Qualifier.ofName?_of_name named
  simp only [read, Recognised.phrase?_eq_none (Qualifier.name_not_starts named), found,
    next words ends noField]

/-- The words of a primitive are read as it. -/
theorem read_append {form : Form} {primitive : Primitive} {spelled : List String}
    {words rest : List Word} (spells : Spells form primitive spelled)
    (texts : words.map Word.text = spelled) (ends : Ends rest) (stops : Stops rest form) :
    ∃ word others, words = word :: others ∧
      read word (others ++ rest) = .ok (primitive, rest) := by
  cases spells with
  | field keyword phrase =>
      obtain ⟨word, others, rfl, rfl, written⟩ := List.map_eq_cons_iff.1 texts
      refine ⟨word, others, rfl, ?_⟩
      rw [read_eq_ofPhrase (Recognised.phrase?_of_ip keyword _)]
      exact ofPhrase_eq_ok (Phrase.read_append phrase written ends)
  | ipField keyword phrase =>
      have looked := Keywords.ip_lookup_iff.2 keyword
      exact read_append_field (by decide) rfl looked phrase texts ends
  | ip6Field keyword phrase =>
      have looked := Keywords.ip6_lookup_iff.2 keyword
      exact read_append_field (by decide) rfl looked phrase texts ends
  | tcpField name keyword phrase =>
      have looked := Keywords.tcp_lookup_iff.2 keyword
      have absent := Qualifier.name_not_starts (.protocol name)
      exact read_append_field absent (Qualifier.ofName?_protocol name) looked phrase texts ends
  | constant keyword phrase =>
      obtain ⟨word, others, rfl, rfl, written⟩ := List.map_eq_cons_iff.1 texts
      refine ⟨word, others, rfl, ?_⟩
      rw [read_eq_ofPhrase (Recognised.phrase?_of_constant keyword _)]
      exact ofPhrase_eq_ok (Phrase.read_append phrase written ends)
  | endpoint written =>
      obtain ⟨recognised, found, phrase⟩ := Recognised.endpoint_append written texts ends
      cases words with
      | nil => exact absurd texts.symm written.ne_nil
      | cons word others =>
          refine ⟨word, others, rfl, ?_⟩
          rw [List.cons_append] at found
          rw [read_eq_ofPhrase (Recognised.phrase?_of_endpoint? found)]
          exact ofPhrase_eq_ok phrase
  | qualifier name =>
      obtain ⟨word, rfl, rfl⟩ := List.map_eq_singleton_iff.1 texts
      refine ⟨word, [], rfl, ?_⟩
      rw [List.nil_append, read_eq_behindQualifier name ends stops.next?_ip]
      simp only [behindQualifier, stops.endpoint? name, Test.bind_eq_asking]
  | qualified name written =>
      obtain ⟨word, others, rfl, rfl, behind⟩ := List.map_eq_cons_iff.1 texts
      obtain ⟨recognised, found, phrase⟩ := Recognised.endpoint_append written behind ends
      have noField := Recognised.next?_ip_of_endpoint? found
      refine ⟨word, others, rfl, ?_⟩
      rw [read_eq_behindQualifier name (Recognised.ends_of_endpoint? found) fun _ => noField]
      simp only [behindQualifier, found, phrase, ok_bind, Test.bind_eq_asking]

end Primitive

end PacketFilter
