import PacketFilter.Proofs.Address.Characters
import PacketFilter.Proofs.Network.Masks
import PacketFilter.Proofs.Phrase.Grammar

/-!
The readers of operands read exactly what the grammar allows. Symbols, marks and the keywords of
addresses and ports are never operands, so one word decides which rule applies.
-/

namespace PacketFilter

theorem Comparison.symbol_iff {symbol : String} {comparison : Comparison} :
    Symbol symbol comparison ↔ ofSymbol? symbol = some comparison := by
  constructor
  · intro written
    cases written <;> rfl
  · intro found
    unfold ofSymbol? at found
    split at found
    all_goals first
      | contradiction
      | cases found; constructor

theorem Test.bind_eq_asking (predicate : Predicate) (written : Option Comparison) :
    bind predicate written false = asking predicate written := by
  cases predicate <;> rfl

theorem TcpFlag.name_iff {written : String} {flag : TcpFlag} :
    Name written flag ↔ ofName? written = some flag := by
  constructor
  · intro named
    cases named with
    | fin lower | syn lower | rst lower | psh lower | ack lower | urg lower | ece lower
    | cwr lower =>
        rw [ofName?, lower]
        decide
  · intro found
    have lower := List.find?_some found
    rw [beq_iff_eq] at lower
    cases flag <;> constructor <;> exact lower.symm

/-- Every entry of the table is a rule. -/
theorem Protocol.name_of_mem {written : String} :
    ∀ entry ∈ table, written.map Char.toLower = entry.1 → Name written entry.2 := by
  simp only [table, List.forall_mem_cons]
  exact ⟨.icmp, .igmp, .tcp, .udp, .dccp, .gre, .esp, .ah, .icmp6, .icmpv6, .ospf, .pim, .vrrp,
    .sctp, .udplite, nofun⟩

theorem Protocol.name_iff {written : String} {number : Nat} :
    Name written number ↔ ofName? written = some number := by
  constructor
  · intro named
    cases named with
    | icmp lower | igmp lower | tcp lower | udp lower | dccp lower | gre lower | esp lower
    | ah lower | icmp6 lower | icmpv6 lower | ospf lower | pim lower | vrrp lower | sctp lower
    | udplite lower =>
        rw [ofName?, lower]
        decide
  · intro found
    obtain ⟨before, behind, split, _⟩ := List.lookup_eq_some_iff.1 found
    have member : (written.map Char.toLower, number) ∈ table := by simp [split]
    exact name_of_mem _ member rfl

theorem Field.limit_lt (field : Field) : field.limit < Operand.numberBound := by
  cases field <;> decide

theorem portLimit_lt : portLimit < Operand.numberBound := by
  decide

theorem Protocol.Name.le {written : String} {number : Nat} (named : Name written number) :
    number ≤ 255 := by
  cases named <;> decide

namespace Operand

/-- The words with another meaning in front of an operand or in its place. -/
def refused : List String :=
  ["==", "=", "!=", ">", ">=", "<", "<=", "and", "&&", "or", "||", "not", "!", "(", ")", "host",
   "net", "port"]

theorem address_refused : ∀ written ∈ refused, Address.read? written.toList = none := by
  decide

theorem start_refused : ∀ written ∈ refused,
    (Text.numeralStarts.all fun c => written.toList.head? != some c) = true := by
  decide

theorem network_refused : ∀ written ∈ refused, Network.read? written.toList = none := by
  decide

theorem flag_refused : ∀ written ∈ refused, TcpFlag.ofName? written = none := by
  decide +kernel

theorem protocol_refused : ∀ written ∈ refused, Protocol.ofName? written = none := by
  decide +kernel

variable {chars : List Char}

theorem WritesNumber.exists_head {value : Nat} (written : WritesNumber chars value) :
    ∃ c ∈ Text.numeralStarts, chars.head? = some c := by
  cases written with
  | decimal numeral => exact numeral.exists_head
  | hexadecimal _ => exact ⟨'0', by decide, rfl⟩

theorem writesNumber_hexadecimal_iff {value : Nat} :
    WritesNumber ('0' :: 'x' :: chars) value ↔ Text.Numeral 16 chars value := by
  constructor
  · intro written
    cases written with
    | decimal numeral =>
        cases numeral with
        | digits _ digits =>
            obtain ⟨_, _, _, behind, _⟩ := List.forall₂_cons_left_iff.1 digits
            obtain ⟨_, _, letter, _⟩ := List.forall₂_cons_left_iff.1 behind
            exact absurd letter (Text.not_writesDigit (by decide) (by decide) _)
    | hexadecimal numeral => exact numeral
  · exact .hexadecimal

/-- A text is read as a number exactly if it writes the number and 32 bits hold it. -/
theorem numeral_eq_ok_iff {value : Nat} :
    numeral chars = .ok value ↔ WritesNumber chars value ∧ value < numberBound := by
  have positive : 0 < numberBound := by decide
  unfold numeral
  split
  · rw [Text.readNumeral_eq_ok_iff (by decide) (by decide) positive, writesNumber_hexadecimal_iff]
  · rename_i other
    rw [Text.readNumeral_eq_ok_iff (by decide) (by decide) positive]
    refine and_congr_left fun _ => ⟨.decimal, ?_⟩
    intro written
    cases written with
    | decimal numeral => exact numeral
    | hexadecimal numeral => exact absurd rfl (other _)

theorem IsAddress.not_refused {written : String} {address : Address}
    (read : IsAddress written address) : written ∉ refused := by
  intro member
  have none := address_refused written member
  exact Option.some_ne_none _ (read.symm.trans none)

theorem IsNumber.not_refused {limit value : Nat} {written : String}
    (read : IsNumber limit written value) : written ∉ refused := by
  intro member
  obtain ⟨c, start, head⟩ := read.1.exists_head
  have other := List.all_eq_true.1 (start_refused written member) c start
  simp [head] at other

theorem flag_not_refused {written : String} {flag : TcpFlag} (named : TcpFlag.Name written flag) :
    written ∉ refused := by
  intro member
  have none := flag_refused written member
  exact Option.some_ne_none _ ((TcpFlag.name_iff.1 named).symm.trans none)

theorem IsProtocol.not_refused {limit value : Nat} {written : String}
    (read : IsProtocol limit written value) : written ∉ refused := by
  cases read with
  | number read => exact read.not_refused
  | name named =>
      intro member
      have none := protocol_refused written member
      exact Option.some_ne_none _ ((Protocol.name_iff.1 named).symm.trans none)

theorem ofSymbol?_of_not_refused {written : String} (accepted : written ∉ refused) :
    Comparison.ofSymbol? written = none := by
  cases found : Comparison.ofSymbol? written with
  | none => rfl
  | some comparison =>
      cases Comparison.symbol_iff.2 found <;> exact absurd (by decide) accepted

theorem mark_of_not_refused {written : String} (accepted : written ∉ refused) :
    Mark.ofText? written = none := by
  unfold Mark.ofText?
  split <;> first | rfl | exact absurd (by decide) accepted

theorem lookup_endpoint_of_not_refused {written : String} (accepted : written ∉ refused)
    (side : Side) : (Keywords.endpoint side).lookup written = none := by
  rw [List.lookup_eq_none_iff]
  intro entry member
  rw [bne_iff_ne]
  rintro rfl
  simp only [Keywords.endpoint, List.mem_cons, List.not_mem_nil, or_false] at member
  rcases member with rfl | rfl | rfl <;> exact accepted (by simp [refused])

def NoSymbol (words : List Word) : Prop :=
  ∀ word ∈ words.head?, Comparison.ofSymbol? word.text = none

theorem noSymbol_cons {word : Word} {words : List Word} (accepted : word.text ∉ refused) :
    NoSymbol (word :: words) := by
  intro first member
  cases member
  exact ofSymbol?_of_not_refused accepted

theorem comparison_of_noSymbol {words : List Word} (noSymbol : NoSymbol words) :
    comparison words = (none, words) := by
  cases words with
  | nil => rfl
  | cons word rest => simp [comparison, noSymbol word rfl]

theorem comparison_append {words rest : List Word} {before : List String}
    {written : Option Comparison} (spelled : Comparison.Spells before written)
    (texts : words.map Word.text = before) (noSymbol : NoSymbol rest) :
    comparison (words ++ rest) = (written, rest) := by
  cases spelled with
  | absent =>
      obtain rfl := List.map_eq_nil_iff.1 texts
      exact comparison_of_noSymbol noSymbol
  | written symbol =>
      obtain ⟨word, rfl, rfl⟩ := List.map_eq_singleton_iff.1 texts
      simp [comparison, Comparison.symbol_iff.1 symbol]

theorem comparison_spelled (words : List Word) :
    ∃ front written rest, comparison words = (written, rest) ∧ words = front ++ rest ∧
      Comparison.Spells (front.map Word.text) written := by
  cases words with
  | nil => exact ⟨[], none, [], rfl, rfl, .absent⟩
  | cons word rest =>
      unfold comparison
      dsimp only
      split
      · rename_i written found
        exact ⟨[word], _, _, rfl, rfl, .written (Comparison.symbol_iff.2 found)⟩
      · exact ⟨[], _, _, rfl, rfl, .absent⟩

theorem equality_append {keyword : Word} {words rest : List Word} {before : List String}
    (spelled : Comparison.Equality before) (texts : words.map Word.text = before)
    (noSymbol : NoSymbol rest) : equality keyword (words ++ rest) = .ok rest := by
  cases spelled with
  | absent =>
      obtain rfl := List.map_eq_nil_iff.1 texts
      cases rest with
      | nil => rfl
      | cons word rest => simp [equality, noSymbol word rfl]
  | written symbol =>
      obtain ⟨word, rfl, rfl⟩ := List.map_eq_singleton_iff.1 texts
      simp [equality, Comparison.symbol_iff.1 symbol]

theorem equality_spelled {keyword : Word} {words rest : List Word}
    (read : equality keyword words = .ok rest) :
    ∃ front, words = front ++ rest ∧ Comparison.Equality (front.map Word.text) := by
  unfold equality at read
  split at read
  · cases read
    exact ⟨[], rfl, .absent⟩
  · rename_i word behind
    split at read
    · rename_i found
      cases read
      exact ⟨[word], rfl, .written (Comparison.symbol_iff.2 found)⟩
    · contradiction
    · cases read
      exact ⟨[], rfl, .absent⟩

theorem take_eq_ok {keyword word : Word} {expected : String} {rest : List Word}
    (accepted : word.text ∉ refused) : take keyword expected (word :: rest) = .ok (word, rest) := by
  simp [take, mark_of_not_refused accepted]

theorem eq_cons_of_take {keyword word : Word} {expected : String} {words rest : List Word}
    (read : take keyword expected words = .ok (word, rest)) : words = word :: rest := by
  unfold take at read
  split at read
  · contradiction
  · split at read
    · contradiction
    · cases read
      rfl

theorem number_eq_ok_iff {limit value : Nat} (small : limit < numberBound) {word : Word} :
    number limit word = .ok value ↔ IsNumber limit word.text value := by
  -- The bound of the reader is no obstacle to a number within the limit.
  have read (within : value ≤ limit) :
      numeral word.text.toList = .ok value ↔ WritesNumber word.text.toList value := by
    rw [numeral_eq_ok_iff, and_iff_left (Nat.lt_of_le_of_lt within small)]
  rw [IsNumber, ← and_congr_left read]
  unfold number
  dsimp only
  split
  · rename_i fault failed
    simp [failed]
  · rename_i found readFound
    rw [readFound]
    split
    · simp only [reduceCtorEq, Except.ok.injEq, false_iff, not_and]
      omega
    · simp only [Except.ok.injEq]
      omega

theorem address_eq_ok_iff {word : Word} {found : Address} :
    address word = .ok found ↔ IsAddress word.text found := by
  unfold address IsAddress
  cases Address.read? word.text.toList <;> simp

theorem flagName_eq_ok_iff {word : Word} {flag : TcpFlag} :
    flagName word = .ok flag ↔ TcpFlag.Name word.text flag := by
  rw [TcpFlag.name_iff]
  unfold flagName
  cases TcpFlag.ofName? word.text <;> simp

theorem slashed_eq_ok_iff {word : Word} {found : Network} :
    slashed word = .ok found ↔ Network.read? word.text.toList = some found := by
  unfold slashed
  cases Network.read? word.text.toList <;> simp

theorem start_table : ∀ entry ∈ Protocol.table,
    (Text.numeralStarts.all fun c => entry.1.toList.head? != some c.toLower) = true := by
  decide

/-- The names of protocols start with letters, so no number is the name of a protocol. -/
theorem IsNumber.ofName?_eq_none {limit value : Nat} {written : String}
    (read : IsNumber limit written value) : Protocol.ofName? written = none := by
  obtain ⟨c, start, head⟩ := read.1.exists_head
  rw [Protocol.ofName?, List.lookup_eq_none_iff]
  intro entry member
  rw [bne_iff_ne]
  intro same
  have other := List.all_eq_true.1 (start_table entry member) c start
  rw [← same, String.toList_map, List.head?_map, head] at other
  simp at other

theorem protocolNumber_eq_ok_iff {limit value : Nat} (small : limit < numberBound) {word : Word} :
    protocolNumber limit word = .ok value ↔ IsProtocol limit word.text value := by
  unfold protocolNumber
  constructor
  · intro read
    split at read
    · rename_i named
      cases read
      exact .name (Protocol.name_iff.2 named)
    · exact .number ((number_eq_ok_iff small).1 read)
  · intro isProtocol
    cases isProtocol with
    | name named => simp [Protocol.name_iff.1 named]
    | number isNumber =>
        rw [isNumber.ofName?_eq_none]
        exact (number_eq_ok_iff small).2 isNumber

theorem stored_of_lt {width value : Nat} (fits : value < 2 ^ width) :
    stored width value = value := by
  rw [stored, BitVec.toNat_ofNat, Nat.mod_eq_of_lt fits]

theorem IsNumber.stored_port {written : String} {value : Nat}
    (read : IsNumber portLimit written value) : stored portWidth value = value :=
  stored_of_lt (Nat.lt_of_le_of_lt read.2 (by decide))

theorem IsNumber.stored_field {field : Field} {written : String} {value : Nat}
    (read : IsNumber field.limit written value) : stored field.width value = value := by
  have fits : field.limit < 2 ^ field.width := by cases field <;> decide
  exact stored_of_lt (Nat.lt_of_le_of_lt read.2 fits)

theorem IsProtocol.stored_field {field : Field} {written : String} {value : Nat}
    (read : IsProtocol field.limit written value) : stored field.width value = value := by
  cases read with
  | number read => exact read.stored_field
  | name named =>
      have fits : 255 < 2 ^ field.width := by cases field <;> decide
      exact stored_of_lt (Nat.lt_of_le_of_lt named.le fits)

theorem IsAddress.no_slash {written : String} {found : Address} (read : IsAddress written found) :
    '/' ∉ written.toList := by
  intro member
  have allowed := Address.isAddressChar_of_read? read '/' member
  exact absurd allowed (by decide)

theorem slashed_not_refused {written : String} {found : Network}
    (read : Network.read? written.toList = some found) : written ∉ refused := by
  intro member
  exact Option.some_ne_none _ (read.symm.trans (network_refused written member))

theorem SpellsNetwork.noSymbol {spelled : List String} {found : Network} {words : List Word}
    (network : SpellsNetwork spelled found) (texts : words.map Word.text = spelled)
    (rest : List Word) : NoSymbol (words ++ rest) := by
  cases network with
  | slashed slash read =>
      obtain ⟨word, rfl, rfl⟩ := List.map_eq_singleton_iff.1 texts
      exact noSymbol_cons (slashed_not_refused read)
  | masked read =>
      obtain ⟨word, others, rfl, rfl, behind⟩ := List.map_eq_cons_iff.1 texts
      exact noSymbol_cons read.not_refused
  | single read =>
      obtain ⟨word, rfl, rfl⟩ := List.map_eq_singleton_iff.1 texts
      exact noSymbol_cons read.not_refused

def NoMask (words : List Word) : Prop :=
  ∀ word ∈ words.head?, word.text ≠ "mask"

theorem network_append {keyword : Word} {words rest : List Word} {spelled : List String}
    {found : Network} (network : SpellsNetwork spelled found)
    (texts : words.map Word.text = spelled) (noMask : NoMask rest) :
    Operand.network keyword (words ++ rest) = .ok (found, rest) := by
  cases network with
  | slashed slash read =>
      obtain ⟨word, rfl, rfl⟩ := List.map_eq_singleton_iff.1 texts
      rw [Operand.network, List.singleton_append, take_eq_ok (slashed_not_refused read), ok_bind]
      simp [slash, slashed_eq_ok_iff.2 read]
  | masked read mask block =>
      obtain ⟨word, others, rfl, rfl, behind⟩ := List.map_eq_cons_iff.1 texts
      obtain ⟨next, others, rfl, named, behind⟩ := List.map_eq_cons_iff.1 behind
      obtain ⟨maskWord, rfl, rfl⟩ := List.map_eq_singleton_iff.1 behind
      rw [Operand.network, List.cons_append, take_eq_ok read.not_refused, ok_bind]
      simp [read.no_slash, address_eq_ok_iff.2 read, maskBehind, named,
        take_eq_ok mask.not_refused, masked, address_eq_ok_iff.2 mask,
        Block.ofCountedMask?_eq_ofMask?, block]
  | single read =>
      obtain ⟨word, rfl, rfl⟩ := List.map_eq_singleton_iff.1 texts
      rw [Operand.network, List.singleton_append, take_eq_ok read.not_refused, ok_bind]
      cases rest with
      | nil => simp [read.no_slash, address_eq_ok_iff.2 read, maskBehind]
      | cons next behind =>
          simp [read.no_slash, address_eq_ok_iff.2 read, maskBehind, noMask next rfl]

theorem masked_eq_ok {written : Address} {word : Word} {found : Network}
    (read : masked written word = .ok found) :
    ∃ bits mask block, written = .v4 bits ∧ IsAddress word.text (.v4 mask) ∧
      Block.ofMask? bits mask = some block ∧ found = .v4 block := by
  obtain ⟨mask, address, matched⟩ := bind_eq_ok.1 read
  cases written with
  | v6 bits => contradiction
  | v4 bits =>
      cases mask with
      | v6 maskBits => contradiction
      | v4 maskBits =>
          dsimp only at matched
          rw [Block.ofCountedMask?_eq_ofMask?] at matched
          split at matched
          · rename_i block contiguous
            cases matched
            exact ⟨bits, maskBits, block, rfl, address_eq_ok_iff.1 address, contiguous, rfl⟩
          · contradiction

theorem maskBehind_spelled {word : Word} {written : Address} {words rest : List Word}
    {found : Network} (address : IsAddress word.text written)
    (read : maskBehind written words = .ok (found, rest)) :
    ∃ front, words = front ++ rest ∧
      SpellsNetwork (word.text :: front.map Word.text) found := by
  unfold maskBehind at read
  split at read
  · cases read
    exact ⟨[], rfl, .single address⟩
  · rename_i next behind
    split at read
    · rename_i named
      obtain ⟨⟨mask, left⟩, taken, matched⟩ := bind_eq_ok.1 read
      obtain ⟨network, masked, same⟩ := bind_eq_ok.1 matched
      obtain ⟨bits, maskBits, block, rfl, maskAddress, contiguous, rfl⟩ := masked_eq_ok masked
      cases same
      refine ⟨[next, mask], congrArg (next :: ·) (eq_cons_of_take taken), ?_⟩
      simpa [named] using SpellsNetwork.masked address maskAddress contiguous
    · cases read
      exact ⟨[], rfl, .single address⟩

theorem network_spelled {keyword : Word} {words rest : List Word} {found : Network}
    (read : Operand.network keyword words = .ok (found, rest)) :
    ∃ front, words = front ++ rest ∧ SpellsNetwork (front.map Word.text) found := by
  obtain ⟨⟨word, left⟩, taken, parsed⟩ := bind_eq_ok.1 read
  rw [eq_cons_of_take taken]
  dsimp only at parsed
  split at parsed
  · rename_i slash
    obtain ⟨network, readSlashed, same⟩ := bind_eq_ok.1 parsed
    cases same
    rw [List.contains_iff_mem] at slash
    exact ⟨[word], rfl, .slashed slash (slashed_eq_ok_iff.1 readSlashed)⟩
  · obtain ⟨written, address, masked⟩ := bind_eq_ok.1 parsed
    obtain ⟨front, rfl, spelled⟩ := maskBehind_spelled (address_eq_ok_iff.1 address) masked
    exact ⟨word :: front, rfl, spelled⟩

end Operand

end PacketFilter
