import PacketFilter.Predicate.Printer
import PacketFilter.Proofs.Network.Reading
import PacketFilter.Proofs.Phrase.Operand

/-!
The words of a test spell it in the grammar of primitives, provided that the language can express
the test: its operand is within the limit of its field, and a host is a single address. In turn
everything that the grammar spells can be expressed.
-/

namespace PacketFilter

/-- The language can express the operand of a predicate. -/
def Predicate.Expressible : Predicate → Prop
  | host _ network => network = .single network.address
  | port _ number => number ≤ portLimit
  | numeric field operand => operand ≤ field.limit
  | _ => True

instance : (predicate : Predicate) → Decidable predicate.Expressible
  | .host _ network => inferInstanceAs (Decidable (network = .single network.address))
  | .port _ number => inferInstanceAs (Decidable (number ≤ portLimit))
  | .numeric field operand => inferInstanceAs (Decidable (operand ≤ field.limit))
  | .net _ _ | .congested | .fragment | .unfragmented | .tcpFlag _ | .constant _ => .isTrue trivial

namespace Test

def Expressible (test : Test) : Prop :=
  test.predicate.Expressible

instance (test : Test) : Decidable test.Expressible :=
  inferInstanceAs (Decidable test.predicate.Expressible)

def affirmed (test : Test) : Test :=
  ⟨test.predicate, test.comparison, false, test.isSome_comparison⟩

end Test

open Operand

theorem Comparison.spells_words (comparison : Comparison) :
    ∃ written, Spells (words (some comparison)) written ∧
      written.getD .default = comparison := by
  cases comparison with
  | eq => exact ⟨none, .absent, rfl⟩
  | ne => exact ⟨_, .written .ne, rfl⟩
  | gt => exact ⟨_, .written .gt, rfl⟩
  | ge => exact ⟨_, .written .ge, rfl⟩
  | lt => exact ⟨_, .written .lt, rfl⟩
  | le => exact ⟨_, .written .le, rfl⟩

theorem isNumber_decimal {limit number : Nat} (small : limit < numberBound)
    (within : number ≤ limit) : IsNumber limit (Text.decimal number) number :=
  ⟨(numeral_eq_ok_iff.1 (numeral_decimal (Nat.lt_of_le_of_lt within small))).1, within⟩

theorem TcpFlag.named (flag : TcpFlag) : Name flag.name flag := by
  rw [TcpFlag.name_iff]
  cases flag <;> decide +kernel

theorem Side.spellsEndpoint {side : Side} {keyword : String} {phrase : Phrase}
    {written : List String} {test : Test} (endpoint : Keywords.Endpoint side keyword phrase)
    (spells : phrase.Spells written test) :
    SpellsEndpoint (side.words ++ keyword :: written) test := by
  cases side with
  | either => exact .either endpoint spells
  | source => exact .sided .src endpoint spells
  | destination => exact .sided .dst endpoint spells

namespace Field

theorem spells (field : Field) {before : List String} {written : Option Comparison}
    {operand : String} {value : Nat} (compared : Comparison.Spells before written)
    (number : IsNumber field.limit operand value) :
    Primitive.Spells .closed (.single (.asking (.numeric field value) written))
      (field.words ++ before ++ [operand]) := by
  cases field with
  | version => exact .ipField .vers (.number compared number)
  | headerLength => exact .ipField .hl (.number compared number)
  | identification => exact .ipField .id (.number compared number)
  | trafficClass => exact .ipField .tos (.number compared number)
  | codePoint => exact .ipField .dscp (.number compared number)
  | congestion => exact .ipField .ecn (.number compared number)
  | timeToLive => exact .ipField .ttl (.number compared number)
  | length => exact .ipField .len (.number compared number)
  | protocol => exact .ipField .proto (.protocol compared (.number number))
  | flowLabel => exact .ip6Field .flow (.number compared number)
  | payloadLength => exact .ip6Field .plen (.number compared number)
  | hopLimit => exact .ip6Field .hlim (.number compared number)
  | nextHeader => exact .ip6Field .nxt (.protocol compared (.number number))
  | window => exact .tcpField (.tcp (by decide +kernel)) .win (.number compared number)

end Field

namespace Test

theorem asking_eq_affirmed (test : Test) (flag : test.predicate.isFlag = true) :
    asking test.predicate none = test.affirmed := by
  have compared := test.isSome_comparison
  rw [flag] at compared
  have none : test.comparison = none := by simpa using compared
  rw [← bind_eq_asking]
  simp [bind, affirmed, comparisonFor, flag, none]

/-- The words of a comparison ask a predicate that needs one. -/
theorem spells_comparison (test : Test) (compares : test.predicate.isFlag = false) :
    ∃ written, Comparison.Spells (Comparison.words test.comparison) written ∧
      asking test.predicate written = test.affirmed := by
  have compared := test.isSome_comparison
  rw [compares] at compared
  obtain ⟨comparison, some⟩ := Option.isSome_iff_exists.1 compared
  obtain ⟨written, spelled, same⟩ := comparison.spells_words
  refine ⟨written, some ▸ spelled, ?_⟩
  rw [← bind_eq_asking]
  simp [bind, affirmed, comparisonFor, compares, same, some]

/-- The words of a test without its negation spell the test without its negation. -/
theorem spells (test : Test) (expressible : test.Expressible) :
    ∃ form, (form = .closed ∨ form = .endpoint) ∧
      Primitive.Spells form (.single test.affirmed)
        (test.predicate.words (Comparison.words test.comparison)) := by
  have flagged := test.asking_eq_affirmed
  have compared := test.spells_comparison
  unfold Expressible at expressible
  cases predicate : test.predicate with
  | host side network =>
      rw [predicate] at expressible compared
      obtain ⟨written, spelled, same⟩ := compared rfl
      have address : IsAddress network.address.text network.address := Address.read?_text _
      have spells := side.spellsEndpoint .host (.host spelled address)
      rw [← show network = .single network.address from expressible, same] at spells
      refine ⟨.endpoint, .inr rfl, ?_⟩
      simpa [Predicate.words] using Primitive.Spells.endpoint spells
  | net side network =>
      rw [predicate] at compared
      obtain ⟨written, spelled, same⟩ := compared rfl
      have slashed := SpellsNetwork.slashed network.slash_mem_text network.read?_text
      have spells := side.spellsEndpoint .net (.net spelled slashed)
      rw [same] at spells
      refine ⟨.endpoint, .inr rfl, ?_⟩
      simpa [Predicate.words] using Primitive.Spells.endpoint spells
  | port side number =>
      rw [predicate] at expressible compared
      obtain ⟨written, spelled, same⟩ := compared rfl
      have isNumber := isNumber_decimal (by decide) expressible
      have spells := side.spellsEndpoint .port (.port spelled isNumber)
      rw [same] at spells
      refine ⟨.endpoint, .inr rfl, ?_⟩
      simpa [Predicate.words] using Primitive.Spells.endpoint spells
  | numeric field operand =>
      rw [predicate] at expressible compared
      obtain ⟨written, spelled, same⟩ := compared rfl
      have isNumber := isNumber_decimal field.limit_lt expressible
      exact ⟨.closed, .inl rfl, same ▸ field.spells spelled isNumber⟩
  | congested =>
      rw [predicate] at flagged
      exact ⟨.closed, .inl rfl, flagged rfl ▸ .ipField .ce (.flag .absent)⟩
  | fragment =>
      rw [predicate] at flagged
      exact ⟨.closed, .inl rfl, flagged rfl ▸ .ipField .frag (.flag .absent)⟩
  | unfragmented =>
      rw [predicate] at flagged
      exact ⟨.closed, .inl rfl, flagged rfl ▸ .ipField .unfrag (.flag .absent)⟩
  | tcpFlag flag =>
      rw [predicate] at flagged
      have tcp : Protocol.Name "tcp" Protocol.tcp := .tcp (by decide +kernel)
      have spells : Phrase.tcpFlag.Spells _ _ := .tcpFlag .absent flag.named
      exact ⟨.closed, .inl rfl, flagged rfl ▸ .tcpField tcp .opt spells⟩
  | constant value =>
      rw [predicate] at flagged
      cases value with
      | false => exact ⟨.closed, .inl rfl, flagged rfl ▸ .constant .no (.flag .absent)⟩
      | true => exact ⟨.closed, .inl rfl, flagged rfl ▸ .constant .yes (.flag .absent)⟩

end Test

/-- The tests of a phrase can be expressed, given that this holds of the predicate it names. -/
def Phrase.Bounded : Phrase → Prop
  | .protocol field => field.limit = 255
  | .flag predicate => predicate.Expressible
  | _ => True

namespace Keywords

variable {keyword : String} {phrase : Phrase} {side : Side}

theorem Ip.bounded (found : Ip keyword phrase) : phrase.Bounded := by
  cases found <;> trivial

theorem Ip6.bounded (found : Ip6 keyword phrase) : phrase.Bounded := by
  cases found <;> trivial

theorem Tcp.bounded (found : Tcp keyword phrase) : phrase.Bounded := by
  cases found <;> trivial

theorem Endpoint.bounded (found : Endpoint side keyword phrase) : phrase.Bounded := by
  cases found <;> trivial

theorem Constant.bounded (found : Constant keyword phrase) : phrase.Bounded := by
  cases found <;> trivial

end Keywords

theorem Phrase.Spells.expressible {phrase : Phrase} {written : List String} {test : Test}
    (bounded : phrase.Bounded) (spells : phrase.Spells written test) : test.Expressible := by
  cases spells with
  | number _ number => exact number.2
  | @protocol field _ _ _ _ _ number =>
      cases number with
      | name named => exact Nat.le_trans named.le (Nat.le_of_eq bounded.symm)
      | number number => exact number.2
  | @host _ _ _ _ address => cases address <;> rfl
  | net => trivial
  | port _ number => exact number.2
  | flag => exact bounded
  | tcpFlag => trivial

theorem SpellsEndpoint.expressible {written : List String} {test : Test}
    (spells : SpellsEndpoint written test) : test.Expressible := by
  cases spells with
  | either keyword phrase => exact phrase.expressible keyword.bounded
  | sided _ keyword phrase => exact phrase.expressible keyword.bounded
  | @bare _ side _ _ _ phrase =>
      have bounded : (Phrase.host side).Bounded := trivial
      exact phrase.expressible bounded

theorem Qualifier.Name.expressible {form : Form} {name : String} {predicate : Predicate}
    (named : Name form name predicate) : predicate.Expressible := by
  cases named with
  | ip => decide
  | ip6 => decide
  | protocol named => exact Protocol.Name.le named

def Primitive.Expressible : Primitive → Prop
  | single test => test.Expressible
  | qualified qualifier test => qualifier.Expressible ∧ test.Expressible

/-- Whatever the grammar spells can be expressed. -/
theorem Primitive.Spells.expressible {form : Form} {primitive : Primitive}
    {written : List String} (spells : Spells form primitive written) : primitive.Expressible := by
  cases spells with
  | field keyword phrase | ipField keyword phrase => exact phrase.expressible keyword.bounded
  | ip6Field keyword phrase => exact phrase.expressible keyword.bounded
  | tcpField _ keyword phrase => exact phrase.expressible keyword.bounded
  | constant keyword phrase => exact phrase.expressible keyword.bounded
  | endpoint phrase => exact phrase.expressible
  | qualifier named => exact named.expressible
  | qualified named phrase => exact ⟨named.expressible, phrase.expressible⟩

end PacketFilter
