import PacketFilter.Proofs.Network.Spellings
import PacketFilter.Proofs.Token.Openings

/-!
Expressions that compare addresses with a network. A network may be written with the length of its
prefix, with a mask behind a slash or behind the word `mask`, and for a single address without
either; whatever stands in front, the spellings of a network are lexed to the same tokens, and a
mask of another kind is refused in all of them.
-/

namespace PacketFilter

namespace Operand

variable {word next mask : Word} {address : Address}

theorem mark_of_slash {written : String} (slash : '/' ∈ written.toList) :
    Mark.ofText? written = none := by
  apply Mark.ofText?_eq_none
  have other : ∀ spelling ∈ Mark.spellings, '/' ∉ spelling.toList := by decide
  exact fun member => other written member slash

theorem ofSymbol?_of_slash {written : String} (slash : '/' ∈ written.toList) :
    Comparison.ofSymbol? written = none := by
  cases found : Comparison.ofSymbol? written with
  | none => rfl
  | some comparison =>
      cases Comparison.symbol_iff.2 found <;> exact absurd slash (by decide)

theorem network_refuses_slashed (keyword : Word) (slash : '/' ∈ word.text.toList)
    (unread : Network.read? word.text.toList = none) :
    ∃ error, network keyword [word] = .error error ∧ error.Refuses word := by
  cases failed : slashed word with
  | ok found => simp [slashed_eq_ok_iff.1 failed] at unread
  | error error =>
      refine ⟨error, ?_, slashed_refuses failed⟩
      rw [network, take, mark_of_slash slash, ok_bind]
      simp only [List.contains_iff_mem, slash, if_true, failed]
      rfl

theorem network_refuses_masked (keyword : Word)
    (isAddress : IsAddress word.text address) (named : next.text = "mask")
    (plain : Mark.ofText? mask.text = none)
    (unmatched : ∀ network, masked address mask ≠ .ok network) :
    ∃ error, network keyword [word, next, mask] = .error error ∧ error.Refuses mask := by
  cases failed : masked address mask with
  | ok found => exact absurd failed (unmatched found)
  | error error =>
      refine ⟨error, ?_, masked_refuses failed⟩
      rw [network, take_eq_ok isAddress.not_refused, ok_bind]
      simp [isAddress.no_slash, address_eq_ok_iff.2 isAddress, maskBehind, named, take, plain,
        failed]
      rfl

end Operand

namespace Token

open Phrase Operand

variable {side : Side} {comparison : Option Comparison} {start operand : List String}
  {tokens : Test → List Token} {network : Network} {written mask : String}

section Leads

variable (leads : Leads (.net side) comparison start tokens)

include leads

theorem lexes_network (spells : SpellsNetwork operand network) :
    Lexes (start ++ operand) (tokens (.bind (.net side network) comparison false)) := by
  refine lexes_of_leads leads ?_ ?_
  · intro words texts
    simpa using spells.noSymbol texts []
  · intro keyword behind words texts compared
    have noMask : NoMask [] := by simp [NoMask]
    have read : Operand.network keyword (words ++ []) = .ok (network, []) :=
      network_append spells texts noMask
    rw [List.append_nil] at read
    rw [Phrase.read, compared]
    simp [read]

theorem refusesLast_slashed (slash : '/' ∈ written.toList)
    (unread : Network.read? written.toList = none) : RefusesLast (start ++ [written]) := by
  refine refusesLast_of_leads leads (noSymbol_of_operand (ofSymbol?_of_slash slash)) ?_
  intro keyword behind words texts compared
  obtain ⟨word, rfl, rfl⟩ := List.map_eq_singleton_iff.1 texts
  obtain ⟨error, failed, refuses⟩ := network_refuses_slashed keyword slash unread
  refine ⟨word, error, rfl, ?_, refuses⟩
  rw [Phrase.read, compared]
  dsimp only
  rw [failed]
  rfl

theorem refusesLast_masked {address : Address} (isAddress : IsAddress written address)
    (plain : Mark.ofText? mask = none)
    (unmatched : ∀ word, word.text = mask → ∀ network, masked address word ≠ .ok network) :
    RefusesLast (start ++ [written, "mask", mask]) := by
  refine refusesLast_of_leads leads ?_ ?_
  · intro words texts
    obtain ⟨word, others, rfl, rfl, _⟩ := List.map_eq_cons_iff.1 texts
    exact noSymbol_cons isAddress.not_refused
  · intro keyword behind words texts compared
    obtain ⟨word, others, rfl, rfl, behind⟩ := List.map_eq_cons_iff.1 texts
    obtain ⟨next, others, rfl, named, single⟩ := List.map_eq_cons_iff.1 behind
    obtain ⟨last, rfl, rfl⟩ := List.map_eq_singleton_iff.1 single
    obtain ⟨error, failed, refuses⟩ := network_refuses_masked keyword isAddress named plain
      (unmatched last rfl)
    refine ⟨last, error, rfl, ?_, refuses⟩
    rw [Phrase.read, compared]
    dsimp only
    rw [failed]
    rfl

end Leads

/-- What becomes of a version 4 address with a mask: behind the word `mask` and behind a slash it
is the network with the length of the prefix that the mask covers, and is refused if the mask
covers none. -/
structure MaskSpellsPrefix (start : List String) (lexed : Network → List Token)
    (written mask : String) (bits maskBits : BitVec 32) : Prop where
  accepted_iff : ∀ expression,
    (Word.cut expression).map Word.text = start ++ [written, "mask", mask] →
      ((∃ tokens, lex expression = .ok tokens) ↔
        ∃ length ≤ 32, maskBits.toNat = 2 ^ 32 - 2 ^ (32 - length))
  agree : ∀ length (fits : length ≤ 32), maskBits.toNat = 2 ^ 32 - 2 ^ (32 - length) →
    let tokens := lexed (.v4 ⟨bits, length, fits⟩)
    Lexes (start ++ [written, "mask", mask]) tokens ∧
      Lexes (start ++ [written ++ "/" ++ mask]) tokens ∧
      Lexes (start ++ [written ++ "/" ++ Text.decimal length]) tokens
  refused : (¬ ∃ length ≤ 32, maskBits.toNat = 2 ^ 32 - 2 ^ (32 - length)) →
    RefusesLast (start ++ [written, "mask", mask]) ∧
      RefusesLast (start ++ [written ++ "/" ++ mask])

section Spellings

variable (leads : Leads (.net side) comparison start tokens)

include leads

theorem lexes_slashed {suffix : String}
    (read : Network.read? (written ++ "/" ++ suffix).toList = some network) :
    Lexes (start ++ [written ++ "/" ++ suffix])
      (tokens (.bind (.net side network) comparison false)) :=
  lexes_network leads (.slashed (by simp) read)

theorem maskSpellsPrefix {bits maskBits : BitVec 32} (isAddress : IsAddress written (.v4 bits))
    (isMask : IsAddress mask (.v4 maskBits)) :
    MaskSpellsPrefix start (fun network => tokens (.bind (.net side network) comparison false))
      written mask bits maskBits := by
  have slashed := Network.read?_mask isAddress isMask
  have agree (length : Nat) (fits : length ≤ 32)
      (ones : maskBits.toNat = 2 ^ 32 - 2 ^ (32 - length)) :
      let lexed := tokens (.bind (.net side (.v4 ⟨bits, length, fits⟩)) comparison false)
      Lexes (start ++ [written, "mask", mask]) lexed ∧
        Lexes (start ++ [written ++ "/" ++ mask]) lexed ∧
        Lexes (start ++ [written ++ "/" ++ Text.decimal length]) lexed := by
    have masked : Block.ofMask? bits maskBits = some ⟨bits, length, fits⟩ :=
      (Block.ofMask?_eq_ofLength? fits ones).trans (dif_pos fits)
    rw [masked] at slashed
    refine ⟨?_, ?_, ?_⟩
    · exact lexes_network leads (.masked isAddress isMask masked)
    · exact lexes_slashed leads slashed
    · exact lexes_slashed leads (Network.read?_length_v4 ⟨bits, length, fits⟩ isAddress)
  have refused (broken : ¬ ∃ length ≤ 32, maskBits.toNat = 2 ^ 32 - 2 ^ (32 - length)) :
      RefusesLast (start ++ [written, "mask", mask]) ∧
        RefusesLast (start ++ [written ++ "/" ++ mask]) := by
    have none : Block.ofMask? bits maskBits = none := by
      rw [Option.eq_none_iff_forall_ne_some]
      intro block found
      exact broken ⟨block.length, block.length_le, Block.toNat_of_ofMask? found⟩
    rw [none] at slashed
    refine ⟨refusesLast_masked leads isAddress (mark_of_not_refused isMask.not_refused) ?_, ?_⟩
    · rintro word rfl network read
      obtain ⟨_, _, block, same, isOther, found, _⟩ := masked_eq_ok read
      cases same
      cases Option.some.inj (isMask.symm.trans isOther)
      rw [none] at found
      contradiction
    · exact refusesLast_slashed leads (by simp) slashed
  refine ⟨fun expression texts => ?_, agree, refused⟩
  constructor
  · rintro ⟨lexed, succeeds⟩
    by_contra broken
    obtain ⟨word, error, _, failed, _⟩ := (refused broken).1 expression texts
    cases succeeds.symm.trans failed
  · rintro ⟨length, fits, ones⟩
    exact ⟨_, (agree length fits ones).1 expression texts⟩

/-- The spellings of a network agree, whatever stands in front of it: an address with a mask, and
with the length of the prefix that the mask covers; and an address alone, which has all its bits
for a prefix. A version 6 address takes no mask. -/
theorem network_spellings_agree :
    (∀ written mask bits maskBits, IsAddress written (.v4 bits) → IsAddress mask (.v4 maskBits) →
      MaskSpellsPrefix start (fun network => tokens (.bind (.net side network) comparison false))
        written mask bits maskBits) ∧
    (∀ written address, IsAddress written address →
      Lexes (start ++ [written])
        (tokens (.bind (.net side (.single address)) comparison false)) ∧
      Lexes (start ++ [written ++ "/" ++ Text.decimal address.width])
        (tokens (.bind (.net side (.single address)) comparison false))) ∧
    ∀ written bits mask, IsAddress written (.v6 bits) → Mark.ofText? mask = none →
      RefusesLast (start ++ [written, "mask", mask]) := by
  refine ⟨fun _ _ _ _ isAddress isMask => maskSpellsPrefix leads isAddress isMask, ?_, ?_⟩
  · intro written address isAddress
    refine ⟨lexes_network leads (.single isAddress), ?_⟩
    exact lexes_slashed leads (Network.read?_width isAddress)
  · intro written bits mask isAddress plain
    refine refusesLast_masked leads isAddress plain ?_
    rintro word rfl network read
    obtain ⟨_, _, _, same, _⟩ := masked_eq_ok read
    cases same

end Spellings

/-- The address is negated and qualified, and the mask ends within an octet. -/
theorem network_spellings_agree_of_qualified :
    let test : Test :=
      .bind (.net .destination (.v4 ⟨0x0acd4d09#32, 13, by decide⟩)) (some .ge) false
    let tokens : List Token :=
      [.not, .openParen, .test (.bind (.numeric .protocol 6) none false), .and, .test test,
        .closeParen]
    lex "!TCP dst net>=10.205.77.9 mask 255.248.0.0" = .ok tokens ∧
      lex "!TCP dst net>=10.205.77.9/255.248.0.0" = .ok tokens ∧
      lex "!TCP dst net>=10.205.77.9/13" = .ok tokens ∧
      ∃ error, lex "!TCP dst net>=10.205.77.9 mask 255.248.0.1" = .error error ∧
        error.Refuses ⟨"255.248.0.1", 31⟩ := by
  intro test tokens
  have negated : ∀ word ∈ ["!"], Mark.Spells .not word := by simp [Mark.spells_iff, Mark.ofText?]
  have qualifier : Qualifier.Name .qualifier "tcp" (.numeric .protocol 6) :=
    .protocol (.tcp (by decide +kernel))
  have leads : Leads (.net .destination) (some .ge) _ _ :=
    .mk negated (.qualified qualifier (.sided .dst .net)) (.written .ge)
  have isAddress : IsAddress "10.205.77.9" (.v4 0x0acd4d09#32) := by
    unfold IsAddress
    decide +kernel
  have masks := (network_spellings_agree leads).1 "10.205.77.9"
  have isMask : IsAddress "255.248.0.0" (.v4 0xfff80000#32) := by
    unfold IsAddress
    decide +kernel
  have isOther : IsAddress "255.248.0.1" (.v4 0xfff80001#32) := by
    unfold IsAddress
    decide +kernel
  obtain ⟨masked, slashed, sized⟩ :=
    (masks _ _ _ isAddress isMask).agree 13 (by decide) (by decide)
  have broken : ¬ ∃ length ≤ 32, (0xfff80001#32).toNat = 2 ^ 32 - 2 ^ (32 - length) := by decide
  obtain ⟨refused, _⟩ := (masks _ _ _ isAddress isOther).refused broken
  refine ⟨masked _ (by decide +kernel), slashed _ (by decide +kernel), sized _ (by decide +kernel),
    ?_⟩
  obtain ⟨word, error, last, failed, refuses⟩ :=
    refused "!TCP dst net>=10.205.77.9 mask 255.248.0.1" (by decide +kernel)
  have found : (Word.cut "!TCP dst net>=10.205.77.9 mask 255.248.0.1").getLast? =
      some ⟨"255.248.0.1", 31⟩ := by
    decide +kernel
  obtain rfl := Option.some.inj (last.symm.trans found)
  exact ⟨error, failed, refuses⟩

end Token

end PacketFilter
