import PacketFilter.Proofs.Address.Characters
import PacketFilter.Proofs.Address.Dotted

/-!
Version 6 addresses are read back from their text. The groups in front of what is left out, and
those behind it, are read as they were printed; the zeros in between are as many as were left out,
because the run that is left out is a run of zeros.
-/

namespace PacketFilter.Address

open Text

variable {rest : List Char}

theorem ofGroups_groups (bits : BitVec 128) : ofGroups (groups bits) = bits := by
  rw [ofGroups, groups, Positional.value_digits]
  have fits : bits.toNat < 65536 ^ 8 := bits.isLt
  rw [Nat.mod_eq_of_lt fits, BitVec.ofNat_toNat, BitVec.setWidth_eq]

/-- Nothing follows a group, or a colon. -/
def Apart (rest : List Char) : Prop :=
  ∀ c ∈ rest.head?, c = ':'

theorem Apart.noDigit {base : Nat} (small : base ≤ 16) (apart : Apart rest) :
    NoDigit base rest := by
  intro c member
  rw [apart c member]
  cases present : digit? base ':' with
  | none => rfl
  | some digit =>
      have large := digit?_of_le small (show (digit? base ':').isSome by simp [present])
      contradiction

theorem Apart.noDot (apart : Apart rest) : '.' ∉ rest.head? := by
  intro member
  have colon := apart '.' member
  contradiction

theorem readGroup_append {group : Nat} (fits : group < 65536) (apart : Apart rest) :
    readGroup ((hexadecimal group).toList ++ rest) = some (group, rest) := by
  obtain ⟨digits, chars, lt, value, _⟩ := exists_spelled (show 1 < 16 by decide) group
  have short : digits.length ≤ 4 := by
    rw [← List.length_map, ← chars, Nat.length_toDigits_le_iff (by decide) (by decide)]
    omega
  rw [hexadecimal, String.toList_ofList, chars, readGroup,
    leadingDigits_map (by decide) lt (apart.noDigit (by decide))]
  split
  · rename_i same
    cases same
    exact absurd chars Nat.toDigits_ne_nil
  · rename_i same
    cases same
    rw [value, if_pos short]

theorem readDotted_hexadecimal (group : Nat) (apart : Apart rest) :
    readDotted ((hexadecimal group).toList ++ rest) = none := by
  obtain ⟨digits, chars, _⟩ := exists_spelled (show 1 < 16 by decide) group
  rw [hexadecimal, String.toList_ofList, chars]
  exact readDotted_eq_none digits (apart.noDigit (by decide)) apart.noDot

def behindColons (groups : List Nat) : List Char :=
  groups.flatMap fun group => ':' :: (hexadecimal group).toList

theorem toList_colonSeparated (first : Nat) (others : List Nat) :
    (colonSeparated (first :: others)).toList =
      (hexadecimal first).toList ++ behindColons others := by
  rw [colonSeparated, toList_intercalate_cons]
  rfl

theorem apart_behindColons {groups : List Nat} (apart : Apart rest) :
    Apart (behindColons groups ++ rest) := by
  cases groups with
  | nil => exact apart
  | cons group groups =>
      intro c member
      cases member
      rfl

inductive Ended : List Char → Prop where
  | nil : Ended []
  | colons (further : List Char) : Ended (':' :: ':' :: further)

theorem Ended.apart (ended : Ended rest) : Apart rest := by
  intro c member
  cases ended with
  | nil => contradiction
  | colons further =>
      cases member
      rfl

theorem readDotted_nil : readDotted [] = none := rfl

theorem readGroup_nil : readGroup [] = none := rfl

theorem readDotted_colon (further : List Char) : readDotted (':' :: further) = none := rfl

theorem readGroup_colon (further : List Char) : readGroup (':' :: further) = none := rfl

/-- Groups are no version 4 address, since a colon stands behind the first. -/
theorem readDotted_colonSeparated (groups : List Nat) (apart : Apart rest) :
    readDotted ((colonSeparated groups).toList ++ rest) = none := by
  cases groups with
  | nil =>
      cases rest with
      | nil => rfl
      | cons c rest =>
          rw [apart c rfl]
          rfl
  | cons group groups =>
      rw [toList_colonSeparated, List.append_assoc]
      exact readDotted_hexadecimal group (apart_behindColons apart)

theorem readGroups_ended (room : Nat) (continued : Bool) (ended : Ended rest) :
    readGroups room continued rest = ([], false, rest) := by
  cases room with
  | zero => rfl
  | succ room =>
      cases ended <;> cases continued <;>
        simp [readGroups, afterSeparator, readDotted_colon, readGroup_colon,
          readDotted_nil, readGroup_nil]

theorem readGroups_group {room group : Nat} {continued : Bool} {chars : List Char}
    (separated : afterSeparator continued chars = some ((hexadecimal group).toList ++ rest))
    (fits : group < 65536) (apart : Apart rest) :
    readGroups (room + 1) continued chars =
      (group :: (readGroups room true rest).1, (readGroups room true rest).2) := by
  have noDotted : (if room = 0 then none else readDotted ((hexadecimal group).toList ++ rest)) =
      none := by
    rw [readDotted_hexadecimal group apart, ite_self]
  simp [readGroups, separated, noDotted, readGroup_append fits apart]

theorem readGroups_behindColons {room : Nat} {groups : List Nat} (fits : groups.length ≤ room)
    (small : ∀ group ∈ groups, group < 65536) (ended : Ended rest) :
    readGroups room true (behindColons groups ++ rest) = (groups, false, rest) := by
  induction groups generalizing room with
  | nil => exact readGroups_ended room true ended
  | cons group groups inductionHypothesis =>
      cases room with
      | zero => contradiction
      | succ room =>
          have first := small group List.mem_cons_self
          have others := inductionHypothesis (Nat.le_of_succ_le_succ fits)
            fun other member => small other (List.mem_cons_of_mem _ member)
          have separated : afterSeparator true (behindColons (group :: groups) ++ rest) =
              some ((hexadecimal group).toList ++ (behindColons groups ++ rest)) := by
            simp [behindColons, afterSeparator]
          rw [readGroups_group separated first (apart_behindColons ended.apart), others]

theorem readGroups_colonSeparated {room : Nat} {groups : List Nat} (fits : groups.length ≤ room)
    (small : ∀ group ∈ groups, group < 65536) (ended : Ended rest) :
    readGroups room false ((colonSeparated groups).toList ++ rest) = (groups, false, rest) := by
  cases groups with
  | nil => exact readGroups_ended room false ended
  | cons group groups =>
      cases room with
      | zero => contradiction
      | succ room =>
          have first := small group List.mem_cons_self
          have others := readGroups_behindColons (Nat.le_of_succ_le_succ fits)
            (fun other member => small other (List.mem_cons_of_mem _ member)) ended
          rw [toList_colonSeparated, List.append_assoc]
          rw [readGroups_group rfl first (apart_behindColons ended.apart), others]

theorem readColonSeparated_colonSeparated {groups : List Nat} (eight : groups.length = 8)
    (small : ∀ group ∈ groups, group < 65536) :
    readColonSeparated (colonSeparated groups).toList = some (ofGroups groups, []) := by
  have read := readGroups_colonSeparated (Nat.le_of_eq eight) small .nil
  rw [List.append_nil] at read
  simp [readColonSeparated, read, eight]

/-- What was read in front of two colons and behind them is filled up with zeros. -/
theorem readColonSeparated_colons {front back : List Nat} {chars : List Char} {isDotted : Bool}
    (small : ∀ group ∈ front, group < 65536) (fits : front.length < 8)
    (read : readGroups (7 - front.length) false chars = (back, isDotted, [])) :
    readColonSeparated ((colonSeparated front).toList ++ ':' :: ':' :: chars) =
      some (ofGroups (front ++ List.replicate (8 - front.length - back.length) 0 ++ back), []) := by
  have before := readGroups_colonSeparated (Nat.le_of_lt fits) small (.colons chars)
  have missing : front.length ≠ 8 := Nat.ne_of_lt fits
  simp [readColonSeparated, before, missing, read]

theorem longestZeroRun_le (groups : List Nat) :
    (longestZeroRun groups).2 ≤ zeroRunAt groups (longestZeroRun groups).1 := by
  unfold longestZeroRun
  refine List.foldlRecOn (motive := fun best : Nat × Nat => best.2 ≤ zeroRunAt groups best.1) _ _
    (Nat.zero_le _) ?_
  intro best within start _
  by_cases longer : best.2 < zeroRunAt groups start
  · simp [longer]
  · simpa [longer] using within

theorem take_eq_replicate {groups : List Nat} {length : Nat}
    (within : length ≤ (groups.takeWhile (· == 0)).length) :
    groups.take length = List.replicate length 0 := by
  induction groups generalizing length with
  | nil => simpa using within
  | cons group groups inductionHypothesis =>
      cases length with
      | zero => rfl
      | succ length =>
          by_cases zero : group = 0
          · simp [zero] at within
            rw [List.take_succ_cons, List.replicate_succ, zero, inductionHypothesis within]
          · simp [zero] at within

theorem split_zeroRun {groups : List Nat} {start length : Nat}
    (within : length ≤ zeroRunAt groups start) :
    groups.take start ++ List.replicate length 0 ++ groups.drop (start + length) = groups := by
  rw [← take_eq_replicate within, List.append_assoc, ← List.drop_drop, List.take_append_drop,
    List.take_append_drop]

theorem readColonSeparated_compressed {groups : List Nat} (eight : groups.length = 8)
    (small : ∀ group ∈ groups, group < 65536) :
    readColonSeparated (compressed groups).toList = some (ofGroups groups, []) := by
  unfold compressed
  have within := longestZeroRun_le groups
  generalize longestZeroRun groups = run at within
  obtain ⟨start, length⟩ := run
  dsimp only at within ⊢
  by_cases long : 1 < length
  · have split := split_zeroRun within
    have room : start + length ≤ 8 := by
      have extent := congrArg List.length split
      simp [eight] at extent
      omega
    have front : (groups.take start).length = start := by
      rw [List.length_take, eight]
      omega
    have back : (groups.drop (start + length)).length = 8 - start - length := by
      rw [List.length_drop, eight]
      omega
    have left : 8 - start - (8 - start - length) = length := by omega
    have fits : (groups.drop (start + length)).length ≤ 7 - start := by omega
    have behind := readGroups_colonSeparated fits
      (fun group member => small group (List.mem_of_mem_drop member)) Ended.nil
    rw [List.append_nil] at behind
    have read := readColonSeparated_colons
      (fun group member => small group (List.mem_of_mem_take member)) (by omega)
      (front.symm ▸ behind)
    rw [front, back, left, split] at read
    rw [if_pos long]
    simpa using read
  · rw [if_neg long]
    exact readColonSeparated_colonSeparated eight small

theorem groups_mapped {bits : BitVec 128} (mapped : (groups bits).take 6 = mappedGroups) :
    mappedGroups ++ Positional.digits 65536 2 (bits.truncate 32).toNat = groups bits := by
  have low : Positional.digits 65536 2 (bits.truncate 32).toNat = (groups bits).drop 6 := by
    simp [groups, Positional.digits]
    omega
  rw [← mapped, low, List.take_append_drop]

theorem readGroups_dotted (room : Nat) (bits : BitVec 32) :
    readGroups (room + 2) true (':' :: (dotted bits).toList) =
      (Positional.digits 65536 2 bits.toNat, true, []) := by
  have read := readDotted_append bits (noDigit_nil 10)
  rw [List.append_nil] at read
  simp [readGroups, afterSeparator, read]

theorem readColonSeparated_mapped {bits : BitVec 128}
    (mapped : (groups bits).take 6 = mappedGroups) :
    readColonSeparated ("::ffff:" ++ dotted (bits.truncate 32)).toList =
      some (ofGroups (groups bits), []) := by
  have apart : Apart (':' :: (dotted (bits.truncate 32)).toList) := by simp [Apart]
  have separated : afterSeparator false ("ffff:" ++ dotted (bits.truncate 32)).toList =
      some ((hexadecimal 0xFFFF).toList ++ ':' :: (dotted (bits.truncate 32)).toList) := by
    rw [String.toList_append]
    rfl
  have back : readGroups 7 false ("ffff:" ++ dotted (bits.truncate 32)).toList =
      (0xFFFF :: Positional.digits 65536 2 (bits.truncate 32).toNat, true, []) := by
    rw [readGroups_group separated (by decide) apart, readGroups_dotted]
  have read := readColonSeparated_colons (List.forall_mem_nil _) (by decide) back
  have chars : ("::ffff:" ++ dotted (bits.truncate 32)).toList =
      (colonSeparated []).toList ++ ':' :: ':' ::
        ("ffff:" ++ dotted (bits.truncate 32)).toList := by
    rw [String.toList_append, String.toList_append]
    rfl
  rw [chars, read, ← groups_mapped mapped]
  rfl

theorem readColonSeparated_text (bits : BitVec 128) :
    readColonSeparated (text (.v6 bits)).toList = some (bits, []) := by
  have eight : (groups bits).length = 8 := Positional.length_digits ..
  have small : ∀ group ∈ groups bits, group < 65536 := by
    intro group member
    exact Positional.lt_of_mem_digits (by decide) member
  rw [text]
  by_cases mapped : (groups bits).take 6 = mappedGroups
  · rw [if_pos mapped, readColonSeparated_mapped mapped, ofGroups_groups]
  · rw [if_neg mapped, readColonSeparated_compressed eight small, ofGroups_groups]

theorem readV6?_text (bits : BitVec 128) : readV6? (text (.v6 bits)).toList = some bits := by
  rw [readV6?, readColonSeparated_text]
  rfl

/-- The text of a version 6 address is none of a version 4 address. -/
theorem readV4?_text (bits : BitVec 128) : readV4? (text (.v6 bits)).toList = none := by
  have noDotted : readDotted (text (.v6 bits)).toList = none := by
    rw [text]
    split
    · rw [String.toList_append]
      exact readDotted_colon _
    · unfold compressed
      dsimp only
      split
      · rw [String.toList_append, String.toList_append, List.append_assoc]
        exact readDotted_colonSeparated _ (Ended.colons _).apart
      · rw [← List.append_nil (colonSeparated _).toList]
        exact readDotted_colonSeparated _ Ended.nil.apart
  rw [readV4?, noDotted]
  rfl

theorem read?_text (address : Address) : read? address.text.toList = some address := by
  cases address with
  | v4 bits => rw [read?, text, readV4?_dotted]
  | v6 bits =>
      rw [read?, readV4?_text, readV6?_text]
      rfl

end PacketFilter.Address
