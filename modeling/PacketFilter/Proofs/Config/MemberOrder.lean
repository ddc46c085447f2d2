import PacketFilter.Config.Reader

/-!
The order of the members of an object. A reader takes one member after the other and keeps what it
has found so far. Any two members that it takes it also takes the other way round, and finds the
same, so a configuration or a mode that is read is also read with its members in any other order.
-/

namespace PacketFilter

section Orders

variable {state item fault result : Type} {takes : state → item → state → Prop}
  {read : state → List item → Except fault result}

/-- A reader that takes items one by one, in steps of which any two can change places. -/
structure TakesInAnyOrder (takes : state → item → state → Prop)
    (read : state → List item → Except fault result) : Prop where
  cons : ∀ here first rest found, read here (first :: rest) = .ok found ↔
    ∃ there, takes here first there ∧ read there rest = .ok found
  swap : ∀ here first between second there, takes here first between →
    takes between second there → ∃ other, takes here second other ∧ takes other first there

theorem TakesInAnyOrder.perm (takesAll : TakesInAnyOrder takes read) {items others : List item}
    (perm : items.Perm others) {found : result} :
    ∀ here, read here items = .ok found → read here others = .ok found := by
  induction perm with
  | nil => exact fun _ succeeds => succeeds
  | cons first _ inductionHypothesis =>
      intro here succeeds
      obtain ⟨there, taken, rest⟩ := (takesAll.cons ..).1 succeeds
      exact (takesAll.cons ..).2 ⟨there, taken, inductionHypothesis there rest⟩
  | swap first second rest =>
      intro here succeeds
      obtain ⟨between, takenSecond, behind⟩ := (takesAll.cons ..).1 succeeds
      obtain ⟨there, takenFirst, behind⟩ := (takesAll.cons ..).1 behind
      obtain ⟨other, again, last⟩ := takesAll.swap _ _ _ _ _ takenSecond takenFirst
      exact (takesAll.cons ..).2 ⟨other, again, (takesAll.cons ..).2 ⟨there, last, behind⟩⟩
  | trans _ _ firstHypothesis secondHypothesis =>
      exact fun here succeeds => secondHypothesis here (firstHypothesis here succeeds)

end Orders

namespace ModeType

/-- What a member of a mode adds to the type that has been found. -/
inductive Takes (room : Nat) :
    Option ModeType → Option String × Json.Draft → Option ModeType → Prop where
  | type {value type} : read value = .ok type → Takes room none (some "type", value) (some type)
  | other {found name value} : name ≠ "type" → value.takeIn room = .ok () →
      Takes room found (some name, value) found

theorem ofMembers_cons_eq_ok_iff {room : Nat} {found last : Option ModeType}
    {member : Option String × Json.Draft} {rest : List (Option String × Json.Draft)} :
    ofMembers room found (member :: rest) = .ok last ↔
      ∃ next, Takes room found member next ∧ ofMembers room next rest = .ok last := by
  constructor
  · intro succeeds
    unfold ofMembers at succeeds
    split at succeeds
    · contradiction
    · contradiction
    · rename_i name value _ same
      obtain ⟨rfl, rfl⟩ := List.cons.inj same
      split at succeeds
      · rename_i isType
        subst isType
        split at succeeds
        · contradiction
        · obtain ⟨type, told, succeeds⟩ := bind_eq_ok.1 succeeds
          exact ⟨_, .type told, succeeds⟩
      · rename_i other
        obtain ⟨_, taken, succeeds⟩ := bind_eq_ok.1 succeeds
        exact ⟨_, .other other taken, succeeds⟩
  · rintro ⟨next, takes, succeeds⟩
    cases takes with
    | type told => simp [ofMembers, told, succeeds, ok_bind]
    | other other taken => simp [ofMembers, other, taken, succeeds, ok_bind]

theorem takesInAnyOrder (room : Nat) : TakesInAnyOrder (Takes room) (ofMembers room) where
  cons _ _ _ _ := ofMembers_cons_eq_ok_iff
  swap := by
    intro here first between second there taken behind
    cases taken with
    | type told =>
        cases behind with
        | other other taken => exact ⟨_, .other other taken, .type told⟩
    | other other taken =>
        cases behind with
        | type told => exact ⟨_, .type told, .other other taken⟩
        | other further takenToo => exact ⟨_, .other further takenToo, .other other taken⟩

end ModeType

theorem Json.Draft.onlyMember?_perm {name : String}
    {members others : List (Option String × Json.Draft)} (perm : members.Perm others)
    {part : Option Json.Draft} (only : onlyMember? name members = .ok part) :
    onlyMember? name others = .ok part := by
  have filtered := perm.filter fun member => member.1 == some name
  unfold onlyMember? at only ⊢
  split at only
  · rename_i none
    rw [none] at filtered
    rw [filtered.nil_eq.symm]
    exact only
  · rename_i one
    rw [one] at filtered
    rw [List.singleton_perm.1 filtered |>.symm]
    exact only
  · contradiction

theorem Mode.read_perm {room : Nat} {members others : List (Option String × Json.Draft)}
    (perm : members.Perm others) {mode : Mode}
    (succeeds : read room (.object members none) = .ok mode) :
    read room (.object others none) = .ok mode := by
  rw [read] at succeeds ⊢
  obtain ⟨found, told, succeeds⟩ := bind_eq_ok.1 succeeds
  obtain ⟨_, _, succeeds⟩ := bind_eq_ok.1 succeeds
  rw [(ModeType.takesInAnyOrder room).perm perm none told, ok_bind, Json.Draft.readEnd, ok_bind]
  cases found with
  | none => exact succeeds
  | some type =>
      obtain ⟨part, only, succeeds⟩ := bind_eq_ok.1 succeeds
      exact bind_eq_ok.2 ⟨part, Json.Draft.onlyMember?_perm perm only, succeeds⟩

namespace Config

inductive Takes : Option (List String) × Option Mode → Option String × Json.Draft →
    Option (List String) × Option Mode → Prop where
  | expressions {value expressions mode} : value.readStrings = .ok expressions →
      Takes (none, mode) (some "expressions", value) (some expressions, mode)
  | mode {value expressions mode} : Mode.read nestingRoom value = .ok mode →
      Takes (expressions, none) (some "mode", value) (expressions, some mode)
  | other {found name value} : name ≠ "expressions" → name ≠ "mode" → value.skip = .ok () →
      Takes found (some name, value) found

theorem readMembers_cons_eq_ok_iff {expressions : Option (List String)} {mode : Option Mode}
    {member : Option String × Json.Draft} {rest : List (Option String × Json.Draft)}
    {last : Option (List String) × Option Mode} :
    readMembers expressions mode (member :: rest) = .ok last ↔
      ∃ next, Takes (expressions, mode) member next ∧
        readMembers next.1 next.2 rest = .ok last := by
  constructor
  · intro succeeds
    unfold readMembers at succeeds
    split at succeeds
    · contradiction
    · contradiction
    · rename_i name value _ same
      obtain ⟨rfl, rfl⟩ := List.cons.inj same
      split at succeeds
      · rename_i isExpressions
        subst isExpressions
        split at succeeds
        · contradiction
        · obtain ⟨strings, told, succeeds⟩ := bind_eq_ok.1 succeeds
          exact ⟨_, .expressions told, succeeds⟩
      · rename_i noExpressions
        split at succeeds
        · rename_i isMode
          subst isMode
          split at succeeds
          · contradiction
          · obtain ⟨found, told, succeeds⟩ := bind_eq_ok.1 succeeds
            exact ⟨(expressions, some found), .mode told, succeeds⟩
        · rename_i noMode
          obtain ⟨_, skipped, succeeds⟩ := bind_eq_ok.1 succeeds
          exact ⟨_, .other noExpressions noMode skipped, succeeds⟩
  · rintro ⟨next, takes, succeeds⟩
    cases takes with
    | expressions told => simp [readMembers, told, succeeds, ok_bind]
    | mode told => simp [readMembers, told, succeeds, ok_bind]
    | other noExpressions noMode skipped =>
        simp [readMembers, noExpressions, noMode, skipped, succeeds, ok_bind]

theorem takesInAnyOrder : TakesInAnyOrder Takes fun found => readMembers found.1 found.2 where
  cons _ _ _ _ := readMembers_cons_eq_ok_iff
  swap := by
    intro here first between second there taken behind
    cases taken with
    | expressions told =>
        cases behind with
        | mode toldToo => exact ⟨_, .mode toldToo, .expressions told⟩
        | other noExpressions noMode skipped =>
            exact ⟨_, .other noExpressions noMode skipped, .expressions told⟩
    | mode told =>
        cases behind with
        | expressions toldToo => exact ⟨_, .expressions toldToo, .mode told⟩
        | other noExpressions noMode skipped =>
            exact ⟨_, .other noExpressions noMode skipped, .mode told⟩
    | other noExpressions noMode skipped =>
        cases behind with
        | expressions told => exact ⟨_, .expressions told, .other noExpressions noMode skipped⟩
        | mode told => exact ⟨_, .mode told, .other noExpressions noMode skipped⟩
        | other further more skippedToo =>
            exact ⟨_, .other further more skippedToo, .other noExpressions noMode skipped⟩

theorem ofDraft_perm {members others : List (Option String × Json.Draft)}
    (perm : members.Perm others) {config : Config}
    (succeeds : ofDraft (.object members none) = .ok config) :
    ofDraft (.object others none) = .ok config := by
  rw [ofDraft] at succeeds ⊢
  obtain ⟨found, told, succeeds⟩ := bind_eq_ok.1 succeeds
  exact bind_eq_ok.2 ⟨found, takesInAnyOrder.perm perm (none, none) told, succeeds⟩

end Config

end PacketFilter
