import PacketFilter.Proofs.ProgramSet.Places

/-!
What a set of expressions answers for a packet. The search for the first program that matches, the
verdicts of all programs and the modes agree, and they tell the places of the expressions, whatever
expressions of the list are no filters.
-/

namespace PacketFilter

/-- Where packets go that no program matches. -/
def Mode.fallback : Mode → Dispatch
  | classifier (some output) => .output output
  | _ => .drop

theorem Mode.defaultOutput_eq_some_iff {mode : Mode} {output : Nat} :
    mode.defaultOutput = some output ↔ mode = classifier (some output) := by
  cases mode <;> simp [defaultOutput]

namespace ProgramSet

def MatchesAt (expressions : List String) (packet : Packet) (index : Nat) : Prop :=
  ∃ expression formula, CompilesAt expressions index expression formula ∧
    formula.accepts packet = true

/-- The answers of a set for a packet, told by the places of the expressions. -/
structure Answers (set : ProgramSet) (expressions : List String) (packet : Packet) : Prop where
  verdicts : ∀ verdict, verdict ∈ set.evaluateAll packet ↔
    ∃ formula, CompilesAt expressions verdict.output verdict.expression formula ∧
      verdict.accepted = formula.accepts packet
  ordered : ((set.evaluateAll packet).map Verdict.output).Pairwise (· < ·)
  least : ∀ index, MatchesAt expressions packet index →
    (∀ earlier < index, ¬ MatchesAt expressions packet earlier) →
    set.classify packet = .output index
  unmatched : (∀ index, ¬ MatchesAt expressions packet index) →
    set.classify packet = set.mode.fallback
  firstVerdict : set.classify packet =
    (((set.evaluateAll packet).find? Verdict.accepted).map fun verdict =>
      Dispatch.output verdict.output).getD set.mode.fallback
  classifies : ∀ output, set.mode = .classifier output → set.process packet = set.classify packet
  logs : set.mode = .filter .logOnly → set.process packet = .output 0
  gates : set.mode = .filter .gate →
    (set.process packet = .output 0 ↔ ∃ index, MatchesAt expressions packet index) ∧
      ((∀ index, ¬ MatchesAt expressions packet index) → set.process packet = .drop)

variable {set : ProgramSet} {expressions : List String} {packet : Packet}

theorem classify_eq_getD (set : ProgramSet) (packet : Packet) : set.classify packet =
    ((set.firstAccepting? packet).map fun program => Dispatch.output program.output).getD
      set.mode.fallback := by
  unfold classify
  cases set.firstAccepting? packet with
  | some program => rfl
  | none =>
      cases set.mode with
      | filter action => rfl
      | classifier output => cases output <;> rfl

theorem answers_congr {first second : ProgramSet} (programs : first.programs = second.programs)
    (modes : first.mode = second.mode) (packet : Packet) :
    first.evaluateAll packet = second.evaluateAll packet ∧
      first.classify packet = second.classify packet ∧
      first.process packet = second.process packet := by
  obtain ⟨_, _, _⟩ := first
  obtain ⟨_, _, _⟩ := second
  cases programs
  cases modes
  exact ⟨rfl, rfl, rfl⟩

/-- The first accepting verdict is that of the first program that matches. -/
theorem find?_evaluateAll (set : ProgramSet) (packet : Packet) :
    (set.evaluateAll packet).find? Verdict.accepted =
      (set.firstAccepting? packet).map (Program.verdict packet) := by
  rw [evaluateAll, List.find?_map]
  rfl

namespace Holds

theorem mem_evaluateAll (holds : set.Holds expressions) {verdict : Verdict} :
    verdict ∈ set.evaluateAll packet ↔
      ∃ formula, CompilesAt expressions verdict.output verdict.expression formula ∧
        verdict.accepted = formula.accepts packet := by
  rw [evaluateAll, List.mem_map]
  constructor
  · rintro ⟨program, member, rfl⟩
    exact ⟨program.formula, (holds.programs program).1 member, rfl⟩
  · rintro ⟨formula, compiles, accepted⟩
    refine ⟨⟨verdict.output, verdict.expression, formula⟩, (holds.programs _).2 compiles, ?_⟩
    rw [Program.verdict, ← accepted]

theorem matchesAt_iff (holds : set.Holds expressions) {index : Nat} :
    MatchesAt expressions packet index ↔
      ∃ program ∈ set.programs, program.output = index ∧ program.formula.accepts packet = true := by
  constructor
  · rintro ⟨expression, formula, compiles, accepts⟩
    exact ⟨⟨index, expression, formula⟩, (holds.programs _).2 compiles, rfl, accepts⟩
  · rintro ⟨program, member, rfl, accepts⟩
    exact ⟨_, _, (holds.programs program).1 member, accepts⟩

/-- Programs stand in the order of their places, so the first that matches has the least place. -/
theorem firstAccepting?_eq_some (holds : set.Holds expressions) {program : Program}
    (first : set.firstAccepting? packet = some program) :
    MatchesAt expressions packet program.output ∧
      ∀ index, MatchesAt expressions packet index → program.output ≤ index := by
  obtain ⟨accepts, before, behind, split, refused⟩ := List.find?_eq_some_iff_append.1 first
  have ordered := List.pairwise_map.1 holds.outputs
  rw [split] at ordered
  have later := (List.pairwise_cons.1 (List.pairwise_append.1 ordered).2.1).1
  refine ⟨holds.matchesAt_iff.2 ⟨program, ?_, rfl, accepts⟩, fun index matching => ?_⟩
  · rw [split]
    exact List.mem_append_right _ List.mem_cons_self
  · obtain ⟨other, member, rfl, acceptsOther⟩ := holds.matchesAt_iff.1 matching
    rw [split] at member
    rcases List.mem_append.1 member with member | member
    · have refusal := refused other member
      rw [acceptsOther] at refusal
      contradiction
    · rcases List.mem_cons.1 member with rfl | member
      · exact Nat.le_refl _
      · exact Nat.le_of_lt (later other member)

theorem firstAccepting?_eq_none_iff (holds : set.Holds expressions) :
    set.firstAccepting? packet = none ↔ ∀ index, ¬ MatchesAt expressions packet index := by
  rw [firstAccepting?, List.find?_eq_none]
  constructor
  · intro refused index matching
    obtain ⟨program, member, _, accepts⟩ := holds.matchesAt_iff.1 matching
    exact refused program member accepts
  · intro unmatched program member accepts
    exact unmatched _ (holds.matchesAt_iff.2 ⟨program, member, rfl, accepts⟩)

theorem classify_of_least (holds : set.Holds expressions) {index : Nat}
    (matching : MatchesAt expressions packet index)
    (least : ∀ earlier < index, ¬ MatchesAt expressions packet earlier) :
    set.classify packet = .output index := by
  rw [classify_eq_getD]
  cases first : set.firstAccepting? packet with
  | none => exact absurd matching (holds.firstAccepting?_eq_none_iff.1 first index)
  | some program =>
      obtain ⟨matchingFirst, bound⟩ := holds.firstAccepting?_eq_some first
      have notEarlier := Nat.not_lt.1 fun earlier => least _ earlier matchingFirst
      rw [Option.map_some, Option.getD_some, Nat.le_antisymm (bound index matching) notEarlier]

theorem any_accepted_iff (holds : set.Holds expressions) :
    (set.evaluateAll packet).any Verdict.accepted = true ↔
      ∃ index, MatchesAt expressions packet index := by
  rw [List.any_eq_true]
  constructor
  · rintro ⟨verdict, member, accepted⟩
    obtain ⟨formula, compiles, accepts⟩ := holds.mem_evaluateAll.1 member
    exact ⟨_, _, formula, compiles, accepts.symm.trans accepted⟩
  · rintro ⟨index, expression, formula, compiles, accepts⟩
    exact ⟨⟨index, expression, true⟩, holds.mem_evaluateAll.2 ⟨formula, compiles, accepts.symm⟩,
      rfl⟩

theorem process_of_gate (holds : set.Holds expressions) (gate : set.mode = .filter .gate) :
    (set.process packet = .output 0 ↔ ∃ index, MatchesAt expressions packet index) ∧
      ((∀ index, ¬ MatchesAt expressions packet index) → set.process packet = .drop) := by
  have decided : set.process packet =
      if (set.evaluateAll packet).any Verdict.accepted then .output 0 else .drop := by
    simp [process, filter, gate, Mode.action]
  rw [decided, ← holds.any_accepted_iff]
  constructor
  · by_cases accepted : (set.evaluateAll packet).any Verdict.accepted <;> simp [accepted]
  · intro unmatched
    rw [if_neg]
    rw [holds.any_accepted_iff]
    rintro ⟨index, matching⟩
    exact unmatched index matching

theorem answers (holds : set.Holds expressions) (packet : Packet) :
    set.Answers expressions packet where
  verdicts _ := holds.mem_evaluateAll
  ordered := by
    rw [evaluateAll, List.map_map]
    exact holds.outputs
  least _ matching least := holds.classify_of_least matching least
  unmatched unmatched := by
    rw [classify_eq_getD, holds.firstAccepting?_eq_none_iff.2 unmatched]
    rfl
  firstVerdict := by
    rw [classify_eq_getD, find?_evaluateAll, Option.map_map]
    rfl
  classifies output classifier := by rw [process, classifier]
  logs logOnly := by simp [process, filter, logOnly, Mode.action]
  gates gate := holds.process_of_gate gate

end Holds

/-- A list of expressions is no set exactly if the default output lies beyond it. In a set every
expression keeps its place, among the programs or among the rejections, the answers for every
packet tell these places, and expressions that are no filters have no part in them. -/
theorem compile_keeps_places (expressions : List String) (mode : Mode) :
    (∀ error, compile expressions mode = .error error ↔
      ∃ output, mode = .classifier (some output) ∧ expressions.length < output ∧
        error = .defaultOutputOutOfRange output expressions.length) ∧
    ∀ set, compile expressions mode = .ok set →
      set.mode = mode ∧ set.Holds expressions ∧
      (∀ packet, set.Answers expressions packet) ∧
      ∀ others other, compile others mode = .ok other →
        (∀ index expression formula, CompilesAt expressions index expression formula ↔
          CompilesAt others index expression formula) →
        other.programs = set.programs ∧
          ∀ packet, other.evaluateAll packet = set.evaluateAll packet ∧
            other.classify packet = set.classify packet ∧
            other.process packet = set.process packet := by
  refine ⟨fun error => ?_, fun set compiled => ?_⟩
  · simp only [compile_eq_error_iff, Mode.defaultOutput_eq_some_iff]
  · obtain ⟨_, rfl⟩ := compile_eq_ok_iff.1 compiled
    have holds : (compile.build expressions mode).Holds expressions := holds_build
    refine ⟨rfl, holds, holds.answers, fun others other compiledOther same => ?_⟩
    obtain ⟨_, rfl⟩ := compile_eq_ok_iff.1 compiledOther
    have otherHolds : (compile.build others mode).Holds others := holds_build
    have programs := holds.programs_eq otherHolds same
    exact ⟨programs, fun packet => answers_congr programs rfl packet⟩

theorem compile_keeps_places_of_rejections :
    let mode := Mode.classifier (some 3)
    let programs : List Program :=
      [⟨0, "frag", .test (.bind .fragment none false)⟩,
       ⟨2, "ip", .test (.bind (.numeric .version 4) none false)⟩]
    let set : ProgramSet :=
      ⟨programs, [⟨1, "or", .incomplete "'or' is missing its left operand"⟩], mode⟩
    let other : ProgramSet := ⟨programs, [⟨1, "(", .unbalancedParenthesis⟩], mode⟩
    let packet : Packet := ⟨0x45 :: List.replicate 19 0, none, some 0, 20⟩
    compile ["frag", "or", "ip"] (.classifier (some 4)) = .error (.defaultOutputOutOfRange 4 3) ∧
      compile ["frag", "or", "ip"] mode = .ok set ∧
      compile ["frag", "(", "ip"] mode = .ok other ∧
      set.classify packet = .output 2 ∧
      other.process packet = set.process packet := by
  intro mode programs set other packet
  have compiled : compile ["frag", "or", "ip"] mode = .ok set :=
    eq_ok_of_toOption (by decide +kernel)
  have compiledOther : compile ["frag", "(", "ip"] mode = .ok other :=
    eq_ok_of_toOption (by decide +kernel)
  obtain ⟨_, holds, answers, unmoved⟩ := (compile_keeps_places _ _).2 set compiled
  obtain ⟨_, otherHolds, _⟩ := (compile_keeps_places _ _).2 other compiledOther
  have fails := (holds.rejections _).1 List.mem_cons_self
  have otherFails := (otherHolds.rejections _).1 List.mem_cons_self
  have same : ∀ index expression formula,
      CompilesAt ["frag", "or", "ip"] index expression formula ↔
        CompilesAt ["frag", "(", "ip"] index expression formula := by
    rintro (_ | _ | index) expression formula
    · exact Iff.rfl
    · exact iff_of_false (fun compiles => not_failsAt_of_compilesAt compiles fails)
        fun compiles => not_failsAt_of_compilesAt compiles otherFails
    · exact Iff.rfl
  obtain ⟨_, unchanged⟩ := unmoved _ other compiledOther same
  refine ⟨?_, compiled, compiledOther, ?_, (unchanged packet).2.2⟩
  · exact ((compile_keeps_places _ _).1 _).2 ⟨4, rfl, by decide, rfl⟩
  · exact (answers packet).firstVerdict.trans (by decide)

end ProgramSet

end PacketFilter
