import PacketFilter.ProgramSet.Basic

/-!
What a set of expressions is compiled to. Every expression is in the set at its own place, as a
program or as a rejection, and the set holds nothing else. Neither list is told the places of the
other, so an expression that is no filter moves no program.
-/

namespace PacketFilter.ProgramSet

def CompilesAt (expressions : List String) (index : Nat) (expression : String)
    (formula : Formula) : Prop :=
  expressions[index]? = some expression ∧ Formula.compile expression = .ok formula

def FailsAt (expressions : List String) (index : Nat) (expression : String)
    (error : FilterError) : Prop :=
  expressions[index]? = some expression ∧ Formula.compile expression = .error error

/-- A set holds every expression at its place, and nothing else. -/
structure Holds (set : ProgramSet) (expressions : List String) : Prop where
  programs : ∀ program, program ∈ set.programs ↔
    CompilesAt expressions program.output program.expression program.formula
  rejections : ∀ rejection, rejection ∈ set.rejections ↔
    FailsAt expressions rejection.index rejection.expression rejection.error
  outputs : (set.programs.map Program.output).Pairwise (· < ·)
  indices : (set.rejections.map Rejection.index).Pairwise (· < ·)
  places : (set.programs.map Program.output ++ set.rejections.map Rejection.index).Perm
    (List.range expressions.length)

section Entries

/-! Entries that are made of the items of a list, each for one item at most, and that tell the place
and the text of their item. -/

variable {α : Type} {list : List String} {attempt : String → Nat → Option α}
variable {place : α → Nat} {text : α → String} {Fits : String → α → Prop}

theorem mem_filterMap_zipIdx
    (made : ∀ {item index entry}, attempt item index = some entry ↔
      place entry = index ∧ text entry = item ∧ Fits item entry) {entry : α} :
    entry ∈ (list.zipIdx.filterMap fun (item, index) => attempt item index) ↔
      list[place entry]? = some (text entry) ∧ Fits (text entry) entry := by
  rw [List.mem_filterMap]
  constructor
  · rintro ⟨⟨item, index⟩, member, found⟩
    obtain ⟨rfl, rfl, fits⟩ := made.1 found
    exact ⟨List.mk_mem_zipIdx_iff_getElem?.1 member, fits⟩
  · rintro ⟨stands, fits⟩
    exact ⟨(text entry, place entry), List.mk_mem_zipIdx_iff_getElem?.2 stands,
      made.2 ⟨rfl, rfl, fits⟩⟩

theorem pairwise_place_filterMap_zipIdx
    (made : ∀ {item index entry}, attempt item index = some entry ↔
      place entry = index ∧ text entry = item ∧ Fits item entry) :
    ((list.zipIdx.filterMap fun (item, index) => attempt item index).map place).Pairwise
      (· < ·) := by
  have ordered : list.zipIdx.Pairwise fun first second => first.2 < second.2 := by
    rw [← List.pairwise_map, List.zipIdx_map_snd]
    exact List.pairwise_lt_range' 1
  rw [List.pairwise_map, List.pairwise_filterMap]
  refine ordered.imp fun before entry found other foundOther => ?_
  rw [(made.1 found).1, (made.1 foundOther).1]
  exact before

end Entries

theorem program?_eq_some_iff {expression : String} {index : Nat} {program : Program} :
    program? expression index = some program ↔ program.output = index ∧
      program.expression = expression ∧ Formula.compile expression = .ok program.formula := by
  obtain ⟨output, text, formula⟩ := program
  unfold program?
  cases Formula.compile expression with
  | ok found => simp [eq_comm]
  | error error => simp

theorem rejection?_eq_some_iff {expression : String} {index : Nat} {rejection : Rejection} :
    rejection? expression index = some rejection ↔ rejection.index = index ∧
      rejection.expression = expression ∧
      Formula.compile expression = .error rejection.error := by
  obtain ⟨place, text, error⟩ := rejection
  unfold rejection?
  cases Formula.compile expression with
  | ok formula => simp
  | error found => simp [eq_comm]

section Build

variable {expressions : List String} {mode : Mode}

theorem mem_programs_build {program : Program} :
    program ∈ (compile.build expressions mode).programs ↔
      CompilesAt expressions program.output program.expression program.formula :=
  mem_filterMap_zipIdx program?_eq_some_iff

theorem mem_rejections_build {rejection : Rejection} :
    rejection ∈ (compile.build expressions mode).rejections ↔
      FailsAt expressions rejection.index rejection.expression rejection.error :=
  mem_filterMap_zipIdx rejection?_eq_some_iff

theorem pairwise_outputs_build :
    ((compile.build expressions mode).programs.map Program.output).Pairwise (· < ·) :=
  pairwise_place_filterMap_zipIdx program?_eq_some_iff

theorem pairwise_indices_build :
    ((compile.build expressions mode).rejections.map Rejection.index).Pairwise (· < ·) :=
  pairwise_place_filterMap_zipIdx rejection?_eq_some_iff

theorem mem_outputs_build {index : Nat} :
    index ∈ (compile.build expressions mode).programs.map Program.output ↔
      ∃ expression formula, CompilesAt expressions index expression formula := by
  rw [List.mem_map]
  constructor
  · rintro ⟨program, member, rfl⟩
    exact ⟨_, _, mem_programs_build.1 member⟩
  · rintro ⟨expression, formula, compiles⟩
    exact ⟨⟨index, expression, formula⟩, mem_programs_build.2 compiles, rfl⟩

theorem mem_indices_build {index : Nat} :
    index ∈ (compile.build expressions mode).rejections.map Rejection.index ↔
      ∃ expression error, FailsAt expressions index expression error := by
  rw [List.mem_map]
  constructor
  · rintro ⟨rejection, member, rfl⟩
    exact ⟨_, _, mem_rejections_build.1 member⟩
  · rintro ⟨expression, error, fails⟩
    exact ⟨⟨index, expression, error⟩, mem_rejections_build.2 fails, rfl⟩

theorem not_failsAt_of_compilesAt {index : Nat} {expression other : String} {formula : Formula}
    {error : FilterError} (compiles : CompilesAt expressions index expression formula) :
    ¬ FailsAt expressions index other error := by
  rintro ⟨stands, failed⟩
  obtain rfl := Option.some.inj (compiles.1.symm.trans stands)
  cases compiles.2.symm.trans failed

theorem lt_length_iff {index : Nat} : index < expressions.length ↔
    (∃ expression formula, CompilesAt expressions index expression formula) ∨
      ∃ expression error, FailsAt expressions index expression error := by
  constructor
  · intro inside
    have stands : expressions[index]? = some expressions[index] := List.getElem?_eq_getElem inside
    cases compiled : Formula.compile expressions[index] with
    | ok formula => exact .inl ⟨_, formula, stands, compiled⟩
    | error error => exact .inr ⟨_, error, stands, compiled⟩
  · rintro (⟨expression, formula, stands, _⟩ | ⟨expression, error, stands, _⟩)
    · exact (List.getElem?_eq_some_iff.1 stands).1
    · exact (List.getElem?_eq_some_iff.1 stands).1

theorem holds_build : (compile.build expressions mode).Holds expressions where
  programs _ := mem_programs_build
  rejections _ := mem_rejections_build
  outputs := pairwise_outputs_build
  indices := pairwise_indices_build
  places := by
    have outputs : ((compile.build expressions mode).programs.map Program.output).Nodup :=
      pairwise_outputs_build.imp Nat.ne_of_lt
    have indices : ((compile.build expressions mode).rejections.map Rejection.index).Nodup :=
      pairwise_indices_build.imp Nat.ne_of_lt
    refine (List.perm_ext_iff_of_nodup ?_ List.nodup_range).2 fun index => ?_
    · refine List.nodup_append.2 ⟨outputs, indices, ?_⟩
      rintro output memberOutput index memberIndex rfl
      obtain ⟨_, _, compiles⟩ := mem_outputs_build.1 memberOutput
      obtain ⟨_, _, fails⟩ := mem_indices_build.1 memberIndex
      exact not_failsAt_of_compilesAt compiles fails
    · rw [List.mem_append, mem_outputs_build, mem_indices_build, List.mem_range, lt_length_iff]

end Build

/-- Only the default output of a classifier can make a list of expressions no set. -/
theorem compile_eq_ok_iff {expressions : List String} {mode : Mode} {set : ProgramSet} :
    compile expressions mode = .ok set ↔
      (∀ output, mode.defaultOutput = some output → output ≤ expressions.length) ∧
        set = compile.build expressions mode := by
  unfold compile
  cases mode.defaultOutput with
  | none => simp [eq_comm]
  | some output =>
      by_cases outside : expressions.length < output
      · have excluded : ¬ output ≤ expressions.length := Nat.not_le.2 outside
        simp [outside, excluded]
      · simp [outside, Nat.not_lt.1 outside, eq_comm]

theorem compile_eq_error_iff {expressions : List String} {mode : Mode} {error : FilterError} :
    compile expressions mode = .error error ↔
      ∃ output, mode.defaultOutput = some output ∧ expressions.length < output ∧
        error = .defaultOutputOutOfRange output expressions.length := by
  unfold compile
  cases mode.defaultOutput with
  | none => simp
  | some output =>
      by_cases outside : expressions.length < output
      · simp [outside, eq_comm]
      · simp [outside]

namespace Holds

variable {set other : ProgramSet} {expressions others : List String}

/-- The programs of a set depend on nothing but the filters at their places. -/
theorem programs_eq (holds : set.Holds expressions) (otherHolds : other.Holds others)
    (same : ∀ index expression formula, CompilesAt expressions index expression formula ↔
      CompilesAt others index expression formula) : other.programs = set.programs := by
  have ordered := List.pairwise_map.1 holds.outputs
  have otherOrdered := List.pairwise_map.1 otherHolds.outputs
  have distinct : ∀ {first second : Program}, first.output < second.output → first ≠ second := by
    rintro first second before rfl
    exact Nat.lt_irrefl _ before
  refine List.Perm.eq_of_pairwise ?_ otherOrdered ordered ?_
  · intro first second _ _ before behind
    exact absurd before (Nat.lt_asymm behind)
  · refine (List.perm_ext_iff_of_nodup (otherOrdered.imp distinct) (ordered.imp distinct)).2 ?_
    intro program
    rw [otherHolds.programs, holds.programs, same]

end Holds

end PacketFilter.ProgramSet
