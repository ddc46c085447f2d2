import PacketFilter.Proofs.Handle.Run

/-!
What a cell holds. While no swap of a cell is interrupted, the cell holds what was installed last,
so everything that is asked of it is answered with that set, and the sets that swaps gave back are
those that were installed, in the same order, without the last one.
-/

namespace PacketFilter.Registry

variable {requests : List Request} {number i j k : Nat}

/-- The request at a place of a run swaps the set of the cell for one that can be built. -/
def SwappedAt (requests : List Request) (number i : Nat) : Prop :=
  ∃ config set, askedAt? requests number i = some (.swap config) ∧
    ProgramSet.ofConfig config = .ok set

def InterruptedAt (requests : List Request) (number i : Nat) : Prop :=
  ∃ config set, askedAt? requests number i = some (.interruptedSwap config) ∧
    ProgramSet.ofConfig config = .ok set

/-- The set of the configuration, as the request of the given number installs it. -/
def built? (request : Nat) (config : Config) : Option Snapshot :=
  match ProgramSet.ofConfig config with
  | .ok set => some ⟨request, set⟩
  | .error _ => none

/-- What an operation installs in a cell, unless its lock cannot be taken. -/
def installed? (request : Nat) : Operation → Option Snapshot
  | .swap config => built? request config
  | .load | .process _ | .interruptedSwap _ => none

def installedAt? (requests : List Request) (number i : Nat) : Option Snapshot :=
  match requests[i]? with
  | some (.create config) =>
      if (stateAt requests i).cells.length = number then built? i config else none
  | _ => (askedAt? requests number i).bind (installed? i)

/-- What the first requests of a run install in the cell, in order. -/
def history (requests : List Request) (number i : Nat) : List Snapshot :=
  (List.range i).filterMap (installedAt? requests number)

/-- What the request at a place of a run gets back for a set that it swaps into the cell. -/
def replacedAt? (requests : List Request) (number i : Nat) : Option Snapshot :=
  match askedAt? requests number i, (replies requests)[i]? with
  | some (.swap _), some (.snapshot snapshot) => some snapshot
  | _, _ => none

def replaced (requests : List Request) (number i : Nat) : List Snapshot :=
  (List.range i).filterMap (replacedAt? requests number)

section Installations

variable {config : Config} {set : ProgramSet} {snapshot : Snapshot} {operation : Operation}

theorem built?_of_ok (built : ProgramSet.ofConfig config = .ok set) :
    built? i config = some ⟨i, set⟩ := by
  rw [built?, built]

theorem built?_of_error {error : FilterError} (failed : ProgramSet.ofConfig config = .error error) :
    built? i config = none := by
  rw [built?, failed]

theorem request_of_built? (built : built? i config = some snapshot) : snapshot.request = i := by
  rw [built?] at built
  split at built
  · cases built
    rfl
  · contradiction

theorem request_of_installed? (installed : installed? i operation = some snapshot) :
    snapshot.request = i := by
  cases operation with
  | swap config => exact request_of_built? installed
  | load | process packet | interruptedSwap config => contradiction

theorem installed?_of_refusal {error : FilterError} (refused : operation.refusal? = some error) :
    installed? i operation = none := by
  cases operation with
  | load | process packet | interruptedSwap config => rfl
  | swap config =>
      rw [Operation.refusal?] at refused
      cases built : ProgramSet.ofConfig config with
      | ok set => simp [built] at refused
      | error error => rw [installed?, built?_of_error built]

theorem installedAt?_of_asked (asked : askedAt? requests number i = some operation) :
    installedAt? requests number i = installed? i operation := by
  obtain ⟨handle, here, _⟩ := askedAt?_eq_some_iff.1 asked
  rw [installedAt?, here, asked]
  rfl

theorem installedAt?_of_create (here : requests[i]? = some (.create config)) :
    installedAt? requests number i =
      if (stateAt requests i).cells.length = number then built? i config else none := by
  rw [installedAt?, here]

/-- What is installed without being asked of the cell is the first set of a new cell. -/
theorem create_of_installedAt? (idle : askedAt? requests number i = none)
    (installed : installedAt? requests number i = some snapshot) :
    (stateAt requests i).cells.length = number ∧
      ∃ config, requests[i]? = some (.create config) ∧ built? i config = some snapshot := by
  rw [installedAt?] at installed
  split at installed
  case h_1 config here =>
    split at installed
    case isTrue fresh => exact ⟨fresh, config, here, installed⟩
    case isFalse => contradiction
  case h_2 =>
    rw [idle] at installed
    contradiction

theorem request_of_installedAt? (installed : installedAt? requests number i = some snapshot) :
    snapshot.request = i := by
  cases asked : askedAt? requests number i with
  | none =>
      obtain ⟨_, config, _, built⟩ := create_of_installedAt? asked installed
      exact request_of_built? built
  | some operation =>
      rw [installedAt?_of_asked asked] at installed
      exact request_of_installed? installed

theorem history_succ : history requests number (i + 1) =
    history requests number i ++ (installedAt? requests number i).toList := by
  rw [history, List.range_succ, List.filterMap_append]
  cases installed : installedAt? requests number i <;> simp [history, installed]

theorem replaced_succ : replaced requests number (i + 1) =
    replaced requests number i ++ (replacedAt? requests number i).toList := by
  rw [replaced, List.range_succ, List.filterMap_append]
  cases given : replacedAt? requests number i <;> simp [replaced, given]

theorem mem_history_iff : snapshot ∈ history requests number i ↔
    snapshot.request < i ∧ installedAt? requests number snapshot.request = some snapshot := by
  rw [history, List.mem_filterMap]
  constructor
  · rintro ⟨place, before, installed⟩
    rw [request_of_installedAt? installed]
    exact ⟨List.mem_range.1 before, installed⟩
  · rintro ⟨before, installed⟩
    exact ⟨_, List.mem_range.2 before, installed⟩

theorem pairwise_history (requests : List Request) (number i : Nat) :
    (history requests number i).Pairwise (·.request < ·.request) := by
  refine List.Pairwise.filterMap _ ?_ List.pairwise_lt_range
  intro first second before earlier installed later installedLater
  rwa [request_of_installedAt? installed, request_of_installedAt? installedLater]

end Installations

section Calm

variable {operation : Operation} {reply : Reply} {cell next : Cell}

theorem next_of_calm (step : cell.Steps i operation reply next) (healthy : cell.isPoisoned = false)
    (calm : ∀ config set, operation = .interruptedSwap config →
      ProgramSet.ofConfig config ≠ .ok set) :
    next = ⟨(installed? i operation).getD cell.installed, false⟩ := by
  rcases cell with ⟨installed, poisoned⟩
  cases healthy
  cases step with
  | refused refused => rw [installed?_of_refusal refused, Option.getD_none]
  | locked attempted poisoned => contradiction
  | loaded | processed => rfl
  | swapped built => rw [installed?, built?_of_ok built, Option.getD_some]
  | interrupted built => exact absurd built (calm _ _ rfl)

theorem lt_length_of_asked (asked : askedAt? requests number i = some operation) :
    number < (stateAt requests i).cells.length := by
  obtain ⟨handle, _, known⟩ := askedAt?_eq_some_iff.1 asked
  exact linked_stateAt.lt_length known

theorem cell_of_not_asked (inside : number < (stateAt requests i).cells.length)
    (idle : askedAt? requests number i = none) :
    (stateAt requests (i + 1)).cells[number]? = (stateAt requests i).cells[number]? := by
  cases here : requests[i]? with
  | none => rw [stateAt_succ_of_none here]
  | some request =>
      obtain ⟨reply, _, steps⟩ := steps_stateAt here
      rw [askedAt?, here] at idle
      exact steps.cell_eq inside idle

/-- A cell that is not made yet is made with the first set that is installed in it. -/
theorem cell_of_outside (outside : (stateAt requests i).cells.length ≤ number) :
    (stateAt requests (i + 1)).cells[number]? =
      (installedAt? requests number i).map fun snapshot => ⟨snapshot, false⟩ := by
  have idle : askedAt? requests number i = none := by
    cases asked : askedAt? requests number i with
    | none => rfl
    | some operation => exact absurd (lt_length_of_asked asked) (Nat.not_lt.2 outside)
  cases here : requests[i]? with
  | none =>
      rw [stateAt_succ_of_none here, List.getElem?_eq_none outside, installedAt?, here, idle]
      rfl
  | some request =>
      obtain ⟨reply, _, steps⟩ := steps_stateAt here
      have count := requests_stateAt_of_request here
      generalize stateAt requests (i + 1) = after at steps ⊢
      cases steps with
      | created built =>
          rw [installedAt?_of_create here]
          by_cases fresh : (stateAt requests i).cells.length = number
          · subst fresh
            rw [if_pos rfl, built?_of_ok built, count]
            exact List.getElem?_concat_length
          · rw [if_neg fresh]
            apply List.getElem?_eq_none
            simp only [List.length_append, List.length_singleton]
            omega
      | refused failed =>
          rw [installedAt?_of_create here, built?_of_error failed, ite_self]
          exact List.getElem?_eq_none outside
      | asked =>
          rw [installedAt?, here, idle]
          exact List.getElem?_eq_none (by rwa [List.length_set])
      | cloned =>
          rw [installedAt?, here, idle]
          exact List.getElem?_eq_none outside
      | unknown missing request =>
          rcases request with rfl | ⟨operation, rfl⟩
          all_goals
            rw [installedAt?, here, idle]
            exact List.getElem?_eq_none outside

/-- A cell in which no swap was interrupted holds what was installed last. -/
theorem cell_of_calm (calm : ∀ i, i < k → ¬ InterruptedAt requests number i) :
    (stateAt requests k).cells[number]? =
      (history requests number k).getLast?.map fun snapshot => ⟨snapshot, false⟩ := by
  induction k with
  | zero => rfl
  | succ k inductionHypothesis =>
      have held := inductionHypothesis fun i before => calm i (Nat.lt_succ_of_lt before)
      rw [history_succ, List.getLast?_append]
      cases asked : askedAt? requests number k with
      | some operation =>
          obtain ⟨cell, next, reply, found, step, _, after⟩ := steps_of_askedAt? asked
          obtain ⟨snapshot, last, rfl⟩ := Option.map_eq_some_iff.1 (held.symm.trans found)
          have calmly := next_of_calm step rfl fun config set interrupted built =>
            calm k (Nat.lt_succ_self k) ⟨config, set, interrupted ▸ asked, built⟩
          rw [after, List.getElem?_set_self (lt_length_of_asked asked), calmly,
            installedAt?_of_asked asked, last]
          cases installed? k operation <;> rfl
      | none =>
          -- Unasked, a cell that is there stays, and one that is not may be made.
          by_cases inside : number < (stateAt requests k).cells.length
          · have nothing : installedAt? requests number k = none := by
              cases installed : installedAt? requests number k with
              | none => rfl
              | some snapshot =>
                  obtain ⟨fresh, _⟩ := create_of_installedAt? asked installed
                  exact absurd inside (Nat.not_lt_of_le (Nat.le_of_eq fresh))
            rw [cell_of_not_asked inside asked, held, nothing]
            rfl
          · have outside := Nat.not_lt.1 inside
            have empty : (history requests number k).getLast? = none := by
              rw [List.getElem?_eq_none outside] at held
              exact Option.map_eq_none_iff.1 held.symm
            rw [cell_of_outside outside, empty, Option.or_none]
            cases installedAt? requests number k <;> rfl

theorem steps_of_calm (calm : ∀ j, j < i → ¬ InterruptedAt requests number j)
    (asked : askedAt? requests number i = some operation) :
    ∃ snapshot next reply, (history requests number i).getLast? = some snapshot ∧
      Cell.Steps ⟨snapshot, false⟩ i operation reply next ∧
      (replies requests)[i]? = some reply ∧
      stateAt requests (i + 1) =
        ⟨(stateAt requests i).cells.set number next, (stateAt requests i).handles, i + 1⟩ := by
  obtain ⟨cell, next, reply, found, step, replied, after⟩ := steps_of_askedAt? asked
  rw [cell_of_calm calm] at found
  obtain ⟨snapshot, last, rfl⟩ := Option.map_eq_some_iff.1 found
  exact ⟨snapshot, next, reply, last, step, replied, after⟩

theorem history_of_outside (calm : ∀ j, j < i → ¬ InterruptedAt requests number j)
    (outside : (stateAt requests i).cells.length ≤ number) : history requests number i = [] := by
  have held := cell_of_calm calm
  rw [List.getElem?_eq_none outside] at held
  exact List.getLast?_eq_none_iff.1 (Option.map_eq_none_iff.1 held.symm)

theorem replacedAt?_eq (calm : ∀ j, j < i → ¬ InterruptedAt requests number j) :
    replacedAt? requests number i =
      (installedAt? requests number i).bind fun _ => (history requests number i).getLast? := by
  cases asked : askedAt? requests number i with
  | none =>
      rw [replacedAt?, asked]
      cases installed : installedAt? requests number i with
      | none => rfl
      | some snapshot =>
          obtain ⟨fresh, _⟩ := create_of_installedAt? asked installed
          rw [history_of_outside calm (Nat.le_of_eq fresh)]
          rfl
  | some operation =>
      obtain ⟨snapshot, next, reply, last, step, replied, _⟩ := steps_of_calm calm asked
      rw [installedAt?_of_asked asked, replacedAt?, asked, replied, last]
      cases step with
      | loaded | processed | interrupted => rfl
      | swapped built =>
          rw [installed?, built?_of_ok built]
          rfl
      | locked attempted poisoned => contradiction
      | refused refused =>
          rw [installed?_of_refusal refused]
          cases operation <;> rfl

/-- What the swaps of a cell gave back, and then what it holds, is what was installed in it. -/
theorem replaced_append_last (calm : ∀ j, j < i → ¬ InterruptedAt requests number j) :
    replaced requests number i ++ (history requests number i).getLast?.toList =
      history requests number i := by
  induction i with
  | zero => rfl
  | succ i inductionHypothesis =>
      have before : ∀ j, j < i → ¬ InterruptedAt requests number j :=
        fun j earlier => calm j (Nat.lt_succ_of_lt earlier)
      have ordered := inductionHypothesis before
      rw [replaced_succ, history_succ, replacedAt?_eq before]
      cases installedAt? requests number i with
      | none => simpa using ordered
      | some snapshot =>
          -- What was last is given back, and what is installed takes its place.
          rw [Option.bind_some, ordered, Option.toList_some, List.getLast?_concat,
            Option.toList_some]

end Calm

section Order

variable {snapshot first second : Snapshot}

theorem mem_of_last (last : (history requests number i).getLast? = some snapshot) :
    snapshot ∈ history requests number i := by
  obtain ⟨earlier, whole⟩ := List.getLast?_eq_some_iff.1 last
  rw [whole]
  exact List.mem_concat_self

theorem request_le_of_last (last : (history requests number i).getLast? = some second)
    (member : first ∈ history requests number i) : first.request ≤ second.request := by
  obtain ⟨earlier, whole⟩ := List.getLast?_eq_some_iff.1 last
  have ordered := pairwise_history requests number i
  rw [whole] at ordered member
  rcases List.mem_append.1 member with before | same
  · exact Nat.le_of_lt ((List.pairwise_append.1 ordered).2.2 _ before _ (List.mem_singleton_self _))
  · exact Nat.le_of_eq (congrArg Snapshot.request (List.mem_singleton.1 same))

theorem length_cells_le_of_le (later : i ≤ j) :
    (stateAt requests i).cells.length ≤ (stateAt requests j).cells.length := by
  apply stateAt_induction
    (fun registry : Registry => (stateAt requests i).cells.length ≤ registry.cells.length)
    (Nat.le_refl _) _ later
  intro k request reply here steps kept
  exact Nat.le_trans kept steps.length_cells_le

theorem swappedAt_iff (inside : number < (stateAt requests i).cells.length) :
    SwappedAt requests number i ↔ ∃ snapshot, installedAt? requests number i = some snapshot := by
  constructor
  · rintro ⟨config, set, asked, built⟩
    refine ⟨⟨i, set⟩, ?_⟩
    rw [installedAt?_of_asked asked, installed?, built?_of_ok built]
  · rintro ⟨snapshot, installed⟩
    cases asked : askedAt? requests number i with
    | none =>
        obtain ⟨fresh, _⟩ := create_of_installedAt? asked installed
        exact absurd inside (Nat.not_lt_of_le (Nat.le_of_eq fresh))
    | some operation =>
        rw [installedAt?_of_asked asked] at installed
        cases operation with
        | load | process packet | interruptedSwap config => contradiction
        | swap config =>
            rw [installed?, built?] at installed
            cases built : ProgramSet.ofConfig config with
            | ok set => exact ⟨config, set, asked, built⟩
            | error error => simp [built] at installed

theorem request_eq_iff_not_swappedAt (later : i ≤ j)
    (inside : number < (stateAt requests i).cells.length)
    (last : (history requests number i).getLast? = some first)
    (lastLater : (history requests number j).getLast? = some second) :
    first.request = second.request ↔ ∀ k, i ≤ k → k < j → ¬ SwappedAt requests number k := by
  obtain ⟨before, installed⟩ := mem_history_iff.1 (mem_of_last last)
  obtain ⟨beforeLater, installedLater⟩ := mem_history_iff.1 (mem_of_last lastLater)
  have firstInside := fun k (from_ : i ≤ k) =>
    Nat.lt_of_lt_of_le inside (length_cells_le_of_le from_)
  constructor
  · intro same k from_ until_ swapped
    obtain ⟨new, installedNew⟩ := (swappedAt_iff (firstInside k from_)).1 swapped
    obtain rfl := request_of_installedAt? installedNew
    have member := mem_history_iff.2 ⟨until_, installedNew⟩
    have bound := request_le_of_last lastLater member
    omega
  · intro untouched
    have early : second.request < i := by
      apply Nat.lt_of_not_le
      intro from_
      exact untouched _ from_ beforeLater
        ((swappedAt_iff (firstInside _ from_)).2 ⟨second, installedLater⟩)
    apply Nat.le_antisymm
    · exact request_le_of_last lastLater
        (mem_history_iff.2 ⟨Nat.lt_of_lt_of_le before later, installed⟩)
    · exact request_le_of_last last (mem_history_iff.2 ⟨early, installedLater⟩)

end Order

/-- Everything that is asked of a cell is answered with what was installed in it last. -/
structure AnswersWithLast (requests : List Request) (number : Nat) : Prop where
  /-- The first set is the one that the cell is made with. -/
  initial : ∀ i config set handle, requests[i]? = some (.create config) →
    ProgramSet.ofConfig config = .ok set → (replies requests)[i]? = some (.handle handle) →
    (stateAt requests (i + 1)).cellOf? handle = some number →
    history requests number (i + 1) = [⟨i, set⟩]
  loads : ∀ i, askedAt? requests number i = some .load →
    ∃ snapshot, (history requests number i).getLast? = some snapshot ∧
      (replies requests)[i]? = some (.snapshot snapshot)
  processes : ∀ i packet, askedAt? requests number i = some (.process packet) →
    ∃ snapshot, (history requests number i).getLast? = some snapshot ∧
      (replies requests)[i]? = some (.dispatch (snapshot.set.process packet))
  swaps : ∀ i config set, askedAt? requests number i = some (.swap config) →
    ProgramSet.ofConfig config = .ok set →
    ∃ snapshot, (history requests number i).getLast? = some snapshot ∧
      (replies requests)[i]? = some (.snapshot snapshot) ∧
      history requests number (i + 1) = history requests number i ++ [⟨i, set⟩]
  /-- A set that cannot be built changes nothing. -/
  refuses : ∀ i operation error, askedAt? requests number i = some operation →
    operation.refusal? = some error →
    (replies requests)[i]? = some (.failed error) ∧
      history requests number (i + 1) = history requests number i ∧
      stateAt requests (i + 1) = { stateAt requests i with requests := i + 1 }
  /-- What swaps gave back, and then what a load gives, is what was installed. -/
  ordered : ∀ i snapshot, askedAt? requests number i = some .load →
    (replies requests)[i]? = some (.snapshot snapshot) →
    replaced requests number i ++ [snapshot] = history requests number i
  once : ∀ i, (history requests number i).Pairwise (·.request < ·.request)
  /-- Loads are told apart by the swaps between them and by nothing else. -/
  told : ∀ i j first second, i ≤ j →
    askedAt? requests number i = some .load → (replies requests)[i]? = some (.snapshot first) →
    askedAt? requests number j = some .load → (replies requests)[j]? = some (.snapshot second) →
    (first.request = second.request ↔ ∀ k, i ≤ k → k < j → ¬ SwappedAt requests number k)
  handles : Shares requests
  snapshots : KeepsSnapshots requests

section Calm

variable (calm : ∀ i, ¬ InterruptedAt requests number i)
include calm

theorem last_of_load {snapshot : Snapshot} (asked : askedAt? requests number i = some .load)
    (replied : (replies requests)[i]? = some (.snapshot snapshot)) :
    (history requests number i).getLast? = some snapshot := by
  obtain ⟨installed, next, reply, last, step, given, _⟩ :=
    steps_of_calm (fun j _ => calm j) asked
  cases given.symm.trans replied
  cases step with
  | loaded => exact last

theorem answersWithLast_of_calm : AnswersWithLast requests number where
  initial i config set handle here built replied reached := by
    obtain ⟨reply, given, steps⟩ := steps_stateAt here
    obtain ⟨rfl, after⟩ := steps.of_create built
    cases given.symm.trans replied
    -- The new cell is the last one, so its number is the count of those before it.
    have fresh : (stateAt requests i).cells.length = number := by
      rw [after, cellOf?, List.getElem?_concat_length] at reached
      exact Option.some.inj reached
    have nothing := history_of_outside (fun j (_ : j < i) => calm j) (Nat.le_of_eq fresh)
    rw [history_succ, nothing, installedAt?_of_create here, if_pos fresh, built?_of_ok built]
    rfl
  loads i asked := by
    obtain ⟨snapshot, next, reply, last, step, replied, _⟩ :=
      steps_of_calm (fun j _ => calm j) asked
    refine ⟨snapshot, last, ?_⟩
    cases step with
    | loaded => exact replied
    | refused refused => contradiction
    | locked attempted poisoned => contradiction
  processes i packet asked := by
    obtain ⟨snapshot, next, reply, last, step, replied, _⟩ :=
      steps_of_calm (fun j _ => calm j) asked
    refine ⟨snapshot, last, ?_⟩
    cases step with
    | processed => exact replied
    | refused refused => contradiction
    | locked attempted poisoned => contradiction
  swaps i config set asked built := by
    obtain ⟨snapshot, next, reply, last, step, replied, _⟩ :=
      steps_of_calm (fun j _ => calm j) asked
    refine ⟨snapshot, last, ?_, ?_⟩
    · cases step with
      | swapped => exact replied
      | refused refused =>
          rw [Operation.refusal?, built] at refused
          contradiction
      | locked attempted poisoned => contradiction
    · rw [history_succ, installedAt?_of_asked asked, installed?, built?_of_ok built]
      rfl
  refuses i operation error asked refused := by
    obtain ⟨replied, after⟩ := replied_of_refusal asked refused
    refine ⟨replied, ?_, after⟩
    rw [history_succ, installedAt?_of_asked asked, installed?_of_refusal refused]
    exact List.append_nil _
  ordered i snapshot asked replied := by
    have ordered := replaced_append_last fun j (_ : j < i) => calm j
    rwa [last_of_load calm asked replied] at ordered
  once i := pairwise_history requests number i
  told i j first second later asked replied askedLater repliedLater :=
    request_eq_iff_not_swappedAt later (lt_length_of_asked asked)
      (last_of_load calm asked replied) (last_of_load calm askedLater repliedLater)
  handles := shares requests
  snapshots := keepsSnapshots requests

end Calm

/-- A set is swapped for an equal one, and cannot be swapped for one that cannot be built. -/
def reconfigurations : List Request :=
  [.create ⟨["tcp"], .default⟩, .ask 0 .load, .clone 0, .ask 1 (.swap ⟨["tcp"], .default⟩),
    .ask 0 .load, .ask 0 (.swap ⟨[], .classifier (some 1)⟩), .ask 1 .load]

theorem answersWithLast_of_reconfigurations :
    (∀ i, ¬ InterruptedAt reconfigurations 0 i) ∧ AnswersWithLast reconfigurations 0 ∧
      ∃ set, replies reconfigurations =
        [.handle 0, .snapshot ⟨0, set⟩, .handle 1, .snapshot ⟨0, set⟩, .snapshot ⟨3, set⟩,
          .failed (.defaultOutputOutOfRange 1 0), .snapshot ⟨3, set⟩] := by
  have calm : ∀ i, ¬ InterruptedAt reconfigurations 0 i := by
    rintro i ⟨config, set, asked, _⟩
    obtain ⟨handle, here, _⟩ := askedAt?_eq_some_iff.1 asked
    have member := List.mem_of_getElem? here
    simp [reconfigurations] at member
  refine ⟨calm, answersWithLast_of_calm calm, ProgramSet.compile.build ["tcp"] .default, ?_⟩
  decide +kernel

end PacketFilter.Registry
