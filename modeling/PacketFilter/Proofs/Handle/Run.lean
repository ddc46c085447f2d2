import PacketFilter.Handle.Basic

/-!
Runs of requests, request by request. Every reply is given by the registry that the requests before
have left, and a request changes no cell but the one that it reaches through its handle. Handles
that were cloned from one another reach the same cell for ever, and a snapshot holds the set that
the request of its number brought.
-/

namespace PacketFilter

/-- Why an operation comes to nothing, whatever the state of the cell: the set that it brings cannot
be built. -/
def Operation.refusal? : Operation → Option FilterError
  | .load | .process _ => none
  | .swap config | .interruptedSwap config =>
      match ProgramSet.ofConfig config with
      | .ok _ => none
      | .error error => some error

def Request.brings? : Request → Option Config
  | .create config | .ask _ (.swap config) => some config
  | .clone _ | .ask _ _ => none

/-- All that an operation can do to a cell, and what is replied then. -/
inductive Cell.Steps (cell : Cell) (request : Nat) : Operation → Reply → Cell → Prop where
  | refused {operation : Operation} {error : FilterError} :
      operation.refusal? = some error → Steps cell request operation (.failed error) cell
  | locked {operation : Operation} :
      operation.refusal? = none → cell.isPoisoned = true →
      Steps cell request operation (.failed lockError) cell
  | loaded : cell.isPoisoned = false → Steps cell request .load (.snapshot cell.installed) cell
  | processed {packet : Packet} : cell.isPoisoned = false →
      Steps cell request (.process packet) (.dispatch (cell.installed.set.process packet)) cell
  | swapped {config : Config} {set : ProgramSet} :
      ProgramSet.ofConfig config = .ok set → cell.isPoisoned = false →
      Steps cell request (.swap config) (.snapshot cell.installed) ⟨⟨request, set⟩, false⟩
  | interrupted {config : Config} {set : ProgramSet} :
      ProgramSet.ofConfig config = .ok set → cell.isPoisoned = false →
      Steps cell request (.interruptedSwap config) .interrupted ⟨cell.installed, true⟩

theorem Cell.steps_perform (cell : Cell) (request : Nat) (operation : Operation) :
    cell.Steps request operation (cell.perform request operation).1
      (cell.perform request operation).2 := by
  rcases cell with ⟨installed, _ | _⟩
  · cases operation with
    | load => exact .loaded rfl
    | process packet => exact .processed rfl
    | swap config =>
        rw [perform]
        cases built : ProgramSet.ofConfig config with
        | ok set => exact .swapped built rfl
        | error error => exact .refused (by rw [Operation.refusal?, built])
    | interruptedSwap config =>
        rw [perform]
        cases built : ProgramSet.ofConfig config with
        | ok set => exact .interrupted built rfl
        | error error => exact .refused (by rw [Operation.refusal?, built])
  · cases operation with
    | load => exact .locked rfl rfl
    | process packet => exact .locked rfl rfl
    | swap config | interruptedSwap config =>
        rw [perform]
        cases built : ProgramSet.ofConfig config with
        | ok set => exact .locked (by rw [Operation.refusal?, built]) rfl
        | error error => exact .refused (by rw [Operation.refusal?, built])

theorem Cell.Steps.of_refusal {cell next : Cell} {request : Nat} {operation : Operation}
    {reply : Reply} {error : FilterError} (step : cell.Steps request operation reply next)
    (refused : operation.refusal? = some error) : reply = .failed error ∧ next = cell := by
  cases step with
  | refused found =>
      cases refused.symm.trans found
      exact ⟨rfl, rfl⟩
  | locked attempted => cases refused.symm.trans attempted
  | loaded | processed => contradiction
  | swapped built | interrupted built =>
      rw [Operation.refusal?, built] at refused
      contradiction

namespace Registry

def Linked (registry : Registry) : Prop :=
  ∀ number, number ∈ registry.handles → number < registry.cells.length

/-- All that a request can do to a registry, and what is replied then. -/
inductive Steps (registry : Registry) : Request → Reply → Registry → Prop where
  | created {config : Config} {set : ProgramSet} : ProgramSet.ofConfig config = .ok set →
      Steps registry (.create config) (.handle registry.handles.length)
        ⟨registry.cells ++ [⟨⟨registry.requests, set⟩, false⟩],
          registry.handles ++ [registry.cells.length], registry.requests + 1⟩
  | refused {config : Config} {error : FilterError} : ProgramSet.ofConfig config = .error error →
      Steps registry (.create config) (.failed error)
        ⟨registry.cells, registry.handles, registry.requests + 1⟩
  | cloned {handle number : Nat} : registry.cellOf? handle = some number →
      Steps registry (.clone handle) (.handle registry.handles.length)
        ⟨registry.cells, registry.handles ++ [number], registry.requests + 1⟩
  | asked {handle number : Nat} {operation : Operation} {cell next : Cell} {reply : Reply} :
      registry.cellOf? handle = some number → registry.cells[number]? = some cell →
      cell.Steps registry.requests operation reply next →
      Steps registry (.ask handle operation) reply
        ⟨registry.cells.set number next, registry.handles, registry.requests + 1⟩
  | unknown {handle : Nat} {request : Request} : registry.cellOf? handle = none →
      (request = .clone handle ∨ ∃ operation, request = .ask handle operation) →
      Steps registry request .unknownHandle
        ⟨registry.cells, registry.handles, registry.requests + 1⟩

section Step

variable {registry after : Registry} {request : Request} {reply : Reply}

theorem Linked.lt_length {handle number : Nat} (linked : registry.Linked)
    (known : registry.cellOf? handle = some number) : number < registry.cells.length :=
  linked number (List.mem_of_getElem? known)

theorem Linked.steps_perform (linked : registry.Linked) (request : Request) :
    registry.Steps request (registry.perform request).1 (registry.perform request).2 := by
  cases request with
  | create config =>
      cases built : ProgramSet.ofConfig config with
      | ok set =>
          rw [perform, answer, built]
          exact .created built
      | error error =>
          rw [perform, answer, built]
          exact .refused built
  | clone handle =>
      cases known : registry.cellOf? handle with
      | some number =>
          rw [perform, answer, known]
          exact .cloned known
      | none =>
          rw [perform, answer, known]
          exact .unknown known (.inl rfl)
  | ask handle operation =>
      rw [perform, answer]
      cases known : registry.cellOf? handle with
      | some number =>
          have found := List.getElem?_eq_getElem (linked.lt_length known)
          dsimp only
          rw [ask, found]
          exact .asked known found (Cell.steps_perform _ _ _)
      | none => exact .unknown known (.inr ⟨operation, rfl⟩)

namespace Steps

section Kept

variable (steps : registry.Steps request reply after)
include steps

theorem requests_eq : after.requests = registry.requests + 1 := by
  cases steps <;> rfl

theorem handles_prefix : registry.handles <+: after.handles := by
  cases steps with
  | created | cloned => exact List.prefix_append _ _
  | refused | asked | unknown => exact List.prefix_rfl

theorem length_cells_le : registry.cells.length ≤ after.cells.length := by
  cases steps with
  | created => simp
  | asked => simp
  | refused | cloned | unknown => exact Nat.le_refl _

theorem linked (linked : registry.Linked) : after.Linked := by
  intro number member
  cases steps with
  | created =>
      rcases List.mem_append.1 member with old | new
      · have bound := linked number old
        simp
        omega
      · simp [List.mem_singleton.1 new]
  | cloned known =>
      rcases List.mem_append.1 member with old | new
      · exact linked number old
      · rw [List.mem_singleton.1 new]
        exact linked.lt_length known
  | asked => simpa using linked number member
  | refused | unknown => exact linked number member

theorem cellOf?_eq {handle number : Nat} (known : registry.cellOf? handle = some number) :
    after.cellOf? handle = some number := by
  obtain ⟨inside, rfl⟩ := List.getElem?_eq_some_iff.1 known
  exact List.prefix_iff_getElem?.1 steps.handles_prefix handle inside

end Kept

theorem of_create {config : Config} {set : ProgramSet}
    (steps : registry.Steps (.create config) reply after)
    (built : ProgramSet.ofConfig config = .ok set) :
    reply = .handle registry.handles.length ∧
      after = ⟨registry.cells ++ [⟨⟨registry.requests, set⟩, false⟩],
        registry.handles ++ [registry.cells.length], registry.requests + 1⟩ := by
  cases steps with
  | created found =>
      cases built.symm.trans found
      exact ⟨rfl, rfl⟩
  | refused failed => cases built.symm.trans failed
  | unknown missing request => rcases request with request | ⟨_, request⟩ <;> cases request

theorem of_clone {handle number : Nat} (steps : registry.Steps (.clone handle) reply after)
    (known : registry.cellOf? handle = some number) :
    reply = .handle registry.handles.length ∧
      after = ⟨registry.cells, registry.handles ++ [number], registry.requests + 1⟩ := by
  cases steps with
  | cloned found =>
      cases known.symm.trans found
      exact ⟨rfl, rfl⟩
  | unknown missing request =>
      rcases request with request | ⟨_, request⟩ <;> cases request
      cases known.symm.trans missing

theorem of_ask {handle number : Nat} {operation : Operation}
    (steps : registry.Steps (.ask handle operation) reply after)
    (known : registry.cellOf? handle = some number) :
    ∃ cell next, registry.cells[number]? = some cell ∧
      cell.Steps registry.requests operation reply next ∧
      after = ⟨registry.cells.set number next, registry.handles, registry.requests + 1⟩ := by
  cases steps with
  | asked reached found step =>
      cases known.symm.trans reached
      exact ⟨_, _, found, step, rfl⟩
  | unknown missing request =>
      rcases request with request | ⟨_, request⟩ <;> cases request
      cases known.symm.trans missing

end Steps

end Step

section Run

variable {registry : Registry} {first second : List Request}

theorem run_append : registry.run (first ++ second) =
    ((registry.run first).1 ++ ((registry.run first).2.run second).1,
      ((registry.run first).2.run second).2) := by
  induction first generalizing registry with
  | nil => rfl
  | cons request rest inductionHypothesis => simp [run, inductionHypothesis]

theorem length_replies_run {requests : List Request} :
    (registry.run requests).1.length = requests.length := by
  induction requests generalizing registry with
  | nil => rfl
  | cons request rest inductionHypothesis => simp [run, inductionHypothesis]

end Run

def stateAt (requests : List Request) (i : Nat) : Registry :=
  (empty.run (requests.take i)).2

def replies (requests : List Request) : List Reply :=
  (empty.run requests).1

variable {requests : List Request} {request : Request} {i j : Nat}

theorem stateAt_succ_of_none (ended : requests[i]? = none) :
    stateAt requests (i + 1) = stateAt requests i := by
  simp [stateAt, List.take_add_one, ended]

theorem stateAt_succ (here : requests[i]? = some request) :
    stateAt requests (i + 1) = ((stateAt requests i).perform request).2 := by
  simp [stateAt, List.take_add_one, here, run_append, run]

theorem getElem?_replies (here : requests[i]? = some request) :
    (replies requests)[i]? = some ((stateAt requests i).perform request).1 := by
  obtain ⟨inside, rfl⟩ := List.getElem?_eq_some_iff.1 here
  have count : (empty.run (requests.take i)).1.length = i := by
    rw [length_replies_run, List.length_take_of_le (Nat.le_of_lt inside)]
  -- The request is the first of those that the earlier ones leave to be carried out.
  have cut : requests = requests.take i ++ requests[i] :: requests.drop (i + 1) := by simp
  have whole : replies requests =
      (empty.run (requests.take i ++ requests[i] :: requests.drop (i + 1))).1 := by rw [← cut]; rfl
  rw [whole, run_append, List.getElem?_append_right (Nat.le_of_eq count), count, Nat.sub_self]
  rfl

theorem linked_stateAt : (stateAt requests i).Linked := by
  induction i with
  | zero => intro number member; cases member
  | succ i inductionHypothesis =>
      cases here : requests[i]? with
      | none => rwa [stateAt_succ_of_none here]
      | some request =>
          rw [stateAt_succ here]
          exact (inductionHypothesis.steps_perform request).linked inductionHypothesis

theorem steps_stateAt (here : requests[i]? = some request) : ∃ reply,
    (replies requests)[i]? = some reply ∧
      (stateAt requests i).Steps request reply (stateAt requests (i + 1)) := by
  rw [stateAt_succ here]
  exact ⟨_, getElem?_replies here, linked_stateAt.steps_perform request⟩

theorem requests_stateAt (inside : i ≤ requests.length) : (stateAt requests i).requests = i := by
  induction i with
  | zero => rfl
  | succ i inductionHypothesis =>
      obtain ⟨_, _, steps⟩ := steps_stateAt (List.getElem?_eq_getElem inside)
      rw [steps.requests_eq, inductionHypothesis (Nat.le_of_succ_le inside)]

theorem requests_stateAt_of_request (here : requests[i]? = some request) :
    (stateAt requests i).requests = i :=
  requests_stateAt (Nat.le_of_lt (List.getElem?_eq_some_iff.1 here).1)

/-- What every request keeps is kept to the end. -/
theorem stateAt_induction (Kept : Registry → Prop) (start : Kept (stateAt requests i))
    (step : ∀ k request reply, requests[k]? = some request →
      (stateAt requests k).Steps request reply (stateAt requests (k + 1)) →
      Kept (stateAt requests k) → Kept (stateAt requests (k + 1)))
    (later : i ≤ j) : Kept (stateAt requests j) := by
  obtain ⟨count, rfl⟩ := Nat.exists_eq_add_of_le later
  clear later
  induction count with
  | zero => exact start
  | succ count inductionHypothesis =>
      cases here : requests[i + count]? with
      | none =>
          rw [← Nat.add_assoc, stateAt_succ_of_none here]
          exact inductionHypothesis
      | some request =>
          obtain ⟨reply, _, steps⟩ := steps_stateAt here
          exact step _ request reply here steps inductionHypothesis

section Handles

/-- Every handle reaches the cell that was made with it or with the handle that it was cloned from,
and no other. -/
structure Shares (requests : List Request) : Prop where
  /-- The cell of a handle that is no clone is new. -/
  created : ∀ i config set, requests[i]? = some (.create config) →
    ProgramSet.ofConfig config = .ok set → ∃ handle number,
      (replies requests)[i]? = some (.handle handle) ∧
      (stateAt requests i).cellOf? handle = none ∧
      (∀ other, (stateAt requests i).cellOf? other ≠ some number) ∧
      (stateAt requests (i + 1)).cellOf? handle = some number ∧
      (stateAt requests (i + 1)).cells[number]? = some ⟨⟨i, set⟩, false⟩
  cloned : ∀ i original number, requests[i]? = some (.clone original) →
    (stateAt requests i).cellOf? original = some number → ∃ handle,
      (replies requests)[i]? = some (.handle handle) ∧
      (stateAt requests i).cellOf? handle = none ∧
      (stateAt requests (i + 1)).cellOf? handle = some number
  kept : ∀ i j handle number, i ≤ j → (stateAt requests i).cellOf? handle = some number →
    (stateAt requests j).cellOf? handle = some number

theorem cellOf?_stateAt_of_le {handle number : Nat} (later : i ≤ j)
    (known : (stateAt requests i).cellOf? handle = some number) :
    (stateAt requests j).cellOf? handle = some number := by
  apply stateAt_induction (fun registry => registry.cellOf? handle = some number) known _ later
  intro k request reply here steps kept
  exact steps.cellOf?_eq kept

theorem cellOf?_length (registry : Registry) : registry.cellOf? registry.handles.length = none :=
  List.getElem?_eq_none (Nat.le_refl _)

theorem shares (requests : List Request) : Shares requests where
  created i config set here built := by
    obtain ⟨reply, replied, steps⟩ := steps_stateAt here
    obtain ⟨rfl, after⟩ := steps.of_create built
    have count := requests_stateAt_of_request here
    refine ⟨_, (stateAt requests i).cells.length, replied, cellOf?_length _, ?_, ?_, ?_⟩
    · intro other known
      exact Nat.lt_irrefl _ (linked_stateAt.lt_length known)
    · rw [after]
      exact List.getElem?_concat_length
    · rw [after, count]
      exact List.getElem?_concat_length
  cloned i original number here known := by
    obtain ⟨reply, replied, steps⟩ := steps_stateAt here
    obtain ⟨rfl, after⟩ := steps.of_clone known
    refine ⟨_, replied, cellOf?_length _, ?_⟩
    rw [after]
    exact List.getElem?_concat_length
  kept i j handle number later known := cellOf?_stateAt_of_le later known

end Handles

section Snapshots

def Brought (requests : List Request) (snapshot : Snapshot) : Prop :=
  ∃ config, requests[snapshot.request]?.bind Request.brings? = some config ∧
    ProgramSet.ofConfig config = .ok snapshot.set

theorem Brought.eq_of_request_eq {first second : Snapshot} (brought : Brought requests first)
    (other : Brought requests second) (same : first.request = second.request) :
    first = second := by
  rcases first with ⟨number, set⟩
  rcases second with ⟨_, otherSet⟩
  obtain rfl : number = _ := same
  obtain ⟨config, brings, built⟩ := brought
  obtain ⟨otherConfig, otherBrings, otherBuilt⟩ := other
  obtain rfl : config = otherConfig := Option.some.inj (brings.symm.trans otherBrings)
  obtain rfl : set = otherSet := Except.ok.inj (built.symm.trans otherBuilt)
  rfl

theorem brought_installed {cell : Cell} (member : cell ∈ (stateAt requests i).cells) :
    Brought requests cell.installed := by
  apply stateAt_induction
    (fun registry => ∀ cell, cell ∈ registry.cells → Brought requests cell.installed)
    (fun cell member => by cases member) _ (Nat.zero_le i) cell member
  intro k request reply here steps kept cell member
  have count := requests_stateAt_of_request here
  generalize stateAt requests (k + 1) = after at steps member
  cases steps with
  | created built =>
      rcases List.mem_append.1 member with old | new
      · exact kept cell old
      · rw [List.mem_singleton.1 new, count]
        exact ⟨_, congrArg (·.bind Request.brings?) here, built⟩
  | asked known found step =>
      rcases List.mem_or_eq_of_mem_set member with old | rfl
      · exact kept cell old
      · have before := kept _ (List.mem_of_getElem? found)
        cases step with
        | swapped built healthy =>
            rw [count]
            exact ⟨_, congrArg (·.bind Request.brings?) here, built⟩
        | refused | locked | loaded | processed | interrupted => exact before
  | refused | cloned | unknown => exact kept cell member

theorem brought_of_replied {snapshot : Snapshot}
    (replied : (replies requests)[i]? = some (.snapshot snapshot)) :
    Brought requests snapshot := by
  have inside : i < requests.length := by
    rw [← length_replies_run]
    exact (List.getElem?_eq_some_iff.1 replied).1
  obtain ⟨reply, given, steps⟩ := steps_stateAt (List.getElem?_eq_getElem inside)
  cases given.symm.trans replied
  generalize stateAt requests (i + 1) = after at steps
  generalize requests[i] = request at steps
  cases steps with
  | asked known found step =>
      have brought := brought_installed (List.mem_of_getElem? found)
      cases step with
      | loaded | swapped => exact brought

/-- Snapshots stay what they were when they were installed. -/
structure KeepsSnapshots (requests : List Request) : Prop where
  brought : ∀ (i : Nat) (snapshot : Snapshot), (replies requests)[i]? = some (.snapshot snapshot) →
    Brought requests snapshot
  /-- Whenever they are given, snapshots that one request installed are the same. -/
  same : ∀ (i j : Nat) (first second : Snapshot),
    (replies requests)[i]? = some (.snapshot first) →
    (replies requests)[j]? = some (.snapshot second) →
    first.request = second.request → first = second

theorem keepsSnapshots (requests : List Request) : KeepsSnapshots requests where
  brought _ _ given := brought_of_replied given
  same _ _ _ _ given givenLater same :=
    (brought_of_replied given).eq_of_request_eq (brought_of_replied givenLater) same

end Snapshots

section Asked

def asked? (registry : Registry) (number : Nat) : Request → Option Operation
  | .ask handle operation =>
      if registry.cellOf? handle = some number then some operation else none
  | .create _ | .clone _ => none

theorem asked?_eq_some_iff {registry : Registry} {number : Nat} {operation : Operation} :
    registry.asked? number request = some operation ↔
      ∃ handle, request = .ask handle operation ∧ registry.cellOf? handle = some number := by
  cases request with
  | create config | clone handle => simp [asked?]
  | ask handle found =>
      by_cases known : registry.cellOf? handle = some number
      · simp [asked?, known, and_assoc]
      · simp [asked?, known, and_assoc]

/-- What the request at a place of a run asks of the cell of the given number. -/
def askedAt? (requests : List Request) (number i : Nat) : Option Operation :=
  requests[i]?.bind ((stateAt requests i).asked? number)

variable {number : Nat} {operation : Operation}

theorem askedAt?_eq_some_iff : askedAt? requests number i = some operation ↔
    ∃ handle, requests[i]? = some (.ask handle operation) ∧
      (stateAt requests i).cellOf? handle = some number := by
  rw [askedAt?, Option.bind_eq_some_iff]
  constructor
  · rintro ⟨request, here, asked⟩
    obtain ⟨handle, rfl, known⟩ := asked?_eq_some_iff.1 asked
    exact ⟨handle, here, known⟩
  · rintro ⟨handle, here, known⟩
    exact ⟨_, here, asked?_eq_some_iff.2 ⟨handle, rfl, known⟩⟩

theorem steps_of_askedAt? (asked : askedAt? requests number i = some operation) :
    ∃ cell next reply, (stateAt requests i).cells[number]? = some cell ∧
      cell.Steps i operation reply next ∧ (replies requests)[i]? = some reply ∧
      stateAt requests (i + 1) =
        ⟨(stateAt requests i).cells.set number next, (stateAt requests i).handles, i + 1⟩ := by
  obtain ⟨handle, here, known⟩ := askedAt?_eq_some_iff.1 asked
  obtain ⟨reply, replied, steps⟩ := steps_stateAt here
  obtain ⟨cell, next, found, step, after⟩ := steps.of_ask known
  rw [requests_stateAt_of_request here] at step after
  exact ⟨cell, next, reply, found, step, replied, after⟩

/-- A request after which its cell is what it was before leaves nothing but its count. -/
theorem stateAt_succ_of_kept {cell : Cell}
    (found : (stateAt requests i).cells[number]? = some cell)
    (after : stateAt requests (i + 1) =
      ⟨(stateAt requests i).cells.set number cell, (stateAt requests i).handles, i + 1⟩) :
    stateAt requests (i + 1) = { stateAt requests i with requests := i + 1 } := by
  obtain ⟨inside, rfl⟩ := List.getElem?_eq_some_iff.1 found
  rw [after, List.set_getElem_self]

theorem replied_of_refusal {error : FilterError}
    (asked : askedAt? requests number i = some operation)
    (refused : operation.refusal? = some error) :
    (replies requests)[i]? = some (.failed error) ∧
      stateAt requests (i + 1) = { stateAt requests i with requests := i + 1 } := by
  obtain ⟨cell, next, reply, found, step, replied, after⟩ := steps_of_askedAt? asked
  obtain ⟨rfl, rfl⟩ := step.of_refusal refused
  exact ⟨replied, stateAt_succ_of_kept found after⟩

theorem Steps.cell_eq {registry after : Registry} {reply : Reply}
    (steps : registry.Steps request reply after) (inside : number < registry.cells.length)
    (idle : registry.asked? number request = none) :
    after.cells[number]? = registry.cells[number]? := by
  cases steps with
  | created => exact List.getElem?_append_left inside
  | @asked handle other operation cell next _ known found step =>
      have elsewhere : other ≠ number := by
        rintro rfl
        cases idle.symm.trans (asked?_eq_some_iff.2 ⟨handle, rfl, known⟩)
      exact List.getElem?_set_ne elsewhere
  | refused | cloned | unknown => rfl

end Asked

end Registry

end PacketFilter
