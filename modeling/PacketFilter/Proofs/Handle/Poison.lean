import PacketFilter.Proofs.Handle.History
import PacketFilter.Proofs.ProgramSet.Places

/-!
What an interrupted swap does to a cell. It installs nothing, and from then on the lock of the cell
cannot be taken, whichever handle is used. The cells of other handles are not touched by it.
-/

namespace PacketFilter

section Locking

variable {cell next : Cell} {request : Nat} {operation : Operation} {reply : Reply}

theorem Operation.not_locked_of_refusal {error : FilterError} {reason : String}
    (refused : operation.refusal? = some error) : error ≠ .locked reason := by
  rintro rfl
  cases operation with
  | load | process packet => contradiction
  | swap config | interruptedSwap config =>
      rw [refusal?] at refused
      cases failed : ProgramSet.ofConfig config with
      | ok set => simp [failed] at refused
      | error error =>
          obtain ⟨output, _, _, rfl⟩ := ProgramSet.compile_eq_error_iff.1 failed
          simp [failed] at refused

theorem Cell.Steps.ne_locked (step : cell.Steps request operation reply next)
    (healthy : cell.isPoisoned = false) (reason : String) : reply ≠ .failed (.locked reason) := by
  cases step with
  | refused refused =>
      intro same
      exact Operation.not_locked_of_refusal refused (Reply.failed.inj same)
  | locked attempted poisoned => cases healthy.symm.trans poisoned
  | loaded | processed | swapped | interrupted => nofun

theorem Cell.Steps.of_poisoned (step : cell.Steps request operation reply next)
    (poisoned : cell.isPoisoned = true) :
    reply = .failed (operation.refusal?.getD Cell.lockError) ∧ next = cell := by
  cases step with
  | refused refused =>
      rw [refused]
      exact ⟨rfl, rfl⟩
  | locked attempted =>
      rw [attempted]
      exact ⟨rfl, rfl⟩
  | loaded healthy | processed healthy => cases healthy.symm.trans poisoned
  | swapped built healthy | interrupted built healthy => cases healthy.symm.trans poisoned

theorem Cell.Steps.of_interruption {config : Config} {set : ProgramSet}
    (step : cell.Steps request (.interruptedSwap config) reply next)
    (built : ProgramSet.ofConfig config = .ok set) :
    next = ⟨cell.installed, true⟩ ∧ (cell.isPoisoned = false → reply = .interrupted) := by
  rcases cell with ⟨installed, poisoned⟩
  cases step with
  | refused refused =>
      rw [Operation.refusal?, built] at refused
      contradiction
  | locked attempted poisoned =>
      cases poisoned
      exact ⟨rfl, fun healthy => by cases healthy⟩
  | interrupted => exact ⟨rfl, fun _ => rfl⟩

end Locking

namespace Registry

variable {requests : List Request} {number i j : Nat} {snapshot : Snapshot}

section Poisoned

theorem cell_of_interrupted (interrupted : InterruptedAt requests number i) :
    ∃ cell, (stateAt requests i).cells[number]? = some cell ∧
      (stateAt requests (i + 1)).cells[number]? = some ⟨cell.installed, true⟩ := by
  obtain ⟨config, set, asked, built⟩ := interrupted
  obtain ⟨cell, next, reply, found, step, _, after⟩ := steps_of_askedAt? asked
  obtain ⟨rfl, _⟩ := step.of_interruption built
  refine ⟨cell, found, ?_⟩
  rw [after, List.getElem?_set_self (lt_length_of_asked asked)]

/-- A cell whose lock cannot be taken stays as it is. -/
theorem cell_of_poisoned (later : i ≤ j)
    (poisoned : (stateAt requests i).cells[number]? = some ⟨snapshot, true⟩) :
    (stateAt requests j).cells[number]? = some ⟨snapshot, true⟩ := by
  apply stateAt_induction
    (fun registry => registry.cells[number]? = some ⟨snapshot, true⟩) poisoned _ later
  intro k request reply here steps kept
  have inside := (List.getElem?_eq_some_iff.1 kept).1
  cases asked : (stateAt requests k).asked? number request with
  | none => rwa [steps.cell_eq inside asked]
  | some operation =>
      obtain ⟨handle, rfl, known⟩ := asked?_eq_some_iff.1 asked
      obtain ⟨cell, next, found, step, after⟩ := steps.of_ask known
      cases kept.symm.trans found
      obtain ⟨_, rfl⟩ := step.of_poisoned rfl
      rw [after, List.getElem?_set_self inside]

end Poisoned

section Elsewhere

/-- Registries that differ in nothing but the cell of the given number. -/
structure AgreeElsewhere (number : Nat) (registry other : Registry) : Prop where
  handles : other.handles = registry.handles
  requests : other.requests = registry.requests
  length : other.cells.length = registry.cells.length
  cells : ∀ elsewhere, elsewhere ≠ number →
    other.cells[elsewhere]? = registry.cells[elsewhere]?

variable {registry other third : Registry} {request : Request}

namespace AgreeElsewhere

theorem symm (agree : AgreeElsewhere number registry other) :
    AgreeElsewhere number other registry where
  handles := agree.handles.symm
  requests := agree.requests.symm
  length := agree.length.symm
  cells elsewhere apart := (agree.cells elsewhere apart).symm

theorem trans (agree : AgreeElsewhere number registry other)
    (agreeToo : AgreeElsewhere number other third) : AgreeElsewhere number registry third where
  handles := agreeToo.handles.trans agree.handles
  requests := agreeToo.requests.trans agree.requests
  length := agreeToo.length.trans agree.length
  cells elsewhere apart := (agreeToo.cells elsewhere apart).trans (agree.cells elsewhere apart)

theorem of_ask (registry : Registry) (number : Nat) (operation : Operation) :
    AgreeElsewhere number registry (registry.ask number operation).2 := by
  rw [ask]
  cases registry.cells[number]? with
  | none => exact ⟨rfl, rfl, rfl, fun _ _ => rfl⟩
  | some cell =>
      exact ⟨rfl, rfl, List.length_set, fun _ apart => List.getElem?_set_ne (Ne.symm apart)⟩

theorem ask (agree : AgreeElsewhere number registry other) (reached : Nat)
    (operation : Operation) :
    AgreeElsewhere number (registry.ask reached operation).2 (other.ask reached operation).2 ∧
      (reached ≠ number →
        (other.ask reached operation).1 = (registry.ask reached operation).1) := by
  by_cases same : reached = number
  · -- Either side keeps its other cells, so the two still agree on them.
    subst same
    have leaves := of_ask registry reached operation
    exact ⟨(leaves.symm.trans agree).trans (of_ask other reached operation),
      fun apart => absurd rfl apart⟩
  · rw [Registry.ask, Registry.ask, agree.cells reached same, agree.requests]
    cases registry.cells[reached]? with
    | none => exact ⟨agree, fun _ => rfl⟩
    | some cell =>
        refine ⟨⟨agree.handles, rfl, ?_, ?_⟩, fun _ => rfl⟩
        · simp [agree.length]
        · intro elsewhere apart
          simp [List.getElem?_set, agree.length, agree.cells elsewhere apart]

theorem answer (agree : AgreeElsewhere number registry other) (request : Request) :
    AgreeElsewhere number (registry.answer request).2 (other.answer request).2 ∧
      (registry.asked? number request = none →
        (other.answer request).1 = (registry.answer request).1) := by
  have known : ∀ handle, other.cellOf? handle = registry.cellOf? handle := fun handle => by
    rw [cellOf?, cellOf?, agree.handles]
  cases request with
  | create config =>
      rw [Registry.answer, Registry.answer, agree.handles, agree.requests, agree.length]
      cases ProgramSet.ofConfig config with
      | error error => exact ⟨agree, fun _ => rfl⟩
      | ok set =>
          refine ⟨⟨rfl, rfl, ?_, ?_⟩, fun _ => rfl⟩
          · simp [agree.length]
          · intro elsewhere apart
            simp [List.getElem?_append, agree.length, agree.cells elsewhere apart]
  | clone handle =>
      rw [Registry.answer, Registry.answer, known, agree.handles]
      cases registry.cellOf? handle with
      | none => exact ⟨agree, fun _ => rfl⟩
      | some reached =>
          exact ⟨⟨rfl, agree.requests, agree.length, agree.cells⟩, fun _ => rfl⟩
  | ask handle operation =>
      rw [Registry.answer, Registry.answer, known, asked?]
      cases registry.cellOf? handle with
      | none => exact ⟨agree, fun _ => rfl⟩
      | some reached =>
          obtain ⟨after, same⟩ := agree.ask reached operation
          refine ⟨after, fun idle => same ?_⟩
          rintro rfl
          simp at idle

theorem perform (agree : AgreeElsewhere number registry other) (request : Request) :
    AgreeElsewhere number (registry.perform request).2 (other.perform request).2 ∧
      (registry.asked? number request = none →
        (other.perform request).1 = (registry.perform request).1) := by
  obtain ⟨after, same⟩ := agree.answer request
  exact ⟨⟨after.handles, congrArg (· + 1) agree.requests, after.length, after.cells⟩, same⟩

/-- Two things that may be asked of a cell leave the others alike. -/
theorem of_perform_ask {handle : Nat} (known : registry.cellOf? handle = some number)
    (operation instead : Operation) :
    AgreeElsewhere number (registry.perform (.ask handle operation)).2
      (registry.perform (.ask handle instead)).2 := by
  have agree := (of_ask registry number operation).symm.trans (of_ask registry number instead)
  rw [Registry.perform, Registry.perform, Registry.answer, Registry.answer, known]
  exact ⟨agree.handles, rfl, agree.length, agree.cells⟩

end AgreeElsewhere

variable {handle : Nat} {operation : Operation}

theorem stateAt_set_of_le (request : Request) (before : j ≤ i) :
    stateAt (requests.set i request) j = stateAt requests j := by
  rw [stateAt, List.take_set_of_le before, stateAt]

theorem agreeElsewhere_stateAt_set (here : requests[i]? = some (.ask handle operation))
    (known : (stateAt requests i).cellOf? handle = some number) (instead : Operation)
    (later : i < j) :
    AgreeElsewhere number (stateAt requests j)
      (stateAt (requests.set i (.ask handle instead)) j) := by
  obtain ⟨count, rfl⟩ := Nat.exists_eq_add_of_le later
  clear later
  induction count with
  | zero =>
      have inside := (List.getElem?_eq_some_iff.1 here).1
      rw [Nat.add_zero, stateAt_succ here, stateAt_succ (List.getElem?_set_self inside),
        stateAt_set_of_le _ (Nat.le_refl i)]
      exact .of_perform_ask known operation instead
  | succ count inductionHypothesis =>
      have kept : (requests.set i (.ask handle instead))[i + 1 + count]? =
          requests[i + 1 + count]? := List.getElem?_set_ne (by omega)
      rw [← Nat.add_assoc]
      cases there : requests[i + 1 + count]? with
      | none =>
          rw [stateAt_succ_of_none there, stateAt_succ_of_none (kept.trans there)]
          exact inductionHypothesis
      | some request =>
          rw [stateAt_succ there, stateAt_succ (kept.trans there)]
          exact (inductionHypothesis.perform request).1

/-- What is asked of a cell makes no difference to what is answered elsewhere. -/
theorem getElem?_replies_set (here : requests[i]? = some (.ask handle operation))
    (known : (stateAt requests i).cellOf? handle = some number) (instead : Operation)
    (apart : j ≠ i) (idle : askedAt? requests number j = none) :
    (replies (requests.set i (.ask handle instead)))[j]? = (replies requests)[j]? := by
  have kept : (requests.set i (.ask handle instead))[j]? = requests[j]? :=
    List.getElem?_set_ne (Ne.symm apart)
  cases there : requests[j]? with
  | none =>
      have beyond : ∀ {run : List Request}, run[j]? = none → (replies run)[j]? = none := by
        intro run ended
        rw [List.getElem?_eq_none_iff, replies, length_replies_run]
        exact List.getElem?_eq_none_iff.1 ended
      rw [beyond there, beyond (kept.trans there)]
  | some request =>
      rw [getElem?_replies there, getElem?_replies (kept.trans there)]
      rw [askedAt?, there] at idle
      apply congrArg some
      rcases Nat.lt_or_gt_of_ne apart with before | behind
      · rw [stateAt_set_of_le _ (Nat.le_of_lt before)]
      · exact ((agreeElsewhere_stateAt_set here known instead behind).perform request).2 idle

end Elsewhere

/-- A swap of the cell that is interrupted is the end of the cell, and of no other. -/
structure FailsOnceInterrupted (requests : List Request) (number : Nat) : Prop where
  healthy : ∀ i operation reason, (∀ j, j < i → ¬ InterruptedAt requests number j) →
    askedAt? requests number i = some operation →
    (replies requests)[i]? ≠ some (.failed (.locked reason))
  /-- The set that was to be replaced is in the cell for ever. -/
  interrupted : ∀ i, (∀ j, j < i → ¬ InterruptedAt requests number j) →
    InterruptedAt requests number i →
    (replies requests)[i]? = some .interrupted ∧
      ∃ snapshot, (history requests number i).getLast? = some snapshot ∧
        (stateAt requests i).cells[number]? = some ⟨snapshot, false⟩ ∧
        ∀ j, i < j → (stateAt requests j).cells[number]? = some ⟨snapshot, true⟩
  /-- Nothing can be asked of the cell any more. -/
  locked : ∀ i j operation, InterruptedAt requests number i → i < j →
    askedAt? requests number j = some operation →
    (replies requests)[j]? = some (.failed (operation.refusal?.getD Cell.lockError)) ∧
      stateAt requests (j + 1) = { stateAt requests j with requests := j + 1 }
  /-- Other cells are answered for as if anything else had been asked of this one. -/
  elsewhere : ∀ i handle operation instead j,
    requests[i]? = some (.ask handle operation) →
    (stateAt requests i).cellOf? handle = some number →
    j ≠ i → askedAt? requests number j = none →
    (replies (requests.set i (.ask handle instead)))[j]? = (replies requests)[j]?
  handles : Shares requests
  snapshots : KeepsSnapshots requests

theorem failsOnceInterrupted (requests : List Request) (number : Nat) :
    FailsOnceInterrupted requests number where
  healthy i operation reason calm asked := by
    obtain ⟨snapshot, next, reply, _, step, replied, _⟩ := steps_of_calm calm asked
    rw [replied]
    exact fun same => step.ne_locked rfl reason (Option.some.inj same)
  interrupted i calm interrupted := by
    obtain ⟨config, set, asked, built⟩ := interrupted
    obtain ⟨snapshot, next, reply, last, step, replied, _⟩ := steps_of_calm calm asked
    obtain ⟨_, gone⟩ := step.of_interruption built
    have held := cell_of_calm calm
    rw [last] at held
    obtain ⟨cell, found, poisoned⟩ := cell_of_interrupted ⟨config, set, asked, built⟩
    cases held.symm.trans found
    refine ⟨gone rfl ▸ replied, snapshot, last, held, ?_⟩
    exact fun j later => cell_of_poisoned later poisoned
  locked i j operation interrupted later asked := by
    obtain ⟨cell, _, poisoned⟩ := cell_of_interrupted interrupted
    obtain ⟨cell, next, reply, found, step, replied, after⟩ := steps_of_askedAt? asked
    cases (cell_of_poisoned later poisoned).symm.trans found
    obtain ⟨rfl, rfl⟩ := step.of_poisoned rfl
    exact ⟨replied, stateAt_succ_of_kept found after⟩
  elsewhere i handle operation instead j here known apart idle :=
    getElem?_replies_set here known instead apart idle
  handles := shares requests
  snapshots := keepsSnapshots requests

def outage : List Request :=
  [.create ⟨["udp"], .default⟩, .create ⟨["tcp"], .default⟩, .ask 0 .load, .clone 0,
    .ask 2 (.interruptedSwap ⟨["tcp"], .default⟩), .ask 0 .load,
    .ask 2 (.swap ⟨["tcp"], .default⟩), .ask 1 .load]

theorem failsOnceInterrupted_of_outage :
    InterruptedAt outage 0 4 ∧ FailsOnceInterrupted outage 0 ∧
      replies outage =
        [.handle 0, .handle 1, .snapshot ⟨0, ProgramSet.compile.build ["udp"] .default⟩, .handle 2,
          .interrupted, .failed Cell.lockError, .failed Cell.lockError,
          .snapshot ⟨1, ProgramSet.compile.build ["tcp"] .default⟩] := by
  refine ⟨⟨_, _, rfl, rfl⟩, failsOnceInterrupted outage 0, ?_⟩
  decide +kernel

end Registry

end PacketFilter
