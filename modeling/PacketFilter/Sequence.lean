/-!
Facts about steps of which each may fail: a sequence succeeds exactly when its steps do.
-/

namespace PacketFilter

@[simp]
theorem ok_bind {error first second : Type} (value : first) (next : first → Except error second) :
    (Except.ok value >>= next) = next value := rfl

theorem bind_eq_ok {error first second : Type} {step : Except error first}
    {next : first → Except error second} {result : second} :
    (step >>= next) = .ok result ↔ ∃ value, step = .ok value ∧ next value = .ok result := by
  cases step with
  | error fault => simp [bind, Except.bind]
  | ok value => simp [bind, Except.bind]

theorem bind_eq_error {error first second : Type} {step : Except error first}
    {next : first → Except error second} {fault : error} :
    (step >>= next) = .error fault ↔
      step = .error fault ∨ ∃ value, step = .ok value ∧ next value = .error fault := by
  cases step with
  | error other => simp [bind, Except.bind]
  | ok value => simp [bind, Except.bind]

theorem eq_ok_of_toOption {error success : Type} {step : Except error success} {value : success}
    (succeeds : step.toOption = some value) : step = .ok value := by
  cases step with
  | error fault => contradiction
  | ok found => exact congrArg Except.ok (Option.some.inj succeeds)

end PacketFilter
