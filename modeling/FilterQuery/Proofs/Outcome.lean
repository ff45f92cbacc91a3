/-!
# Outcomes

Functions that can fail return an `Except`.  These lemmas take the outcome of a
combination apart into the outcomes of its parts.
-/

namespace FilterQuery.Outcome

variable {ε δ α β : Type}

theorem bind_eq_ok_iff
    {first : Except ε α} {next : α → Except ε β} {result : β} :
    first.bind next = .ok result ↔
      ∃ value, first = .ok value ∧ next value = .ok result := by
  cases first <;> simp [Except.bind]

theorem bind_eq_error_iff
    {first : Except ε α} {next : α → Except ε β} {fault : ε} :
    first.bind next = .error fault ↔
      first = .error fault ∨
        ∃ value, first = .ok value ∧ next value = .error fault := by
  cases first <;> simp [Except.bind]

theorem map_eq_ok_iff
    {outcome : Except ε α} {change : α → β} {result : β} :
    outcome.map change = .ok result ↔
      ∃ value, outcome = .ok value ∧ change value = result := by
  cases outcome <;> simp [Except.map]

theorem map_eq_error_iff
    {outcome : Except ε α} {change : α → β} {fault : ε} :
    outcome.map change = .error fault ↔ outcome = .error fault := by
  cases outcome <;> simp [Except.map]

theorem mapError_ok {change : ε → δ} {result : α} :
    (Except.ok result).mapError change = .ok result := rfl

theorem mapError_error {change : ε → δ} {fault : ε} :
    (Except.error fault : Except ε α).mapError change = .error (change fault) := rfl

theorem mapError_eq_ok_iff
    {outcome : Except ε α} {change : ε → δ} {result : α} :
    outcome.mapError change = .ok result ↔ outcome = .ok result := by
  cases outcome <;> simp [mapError_ok, mapError_error]

theorem mapError_eq_error_iff
    {outcome : Except ε α} {change : ε → δ} {fault : δ} :
    outcome.mapError change = .error fault ↔
      ∃ cause, outcome = .error cause ∧ change cause = fault := by
  cases outcome <;> simp [mapError_ok, mapError_error]

/-- A success that was computed. -/
theorem eq_ok_of_toOption
    {outcome : Except ε α} {result : α}
    (computed : outcome.toOption = some result) : outcome = .ok result := by
  cases outcome with
  | error fault => cases computed
  | ok value =>
      cases computed
      rfl

/-- A success whose result was not written out. -/
theorem exists_eq_ok_of_isSome
    {outcome : Except ε α} (computed : outcome.toOption.isSome = true) :
    ∃ result, outcome = .ok result := by
  cases outcome with
  | error fault => cases computed
  | ok value => exact ⟨value, rfl⟩

/-- A failure whose fault was not written out. -/
theorem exists_eq_error_of_isNone
    {outcome : Except ε α} (computed : outcome.toOption.isNone = true) :
    ∃ fault, outcome = .error fault := by
  cases outcome with
  | error fault => exact ⟨fault, rfl⟩
  | ok value => cases computed

end FilterQuery.Outcome
