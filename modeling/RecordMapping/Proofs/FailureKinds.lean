/-
Module: RecordMapping.Proofs.FailureKinds
Purpose: Computations whose failures are all of one kind.
Main exports: Failure.isOfData, Outcome.FailsOnly, Outcome.OfData,
  Outcome.OnlyMisconfigured
-/
import RecordMapping.Failure

namespace RecordMapping

/-- Whether a cause lies in what a database holds: in a cell, a document or a row that
does not fit where it is to be stored. -/
def Cause.isOfData : Cause → Bool
  | .conversion .. | .outOfRange .. | .integerText _ | .utf8 _ | .uuidText | .jsonText
  | .jsonCell _ | .noField .. | .noPart .. | .columnCount .. => true
  | .configuration _ | .recordNotFound | .abortIteration | .cursor _ | .reported _ => false

namespace Failure

/-- Whether the cause of a failure lies in what a database holds. -/
def isOfData (failure : Failure) : Bool := failure.cause.isOfData

variable {failure : Failure}

@[simp] theorem isOfData_within (failure : Failure) (context : Context) :
    (failure.within context).isOfData = failure.isOfData := rfl

/-- A misconfiguration does not lie in the data. -/
theorem isOfData_of_isConfiguration (wrong : failure.isConfiguration = true) :
    failure.isOfData = false := by
  obtain ⟨contexts, cause⟩ := failure
  cases cause with
  | configuration fault => rfl
  | _ => cases wrong

/-- A misconfiguration is no absence of a record. -/
theorem isRecordNotFound_of_isConfiguration (wrong : failure.isConfiguration = true) :
    failure.isRecordNotFound = false := by
  obtain ⟨contexts, cause⟩ := failure
  cases cause with
  | configuration fault => rfl
  | _ => cases wrong

/-- Nor does the absence of a record lie in the data. -/
theorem isOfData_of_isRecordNotFound (missing : failure.isRecordNotFound = true) :
    failure.isOfData = false := by
  obtain ⟨contexts, cause⟩ := failure
  cases cause with
  | recordNotFound => rfl
  | _ => cases missing

end Failure

namespace Outcome

variable {α β : Type} {kind : Failure → Prop}

/-- The failure of an outcome, if it has one, is of a kind. -/
def FailsOnly (kind : Failure → Prop) (outcome : Outcome α) : Prop :=
  ∀ failure, outcome = .error failure → kind failure

/-- An outcome that fails by what a database holds, if it fails. -/
abbrev OfData (outcome : Outcome α) : Prop :=
  outcome.FailsOnly fun failure => failure.isOfData = true

/-- An outcome that fails by misconfiguration, if it fails. -/
abbrev OnlyMisconfigured (outcome : Outcome α) : Prop :=
  outcome.FailsOnly fun failure => failure.isConfiguration = true

namespace FailsOnly

@[simp] theorem ok (result : α) : FailsOnly kind (.ok result) := by
  intro failure impossible
  cases impossible

@[simp] theorem error_iff {failure : Failure} :
    FailsOnly kind (.error failure : Outcome α) ↔ kind failure := by
  constructor
  · intro only
    exact only failure rfl
  · intro admitted found same
    cases same
    exact admitted

theorem error {failure : Failure} (admitted : kind failure) :
    FailsOnly kind (.error failure : Outcome α) :=
  error_iff.mpr admitted

theorem bind {first : Outcome α} {next : α → Outcome β} (here : first.FailsOnly kind)
    (behind : ∀ value, (next value).FailsOnly kind) : FailsOnly kind (first >>= next) := by
  cases first with
  | ok value => exact behind value
  | error failure => exact error (here failure rfl)

theorem map {outcome : Outcome α} (here : outcome.FailsOnly kind) (change : α → β) :
    FailsOnly kind (outcome.map change) := by
  cases outcome with
  | ok value => exact ok (change value)
  | error failure => exact error (here failure rfl)

/-- A kind of failures may be widened. -/
theorem imp {outcome : Outcome α} {wider : Failure → Prop} (here : outcome.FailsOnly kind)
    (widens : ∀ failure, kind failure → wider failure) : outcome.FailsOnly wider :=
  fun failure failed => widens failure (here failure failed)

/-- What does not succeed fails, and so is of the kind. -/
theorem exists_failure {outcome : Outcome α} (only : outcome.FailsOnly kind)
    (refused : ∀ result, outcome ≠ .ok result) :
    ∃ failure, outcome = .error failure ∧ kind failure := by
  cases outcome with
  | ok result => exact absurd rfl (refused result)
  | error failure => exact ⟨failure, rfl, only failure rfl⟩

end FailsOnly

theorem map_eq_ok_iff {outcome : Outcome α} {change : α → β} {result : β} :
    outcome.map change = .ok result ↔ ∃ value, outcome = .ok value ∧ change value = result := by
  cases outcome with
  | ok value => simp [Except.map]
  | error failure => simp [Except.map]

theorem onlyMisconfigured_misconfigured (fault : ConfigFault) :
    OnlyMisconfigured (misconfigured fault : Outcome α) :=
  .error rfl

end Outcome

end RecordMapping
