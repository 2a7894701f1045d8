/-
Module: RecordMapping.Provider.Transaction
Purpose: Work done inside a transaction.
Main exports: TransactionBody, Connection.provider, Connection.transaction,
  Connection.abandoned, Connection.Course, Connection.transaction_eq_iff
-/
import RecordMapping.Provider

namespace RecordMapping

/-!
A transaction is begun, the body runs against it, and then it is committed if
the body succeeded and rolled back if it failed.  The failure of the body comes
out as it is; a failure to begin, to commit or to roll back comes out under a
context that names the step.
-/

/-- Work against a provider and the state of a database, with a state `κ` of
its own. -/
abbrev TransactionBody (σ κ ρ : Type) := Provider σ → κ → σ → Outcome ρ × κ × σ

namespace Connection

variable {σ κ ρ : Type}

/-- The provider of a connection in a dialect. -/
def provider (connection : Connection σ) (dialect : Dialect) : Provider σ :=
  ⟨dialect, connection.toExecutor⟩

/-- Runs a body inside a transaction, and commits it or rolls it back. -/
def transaction (connection : Connection σ) (dialect : Dialect)
    (body : TransactionBody σ κ ρ) (held : κ) (state : σ) : Outcome ρ × κ × σ :=
  match connection.begin state with
  | (.error failure, state) => (.error (failure.within .beginning), held, state)
  | (.ok (), state) =>
      match body (connection.provider dialect) held state with
      | (.ok result, held, state) =>
          match connection.commit state with
          | (.ok (), state) => (.ok result, held, state)
          | (.error failure, state) =>
              (.error (failure.within .committing), held, state)
      | (.error failure, held, state) =>
          match connection.rollback state with
          | (.ok (), state) => (.error failure, held, state)
          | (.error second, state) =>
              (.error (second.within
                (.rollingBack (failure.contexts.map Context.message) failure.cause)),
                held, state)

/-- Runs a body inside a transaction that is then neither committed nor rolled
back. -/
def abandoned (connection : Connection σ) (dialect : Dialect)
    (body : TransactionBody σ κ ρ) (held : κ) (state : σ) : Outcome ρ × κ × σ :=
  match connection.begin state with
  | (.error failure, state) => (.error failure, held, state)
  | (.ok (), state) =>
      match body (connection.provider dialect) held state with
      | (outcome, held, state) => (outcome, held, connection.abandon state)

/-! ### Courses -/

variable {connection : Connection σ} {dialect : Dialect} {body : TransactionBody σ κ ρ}
  {held : κ} {state : σ}

/-- The courses that a transaction can take, with what comes out of each. -/
inductive Course (connection : Connection σ) (dialect : Dialect)
    (body : TransactionBody σ κ ρ) (held : κ) (state : σ) : Outcome ρ × κ × σ → Prop
  /-- Nothing was begun. -/
  | refused {failure : Failure} {after : σ}
      (started : connection.begin state = (.error failure, after)) :
      Course connection dialect body held state
        (.error (failure.within .beginning), held, after)
  | committed {begun worked after : σ} {result : ρ} {left : κ}
      (started : connection.begin state = (.ok (), begun))
      (ran : body (connection.provider dialect) held begun = (.ok result, left, worked))
      (ended : connection.commit worked = (.ok (), after)) :
      Course connection dialect body held state (.ok result, left, after)
  /-- The body succeeded and the commit failed. -/
  | uncommitted {begun worked after : σ} {result : ρ} {left : κ} {failure : Failure}
      (started : connection.begin state = (.ok (), begun))
      (ran : body (connection.provider dialect) held begun = (.ok result, left, worked))
      (ended : connection.commit worked = (.error failure, after)) :
      Course connection dialect body held state
        (.error (failure.within .committing), left, after)
  | rolledBack {begun worked after : σ} {failure : Failure} {left : κ}
      (started : connection.begin state = (.ok (), begun))
      (ran : body (connection.provider dialect) held begun = (.error failure, left, worked))
      (ended : connection.rollback worked = (.ok (), after)) :
      Course connection dialect body held state (.error failure, left, after)
  /-- The body failed, and so did the rollback. -/
  | stuck {begun worked after : σ} {failure second : Failure} {left : κ}
      (started : connection.begin state = (.ok (), begun))
      (ran : body (connection.provider dialect) held begun = (.error failure, left, worked))
      (ended : connection.rollback worked = (.error second, after)) :
      Course connection dialect body held state
        (.error (second.within
          (.rollingBack (failure.contexts.map Context.message) failure.cause)), left, after)

theorem transaction_course :
    Course connection dialect body held state
      (connection.transaction dialect body held state) := by
  unfold transaction
  split
  · rename_i failure after started
    exact .refused started
  · rename_i begun started
    split
    · rename_i result left worked ran
      split
      · rename_i after ended
        exact .committed started ran ended
      · rename_i failure after ended
        exact .uncommitted started ran ended
    · rename_i failure left worked ran
      split
      · rename_i after ended
        exact .rolledBack started ran ended
      · rename_i second after ended
        exact .stuck started ran ended

/-- A transaction ends in a certain way just if one of the courses leads there. -/
theorem transaction_eq_iff {ended : Outcome ρ × κ × σ} :
    connection.transaction dialect body held state = ended ↔
      Course connection dialect body held state ended := by
  constructor
  · rintro rfl
    exact transaction_course
  · intro course
    unfold transaction
    cases course with
    | refused started => simp only [started]
    | committed started ran ended => simp only [started, ran, ended]
    | uncommitted started ran ended => simp only [started, ran, ended]
    | rolledBack started ran ended => simp only [started, ran, ended]
    | stuck started ran ended => simp only [started, ran, ended]

end Connection

end RecordMapping
