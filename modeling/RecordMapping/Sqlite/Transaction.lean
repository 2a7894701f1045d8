/-
Module: RecordMapping.Sqlite.Transaction
Purpose: Transactions begun, committed and rolled back by statements of an engine.
Main exports: Engine, Engine.connection
-/
import RecordMapping.Connection

namespace RecordMapping.Sqlite

/-!
A transaction is delimited by statements that the engine runs like any other, so
each of them may fail.  A transaction that was not ended, because its commit or
its rollback failed or because it was abandoned, is taken back by the engine
itself, and nobody hears whether there was anything to take back.
-/

/-- What runs scripts, and can take back the open transaction without one. -/
structure Engine (σ : Type) extends Executor σ where
  takeBack : σ → σ

namespace Engine

variable {σ : Type}

/-- Runs a statement whose changes do not matter. -/
def perform (engine : Engine σ) (sql : String) (state : σ) : Outcome Unit × σ :=
  match engine.execute (.ofSql sql) state with
  | (outcome, state) => (outcome.map fun _ => (), state)

/-- Ends a transaction; what cannot be ended is taken back. -/
def finish (engine : Engine σ) (sql : String) (state : σ) : Outcome Unit × σ :=
  match engine.perform sql state with
  | (.ok (), state) => (.ok (), state)
  | (.error failure, state) => (.error failure, engine.takeBack state)

theorem perform_of_finish_ok {engine : Engine σ} {sql : String} {state after : σ}
    (finished : engine.finish sql state = (.ok (), after)) :
    engine.perform sql state = (.ok (), after) := by
  unfold finish at finished
  split at finished
  · rename_i between performed
    rw [performed, finished]
  · cases finished

theorem perform_of_finish_error {engine : Engine σ} {sql : String} {state after : σ}
    {failure : Failure} (finished : engine.finish sql state = (.error failure, after)) :
    ∃ between, engine.perform sql state = (.error failure, between) ∧
      engine.takeBack between = after := by
  unfold finish at finished
  split at finished
  · cases finished
  · rename_i cause between performed
    obtain ⟨same, taken⟩ := Prod.mk.inj finished
    cases same
    exact ⟨between, performed, taken⟩

/-- A connection to a database of the engine. -/
def connection (engine : Engine σ) : Connection σ where
  run := engine.run
  begin := engine.perform "BEGIN"
  commit := engine.finish "COMMIT"
  rollback := engine.finish "ROLLBACK"
  abandon := engine.takeBack

end Engine

end RecordMapping.Sqlite
