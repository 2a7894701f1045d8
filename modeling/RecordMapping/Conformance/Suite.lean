/-
Module: RecordMapping.Conformance.Suite
Purpose: All scenarios, one after the other.
Main exports: suite, verdict
-/
import RecordMapping.Conformance.Transactions
import RecordMapping.Conformance.Writing

namespace RecordMapping.Conformance

/-!
A provider conforms if every scenario passes.  The scenarios share the database
and each creates its tables anew; the first breach ends the whole.
-/

/-- The scenarios in the order in which they are run. -/
def suite {σ : Type} : Trial σ Unit := do
  Trial.readMany
  Trial.readOne
  Trial.insertRecords
  Trial.deleteRecords
  Trial.updateRecords
  Trial.readChunks
  Trial.commitAndRollBack
  Trial.readRows

/-- What came of a trial: the report of its breach, if there is one, and the
state of the database after it. -/
def verdict {σ : Type} (trial : Trial σ Unit) (subject : Subject σ) (state : σ) :
    Option String × σ :=
  match trial.perform subject state with
  | (.ok (), state) => (none, state)
  | (.error breach, state) => (some breach.report, state)

end RecordMapping.Conformance
