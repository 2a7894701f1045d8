/-
Module: RecordMapping.Proofs.ChangeCounts
Purpose: The changes that a script reports are those that it made, no more and no fewer.
Main exports: Machine.CountsChanges, machine_countsChanges, reported_changes_are_growth
-/
import Mathlib
import RecordMapping.Proofs.ReplyContents
import RecordMapping.Proofs.ScriptRuns
import RecordMapping.Proofs.ScriptStatements

namespace RecordMapping.Sqlite

/-!
What a statement changed is read off a count that runs through the whole life of a
connection.  If the count never goes back and only statements that can write move
it, the differences of the statements of a script add up to that of the script,
whatever has happened before it.
-/

namespace Machine

variable {σ π : Type}

/-- What an engine promises of its count of changes. -/
structure CountsChanges (machine : Machine σ π) : Prop where
  /-- The count never goes back. -/
  grows : ∀ statement data state,
    machine.changeCount state ≤ machine.changeCount (machine.execute statement data state).last
  /-- Only a statement that can write moves it. -/
  kept : ∀ statement data state, machine.isReadOnly statement = true →
    machine.changeCount (machine.execute statement data state).last = machine.changeCount state

end Machine

/-! ### Runs without a failure -/

theorem changedRows_append {σ : Type} (front back : List (Outcome Response × σ)) :
    changedRows (front ++ back) = changedRows front + changedRows back := by
  induction front with
  | nil => simp [changedRows]
  | cons item front inductionHypothesis =>
      obtain ⟨outcome, state⟩ := item
      simp only [List.cons_append, changedRows, inductionHypothesis]
      omega

/-- A sum of changes that is not a failure has met none. -/
theorem faultless_of_changes {σ : Type} {reply : Reply σ} {total : RowsAffected} {after : σ}
    (summed : reply.changes = (.ok total, after)) : Faultless reply.items := by
  rcases Reply.faultless_or_failure reply.items with faultless | ⟨_, _, _, _, split, clear⟩
  · exact faultless
  · cases summed.symm.trans (Reply.changes_of_failure split clear)

namespace Machine

variable {σ π : Type} {machine : Machine σ π} {text : List Char} {place reached : Nat}
  {state after : σ} {visits : List (Visit σ π)}

/-- The only end of a run without a failure is the end of the text, with no
parameters left. -/
theorem Ends.of_faultless {rest : List Value} {items : List (Outcome Response × σ)}
    {closed : σ} (ends : machine.Ends text place state rest items closed)
    (faultless : Faultless items) :
    rest = [] ∧ items = [] ∧ closed = state ∧ text.length ≤ place := by
  cases ends with
  | finished outside => exact ⟨rfl, rfl, rfl, outside⟩
  | unused | refused | unbound =>
      obtain ⟨response, impossible⟩ := faultless _ (List.mem_singleton_self _)
      cases impossible
  | broken =>
      obtain ⟨response, impossible⟩ :=
        faultless _ (List.mem_append_right _ (List.mem_singleton_self _))
      cases impossible

/-- A script that runs without a failure is worked off to its end. -/
theorem run_of_faultless {statement : Statement} {total : RowsAffected}
    (summed : machine.executor.execute statement state = (.ok total, after)) :
    ∃ visits,
      machine.Visits statement.sql.toList 0 state visits statement.sql.toList.length after ∧
        (machine.run statement state).items = visits.flatMap (·.items machine) ∧
        total.count = changedRows (visits.flatMap (·.items machine)) := by
  have faultless : Faultless (machine.run statement state).items := faultless_of_changes summed
  obtain ⟨sum, whole, counted⟩ := Reply.changes_of_faultless faultless
  cases summed.symm.trans whole
  rcases machine.run_cases statement state with
    ⟨position, reply⟩ | ⟨visits, reached, after, rest, items, closed, visited, _, ends, reply⟩
  · rw [reply] at faultless
    obtain ⟨response, impossible⟩ := faultless _ (List.mem_singleton_self _)
    cases impossible
  · rw [reply] at faultless counted ⊢
    obtain ⟨-, rfl, rfl, outside⟩ :=
      ends.of_faultless fun item member => faultless item (List.mem_append_right _ member)
    obtain rfl := Nat.le_antisymm (visited.reached_le (Nat.zero_le _)) outside
    exact ⟨visits, visited, by simp, by simpa using counted⟩

/-! ### Counts of statements and of runs -/

/-- The rows of a statement do not count as changes. -/
theorem changedRows_rowItems (statement : π) (execution : Execution σ) :
    changedRows (machine.rowItems statement execution) = 0 := by
  unfold rowItems
  induction execution.rows with
  | nil => rfl
  | cons row rows inductionHypothesis =>
      simpa [changedRows, changedBy] using inductionHypothesis

/-- What one statement reports is how far it moved the count. -/
theorem CountsChanges.changedRows_visit (counts : machine.CountsChanges) (visit : Visit σ π) :
    (changedRows (visit.items machine) : Int) =
      machine.changeCount (visit.after machine) - machine.changeCount visit.before := by
  have grown := counts.grows visit.statement visit.data visit.before
  have kept := counts.kept visit.statement visit.data visit.before
  unfold Visit.items changeItems
  rw [changedRows_append, changedRows_rowItems]
  cases writes : machine.isReadOnly visit.statement with
  | true =>
      have still := kept writes
      simp only [Visit.after, Visit.execution, if_true, changedRows]
      omega
  | false =>
      simp only [Visit.after, Visit.execution, Bool.false_eq_true, if_false, changedRows,
        changedBy, changesBetween]
      omega

/-- What a run reports is how far it moved the count. -/
theorem CountsChanges.changedRows_visits (counts : machine.CountsChanges)
    (visited : machine.Visits text place state visits reached after) :
    (changedRows (visits.flatMap (·.items machine)) : Int) =
      machine.changeCount after - machine.changeCount state := by
  induction visited with
  | refl place state => simp [changedRows]
  | blank _ _ _ inductionHypothesis => exact inductionHypothesis
  | @statement place reached after taken visit visits _ _ _ _ inductionHypothesis =>
      have here := counts.changedRows_visit visit
      rw [List.flatMap_cons, changedRows_append]
      omega

end Machine

/-! ### The count of the machine of SQLite -/

/-- A statement that runs adds to the count, or leaves it as it is if it only reads. -/
theorem changes_of_run {plan : Plan} {data : List Datum} {session after : Session}
    {rows : List (List Datum)} (ran : plan.run data session = .ok (rows, after)) :
    session.changes ≤ after.changes ∧
      (plan.isReadOnly = true → after.changes = session.changes) := by
  cases plan with
  | select _ _ _ _ =>
      cases ran
      exact ⟨le_rfl, fun _ => rfl⟩
  | insert target columns operands outputs =>
      obtain ⟨row, _, ran⟩ := ok_of_bind ran
      obtain ⟨relation, _, ran⟩ := ok_of_bind ran
      cases ran
      exact ⟨Nat.le_add_right _ _, fun readOnly => nomatch readOnly⟩
  | update target assignments conditions =>
      obtain ⟨relation, _, ran⟩ := ok_of_bind ran
      cases ran
      exact ⟨Nat.le_add_right _ _, fun readOnly => nomatch readOnly⟩
  | delete _ _ | create _ | drop _ =>
      cases ran
      exact ⟨Nat.le_add_right _ _, fun readOnly => nomatch readOnly⟩
  | begin =>
      rw [Plan.run] at ran
      split at ran <;> cases ran
      exact ⟨le_rfl, fun _ => rfl⟩
  | commit =>
      rw [Plan.run] at ran
      split at ran <;> cases ran
      exact ⟨le_rfl, fun _ => rfl⟩
  | rollback =>
      rw [Plan.run] at ran
      split at ran <;> cases ran
      exact ⟨le_rfl, fun _ => rfl⟩

theorem machine_countsChanges : machine.CountsChanges := by
  have executed (compiled : Compiled) (data : List Datum) (session : Session) :
      session.changes ≤ (execute compiled data session).last.changes ∧
        (compiled.plan.isReadOnly = true →
          (execute compiled data session).last.changes = session.changes) := by
    unfold execute
    cases ran : compiled.plan.run data session with
    | error fault => exact ⟨le_rfl, fun _ => rfl⟩
    | ok result => exact changes_of_run ran
  constructor
  · intro compiled data session
    exact Int.ofNat_le.mpr (executed compiled data session).1
  · intro compiled data session readOnly
    exact congrArg Int.ofNat ((executed compiled data session).2 readOnly)

/-- A script that runs without a failure, on a connection whose count of changes is
a number of 64 bits before and after it.  The changes that are reported in all are
the growth of the count.  They are the sum over the statements, of which each moves
the count forward and reports just this difference, or reports nothing and does not
move it; and no sum on the way is too large. -/
theorem reported_changes_are_growth {σ π : Type} {machine : Machine σ π}
    (counts : machine.CountsChanges) {statement : Statement} {state after : σ}
    {total : RowsAffected}
    (ran : machine.executor.execute statement state = (.ok total, after))
    (low : 0 ≤ machine.changeCount state)
    (high : machine.changeCount after ≤ IntType.int64.greatest) :
    (total.count : Int) = machine.changeCount after - machine.changeCount state ∧
    (∀ front back, (machine.run statement state).items = front ++ back →
      (changedRows front : Int) ≤ IntType.int64.greatest) ∧
    ∃ visits,
      machine.Visits statement.sql.toList 0 state visits statement.sql.toList.length after ∧
      (machine.run statement state).items = visits.flatMap (·.items machine) ∧
      ∀ visit ∈ visits,
        0 ≤ machine.changeCount (visit.after machine) - machine.changeCount visit.before ∧
        (machine.isReadOnly visit.statement = true →
          visit.items machine = machine.rowItems visit.statement (visit.execution machine) ∧
          machine.changeCount (visit.after machine) = machine.changeCount visit.before) ∧
        (machine.isReadOnly visit.statement = false → ∃ changes,
          visit.items machine =
            machine.rowItems visit.statement (visit.execution machine) ++
              [(.ok (.affected changes), visit.after machine)] ∧
          (changes.count : Int) =
            machine.changeCount (visit.after machine) - machine.changeCount visit.before) := by
  obtain ⟨visits, visited, items, counted⟩ := Machine.run_of_faultless ran
  have growth : (total.count : Int) = machine.changeCount after - machine.changeCount state := by
    rw [counted]
    exact counts.changedRows_visits visited
  refine ⟨growth, ?_, visits, visited, items, ?_⟩
  · intro front back split
    have whole : changedRows front + changedRows back = total.count := by
      rw [← changedRows_append, ← split, items, counted]
    omega
  · intro visit _
    have grown := counts.grows visit.statement visit.data visit.before
    refine ⟨sub_nonneg.mpr grown, ?_, ?_⟩
    · intro readOnly
      exact ⟨by simp [Visit.items, Machine.changeItems, readOnly], counts.kept _ _ _ readOnly⟩
    · intro writes
      refine ⟨machine.changesBetween visit.before (visit.after machine), ?_, ?_⟩
      · simp [Visit.items, Machine.changeItems, writes]
      · exact Int.toNat_of_nonneg (sub_nonneg.mpr grown)

/-- A row is inserted and deleted within a transaction. -/
def mixedScript : Statement :=
  ⟨"BEGIN; CREATE TABLE t (id INTEGER PRIMARY KEY, n); INSERT INTO t (n) VALUES (?); DELETE FROM t; COMMIT",
    [.varchar (some "a")]⟩

/-- Two of the five statements change a row each, and two changes are reported. -/
theorem growth_of_mixedScript :
    ∃ total after, machine.executor.execute mixedScript .fresh = (.ok total, after) ∧
      after.changes = 2 ∧ total.count = 2 := by
  have clear : nulPosition? mixedScript.sql = none := by cbv
  have split : Token.statements mixedScript.sql =
      [[.word "BEGIN", .stop],
        [.word "CREATE", .word "TABLE", .word "t", .mark '(', .word "id", .word "INTEGER",
          .word "PRIMARY", .word "KEY", .mark ',', .word "n", .mark ')', .stop],
        [.word "INSERT", .word "INTO", .word "t", .mark '(', .word "n", .mark ')',
          .word "VALUES", .mark '(', .parameter, .mark ')', .stop],
        [.word "DELETE", .word "FROM", .word "t", .stop], [.word "COMMIT"]] := by cbv
  have ran : ∃ total after,
      machine.executor.execute mixedScript .fresh = (.ok total, after) ∧ after.changes = 2 := by
    have reply : machine.executor.execute mixedScript .fresh =
        (run mixedScript .fresh).changes := rfl
    rw [reply, run_eq_itemsAndEnd, itemsAndEnd, clear]
    simp only [split]
    refine ⟨_, _, rfl, ?_⟩
    rfl
  obtain ⟨total, after, ran, moved⟩ := ran
  have count : machine.changeCount after = 2 := congrArg Int.ofNat moved
  have growth := (reported_changes_are_growth machine_countsChanges ran (by decide)
    (by rw [count]; decide)).1
  rw [count] at growth
  exact ⟨total, after, ran, moved, Int.ofNat.inj growth⟩

end RecordMapping.Sqlite
