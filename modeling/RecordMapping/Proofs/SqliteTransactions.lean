/-
Module: RecordMapping.Proofs.SqliteTransactions
Purpose: A transaction either keeps all that was done in it or nothing, however
  it ends.
Main exports: Engine.Transactional, transaction_all_or_nothing, engine_transactional
-/
import RecordMapping.Proofs.SavedTables

namespace RecordMapping.Sqlite

/-!
An engine is taken as it is documented: a transaction remembers the content at
its beginning, and the statements that end it may fail and then leave it open.
So a failed commit is no end of the transaction; it ends because what cannot be
ended is taken back.
-/

/-- What is relied on of an engine, where a state has a content and, inside of a
transaction, the content that a rollback restores. -/
structure Engine.Transactional {σ δ : Type} (engine : Engine σ) (content : σ → δ)
    (saved : σ → Option δ) (plain : Statement → Prop) : Prop where
  begins : ∀ {state after}, saved state = none →
    engine.perform "BEGIN" state = (.ok (), after) →
      content after = content state ∧ saved after = some (content state)
  beginFails : ∀ {state failure after}, saved state = none →
    engine.perform "BEGIN" state = (.error failure, after) →
      content after = content state ∧ saved after = none
  /-- Transactions do not nest. -/
  refuses : ∀ {state restored}, saved state = some restored →
    ∃ failure after, engine.perform "BEGIN" state = (.error failure, after) ∧
      content after = content state ∧ saved after = some restored
  commits : ∀ {state restored after}, saved state = some restored →
    engine.perform "COMMIT" state = (.ok (), after) →
      content after = content state ∧ saved after = none
  rollsBack : ∀ {state restored after}, saved state = some restored →
    engine.perform "ROLLBACK" state = (.ok (), after) →
      content after = restored ∧ saved after = none
  /-- A transaction that could not be ended is still open. -/
  staysOpen : ∀ {sql state restored failure after}, sql = "COMMIT" ∨ sql = "ROLLBACK" →
    saved state = some restored → engine.perform sql state = (.error failure, after) →
      saved after = some restored
  takesBack : ∀ {state restored}, saved state = some restored →
    content (engine.takeBack state) = restored ∧ saved (engine.takeBack state) = none
  /-- Other statements neither begin nor end a transaction, whether they fail or
  not. -/
  keeps : ∀ {statement state left}, plain statement →
    (engine.run statement state).Leaves left → saved left = saved state

namespace Engine.Transactional

variable {σ δ : Type} {engine : Engine σ} {content : σ → δ} {saved : σ → Option δ}
  {plain : Statement → Prop} {state after : σ} {restored : δ}

/-- An end that fails takes the transaction back. -/
theorem restores_of_error (laws : engine.Transactional content saved plain) {sql : String}
    (ends : sql = "COMMIT" ∨ sql = "ROLLBACK") (opened : saved state = some restored)
    {failure : Failure} (finished : engine.finish sql state = (.error failure, after)) :
    content after = restored ∧ saved after = none := by
  obtain ⟨between, performed, rfl⟩ := Engine.perform_of_finish_error finished
  exact laws.takesBack (laws.staysOpen ends opened performed)

/-- A rollback restores the content whether it succeeds or not. -/
theorem rollback (laws : engine.Transactional content saved plain)
    (opened : saved state = some restored) {outcome : Outcome Unit}
    (finished : engine.finish "ROLLBACK" state = (outcome, after)) :
    content after = restored ∧ saved after = none := by
  cases outcome with
  | ok _ => exact laws.rollsBack opened (Engine.perform_of_finish_ok finished)
  | error failure => exact laws.restores_of_error (.inr rfl) opened finished

/-- A body that only sends plain statements leaves the transaction open. -/
theorem confined_saved (laws : engine.Transactional content saved plain) {dialect : Dialect}
    {κ ρ : Type} {body : TransactionBody σ κ ρ}
    (confined : body.Confined plain (engine.connection.provider dialect)) {held left : κ}
    {outcome : Outcome ρ}
    (worked : body (engine.connection.provider dialect) held state = (outcome, left, after)) :
    saved after = saved state := by
  have run := confined held state
  rw [worked] at run
  have kept : ∀ statement before between, plain statement → saved before = saved state →
      (engine.run statement before).Leaves between → saved between = saved state := by
    intro statement before between admitted same leaves
    exact (laws.keeps admitted leaves).trans same
  have unchanged := run.preserves kept
  exact unchanged rfl

end Engine.Transactional

/-- The tables of a session are a content in this sense. -/
theorem engine_transactional :
    engine.Transactional Session.database Session.saved
      fun statement => transactionFree statement.sql = true where
  begins := by
    intro session after outside performed
    rw [perform_begin, Session.inTransaction, outside] at performed
    cases performed
    exact ⟨rfl, rfl⟩
  beginFails := by
    intro session failure after outside performed
    rw [perform_begin, Session.inTransaction, outside] at performed
    cases performed
  refuses := by
    intro session restored opened
    refine ⟨Fault.alreadyInTransaction.failure, session, ?_, rfl, opened⟩
    rw [perform_begin, Session.inTransaction, opened]
    rfl
  commits := by
    intro session restored after opened performed
    rw [perform_commit, Session.inTransaction, opened] at performed
    cases performed
    exact ⟨rfl, rfl⟩
  rollsBack := by
    intro session restored after opened performed
    rw [perform_rollback, opened] at performed
    cases performed
    exact ⟨rfl, rfl⟩
  staysOpen := by
    intro sql session restored failure after ends opened performed
    rcases ends with rfl | rfl
    · rw [perform_commit, Session.inTransaction, opened] at performed
      cases performed
    · rw [perform_rollback, opened] at performed
      cases performed
  takesBack := by
    intro session restored opened
    have performed := perform_rollback session
    rw [opened] at performed
    have after : engine.takeBack session = (engine.perform "ROLLBACK" session).2 := rfl
    rw [after, performed]
    exact ⟨rfl, rfl⟩
  keeps := fun plain leaves => saved_of_leaves plain leaves

/-- Outside of a transaction, one that is committed leaves the content that its
body left, one that fails for any reason and one that is abandoned leave the
content as it was, and none of them leaves a transaction open.  Inside of a
transaction, another one is refused before its body runs. -/
theorem transaction_all_or_nothing {σ δ : Type} {engine : Engine σ} {content : σ → δ}
    {saved : σ → Option δ} {plain : Statement → Prop}
    (laws : engine.Transactional content saved plain) (dialect : Dialect) :
    (∀ {κ ρ : Type} (body : TransactionBody σ κ ρ),
      body.Confined plain (engine.connection.provider dialect) →
      ∀ held state, saved state = none →
        (∀ result left after,
          engine.connection.transaction dialect body held state = (.ok result, left, after) →
            saved after = none ∧
            ∃ begun worked, engine.connection.begin state = (.ok (), begun) ∧
              content begun = content state ∧
              body (engine.connection.provider dialect) held begun =
                (.ok result, left, worked) ∧
              content after = content worked) ∧
        (∀ failure left after,
          engine.connection.transaction dialect body held state =
            (.error failure, left, after) →
            saved after = none ∧ content after = content state) ∧
        (∀ outcome left after,
          engine.connection.abandoned dialect body held state = (outcome, left, after) →
            saved after = none ∧ content after = content state)) ∧
    (∀ state restored, saved state = some restored →
      ∃ failure after, saved after = some restored ∧ content after = content state ∧
        ∀ {κ ρ : Type} (body : TransactionBody σ κ ρ) (held : κ),
          engine.connection.transaction dialect body held state =
            (.error failure, held, after)) := by
  constructor
  · intro κ ρ body confined held state outside
    have within : ∀ {begun outcome left worked},
        engine.connection.begin state = (.ok (), begun) →
        body (engine.connection.provider dialect) held begun = (outcome, left, worked) →
        saved worked = some (content state) := by
      intro begun outcome left worked started ran
      rw [laws.confined_saved confined ran]
      exact (laws.begins outside started).2
    refine ⟨?_, ?_, ?_⟩
    · intro result left after returned
      cases Connection.transaction_eq_iff.mp returned with
      | @committed begun worked _ _ _ started ran ended =>
          obtain ⟨kept, closed⟩ :=
            laws.commits (within started ran) (Engine.perform_of_finish_ok ended)
          exact ⟨closed, begun, worked, started, (laws.begins outside started).1, ran, kept⟩
    · intro failure left after returned
      apply And.symm
      cases Connection.transaction_eq_iff.mp returned with
      | refused started => exact laws.beginFails outside started
      | uncommitted started ran ended =>
          exact laws.restores_of_error (.inl rfl) (within started ran) ended
      | rolledBack started ran ended => exact laws.rollback (within started ran) ended
      | stuck started ran ended => exact laws.rollback (within started ran) ended
    · intro outcome left after returned
      unfold Connection.abandoned at returned
      apply And.symm
      cases started : engine.connection.begin state with
      | mk answer begun =>
          rw [started] at returned
          cases answer with
          | error failure =>
              cases returned
              exact laws.beginFails outside started
          | ok _ =>
              cases returned
              exact laws.takesBack (within started rfl)
  · intro state restored opened
    obtain ⟨failure, after, refused, sameContent, sameSaved⟩ := laws.refuses opened
    refine ⟨failure.within .beginning, after, sameSaved, sameContent, ?_⟩
    intro κ ρ body held
    exact Connection.transaction_eq_iff.mpr (.refused refused)

/-- Creates a table, passes over a statement that fails, and then gives up. -/
def createAndFail : TransactionBody Session Unit Unit := fun provider held state =>
  match provider.exec "CREATE TABLE notes (id INTEGER PRIMARY KEY, note)" [] state with
  | (_, state) =>
      match provider.exec "DELETE FROM missing" [] state with
      | (_, state) => (.error (.ofText "given up"), held, state)

/-- What the body created is gone after its transaction. -/
theorem transaction_all_or_nothing_given_up :
    engine.Transactional Session.database Session.saved
      (fun statement => transactionFree statement.sql = true) ∧
    (createAndFail (connection.provider .sqlite) () .fresh).2.2.database ≠ .empty ∧
    ∃ failure after,
      connection.transaction .sqlite createAndFail () .fresh = (.error failure, (), after) ∧
      after.saved = none ∧ after.database = .empty := by
  have creating : Token.statements "CREATE TABLE notes (id INTEGER PRIMARY KEY, note)" =
      [[.word "CREATE", .word "TABLE", .word "notes", .mark '(', .word "id", .word "INTEGER",
        .word "PRIMARY", .word "KEY", .mark ',', .word "note", .mark ')']] := by cbv
  have deleting : Token.statements "DELETE FROM missing" =
      [[.word "DELETE", .word "FROM", .word "missing"]] := by cbv
  have confined : createAndFail.Confined
      (fun statement => transactionFree statement.sql = true)
      (engine.connection.provider .sqlite) := by
    intro held state
    have creates : transactionFree "CREATE TABLE notes (id INTEGER PRIMARY KEY, note)" = true := by
      rw [transactionFree, creating]
      rfl
    have deletes : transactionFree "DELETE FROM missing" = true := by
      rw [transactionFree, deleting]
      rfl
    unfold createAndFail
    exact (Provider.exec_reaches creates).trans (Provider.exec_reaches deletes)
  have created : (createAndFail (connection.provider .sqlite) () .fresh).2.2.database ≠
      .empty := by
    change (run ⟨"DELETE FROM missing", []⟩
      (run ⟨"CREATE TABLE notes (id INTEGER PRIMARY KEY, note)", []⟩
        .fresh).changes.2).changes.2.database ≠ .empty
    have clear : nulPosition? "CREATE TABLE notes (id INTEGER PRIMARY KEY, note)" = none ∧
        nulPosition? "DELETE FROM missing" = none := ⟨rfl, rfl⟩
    simp only [run_eq_itemsAndEnd, itemsAndEnd, clear, creating, deleting]
    decide
  refine ⟨engine_transactional, created, ?_⟩
  obtain ⟨_, failed, _⟩ :=
    (transaction_all_or_nothing engine_transactional .sqlite).1 createAndFail confined ()
      .fresh rfl
  cases returned : connection.transaction .sqlite createAndFail () .fresh with
  | mk outcome rest =>
      obtain ⟨left, after⟩ := rest
      cases outcome with
      | ok result =>
          cases Connection.transaction_eq_iff.mp returned with
          | committed _ ran _ => cases ran
      | error failure =>
          exact ⟨failure, after, rfl, failed failure left after returned⟩

end RecordMapping.Sqlite
