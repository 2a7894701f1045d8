/-
Module: RecordMapping.Proofs.SavedTables
Purpose: Only the statements that delimit transactions touch the tables that a
  rollback restores.
Main exports: Command.isControl, transactionFree, Plan.saved_of_run, saved_of_leaves,
  perform_begin, perform_commit, perform_rollback
-/
import Mathlib
import RecordMapping.Proofs.ScriptStatements
import RecordMapping.Proofs.StatementRuns
import RecordMapping.Sqlite.Connection

namespace RecordMapping.Sqlite

/-!
A script is free of transaction control when none of its statements reads as one
that begins or ends a transaction; what it does to the tables does not matter,
nor whether it comes to its end.
-/

/-- Whether a statement begins or ends a transaction. -/
def Command.isControl : Command → Bool
  | .begin | .commit | .rollback => true
  | .select _ _ _ _ | .insert _ _ _ _ | .update _ _ _ | .delete _ _ | .create _ _ _
  | .drop _ => false

/-- Whether a prepared statement begins or ends a transaction. -/
def Plan.isControl : Plan → Bool
  | .begin | .commit | .rollback => true
  | .select _ _ _ _ | .insert _ _ _ _ | .update _ _ _ | .delete _ _ | .create _
  | .drop _ => false

/-- Whether tokens are those of a statement that begins or ends a transaction. -/
def isControl (tokens : List Token) : Bool :=
  match Command.read tokens with
  | .ok (command, _) => command.isControl
  | .error _ => false

/-- Whether no statement of a script begins or ends a transaction. -/
def transactionFree (script : String) : Bool :=
  (Token.statements script).all fun tokens => !isControl tokens

theorem Command.isControl_of_prepare {command : Command} {database : Database} {plan : Plan}
    (prepared : command.prepare database = .ok plan) :
    plan.isControl = command.isControl := by
  cases command with
  | select selected source conditions order =>
      obtain ⟨scope, _, prepared⟩ := ok_of_bind prepared
      obtain ⟨outputs, _, prepared⟩ := ok_of_bind prepared
      obtain ⟨conditions, _, prepared⟩ := ok_of_bind prepared
      obtain ⟨order, _, prepared⟩ := ok_of_bind prepared
      cases prepared
      rfl
  | insert table columns terms returned =>
      obtain ⟨relation, _, prepared⟩ := ok_of_bind prepared
      obtain ⟨places, _, prepared⟩ := ok_of_bind prepared
      split at prepared
      · obtain ⟨operands, _, prepared⟩ := ok_of_bind prepared
        obtain ⟨outputs, _, prepared⟩ := ok_of_bind prepared
        cases prepared
        rfl
      · cases prepared
  | update table assignments conditions =>
      obtain ⟨relation, _, prepared⟩ := ok_of_bind prepared
      obtain ⟨places, _, prepared⟩ := ok_of_bind prepared
      obtain ⟨conditions, _, prepared⟩ := ok_of_bind prepared
      cases prepared
      rfl
  | delete table conditions =>
      obtain ⟨relation, _, prepared⟩ := ok_of_bind prepared
      obtain ⟨conditions, _, prepared⟩ := ok_of_bind prepared
      cases prepared
      rfl
  | create table key columns =>
      rw [prepare] at prepared
      split at prepared
      · cases prepared
      · cases prepared
        rfl
  | drop table =>
      obtain ⟨relation, _, prepared⟩ := ok_of_bind prepared
      cases prepared
      rfl
  | begin => cases prepared; rfl
  | commit => cases prepared; rfl
  | rollback => cases prepared; rfl

theorem Plan.saved_of_run {plan : Plan} (plain : plan.isControl = false)
    {parameters : List Datum} {session after : Session} {rows : List (List Datum)}
    (ran : plan.run parameters session = .ok (rows, after)) :
    after.saved = session.saved := by
  cases plan with
  | select found outputs conditions order => cases ran; rfl
  | insert target columns operands outputs =>
      obtain ⟨row, _, ran⟩ := ok_of_bind ran
      obtain ⟨relation, _, ran⟩ := ok_of_bind ran
      cases ran
      rfl
  | update target assignments conditions =>
      obtain ⟨relation, _, ran⟩ := ok_of_bind ran
      cases ran
      rfl
  | delete target conditions => cases ran; rfl
  | create relation => cases ran; rfl
  | drop relation => cases ran; rfl
  | begin => cases plain
  | commit => cases plain
  | rollback => cases plain

/-! ### Scripts -/

theorem saved_of_runStatement {tokens : List Token} (plain : isControl tokens = false)
    {parameters rest : List Value} {session after : Session} {items : List Response}
    (ran : runStatement tokens parameters session = .ok (items, rest, after)) :
    after.saved = session.saved := by
  obtain ⟨⟨command, count⟩, read, ran⟩ := ok_of_bind ran
  obtain ⟨plan, prepared, ran⟩ := ok_of_bind ran
  obtain ⟨⟨data, left⟩, _, ran⟩ := ok_of_bind ran
  obtain ⟨⟨rows, state⟩, finished, ran⟩ := ok_of_bind ran
  cases ran
  refine Plan.saved_of_run ?_ finished
  rw [Command.isControl_of_prepare prepared]
  simpa [isControl, read] using plain

/-- Statements run one after the other, each of them leaves the saved tables as
they are, and so does a fault among them. -/
theorem saved_of_runStatements {statements : List (List Token)}
    (plain : ∀ tokens ∈ statements, isControl tokens = false) (parameters : List Value)
    (session : Session) :
    (∀ item ∈ (runStatements statements parameters session).1,
      item.2.saved = session.saved) ∧
    (runStatements statements parameters session).2.saved = session.saved := by
  induction statements generalizing parameters session with
  | nil =>
      unfold runStatements
      split
      · simp
      · simp
  | cons tokens rest inductionHypothesis =>
      obtain ⟨first, others⟩ := List.forall_mem_cons.mp plain
      unfold runStatements
      cases ran : runStatement tokens parameters session with
      | error fault => simp
      | ok result =>
          obtain ⟨items, left, after⟩ := result
          have here : after.saved = session.saved :=
            saved_of_runStatement first ran
          obtain ⟨later, final⟩ := inductionHypothesis others left after
          rw [here] at later final
          refine ⟨?_, final⟩
          intro item member
          rcases List.mem_append.mp member with own | behind
          · obtain ⟨_, _, rfl⟩ := List.mem_map.mp own
            exact here
          · exact later item behind

/-- Wherever a script without transaction control is left, the saved tables are
what they were. -/
theorem saved_of_leaves {statement : Statement} (plain : transactionFree statement.sql = true)
    {session left : Session} (leaves : (run statement session).Leaves left) :
    left.saved = session.saved := by
  have statements : ∀ tokens ∈ Token.statements statement.sql, isControl tokens = false := by
    simpa [transactionFree] using plain
  have both : (∀ item ∈ (itemsAndEnd statement session).1, item.2.saved = session.saved) ∧
      (itemsAndEnd statement session).2.saved = session.saved := by
    unfold itemsAndEnd
    split
    · simp
    · exact saved_of_runStatements statements statement.parameters session
  rw [run_eq_itemsAndEnd] at leaves
  cases leaves with
  | opened => rfl
  | taken member =>
      obtain ⟨item, present, rfl⟩ := List.mem_map.mp member
      exact both.1 item present
  | closed => exact both.2

/-! ### Statements that delimit transactions -/

/-- A statement that delimits a transaction has no rows and reports no changes. -/
theorem Plan.items_of_control {plan : Plan} (control : plan.isControl = true)
    {session after : Session} {rows : List (List Datum)}
    (ran : plan.run [] session = .ok (rows, after)) : itemsOf plan rows session after = [] := by
  have both : plan.isReadOnly = true ∧ rows = [] := by
    cases plan with
    | begin =>
        rw [run] at ran
        split at ran <;> cases ran
        exact ⟨rfl, rfl⟩
    | commit =>
        rw [run] at ran
        split at ran <;> cases ran
        exact ⟨rfl, rfl⟩
    | rollback =>
        rw [run] at ran
        split at ran <;> cases ran
        exact ⟨rfl, rfl⟩
    | _ => cases control
  simp [itemsOf, both]

/-- A script that only delimits a transaction succeeds or fails as its plan
does. -/
theorem perform_control {sql : String} {tokens : List Token} {command : Command} {plan : Plan}
    (clear : nulPosition? sql = none) (single : Token.statements sql = [tokens])
    (read : Command.read tokens = .ok (command, 0))
    (prepared : ∀ database, command.prepare database = .ok plan)
    (control : plan.isControl = true) (session : Session) :
    engine.perform sql session =
      match plan.run [] session with
      | .ok (_, after) => (.ok (), after)
      | .error fault => (.error fault.failure, session) := by
  unfold Engine.perform Executor.execute engine
  simp only [run_eq_itemsAndEnd, itemsAndEnd, reported, Statement.ofSql, clear, single,
    runStatements]
  unfold runStatement
  rw [read]
  cases ran : plan.run [] session with
  | error fault =>
      simp [bind, Except.bind, prepared, bindAll, ran, Reply.changes, Reply.sumChanges,
        Except.mapError, Except.map]
  | ok result =>
      obtain ⟨rows, after⟩ := result
      simp [bind, Except.bind, prepared, bindAll, ran, Reply.changes, Reply.sumChanges,
        Except.map, Plan.items_of_control control ran, pure, Except.pure]

theorem perform_begin (session : Session) :
    engine.perform "BEGIN" session =
      if session.inTransaction then (.error Fault.alreadyInTransaction.failure, session)
      else (.ok (), { session with saved := some session.database }) := by
  have single : Token.statements "BEGIN" = [[.word "BEGIN"]] := by cbv
  rw [perform_control rfl single rfl (fun _ => rfl) rfl session, Plan.run]
  cases session.inTransaction <;> rfl

theorem perform_commit (session : Session) :
    engine.perform "COMMIT" session =
      if session.inTransaction then (.ok (), { session with saved := none })
      else (.error Fault.nothingToCommit.failure, session) := by
  have single : Token.statements "COMMIT" = [[.word "COMMIT"]] := by cbv
  rw [perform_control rfl single rfl (fun _ => rfl) rfl session, Plan.run]
  cases session.inTransaction <;> rfl

theorem perform_rollback (session : Session) :
    engine.perform "ROLLBACK" session =
      match session.saved with
      | some database => (.ok (), { session with database := database, saved := none })
      | none => (.error Fault.nothingToRollBack.failure, session) := by
  have single : Token.statements "ROLLBACK" = [[.word "ROLLBACK"]] := by cbv
  rw [perform_control rfl single rfl (fun _ => rfl) rfl session, Plan.run]
  cases session.saved <;> rfl

end RecordMapping.Sqlite
