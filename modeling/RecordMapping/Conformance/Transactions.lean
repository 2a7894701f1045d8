/-
Module: RecordMapping.Conformance.Transactions
Purpose: The scenario of a transaction that is committed and one that is rolled back.
Main exports: Trial.commitAndRollBack
-/
import RecordMapping.Conformance.Iteration

namespace RecordMapping.Conformance.Trial

/-!
The first transaction reads what is stored; the second one writes and then
fails, after which the stored users are the same as before.
-/

variable {σ : Type}

/-- All users in the order of their identifiers. -/
def everyUser : String := "FROM users ORDER BY id ASC"

/-- The users that a provider finds. -/
def readUsers (provider : Provider σ) (state : σ) : Outcome (List Target) × σ :=
  match provider.query users everyUser [] [] state with
  | (outcome, read, state) => (outcome.map fun _ => read, state)

/-- Inserts users with the given names, and then does the rest of the work; the
first failure is the outcome. -/
def afterInserts (provider : Provider σ) (rest : σ → Outcome Unit × σ) :
    List String → σ → Outcome Unit × σ
  | [], state => rest state
  | name :: names, state =>
      match provider.insert usersTable (userNamed name) state with
      | (.ok (), _, state) => afterInserts provider rest names state
      | (.error failure, _, state) => (.error failure, state)

/-- The failure of a body in its own words. -/
def bodyFault : String := "fake-error"

/-- Inserts two users, changes all of them, and fails. -/
def failAfterWrites (provider : Provider σ) (state : σ) : Outcome Unit × σ :=
  afterInserts provider
    (fun state =>
      let sql := "UPDATE users SET age = " ++ provider.dialect.placeholder 0
      match provider.exec sql [int32 42] state with
      | (.ok _, state) => (.error (.ofText bodyFault), state)
      | (.error failure, state) => (.error failure, state))
    ["User3", "User4"] state

/-- The values of the users of targets. -/
def userValues (read : List Target) : List (List Value) :=
  read.map fun target => valuesOf (userOf target)

/-- A transaction that succeeds and one that fails. -/
def commitAndRollBack : Trial σ Unit := do
  freshTables
  let stored := (← insertUsers ["User1", "User2"]).map valuesOf
  let read ← expect "Failed to query inside a transaction" (← transaction readUsers)
  same (userValues read) stored
  let failure ← refused "The error of the callback must be returned"
    (← transaction failAfterWrites)
  same failure.headline bodyFault
  let (outcome, read) ← query users [] everyUser []
  expect "Failed to query the users after the rollback" outcome
  same (userValues read) stored

end RecordMapping.Conformance.Trial
