/-
Module: RecordMapping.Sqlite.Run
Purpose: The machine of SQLite, and scripts run on it.
Main exports: Compiled, compile, execute, machine, run
-/
import RecordMapping.Sqlite.Machine
import RecordMapping.Sqlite.Session

namespace RecordMapping.Sqlite

/-!
A statement is compiled against the tables as they are, and says by itself how
many parameters it has.  It takes effect as a whole and before its first row is
seen, or with a fault not at all.
-/

/-- A statement ready to be bound. -/
structure Compiled where
  plan : Plan
  parameterCount : Nat
deriving Repr, DecidableEq

/-- Whether the tokens of a statement are none but its end. -/
def isBlank (tokens : List Token) : Bool := tokens.all (· == .stop)

/-- The statement with the given tokens, compiled against the tables. -/
def compileTokens (tokens : List Token) (session : Session) : Except Fault Compiled := do
  let (command, count) ← Command.read tokens
  let plan ← command.prepare session.database
  return ⟨plan, count⟩

/-- Compiles the statement that a text begins with. -/
def compile (text : List Char) (session : Session) : Outcome (Option Compiled × Option Nat) :=
  let (tokens, behind) := Token.firstStatement text
  let taken := some (text.length - behind.length)
  if isBlank tokens then .ok (none, taken)
  else
    match compileTokens tokens session with
    | .ok compiled => .ok (some compiled, taken)
    | .error fault => .error fault.failure

/-- Executes a statement. -/
def execute (compiled : Compiled) (data : List Datum) (session : Session) :
    Execution Session :=
  match compiled.plan.run data session with
  | .ok (rows, after) => ⟨rows.map fun row => (row, after), none, after⟩
  | .error fault => ⟨[], some fault.failure, session⟩

/-- The machine of SQLite. -/
def machine : Machine Session Compiled where
  compile := compile
  parameterCount := Compiled.parameterCount
  labels := fun compiled => compiled.plan.outputs.map (·.label)
  isReadOnly := fun compiled => compiled.plan.isReadOnly
  hold := holdWithin lengthLimit
  execute := execute
  changeCount := fun session => session.changes
  lastKey := Session.lastKey

/-- Runs a script. -/
def run (statement : Statement) (session : Session) : Reply Session :=
  machine.run statement session

end RecordMapping.Sqlite
