/-
Module: RecordMapping.Sqlite.Machine
Purpose: Scripts run on any machine that compiles and executes single statements.
Main exports: Machine, Machine.placeBehind, bindAll, Machine.itemsFrom, Machine.run
-/
import RecordMapping.Connection
import RecordMapping.Sqlite.Binding

namespace RecordMapping.Sqlite

/-!
A machine compiles the statement that a text begins with and says where it ends.
The rest of a script is compiled only after that statement has been executed, so
it is compiled against the tables that the statement left behind, and a failure
keeps the effects of the statements in front of it.  A script is worked off by
places in its text, and each place lies behind the last one, whatever the machine
says.

Each statement takes as many parameters from the front of the list as it
declares; parameters that are left over are a fault at the very end.  A statement
that can write reports what it changed behind its rows, as far as this shows in
two registers of the machine: the count of all changes and the key of the row
inserted last.
-/

/-- A statement stepped to its end. -/
structure Execution (σ : Type) where
  /-- The rows, each with the state after the step that gave it. -/
  rows : List (List Datum × σ)
  /-- Why the last step failed, if it did. -/
  ending : Option Failure
  last : σ

/-- What an engine offers for single statements. -/
structure Machine (σ π : Type) where
  /-- The statement that a text begins with, if it holds any, and the number of
  characters up to its end; without a number, up to the end of the text. -/
  compile : List Char → σ → Outcome (Option π × Option Nat)
  parameterCount : π → Nat
  labels : π → List String
  isReadOnly : π → Bool
  /-- What is held of a parameter. -/
  hold : Holding
  execute : π → List Datum → σ → Execution σ
  /-- The number of rows changed on this connection so far. -/
  changeCount : σ → Int
  /-- The key of the row inserted last on this connection. -/
  lastKey : σ → Int

/-- The data of the first parameters, and the parameters behind them; `expected`
is the number of parameters of the whole statement. -/
def bindAll (hold : Holding) (expected : Nat) :
    Nat → List Value → Except Fault (List Datum × List Value)
  | 0, parameters => .ok ([], parameters)
  | _ + 1, [] => .error (.missingParameters expected)
  | count + 1, value :: rest =>
      match bindValue hold value with
      | .error refusal => .error (refusal.fault (expected - count))
      | .ok datum =>
          match bindAll hold expected count rest with
          | .error fault => .error fault
          | .ok (data, rest) => .ok (datum :: data, rest)

namespace Machine

/-- Where a script goes on behind a statement that was compiled at a place:
behind the first character at least, and at the end at most. -/
def placeBehind (length place : Nat) : Option Nat → Nat
  | none => length
  | some taken => max (place + 1) (min (place + taken) length)

theorem lt_placeBehind {length place : Nat} (inside : place < length) (taken : Option Nat) :
    place < placeBehind length place taken := by
  cases taken with
  | none => exact inside
  | some taken =>
      simp only [placeBehind]
      omega

theorem placeBehind_le {length place : Nat} (inside : place < length) (taken : Option Nat) :
    placeBehind length place taken ≤ length := by
  cases taken with
  | none => exact Nat.le_refl length
  | some taken =>
      simp only [placeBehind]
      omega

variable {σ π : Type}

/-- What a statement changed: the growth of the count of changes, and the last
key if it is another one than before. -/
def changesBetween (machine : Machine σ π) (before after : σ) : RowsAffected :=
  ⟨(machine.changeCount after - machine.changeCount before).toNat,
    if machine.lastKey after = machine.lastKey before then none
    else some (machine.lastKey after)⟩

/-- The rows of a statement as items. -/
def rowItems (machine : Machine σ π) (statement : π) (execution : Execution σ) :
    List (Outcome Response × σ) :=
  execution.rows.map fun (row, state) =>
    (.ok (.row ⟨machine.labels statement, row.map Datum.toValue⟩), state)

/-- The item that says what a statement changed, if it can write. -/
def changeItems (machine : Machine σ π) (statement : π) (before after : σ) :
    List (Outcome Response × σ) :=
  if machine.isReadOnly statement then []
  else [(.ok (.affected (machine.changesBetween before after)), after)]

/-- Runs a script from a place on: every item with the state behind it, and the
state at the end. -/
def itemsFrom (machine : Machine σ π) (text : List Char) (place : Nat)
    (parameters : List Value) (state : σ) : List (Outcome Response × σ) × σ :=
  if _inside : place < text.length then
    match machine.compile (text.drop place) state with
    | .error failure => ([(.error failure, state)], state)
    | .ok (none, taken) =>
        itemsFrom machine text (placeBehind text.length place taken) parameters state
    | .ok (some statement, taken) =>
        let count := machine.parameterCount statement
        match bindAll machine.hold count count parameters with
        | .error fault => ([(.error fault.failure, state)], state)
        | .ok (data, rest) =>
            let execution := machine.execute statement data state
            let rows := machine.rowItems statement execution
            match execution.ending with
            | some failure => (rows ++ [(.error failure, execution.last)], execution.last)
            | none =>
                let (later, closed) :=
                  itemsFrom machine text (placeBehind text.length place taken) rest
                    execution.last
                (rows ++ machine.changeItems statement state execution.last ++ later, closed)
  else if parameters.isEmpty then ([], state)
  else ([(.error (Fault.unusedParameters parameters.length).failure, state)], state)
termination_by text.length - place
decreasing_by
  · have behind := lt_placeBehind _inside taken
    omega
  · have behind := lt_placeBehind _inside taken
    omega

/-- Runs a script.  Nothing is done until the first item is taken. -/
def run (machine : Machine σ π) (statement : Statement) (state : σ) : Reply σ :=
  match nulPosition? statement.sql with
  | some position => ⟨state, [(.error (Fault.nulInScript position).failure, state)], state⟩
  | none =>
      match machine.itemsFrom statement.sql.toList 0 statement.parameters state with
      | (items, closed) => ⟨state, items, closed⟩

/-- The machine as an executor of scripts. -/
def executor (machine : Machine σ π) : Executor σ := ⟨machine.run⟩

end Machine

end RecordMapping.Sqlite
