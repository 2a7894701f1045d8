/-
Module: RecordMapping.Provider
Purpose: Records read from and written to a database.
Main exports: Provider, Provider.query, Provider.queryOne, Provider.insert,
  Provider.update, Provider.delete, Provider.exec, Provider.rows
-/
import RecordMapping.Scan.Cursor
import RecordMapping.Statement.Selection
import RecordMapping.Statement.Change
import RecordMapping.DeleteKey

namespace RecordMapping

/-!
Every operation first builds its statement, which finds all misconfigurations,
and only then sends it.  An operation sends at most one statement.  What the
statement sends back is read to its end or to the first failure, and a failure
is put under the context of the operation.
-/

/-- A dialect and what runs the statements built in it. -/
structure Provider (σ : Type) where
  dialect : Dialect
  executor : Executor σ

namespace Provider

variable {σ : Type}

/-- Every row as a new target, up to the first failure. -/
def collect (context : Context) (closed : σ) (scanner : Scanner) :
    List (Outcome LabeledRow × σ) → Outcome Unit × List Target × σ
  | [] => (.ok (), [], closed)
  | (.error failure, state) :: _ => (.error (failure.within context), [], state)
  | (.ok row, state) :: rest =>
      match scanner.scan row with
      | (_, .error failure) => (.error failure, [], state)
      | (scanner, .ok target) =>
          match collect context closed scanner rest with
          | (outcome, targets, state) => (outcome, target :: targets, state)

/-- The scanner and the complete text of a query into targets of a type. -/
def prepare (provider : Provider σ) (type : TargetType) (query : String) :
    Outcome (Scanner × String) := do
  let scanner ← Scanner.make type
  let sql ← provider.dialect.select scanner.layout query
  return (scanner, sql)

/-- Replaces targets by one target per row of a query. -/
def query (provider : Provider σ) (type : TargetType) (text : String)
    (parameters : List Value) (present : List Target) (state : σ) :
    Outcome Unit × List Target × σ :=
  match provider.prepare type text with
  | .error failure => (.error failure, present, state)
  | .ok (scanner, sql) =>
      let reply := provider.executor.run ⟨sql, parameters⟩ state
      collect (.runningQuery sql) reply.closed scanner reply.rows

/-- Stores the first row of a query in a target; further rows are not read. -/
def queryOne (provider : Provider σ) (type : TargetType) (text : String)
    (parameters : List Value) (target : Target) (state : σ) :
    Outcome Unit × Target × σ :=
  match provider.prepare type text with
  | .error failure => (.error failure, target, state)
  | .ok (scanner, sql) =>
      let reply := provider.executor.run ⟨sql, parameters⟩ state
      match reply.rows with
      | [] => (.error (.ofCause .recordNotFound), target, reply.closed)
      | (.error failure, state) :: _ =>
          (.error (failure.within (.runningQuery sql)), target, state)
      | (.ok row, state) :: _ =>
          match scanner.scanInto row target with
          | (_, stored, outcome) => (outcome, stored, state)

/-- Stores the columns of a row in the fields of a record that have their
names. -/
def writeBack (metadata : RecordMeta) : List (String × Value) → Record →
    Record × Outcome Unit
  | [], record => (record, .ok ())
  | (label, value) :: rest, record =>
      match metadata.fieldIndex? label with
      | none => writeBack metadata rest record
      | some index =>
          match record.set index value with
          | .ok stored => writeBack metadata rest stored
          | .error failure => (record, .error (failure.within (.writingBack label)))

/-- The end of a reading of rows whose contents do not matter. -/
def drain (context : Context) (closed : σ) :
    List (Outcome LabeledRow × σ) → Outcome Unit × σ
  | [] => (.ok (), closed)
  | (.error failure, state) :: _ => (.error (failure.within context), state)
  | (.ok _, _) :: rest => drain context closed rest

/-- Stores the first row of an insert in its record, once all rows have been
read without failure. -/
def storeReturned (context : Context) (metadata : RecordMeta) (record : Record)
    (reply : Reply σ) : Outcome Unit × Record × σ :=
  match reply.rows with
  | [] => (.ok (), record, reply.closed)
  | (.error failure, state) :: _ => (.error (failure.within context), record, state)
  | (.ok row, _) :: rest =>
      match drain context reply.closed rest with
      | (.error failure, state) => (.error failure, record, state)
      | (.ok (), state) =>
          match writeBack metadata (row.labels.zip row.values) record with
          | (stored, outcome) => (outcome, stored, state)

/-- Stores the identifier that a driver reported for an insert. -/
def storeReported (plan : InsertPlan) (changes : RowsAffected) (record : Record) :
    Outcome Unit × Record :=
  match plan.lastIdField, changes.lastId with
  | some index, some id =>
      match record.set index (Value.ofInt .int64 id) with
      | .ok stored => (.ok (), stored)
      | .error failure => (.error (failure.within (.writingBackId id)), record)
  | _, _ => (.ok (), record)

/-- The metadata of a record and the plan of its insert into a table. -/
def planInsert (provider : Provider σ) (table : Table) (record : Record) :
    Outcome (RecordMeta × InsertPlan) := do
  table.validate
  let metadata ← record.type.metadata
  let values ← record.values
  let plan ← provider.dialect.insert table metadata values
  return (metadata, plan)

/-- Inserts a record and stores the identifiers that come back in it. -/
def insert (provider : Provider σ) (table : Table) (record : Record) (state : σ) :
    Outcome Unit × Record × σ :=
  match provider.planInsert table record with
  | .error failure => (.error failure, record, state)
  | .ok (metadata, plan) =>
      let context := Context.inserting table.name plan.columns
      let reply := provider.executor.run plan.statement state
      if plan.returning.isEmpty then
        match reply.changes with
        | (.error failure, state) => (.error (failure.within context), record, state)
        | (.ok changes, state) =>
            match storeReported plan changes record with
            | (outcome, stored) => (outcome, stored, state)
      else storeReturned context metadata record reply

/-- Runs a change that has to affect at least one row. -/
def change (provider : Provider σ) (context : Context) (statement : Statement)
    (state : σ) : Outcome Unit × σ :=
  match provider.executor.execute statement state with
  | (.error failure, state) => (.error (failure.within context), state)
  | (.ok changes, state) =>
      if changes.count = 0 then (.error (.ofCause .recordNotFound), state)
      else (.ok (), state)

/-- The update of the row of a record. -/
def planUpdate (provider : Provider σ) (table : Table) (record : Record) :
    Outcome Statement := do
  table.validate
  let metadata ← record.type.metadata
  let values ← record.values
  provider.dialect.update table metadata values

/-- Updates the row that a record identifies. -/
def update (provider : Provider σ) (table : Table) (record : Record) (state : σ) :
    Outcome Unit × σ :=
  match provider.planUpdate table record with
  | .error failure => (.error failure, state)
  | .ok statement => provider.change (.updating table.name) statement state

/-- The delete of the rows that a key selects. -/
def planDelete (provider : Provider σ) (table : Table) (key : Outcome DeleteKey) :
    Outcome Statement := do
  table.validate
  let keys ← (← key).resolve table
  provider.dialect.delete table keys

/-- Deletes the rows that a key selects. -/
def delete (provider : Provider σ) (table : Table) (key : Outcome DeleteKey)
    (state : σ) : Outcome Unit × σ :=
  match provider.planDelete table key with
  | .error failure => (.error failure, state)
  | .ok statement => provider.change (.deleting table.name) statement state

/-- Runs a statement as it is. -/
def exec (provider : Provider σ) (sql : String) (parameters : List Value)
    (state : σ) : Outcome RowsAffected × σ :=
  match provider.executor.execute ⟨sql, parameters⟩ state with
  | (outcome, state) => (outcome.within (.runningQuery sql), state)

/-- A cursor over the rows of a statement as it is. -/
def rows (provider : Provider σ) (sql : String) (parameters : List Value)
    (state : σ) : Cursor σ :=
  Cursor.ofReply (provider.executor.run ⟨sql, parameters⟩ state)

end Provider

end RecordMapping
