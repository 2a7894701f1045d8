/-
Module: RecordMapping.Conformance.Trial
Purpose: Scenarios run against a connection, and the checks they consist of.
Main exports: Breach, Breach.report, Subject, Trial, Trial.perform
-/
import RecordMapping.Provider.Chunks
import RecordMapping.Provider.Transaction

namespace RecordMapping.Conformance

/-!
A trial works on a database through a provider and checks what comes back.  The
first check that is not met ends it; the database stays as it is then.  A check
is reported by what it says: by its remark if it has one, and otherwise by the
condition as it was written down.
-/

/-- A check that was not met. -/
inductive Breach where
  /-- A condition does not hold. -/
  | untrue (condition : String)
  /-- A condition with a remark does not hold. -/
  | unmet (remark : String)
  /-- Two things that have to be equal are not. -/
  | unequal (remark : Option String)
  /-- Two things that have to differ are equal. -/
  | equal
  /-- An operation that has to succeed failed. -/
  | failed (remark : String) (failure : Failure)
  /-- An operation that has to fail succeeded, with the described result. -/
  | succeeded (remark result : String)
  /-- An operation asked for a buffer that cannot be had. -/
  | overflow
deriving Repr, DecidableEq

/-- The wording of a breach. -/
def Breach.message : Breach → String
  | .untrue condition => s!"assertion failed: {condition}"
  | .unmet remark => remark
  | .unequal none => "assertion `left == right` failed"
  | .unequal (some remark) => s!"assertion `left == right` failed: {remark}"
  | .equal => "assertion `left != right` failed"
  | .failed remark failure => remark ++ ": " ++ failure.headline
  | .succeeded remark result => remark ++ ": " ++ result
  | .overflow => "capacity overflow"

/-- The first line of the wording of a breach. -/
def Breach.report (breach : Breach) : String :=
  String.ofList (breach.message.toList.takeWhile (· != '\n'))

/-- What is put to the test. -/
structure Subject (σ : Type) where
  connection : Connection σ
  dialect : Dialect

/-- The provider that scenarios use. -/
def Subject.provider {σ : Type} (subject : Subject σ) : Provider σ :=
  subject.connection.provider subject.dialect

/-- A scenario, or a part of one. -/
abbrev Trial (σ : Type) := ReaderT (Subject σ) (ExceptT Breach (StateM σ))

namespace Trial

variable {σ α : Type}

/-- Runs a trial: its result or its breach, and the state after it. -/
def perform (trial : Trial σ α) (subject : Subject σ) (state : σ) :
    Except Breach α × σ :=
  ((ReaderT.run trial subject).run).run state

/-- Ends a trial. -/
def breach (found : Breach) : Trial σ α := throw found

/-- The dialect of the subject. -/
def dialect : Trial σ Dialect := do return (← read).dialect

/-- The mark of the parameter at an index. -/
def place (index : Nat) : Trial σ String := do
  return (← dialect).placeholder index

/-- The marks of the first parameters, between commas. -/
def places (count : Nat) : Trial σ String := do
  return ", ".intercalate ((List.range count).map (← dialect).placeholder)

/-! ### Operations -/

/-- Works on the database through the provider. -/
def act (operation : Provider σ → σ → α × σ) : Trial σ α := do
  let (result, state) := operation (← read).provider (← get)
  set state
  return result

/-- Targets replaced by the rows of a query. -/
def query (type : TargetType) (present : List Target) (text : String)
    (parameters : List Value) : Trial σ (Outcome Unit × List Target) :=
  act fun provider state =>
    match provider.query type text parameters present state with
    | (outcome, targets, state) => ((outcome, targets), state)

/-- A target with the first row of a query. -/
def queryOne (type : TargetType) (target : Target) (text : String)
    (parameters : List Value) : Trial σ (Outcome Unit × Target) :=
  act fun provider state =>
    match provider.queryOne type text parameters target state with
    | (outcome, target, state) => ((outcome, target), state)

/-- A record after its insert. -/
def insert (table : Table) (record : Record) : Trial σ (Outcome Unit × Record) :=
  act fun provider state =>
    match provider.insert table record state with
    | (outcome, record, state) => ((outcome, record), state)

/-- The update of the row of a record. -/
def update (table : Table) (record : Record) : Trial σ (Outcome Unit) :=
  act fun provider state => provider.update table record state

/-- The delete of the rows that a key selects. -/
def delete (table : Table) (key : Outcome DeleteKey) : Trial σ (Outcome Unit) :=
  act fun provider state => provider.delete table key state

/-- A statement run as it is. -/
def exec (sql : String) (parameters : List Value) : Trial σ (Outcome RowsAffected) :=
  act fun provider state => provider.exec sql parameters state

/-- A callback that keeps its chunks and answers with outcomes in turn, and with
success once they have run out. -/
def keepChunks : ChunkCallback (List (Outcome Unit) × List (List Target)) :=
  fun (outcomes, chunks) chunk =>
    (outcomes.headD (.ok ()), outcomes.drop 1, chunks ++ [chunk])

/-- The chunks of a query, and the outcome for the given ones of the callback. -/
def chunks (type : TargetType) (query : ChunkQuery) (outcomes : List (Outcome Unit)) :
    Trial σ (Outcome Unit × List (List Target)) := do
  let (ended, chunks) ← act fun provider state =>
    match provider.queryChunks type query keepChunks (outcomes, []) state with
    | (ended, (_, chunks), state) => ((ended, chunks), state)
  match ended with
  | .returned outcome => return (outcome, chunks)
  | .overflow => breach .overflow

/-- Work inside a transaction. -/
def transaction (body : Provider σ → σ → Outcome α × σ) : Trial σ (Outcome α) := do
  let subject ← read
  let (outcome, _, state) :=
    subject.connection.transaction subject.dialect
      (fun provider _ state =>
        match body provider state with
        | (outcome, state) => (outcome, (), state))
      () (← get)
  set state
  return outcome

/-- A cursor over the rows of a statement. -/
def rows (sql : String) (parameters : List Value) : Trial σ (Cursor σ) := do
  let cursor := (← read).provider.rows sql parameters (← get)
  set cursor.state
  return cursor

/-- A cursor after it was asked for the next row. -/
def next (cursor : Cursor σ) : Trial σ (Outcome Bool × Cursor σ) := do
  let (outcome, cursor) := cursor.next
  set cursor.state
  return (outcome, cursor)

/-! ### Checks -/

/-- A condition has to hold; it is reported as it is written. -/
def holds (condition : Bool) (written : String) : Trial σ Unit :=
  if condition then return () else breach (.untrue written)

/-- A condition has to hold; it is reported by a remark. -/
def require (condition : Bool) (remark : String) : Trial σ Unit :=
  if condition then return () else breach (.unmet remark)

/-- Two things have to be equal. -/
def same {β : Type} [BEq β] (first second : β) : Trial σ Unit :=
  if first == second then return () else breach (.unequal none)

/-- Two things have to be equal; a remark says which ones. -/
def sameAs {β : Type} [BEq β] (remark : String) (first second : β) : Trial σ Unit :=
  if first == second then return () else breach (.unequal (some remark))

/-- A value has to be another one than zero. -/
def nonzero (value : Value) : Trial σ Unit :=
  if value.isZero then breach .equal else return ()

/-- An operation has to succeed. -/
def expect (remark : String) (outcome : Outcome α) : Trial σ α :=
  match outcome with
  | .ok result => return result
  | .error failure => breach (.failed remark failure)

/-- An operation has to fail; what it gives otherwise is described. -/
def expectFailure (remark : String) (describe : α → String) (outcome : Outcome α) :
    Trial σ Failure :=
  match outcome with
  | .ok result => breach (.succeeded remark (describe result))
  | .error failure => return failure

/-- An operation without result has to fail. -/
def refused (remark : String) (outcome : Outcome Unit) : Trial σ Failure :=
  expectFailure remark (fun _ => "()") outcome

end Trial

/-- Whether a text contains a part. -/
def mentions (text part : String) : Bool :=
  go text.toList
where
  /-- Whether the part begins somewhere in the given characters. -/
  go : List Char → Bool
    | [] => part.isEmpty
    | character :: rest =>
        part.toList.isPrefixOf (character :: rest) || go rest

end RecordMapping.Conformance
