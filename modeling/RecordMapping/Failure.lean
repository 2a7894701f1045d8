/-
Module: RecordMapping.Failure
Purpose: Failures as a cause under the contexts it passed through.
Main exports: Cause, Context, Failure, Failure.within, Failure.render,
  Failure.isConfiguration, Failure.isRecordNotFound, Failure.isAbort
-/
import RecordMapping.Failure.Configuration
import RecordMapping.Text.Excerpt

namespace RecordMapping

/-!
A failure has one cause.  On its way out each layer may put a context in front
of it, which says what was being attempted; contexts never replace the cause,
so a caller can still ask whether a record was not found or whether the
configuration was wrong.
-/

/-- What a cursor over rows cannot do in its present state. -/
inductive CursorFault where
  | notStarted
  | noRow
  | exhausted
  | closed
deriving Repr, DecidableEq

/-- What went wrong. -/
inductive Cause where
  /-- The configuration is wrong. -/
  | configuration (fault : ConfigFault)
  /-- A query that needs a row returned none, or a change affected none. -/
  | recordNotFound
  /-- A callback asks to stop the iteration. -/
  | abortIteration
  /-- A cell has no counterpart in a type. -/
  | conversion (value : Value) (typeName : String)
  /-- A number is not in the range of an integer type. -/
  | outOfRange (number : Int) (type : IntType)
  /-- A text denotes no number of an integer type. -/
  | integerText (fault : IntType.Fault)
  /-- Bytes are not text. -/
  | utf8 (fault : Text.Utf8.Fault)
  /-- A text or bytes that are no identifier. -/
  | uuidText
  /-- A text that is not JSON, or not of the expected shape. -/
  | jsonText
  /-- A cell that can hold no JSON. -/
  | jsonCell (sqlName : String)
  /-- A record has no field at an index. -/
  | noField (typeName : String) (index : Nat)
  /-- A scan target has no record at an index. -/
  | noPart (typeName : String) (index : Nat)
  /-- A row has another number of columns than a joined target. -/
  | columnCount (typeName : String) (expected actual : Nat)
  /-- A cursor is used in a state that does not allow it. -/
  | cursor (fault : CursorFault)
  /-- A failure in the words of a driver, a database or a caller. -/
  | reported (text : String)
deriving Repr, DecidableEq

/-- What was being attempted. -/
inductive Context where
  | parsing (text typeName : String)
  | readingBlob
  | converting (value : Value) (typeName : String)
  | decodingJson
  | encodingJson
  | scanningColumn (label field typeName : String)
  | runningQuery (sql : String)
  | inserting (table : String) (columns : List String)
  | updating (table : String)
  | deleting (table : String)
  | writingBack (label : String)
  | writingBackId (id : Int)
  | beginning
  | committing
  /-- A rollback after another failure, which had these messages in front of its
  cause. -/
  | rollingBack (attempts : List String) (reason : Cause)
  | note (text : String)
deriving Repr, DecidableEq

/-- A cause and the contexts in front of it, the outermost first. -/
structure Failure where
  contexts : List Context
  cause : Cause
deriving Repr, DecidableEq

/-- The wording of a conversion without counterpart. -/
def conversionMessage (value : Value) (typeName : String) : String :=
  s!"Cannot convert {value.sqlName} value {value.text} to {typeName}"

/-- The wording of a cursor fault. -/
def CursorFault.message : CursorFault → String
  | .notStarted => "rowmap::Rows: scan called before next"
  | .noRow => "rowmap::Rows: no row available"
  | .exhausted => "rowmap::Rows: the rows are exhausted"
  | .closed => "rowmap::Rows: the rows are closed"

/-- The wording of a cause. -/
def Cause.message : Cause → String
  | .configuration fault => fault.text
  | .recordNotFound => "rowmap: record not found"
  | .abortIteration =>
      "rowmap: abort iteration, should only be used inside query_chunks callbacks"
  | .conversion value typeName => conversionMessage value typeName
  | .outOfRange number type => s!"Value {number} is out of range for {type.name}"
  | .integerText fault => fault.message
  | .utf8 fault => fault.message
  | .uuidText => "invalid UUID"
  | .jsonText => "invalid JSON"
  | .jsonCell sqlName =>
      s!"Cannot decode a {sqlName} value as JSON, expected text or bytes"
  | .noField typeName index => s!"`{typeName}` has no mapped field at index {index}"
  | .noPart typeName index => s!"The target `{typeName}` has no part at index {index}"
  | .columnCount typeName expected actual =>
      s!"The joined struct `{typeName}` expects {expected} columns, but the query returned {actual}"
  | .cursor fault => fault.message
  | .reported text => text

/-- The wording of a context. -/
def Context.message : Context → String
  | .parsing text typeName => s!"Cannot parse `{Text.excerpt text}` as {typeName}"
  | .readingBlob => "Cannot convert a BLOB into String"
  | .converting value typeName => conversionMessage value typeName
  | .decodingJson => "Could not decode the JSON column"
  | .encodingJson => "Could not encode the field as JSON"
  | .scanningColumn label field typeName =>
      s!"Could not scan the column `{label}` into the field `{field}` of `{typeName}`"
  | .runningQuery sql => s!"error running query: {Text.excerpt sql}"
  | .inserting table columns =>
      s!"Could not insert into `{table}` the columns (" ++ ", ".intercalate columns ++ ")"
  | .updating table => s!"Could not update the table `{table}`"
  | .deleting table => s!"Could not delete from the table `{table}`"
  | .writingBack label => s!"Could not write back the generated `{label}`"
  | .writingBackId id => s!"Could not write back the generated id {id}"
  | .beginning => "Could not begin the transaction"
  | .committing => "Could not commit the transaction"
  | .rollingBack attempts reason =>
      "Could not roll back the transaction after the error: " ++
        ": ".intercalate (attempts ++ [reason.message])
  | .note text => text

namespace Failure

/-- A failure without context. -/
def ofCause (cause : Cause) : Failure := ⟨[], cause⟩

/-- A misconfiguration as a failure. -/
def configuration (fault : ConfigFault) : Failure := ofCause (.configuration fault)

/-- A failure in the words of its reporter. -/
def ofText (text : String) : Failure := ofCause (.reported text)

/-- The failure with one more context in front. -/
def within (failure : Failure) (context : Context) : Failure :=
  { failure with contexts := context :: failure.contexts }

/-- The messages of a failure, the outermost first. -/
def messages (failure : Failure) : List String :=
  failure.contexts.map Context.message ++ [failure.cause.message]

/-- The whole chain of messages in one line. -/
def render (failure : Failure) : String :=
  ": ".intercalate failure.messages

/-- The outermost message alone. -/
def headline (failure : Failure) : String :=
  match failure.contexts with
  | [] => failure.cause.message
  | context :: _ => context.message

/-- Whether the cause is a misconfiguration. -/
def isConfiguration (failure : Failure) : Bool :=
  match failure.cause with
  | .configuration _ => true
  | _ => false

/-- Whether the cause is a missing record. -/
def isRecordNotFound (failure : Failure) : Bool :=
  failure.cause == .recordNotFound

/-- Whether the cause is the wish to stop an iteration. -/
def isAbort (failure : Failure) : Bool :=
  failure.cause == .abortIteration

@[simp] theorem cause_within (failure : Failure) (context : Context) :
    (failure.within context).cause = failure.cause := rfl

@[simp] theorem isConfiguration_within (failure : Failure) (context : Context) :
    (failure.within context).isConfiguration = failure.isConfiguration := rfl

@[simp] theorem isRecordNotFound_within (failure : Failure) (context : Context) :
    (failure.within context).isRecordNotFound = failure.isRecordNotFound := rfl

@[simp] theorem isAbort_within (failure : Failure) (context : Context) :
    (failure.within context).isAbort = failure.isAbort := rfl

end Failure

/-- A computation that may fail. -/
abbrev Outcome (α : Type) := Except Failure α

/-- What succeeded in two steps succeeded in each of them. -/
theorem ok_of_bind {ε α β : Type} {first : Except ε α} {next : α → Except ε β} {result : β}
    (succeeded : (first >>= next) = .ok result) :
    ∃ value, first = .ok value ∧ next value = .ok result := by
  cases first with
  | error fault => cases succeeded
  | ok value => exact ⟨value, rfl, succeeded⟩

/-- The outcome with a context in front of its failure. -/
def Outcome.within {α : Type} (outcome : Outcome α) (context : Context) : Outcome α :=
  match outcome with
  | .ok result => .ok result
  | .error failure => .error (failure.within context)

/-- The outcome that is a misconfiguration. -/
def misconfigured {α : Type} (fault : ConfigFault) : Outcome α :=
  .error (.configuration fault)

end RecordMapping
