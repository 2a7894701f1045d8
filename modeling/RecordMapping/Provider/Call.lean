/-
Module: RecordMapping.Provider.Call
Purpose: Calls of the operations of a provider as data.
Main exports: Call, Lent, Call.lent, Call.make, Call.plan
-/
import RecordMapping.Provider.Chunks

namespace RecordMapping

/-!
What is said of every operation alike is said of calls.  A caller lends a call
something of its own, which the call may change: the targets or the record that
rows are stored in, or the state of a callback.  What a call will send is
planned from its arguments and the dialect alone.
-/

/-- A call of an operation that builds a statement, with its arguments.  A key
that cannot be had of its record is a failure. -/
inductive Call (κ : Type) where
  | query (type : TargetType) (text : String) (parameters : List Value)
      (present : List Target)
  | queryOne (type : TargetType) (text : String) (parameters : List Value)
      (target : Target)
  | queryChunks (type : TargetType) (chunks : ChunkQuery) (callback : ChunkCallback κ)
      (held : κ)
  | insert (table : Table) (record : Record)
  | update (table : Table) (record : Record)
  | delete (table : Table) (key : Outcome DeleteKey)

/-- What a caller lends to a call. -/
inductive Lent (κ : Type) where
  | targets (present : List Target)
  | target (content : Target)
  | callback (held : κ)
  | record (content : Record)
  | nothing

namespace Call

variable {σ κ : Type}

/-- What the caller has before the call. -/
def lent : Call κ → Lent κ
  | .query _ _ _ present => .targets present
  | .queryOne _ _ _ target => .target target
  | .queryChunks _ _ _ held => .callback held
  | .insert _ record => .record record
  | .update _ _ | .delete _ _ => .nothing

/-- Makes the call: how it ends, and what the caller has after it. -/
def make (provider : Provider σ) (call : Call κ) (state : σ) : CallEnd × Lent κ × σ :=
  match call with
  | .query type text parameters present =>
      let (outcome, targets, after) := provider.query type text parameters present state
      (.returned outcome, .targets targets, after)
  | .queryOne type text parameters target =>
      let (outcome, stored, after) := provider.queryOne type text parameters target state
      (.returned outcome, .target stored, after)
  | .queryChunks type chunks callback held =>
      let (ended, left, after) := provider.queryChunks type chunks callback held state
      (ended, .callback left, after)
  | .insert table record =>
      let (outcome, stored, after) := provider.insert table record state
      (.returned outcome, .record stored, after)
  | .update table record =>
      let (outcome, after) := provider.update table record state
      (.returned outcome, .nothing, after)
  | .delete table key =>
      let (outcome, after) := provider.delete table key state
      (.returned outcome, .nothing, after)

/-- The selection of the columns of a target type. -/
def planQuery (provider : Provider σ) (type : TargetType) (text : String)
    (parameters : List Value) : Outcome Statement :=
  (provider.prepare type text).map fun (_, sql) => ⟨sql, parameters⟩

/-- The statement that a call is going to send, or what is wrong with the call. -/
def plan (provider : Provider σ) : Call κ → Outcome Statement
  | .query type text parameters _ | .queryOne type text parameters _ =>
      planQuery provider type text parameters
  | .queryChunks type chunks _ _ =>
      if chunks.size = 0 then misconfigured .emptyChunk
      else planQuery provider type chunks.text chunks.parameters
  | .insert table record =>
      (provider.planInsert table record).map fun (_, plan) => plan.statement
  | .update table record => provider.planUpdate table record
  | .delete table key => provider.planDelete table key

end Call

end RecordMapping
