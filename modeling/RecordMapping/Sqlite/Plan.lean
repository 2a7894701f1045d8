/-
Module: RecordMapping.Sqlite.Plan
Purpose: Statements whose names have been found in a database.
Main exports: Operand, Output, Plan, Command.prepare
-/
import RecordMapping.Sqlite.Command
import RecordMapping.Sqlite.Database

namespace RecordMapping.Sqlite

/-!
A statement is prepared against the tables as they are when its turn comes.
Names are looked up in the order of the clauses that hold them, the table
first, and the first one that is not found decides the fault.  A name in double
quotes that is no column stands for its text.
-/

/-- What a term denotes in a row. -/
inductive Operand where
  | parameter (index : Nat)
  | column (index : Nat)
  | text (content : String)
deriving Repr, DecidableEq

/-- A result column: what it holds and the label it comes back under. -/
structure Output where
  operand : Operand
  label : String
deriving Repr, DecidableEq

/-- Two operands that have to be equal. -/
abbrev Condition := Operand × Operand

/-- A statement ready to be bound and run. -/
inductive Plan where
  | select (rows : List Row) (outputs : List Output) (conditions : List Condition)
      (order : List Operand)
  | insert (target : Relation) (columns : List Nat) (operands : List Operand)
      (outputs : List Output)
  | update (target : Relation) (assignments : List (Nat × Operand))
      (conditions : List Condition)
  | delete (target : Relation) (conditions : List Condition)
  | create (relation : Relation)
  | drop (relation : Relation)
  | begin
  | commit
  | rollback
deriving Repr, DecidableEq

/-- Whether a statement cannot change the database. -/
def Plan.isReadOnly : Plan → Bool
  | .select _ _ _ _ | .begin | .commit | .rollback => true
  | .insert _ _ _ _ | .update _ _ _ | .delete _ _ | .create _ | .drop _ => false

/-- The result columns of a statement. -/
def Plan.outputs : Plan → List Output
  | .select _ outputs _ _ | .insert _ _ _ outputs => outputs
  | _ => []

/-- The table in reach of a clause, and the name it goes by there. -/
structure Scope where
  reach : Option (Relation × String)

namespace Scope

/-- The scope of a table under its own name. -/
def ofRelation (relation : Relation) : Scope := ⟨some (relation, relation.name)⟩

/-- The place of a column, if the scope has it. -/
def column? (scope : Scope) (name : String) : Option Nat :=
  scope.reach.bind fun (relation, _) => relation.columnIndex? name

/-- Whether the table of the scope goes by a name. -/
def goesBy (scope : Scope) (owner : String) : Bool :=
  scope.reach.any fun (_, name) => Text.sameColumn name owner

/-- What a term denotes. -/
def operand (scope : Scope) : Term → Except Fault Operand
  | .parameter index => .ok (.parameter index)
  | .column none name =>
      match scope.column? name.text with
      | some index => .ok (.column index)
      | none =>
          if name.quoted then .ok (.text name.text) else .error (.noColumn name.text)
  | .column (some owner) name =>
      match if scope.goesBy owner.text then scope.column? name.text else none with
      | some index => .ok (.column index)
      | none => .error (.noColumn (owner.text ++ "." ++ name.text))

/-- The name of a column as it was declared. -/
def columnName (scope : Scope) (index : Nat) : String :=
  (scope.reach.bind fun (relation, _) => relation.columnNames[index]?).getD ""

/-- The label of a result column that is given none: the declared name of a
column, and otherwise the term as it is written. -/
def label (scope : Scope) (term : Term) : Operand → String
  | .column index => scope.columnName index
  | .parameter _ | .text _ =>
      match term with
      | .parameter _ => Token.parameter.spelling
      | .column _ name => name.spelling

/-- All columns as result columns. -/
def allOutputs (scope : Scope) : Except Fault (List Output) :=
  match scope.reach with
  | none => .error .noSource
  | some (relation, _) =>
      .ok (relation.columnNames.zipIdx.map fun (name, index) =>
        ⟨.column index, name⟩)

/-- The result columns of a member of a list of results. -/
def outputsOf (scope : Scope) : Selected → Except Fault (List Output)
  | .all => scope.allOutputs
  | .term content label =>
      match scope.operand content with
      | .error fault => .error fault
      | .ok operand =>
          .ok [⟨operand, (label.map (·.text)).getD (scope.label content operand)⟩]

/-- The result columns of a list of results. -/
def outputs (scope : Scope) (selected : List Selected) : Except Fault (List Output) := do
  return (← selected.mapM scope.outputsOf).flatten

/-- The operands of conditions. -/
def conditions (scope : Scope) (terms : List (Term × Term)) :
    Except Fault (List Condition) :=
  terms.mapM fun (left, right) => do
    let left ← scope.operand left
    return (left, ← scope.operand right)

end Scope

/-- The place of a column that an insert into a table fills in. -/
def Relation.filled (relation : Relation) (table name : Name) : Except Fault Nat :=
  match relation.columnIndex? name.text with
  | some index => .ok index
  | none => .error (.noTargetColumn table.text name.text)

/-- The place of a column that an update sets. -/
def Relation.assigned (relation : Relation) (name : Name) : Except Fault Nat :=
  match relation.columnIndex? name.text with
  | some index => .ok index
  | none => .error (.noColumn name.text)

namespace Command

/-- The scope of the source of a query. -/
def scopeOf (database : Database) : Option Source → Except Fault Scope
  | none => .ok ⟨none⟩
  | some source =>
      match database.relation source.table.text with
      | .error fault => .error fault
      | .ok relation =>
          .ok ⟨some (relation, (source.tableAlias.map (·.text)).getD relation.name)⟩

/-- The rows of a scope; without a table, one row without columns. -/
def rowsOf (scope : Scope) : List Row :=
  match scope.reach with
  | some (relation, _) => relation.rows
  | none => [⟨IntType.int64.zero, []⟩]

/-- Prepares a statement against a database. -/
def prepare (database : Database) : Command → Except Fault Plan
  | .select selected source conditions order => do
      let scope ← scopeOf database source
      let outputs ← scope.outputs selected
      let conditions ← scope.conditions conditions
      let order ← order.mapM scope.operand
      return .select (rowsOf scope) outputs conditions order
  | .insert table columns terms returned => do
      let relation ← database.relation table.text
      let places ← columns.mapM (relation.filled table)
      if places.length = terms.length then
        let operands ← terms.mapM (Scope.operand ⟨none⟩)
        let outputs ← (Scope.ofRelation relation).outputs returned
        return .insert relation places operands outputs
      else .error (.valueCount terms.length places.length)
  | .update table assignments conditions => do
      let relation ← database.relation table.text
      let scope := Scope.ofRelation relation
      let places ← assignments.mapM fun (column, term) => do
        let operand ← scope.operand term
        return (← relation.assigned column, operand)
      return .update relation places (← scope.conditions conditions)
  | .delete table conditions => do
      let relation ← database.relation table.text
      return .delete relation (← (Scope.ofRelation relation).conditions conditions)
  | .create table key columns =>
      match database.find? table.text with
      | some _ => .error (.tableExists table.spelling)
      | none => .ok (.create ⟨table.text, key.text, columns.map (·.text), []⟩)
  | .drop table => do return .drop (← database.relation table.text)
  | .begin => .ok .begin
  | .commit => .ok .commit
  | .rollback => .ok .rollback

end Command

end RecordMapping.Sqlite
