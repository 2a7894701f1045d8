/-
Module: RecordMapping.Proofs.FlawedCalls
Purpose: The mistakes that a call can hold, each of which keeps it from being planned.
Main exports: Record.values_eq_error, Provider.failsOnly_planUpdate,
  Provider.planUpdate_eq_ok, Call.Flawed, Call.plan_of_flawed
-/
import RecordMapping.Proofs.ColumnLookup
import RecordMapping.Proofs.FailureKinds
import RecordMapping.Proofs.PlannedUpdates
import RecordMapping.Proofs.StatementRuns

namespace RecordMapping

/-!
A call is planned by checks in a row.  The first one that fails decides what is
said, so a call with several mistakes is told of one of them; whichever it is,
it is a misconfiguration.  A record with a content that has no JSON text stops a
plan as well, behind the check of its type and in front of those of its values.
-/

variable {σ κ : Type}

open Outcome (OnlyMisconfigured FailsOnly onlyMisconfigured_misconfigured)

/-! ### The checks of a plan -/

theorem Table.onlyMisconfigured_validate (table : Table) :
    OnlyMisconfigured table.validate := by
  unfold validate
  split
  · exact onlyMisconfigured_misconfigured _
  · split
    · exact onlyMisconfigured_misconfigured _
    · split
      · exact onlyMisconfigured_misconfigured _
      · exact .ok ()

theorem Table.validate_eq_ok_iff {table : Table} :
    table.validate = .ok () ↔ table.name ≠ "" ∧ table.ids ≠ [] ∧ "" ∉ table.ids := by
  unfold validate
  by_cases unnamed : table.name = ""
  · simp [unnamed, misconfigured]
  · by_cases bare : table.ids = []
    · simp [unnamed, bare, misconfigured]
    · by_cases blank : "" ∈ table.ids
      · have found : table.ids.any String.isEmpty = true :=
          List.any_eq_true.mpr ⟨"", blank, rfl⟩
        simp [unnamed, bare, blank, found, misconfigured]
      · have clear : table.ids.any String.isEmpty = false := by
          rw [List.any_eq_false]
          intro id member empty
          exact blank (String.isEmpty_iff.mp empty ▸ member)
        simp [unnamed, bare, blank, clear]

theorem RecordType.onlyMisconfigured_metadata (type : RecordType) :
    OnlyMisconfigured type.metadata := by
  unfold metadata RecordMeta.build
  split
  · exact .ok _
  · exact onlyMisconfigured_misconfigured _

/-- A faulty list of fields has no metadata. -/
theorem RecordType.metadata_of_fault {type : RecordType} {fault : ConfigFault}
    (faulty : RecordMeta.index type.typeName type.definitions = .error fault) :
    type.metadata = misconfigured fault := by
  unfold metadata RecordMeta.build
  split
  · rename_i _ indexed
    cases faulty.symm.trans indexed
  · rename_i _ found
    cases faulty.symm.trans found
    rfl

/-- The values of a record fail only where a content has no JSON text. -/
theorem Record.values_eq_error {record : Record} {failure : Failure}
    (failed : record.values = .error failure) :
    ∃ reason, .unwritable reason ∈ record.cells ∧
      failure = ⟨[.encodingJson], .reported reason⟩ := by
  unfold values at failed
  generalize record.cells = cells at failed ⊢
  induction cells with
  | nil =>
      rw [List.mapM_nil] at failed
      cases failed
  | cons cell rest inductionHypothesis =>
      rw [List.mapM_cons] at failed
      cases cell with
      | unwritable reason =>
          cases failed
          exact ⟨reason, List.mem_cons_self, rfl⟩
      | _ =>
          cases others : rest.mapM Cell.toValue with
          | ok values =>
              rw [others] at failed
              cases failed
          | error fault =>
              rw [others] at failed
              cases failed
              obtain ⟨reason, member, rfl⟩ := inductionHypothesis others
              exact ⟨reason, List.mem_cons_of_mem _ member, rfl⟩

theorem onlyMisconfigured_checkWidth (metadata : RecordMeta) (values : List Value) :
    OnlyMisconfigured (checkWidth metadata values) := by
  unfold checkWidth
  split
  · exact .ok ()
  · exact onlyMisconfigured_misconfigured _

theorem onlyMisconfigured_updateKeys (metadata : RecordMeta) (values : List Value)
    (ids : List String) : OnlyMisconfigured (updateKeys metadata values ids) := by
  induction ids with
  | nil => exact .ok []
  | cons id rest inductionHypothesis =>
      unfold updateKeys
      split
      · exact onlyMisconfigured_misconfigured _
      · dsimp only
        split
        · exact onlyMisconfigured_misconfigured _
        · exact inductionHypothesis.map _

namespace Provider

variable {provider : Provider σ} {table : Table} {record : Record}

/-- Beside misconfigurations, an insert is not planned for what fails the values of
its record. -/
theorem failsOnly_planInsert {kind : Failure → Prop}
    (configured : ∀ failure, failure.isConfiguration = true → kind failure)
    (valued : record.values.FailsOnly kind) :
    (provider.planInsert table record).FailsOnly kind := by
  unfold planInsert
  refine (table.onlyMisconfigured_validate.imp configured).bind fun _ => ?_
  refine (record.type.onlyMisconfigured_metadata.imp configured).bind fun metadata => ?_
  refine valued.bind fun values => FailsOnly.bind ?_ fun plan => .ok _
  unfold Dialect.insert
  refine (table.onlyMisconfigured_validate.imp configured).bind fun _ => ?_
  exact ((onlyMisconfigured_checkWidth metadata values).imp configured).bind fun _ => .ok _

/-- Beside misconfigurations, an update is not planned for what fails the values of
its record. -/
theorem failsOnly_planUpdate {kind : Failure → Prop}
    (configured : ∀ failure, failure.isConfiguration = true → kind failure)
    (valued : record.values.FailsOnly kind) :
    (provider.planUpdate table record).FailsOnly kind := by
  unfold planUpdate
  refine (table.onlyMisconfigured_validate.imp configured).bind fun _ => ?_
  refine (record.type.onlyMisconfigured_metadata.imp configured).bind fun metadata => ?_
  refine valued.bind fun values => ?_
  unfold Dialect.update
  refine (table.onlyMisconfigured_validate.imp configured).bind fun _ => ?_
  refine ((onlyMisconfigured_checkWidth metadata values).imp configured).bind fun _ => ?_
  refine ((onlyMisconfigured_updateKeys metadata values table.ids).imp configured).bind
    fun keys => ?_
  dsimp only
  split
  · exact .error (configured _ rfl)
  · exact .ok _

/-- What has been checked of an insert that is planned. -/
theorem planInsert_eq_ok {plan : RecordMeta × InsertPlan}
    (planned : provider.planInsert table record = .ok plan) :
    record.type.metadata = .ok plan.1 ∧
      ∃ values, record.values = .ok values ∧ values.length = plan.1.fields.length := by
  unfold planInsert at planned
  obtain ⟨_, _, planned⟩ := ok_of_bind planned
  obtain ⟨metadata, built, planned⟩ := ok_of_bind planned
  obtain ⟨values, valued, planned⟩ := ok_of_bind planned
  obtain ⟨insertPlan, written, planned⟩ := ok_of_bind planned
  cases planned
  obtain ⟨_, width, _⟩ := Dialect.insert_eq_ok_iff.mp written
  exact ⟨built, values, valued, width⟩

/-- What has been checked of an update that is planned. -/
theorem planUpdate_eq_ok {statement : Statement}
    (planned : provider.planUpdate table record = .ok statement) :
    ∃ metadata values, record.type.metadata = .ok metadata ∧ record.values = .ok values ∧
      values.length = metadata.fields.length ∧
      (∀ id ∈ table.ids, ∃ field, metadata.KeyField values id field) ∧
      updatedFields table metadata values ≠ [] := by
  unfold planUpdate at planned
  obtain ⟨_, _, planned⟩ := ok_of_bind planned
  obtain ⟨metadata, built, planned⟩ := ok_of_bind planned
  obtain ⟨values, valued, written⟩ := ok_of_bind planned
  obtain ⟨_, width, keys, keyed, changed, _⟩ := Dialect.update_eq_ok_iff.mp written
  exact ⟨metadata, values, built, valued, width, exists_forall₂_iff.mp ⟨keys, keyed⟩, changed⟩

end Provider

/-! ### Flaws -/

namespace Call

/-- The table that a call is aimed at. -/
def table? : Call κ → Option Table
  | .insert table _ | .update table _ | .delete table _ => some table
  | _ => none

/-- The record that a call writes. -/
def record? : Call κ → Option Record
  | .insert _ record | .update _ record => some record
  | _ => none

/-- The type of the targets that a call reads, and the text of its query. -/
def selection? : Call κ → Option (TargetType × String)
  | .query type text _ _ | .queryOne type text _ _ => some (type, text)
  | .queryChunks type chunks _ _ => some (type, chunks.text)
  | _ => none

/-- What can be wrong with a call. -/
inductive Flawed : Call κ → Prop
  | table {call : Call κ} {table : Table} (aimed : call.table? = some table)
      (flawed : table.name = "" ∨ table.ids = [] ∨ "" ∈ table.ids) : Flawed call
  | record {call : Call κ} {record : Record} {fault : ConfigFault}
      (written : call.record? = some record)
      (faulty : RecordMeta.index record.type.typeName record.type.definitions =
        .error fault) : Flawed call
  /-- A record with more or fewer values than fields. -/
  | width {call : Call κ} {record : Record} {values : List Value}
      (written : call.record? = some record) (valued : record.values = .ok values)
      (uneven : values.length ≠ record.type.definitions.length) : Flawed call
  | layout {call : Call κ} {type : TargetType} {text : String} {failure : Failure}
      (read : call.selection? = some (type, text))
      (invalid : type.layout = .error failure)
      (wrong : failure.isConfiguration = true) : Flawed call
  /-- A complete statement whose rows are to be joined records. -/
  | selectIntoJoin {call : Call κ} {type : TargetType} {text : String} {layout : Layout}
      (read : call.selection? = some (type, text)) (valid : type.layout = .ok layout)
      (joined : layout.isJoin = true) (complete : startsWithSelect text = true) :
      Flawed call
  | emptyChunk {type : TargetType} {chunks : ChunkQuery} {callback : ChunkCallback κ}
      {held : κ} (blank : chunks.size = 0) :
      Flawed (.queryChunks type chunks callback held)
  /-- A key that cannot be had, or that leaves an identifying column open. -/
  | key {table : Table} {key : Outcome DeleteKey} {failure : Failure}
      (unresolved : (key >>= fun key => key.resolve table) = .error failure)
      (wrong : failure.isConfiguration = true) : Flawed (.delete table key)
  /-- An identifying column that the record does not map, or whose value is `NULL`. -/
  | missingId {table : Table} {record : Record} {values : List Value} {id : String}
      (valued : record.values = .ok values) (needed : id ∈ table.ids)
      (missing : ∀ (index : Nat) (definition : FieldDef) (value : Value),
        record.type.definitions[index]? = some definition →
        Text.sameColumn definition.column id = true → values[index]? = some value →
        value.isNull = true) : Flawed (.update table record)
  /-- No column that an update would set. -/
  | emptySet {table : Table} {record : Record} {values : List Value}
      (valued : record.values = .ok values)
      (kept : ∀ entry ∈ record.type.definitions.zip values,
        table.isId entry.1.column = true ∨ entry.1.nullable = true ∧ entry.2.isNull = true) :
      Flawed (.update table record)

variable {provider : Provider σ} {call : Call κ}

/-- A write of a record that has all its values fails to be planned by
misconfiguration only. -/
theorem onlyMisconfigured_plan_of_record {record : Record} {values : List Value}
    (written : call.record? = some record) (valued : record.values = .ok values) :
    (call.plan provider).OnlyMisconfigured := by
  have complete : record.values.OnlyMisconfigured := valued ▸ .ok values
  cases call with
  | insert table other =>
      cases written
      exact (Provider.failsOnly_planInsert (fun _ wrong => wrong) complete).map _
  | update table other =>
      cases written
      exact Provider.failsOnly_planUpdate (fun _ wrong => wrong) complete
  | _ => cases written

theorem checked_of_plan {statement : Statement} {record : Record}
    (planned : call.plan provider = .ok statement) (written : call.record? = some record) :
    ∃ metadata values, record.type.metadata = .ok metadata ∧ record.values = .ok values ∧
      values.length = metadata.fields.length := by
  cases call with
  | insert table other =>
      cases written
      cases foreseen : provider.planInsert table record with
      | error failure => simp [plan, foreseen, Except.map] at planned
      | ok both =>
          obtain ⟨built, values, valued, width⟩ := Provider.planInsert_eq_ok foreseen
          exact ⟨both.1, values, built, valued, width⟩
  | update table other =>
      cases written
      obtain ⟨metadata, values, built, valued, width, _⟩ := Provider.planUpdate_eq_ok planned
      exact ⟨metadata, values, built, valued, width⟩
  | _ => cases written

/-- The type of a record is checked behind the table, and before its values are had. -/
theorem plan_of_faulty_record {table : Table} {record : Record} {fault : ConfigFault}
    (aimed : call.table? = some table) (valid : table.validate = .ok ())
    (written : call.record? = some record)
    (faulty : RecordMeta.index record.type.typeName record.type.definitions = .error fault) :
    call.plan provider = misconfigured fault := by
  have unbuilt := RecordType.metadata_of_fault faulty
  cases call with
  | insert aim other =>
      cases aimed
      cases written
      simp [plan, Provider.planInsert, valid, unbuilt, misconfigured, Except.map, bind,
        Except.bind]
  | update aim other =>
      cases aimed
      cases written
      simp [plan, Provider.planUpdate, valid, unbuilt, misconfigured, bind, Except.bind]
  | _ => cases written

/-- The table of a call is checked first of all. -/
theorem plan_of_invalid_table {table : Table} {failure : Failure}
    (aimed : call.table? = some table) (invalid : table.validate = .error failure) :
    call.plan provider = .error failure := by
  cases call with
  | insert aim record =>
      cases aimed
      simp [plan, Provider.planInsert, invalid, Except.map, bind, Except.bind]
  | update aim record =>
      cases aimed
      simp [plan, Provider.planUpdate, invalid, bind, Except.bind]
  | delete aim key =>
      cases aimed
      simp [plan, Provider.planDelete, invalid, bind, Except.bind]
  | _ => cases aimed

/-- The layout of a selection decides before anything of its text does. -/
theorem planQuery_of_layout_error {type : TargetType} {text : String}
    {parameters : List Value} {failure : Failure} (invalid : type.layout = .error failure) :
    planQuery provider type text parameters = .error failure := by
  simp [planQuery, Provider.prepare, Scanner.make, invalid, Except.map, bind, Except.bind]

theorem planQuery_of_selectIntoJoin {type : TargetType} {text : String}
    {parameters : List Value} {layout : Layout} (valid : type.layout = .ok layout)
    (joined : layout.isJoin = true) (complete : startsWithSelect text = true) :
    planQuery provider type text parameters = misconfigured .selectIntoNested := by
  simp [planQuery, Provider.prepare, Scanner.make, Scanner.withLayout, valid, Dialect.select,
    joined, complete, misconfigured, Except.map, bind, Except.bind]

/-- A reading call is planned as its selection, unless its chunks are empty. -/
theorem plan_of_selection (provider : Provider σ) {type : TargetType} {text : String}
    (read : call.selection? = some (type, text)) :
    call.plan provider = misconfigured .emptyChunk ∨
      ∃ parameters, call.plan provider = planQuery provider type text parameters := by
  cases call with
  | query target wording parameters present =>
      cases read
      exact .inr ⟨parameters, rfl⟩
  | queryOne target wording parameters present =>
      cases read
      exact .inr ⟨parameters, rfl⟩
  | queryChunks target chunks callback held =>
      cases read
      by_cases blank : chunks.size = 0
      · exact .inl (by simp [plan, blank])
      · exact .inr ⟨chunks.parameters, by simp [plan, blank]⟩
  | _ => cases read

theorem refused_of_selection {type : TargetType} {text : String} {failure : Failure}
    (read : call.selection? = some (type, text))
    (refused : ∀ parameters, planQuery provider type text parameters = .error failure)
    (wrong : failure.isConfiguration = true) :
    ∃ failure, call.plan provider = .error failure ∧ failure.isConfiguration = true := by
  rcases plan_of_selection provider read with empty | ⟨parameters, same⟩
  · exact ⟨_, empty, rfl⟩
  · exact ⟨failure, same.trans (refused parameters), wrong⟩

/-- A call with a mistake is not planned, and is told of a misconfiguration. -/
theorem plan_of_flawed (provider : Provider σ) (flawed : call.Flawed) :
    ∃ failure, call.plan provider = .error failure ∧ failure.isConfiguration = true := by
  cases flawed with
  | @table _ table aimed flawed =>
      have invalid : ∀ result, table.validate ≠ .ok result := by
        intro _ validated
        obtain ⟨named, identified, clear⟩ := Table.validate_eq_ok_iff.mp validated
        rcases flawed with unnamed | bare | blank
        · exact named unnamed
        · exact identified bare
        · exact clear blank
      obtain ⟨failure, failed, wrong⟩ := table.onlyMisconfigured_validate.exists_failure invalid
      exact ⟨failure, plan_of_invalid_table aimed failed, wrong⟩
  | @record _ record fault written faulty =>
      obtain ⟨table, aimed⟩ : ∃ table, call.table? = some table := by
        cases call with
        | insert table other => exact ⟨table, rfl⟩
        | update table other => exact ⟨table, rfl⟩
        | _ => cases written
      cases validated : table.validate with
      | error failure =>
          exact ⟨failure, plan_of_invalid_table aimed validated,
            table.onlyMisconfigured_validate failure validated⟩
      | ok _ => exact ⟨_, plan_of_faulty_record aimed validated written faulty, rfl⟩
  | width written valued uneven =>
      refine (onlyMisconfigured_plan_of_record written valued).exists_failure
        fun statement planned => ?_
      obtain ⟨metadata, values, built, same, even⟩ := checked_of_plan planned written
      cases valued.symm.trans same
      rw [← (RecordType.metadata_eq_ok built).1] at uneven
      exact absurd even uneven
  | layout read invalid wrong =>
      exact refused_of_selection read (fun _ => planQuery_of_layout_error invalid) wrong
  | selectIntoJoin read valid joined complete =>
      exact refused_of_selection read
        (fun _ => planQuery_of_selectIntoJoin valid joined complete) rfl
  | emptyChunk blank =>
      exact ⟨.configuration .emptyChunk, by simp [plan, blank, misconfigured], rfl⟩
  | @key table key failure unresolved wrong =>
      cases validated : table.validate with
      | error fault =>
          exact ⟨fault, plan_of_invalid_table rfl validated,
            table.onlyMisconfigured_validate fault validated⟩
      | ok _ =>
          refine ⟨failure, ?_, wrong⟩
          cases key with
          | error fault =>
              cases unresolved
              simp [plan, Provider.planDelete, validated, bind, Except.bind]
          | ok key =>
              have failed : key.resolve table = .error failure := unresolved
              simp [plan, Provider.planDelete, validated, failed, bind, Except.bind]
  | missingId valued needed missing =>
      refine (onlyMisconfigured_plan_of_record rfl valued).exists_failure
        fun statement planned => ?_
      obtain ⟨metadata, values, built, same, _, keyed, _⟩ := Provider.planUpdate_eq_ok planned
      cases valued.symm.trans same
      obtain ⟨field, member, same, present⟩ := keyed _ needed
      obtain ⟨index, placed⟩ := List.mem_iff_getElem?.mp member
      obtain ⟨defined, held⟩ := List.getElem?_zip_eq_some.mp placed
      rw [(RecordType.metadata_eq_ok built).1] at defined
      rw [missing index field.1 field.2 defined same held] at present
      cases present
  | emptySet valued kept =>
      refine (onlyMisconfigured_plan_of_record rfl valued).exists_failure
        fun statement planned => ?_
      obtain ⟨metadata, values, built, same, _, _, changed⟩ := Provider.planUpdate_eq_ok planned
      cases valued.symm.trans same
      refine changed (List.filter_eq_nil_iff.mpr fun entry member => ?_)
      rw [(RecordType.metadata_eq_ok built).1] at member
      rcases kept entry member with identifying | ⟨nullable, null⟩
      · simp [identifying]
      · simp [nullable, null]

end Call

end RecordMapping
