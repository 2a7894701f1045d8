/-
Module: RecordMapping.Proofs.QualifiedDeletes
Purpose: A delete that is sent has a condition for each identifying column of its table.
Main exports: Provider.planDelete_eq_ok_iff, delete_fully_qualified
-/
import RecordMapping.Connection.Script
import RecordMapping.Proofs.ChangeReading
import RecordMapping.Proofs.KeyResolution
import RecordMapping.Proofs.RecordedRuns

namespace RecordMapping

/-!
A delete with too few conditions removes rows that nobody asked to remove.  Its text
is written from the columns for which the key has been resolved, and the parameters
are their values; that these are all identifying columns of the table, in order and
each with its own value, is what keeps a delete from being too wide.
-/

variable {σ : Type}

/-- A delete by as many values as there are identifying columns has a condition for each
of them. -/
theorem Dialect.delete_zip (dialect : Dialect) {table : Table} {values : List Value}
    (valid : table.validate = .ok ()) (even : values.length = table.ids.length) :
    dialect.delete table (table.ids.zip values) =
      .ok ⟨"DELETE FROM " ++ dialect.identifier table.name ++ dialect.conditions 0 table.ids,
        values⟩ := by
  have columns : (table.ids.zip values).map Prod.fst = table.ids :=
    List.map_fst_zip (Nat.le_of_eq even.symm)
  have parameters : (table.ids.zip values).map Prod.snd = values :=
    List.map_snd_zip (Nat.le_of_eq even)
  unfold delete
  rw [valid, columns, parameters]
  rfl

/-- A delete is planned if its table is in order and its key has a value for each
identifying column that identifies something. -/
theorem Provider.planDelete_eq_ok_iff {provider : Provider σ} {table : Table}
    {key : Outcome DeleteKey} {statement : Statement} :
    provider.planDelete table key = .ok statement ↔
      table.validate = .ok () ∧ ∃ chosen values, key = .ok chosen ∧
        chosen.Supplies table.ids values ∧ (∀ value ∈ values, value.Identifies) ∧
        statement = ⟨"DELETE FROM " ++ provider.dialect.identifier table.name ++
          provider.dialect.conditions 0 table.ids, values⟩ := by
  unfold planDelete
  constructor
  · intro planned
    obtain ⟨_, valid, planned⟩ := ok_of_bind planned
    obtain ⟨chosen, had, planned⟩ := ok_of_bind planned
    obtain ⟨keys, resolved, planned⟩ := ok_of_bind planned
    obtain ⟨_, values, supplies, identify, rfl⟩ := DeleteKey.resolve_eq_ok_iff.mp resolved
    rw [provider.dialect.delete_zip valid supplies.length_eq] at planned
    cases planned
    exact ⟨valid, chosen, values, had, supplies, identify, rfl⟩
  · rintro ⟨valid, chosen, values, rfl, supplies, identify, rfl⟩
    have resolved := DeleteKey.resolve_eq_ok_iff.mpr ⟨valid, values, supplies, identify, rfl⟩
    simp only [bind, Except.bind, valid, resolved,
      provider.dialect.delete_zip valid supplies.length_eq]

/-- A delete either fails and sends nothing, or sends one statement.  The text of that
statement is read as a delete from the table in which every identifying column, in
order, has to equal the parameter of its own position; the parameters are the values
that the key has for these columns, and none of them is `NULL` or a zero.  It is sent
whenever the table is in order and the key has such values. -/
theorem delete_fully_qualified (provider : Provider σ) (spaced : provider.dialect.Spaced)
    (table : Table) (key : Outcome DeleteKey) (state : σ) {outcome : Outcome Unit} {after : σ}
    {actions : List Action}
    (made : provider.recorded.delete table key (state, []) = (outcome, after, actions)) :
    ((actions = [] ∧ after = state ∧ ∃ failure, outcome = .error failure) ∨
      ∃ statement chosen, actions = [.send statement] ∧ key = .ok chosen ∧
        Grammar.readDelete provider.dialect statement.sql =
          some ⟨table.name, table.ids.zipIdx⟩ ∧
        table.ids ≠ [] ∧ statement.parameters.length = table.ids.length ∧
        chosen.Supplies table.ids statement.parameters ∧
        ∀ value ∈ statement.parameters, value.Identifies) ∧
      (∀ chosen values, key = .ok chosen → table.validate = .ok () →
        chosen.Supplies table.ids values → (∀ value ∈ values, value.Identifies) →
          actions ≠ []) := by
  have foreseen : provider.recorded.planDelete table key = provider.planDelete table key := rfl
  cases planned : provider.planDelete table key with
  | error failure =>
      rw [planned] at foreseen
      have stays : provider.recorded.delete table key (state, []) =
          (.error failure, state, []) := by simp [Provider.delete, foreseen]
      rw [made] at stays
      cases stays
      refine ⟨.inl ⟨rfl, rfl, failure, rfl⟩, ?_⟩
      intro chosen values had valid supplies identify
      rw [Provider.planDelete_eq_ok_iff.mpr
        ⟨valid, chosen, values, had, supplies, identify, rfl⟩] at planned
      cases planned
  | ok statement =>
      rw [planned] at foreseen
      have leaves : (provider.recorded.executor.run statement (state, [])).Leaves
          (provider.recorded.delete table key (state, [])).2 := by
        simp only [Provider.delete, foreseen]
        exact Provider.leaves_change _ statement
      rw [made] at leaves
      have sent : actions = [.send statement] := Executor.actions_of_leaves leaves
      obtain ⟨valid, chosen, values, had, supplies, identify, rfl⟩ :=
        Provider.planDelete_eq_ok_iff.mp planned
      obtain ⟨_, identified, _⟩ := Table.validate_eq_ok_iff.mp valid
      refine ⟨.inr ⟨_, chosen, sent, had, ?_, identified, supplies.length_eq, supplies,
        identify⟩, fun _ _ _ _ _ _ => by simp [sent]⟩
      exact Grammar.readDelete_text spaced table.name identified

/-- A map whose keys are written in other cases, for a table named to end its quotes: a
delete with one condition for each of the two columns, and both values in their places. -/
theorem delete_fully_qualified_hostile_names :
    let provider : Provider Script := ⟨.sqlserver, Script.connection.toExecutor⟩
    let table : Table := ⟨"a]\nWHERE [b", ["Key] = 1", "mark"]⟩
    let key : DeleteKey :=
      .byFields [("MARK", .varchar (some "x")), ("key] = 1", .ofInt .int64 7)]
    provider.dialect.Spaced ∧
      ∃ outcome after actions,
        provider.recorded.delete table (.ok key) (.ofResponses [], []) =
          (outcome, after, actions) ∧
        ∃ statement, actions = [.send statement] ∧
          Grammar.readDelete provider.dialect statement.sql =
            some ⟨"a]\nWHERE [b", [("Key] = 1", 0), ("mark", 1)]⟩ ∧
          statement.parameters.length = 2 := by
  intro provider table key
  have spaced : provider.dialect.Spaced := Dialect.spaced_of_known (by decide)
  refine ⟨spaced, _, _, _, rfl, ?_⟩
  obtain ⟨sent | ⟨statement, chosen, sent, _, read, _, even, _⟩, _⟩ :=
    delete_fully_qualified provider spaced table (.ok key) (.ofResponses []) rfl
  · obtain ⟨nothing, _⟩ := sent
    cases nothing
  · exact ⟨statement, sent, read, even⟩

end RecordMapping
