/-
Module: RecordMapping.Proofs.WriteBack
Purpose: What an insert writes back into its record, and that it does so only after all
  of the reply has been read without a failure.
Main exports: Unreported, WriteBack, insert_writes_back_reports
-/
import RecordMapping.Conformance.Sample
import RecordMapping.Connection.Script
import RecordMapping.Proofs.InsertedFields
import RecordMapping.Proofs.ReplyContents
import RecordMapping.Proofs.StoredColumns

namespace RecordMapping

/-!
An identifier that a database has generated may come back in a row or with the counts.
A reply can fail behind the row that has it, and a record that kept the identifier of a
failed insert would be taken for one that is stored.  So all of a reply is read before
anything is stored, and what is stored is only what the reply has reported.
-/

variable {σ : Type}

/-! ### Replies read to their end -/

namespace Provider

variable {context : Context} {closed state : σ} {metadata : RecordMeta} {record : Record}
  {failure : Failure}

theorem drain_of_rows {rows : List (Outcome LabeledRow × σ)}
    (clear : ∀ item ∈ rows, ∃ row, item.1 = .ok row) :
    drain context closed rows = (.ok (), closed) := by
  induction rows with
  | nil => rfl
  | cons item rest inductionHypothesis =>
      obtain ⟨⟨row, here⟩, others⟩ := List.forall_mem_cons.mp clear
      obtain ⟨outcome, between⟩ := item
      obtain rfl : outcome = .ok row := here
      exact inductionHypothesis others

theorem drain_of_failure {front rest : List (Outcome LabeledRow × σ)}
    (clear : ∀ item ∈ front, ∃ row, item.1 = .ok row) :
    drain context closed (front ++ (.error failure, state) :: rest) =
      (.error (failure.within context), state) := by
  induction front with
  | nil => rfl
  | cons item others inductionHypothesis =>
      obtain ⟨⟨row, here⟩, behind⟩ := List.forall_mem_cons.mp clear
      obtain ⟨outcome, between⟩ := item
      obtain rfl : outcome = .ok row := here
      exact inductionHypothesis behind

variable {reply : Reply σ} {front rest : List (Outcome Response × σ)}

/-- A failure anywhere keeps a row from being stored, also one in front of it. -/
theorem storeReturned_of_failure
    (split : reply.items = front ++ (.error failure, state) :: rest)
    (faultless : Faultless front) :
    storeReturned context metadata record reply =
      (.error (failure.within context), record, state) := by
  have rows : reply.rows =
      front.filterMap Reply.rowItem ++ (.error failure, state) :: rest.filterMap Reply.rowItem := by
    simp [Reply.rows, split, Reply.rowItem]
  have clear := Reply.row_of_faultless faultless
  unfold storeReturned
  rw [rows]
  cases read : front.filterMap Reply.rowItem with
  | nil => rfl
  | cons item others =>
      rw [read] at clear
      obtain ⟨⟨row, here⟩, behind⟩ := List.forall_mem_cons.mp clear
      obtain ⟨outcome, between⟩ := item
      obtain rfl : outcome = .ok row := here
      simp only [List.cons_append, drain_of_failure behind]

theorem storeReturned_of_counts (counts : CountsOnly reply.items) :
    storeReturned context metadata record reply = (.ok (), record, reply.closed) := by
  unfold storeReturned
  rw [Reply.rows_eq_nil_iff.mpr counts]

/-- Without a failure the first row is stored, and those behind it are only read. -/
theorem storeReturned_of_row {row : LabeledRow} (faultless : Faultless reply.items)
    (split : reply.items = front ++ (.ok (.row row), state) :: rest) (counts : CountsOnly front) :
    storeReturned context metadata record reply =
      ((writeBack metadata (row.labels.zip row.values) record).2,
        (writeBack metadata (row.labels.zip row.values) record).1, reply.closed) := by
  have rows := Reply.rows_behind_counts split counts
  have others : Faultless rest := fun item member => faultless item (by simp [split, member])
  have drained : drain context reply.closed (rest.filterMap Reply.rowItem) =
      (.ok (), reply.closed) := drain_of_rows (Reply.row_of_faultless others)
  simp only [List.filterMap_cons, Reply.rowItem] at rows
  unfold storeReturned
  simp only [rows, drained]

end Provider

/-! ### What an insert leaves in its record -/

/-- The inserts of which nothing is reported that the record could take: the database
keeps identifiers to itself, the record has none, no row has come back, or a number has
not come back or is not that of a single identifier that was left out. -/
inductive Unreported (method : InsertMethod) (table : Table) (metadata : RecordMeta)
    (values : List Value) (reply : Reply σ) : Prop
  | silent (hidden : method = .noIdRetrieval)
  | unmapped (foreign : ∀ id ∈ table.ids, metadata.maps id = false)
  | noRow (answers : method.returnsRow = true) (counts : CountsOnly reply.items)
  | composite (numbers : method = .lastInsertId) (several : table.ids.length ≠ 1)
  | preset (numbers : method = .lastInsertId)
      (given : ∀ field ∈ metadata.fields.zip values, table.isId field.1.column = true →
        ¬ table.LeavesOut field)
  | noNumber (numbers : method = .lastInsertId) (none : reportedIds reply.items = [])

/-- What an insert may say, and leave in its record, by the reply to its statement. -/
structure WriteBack (method : InsertMethod) (table : Table) (metadata : RecordMeta)
    (values : List Value) (plan : InsertPlan) (record : Record) (reply : Reply σ)
    (outcome : Outcome Unit) (left : Record) : Prop where
  /-- The first failure decides, also behind a row. -/
  failed : ∀ front failure state rest,
    reply.items = front ++ (.error failure, state) :: rest → Faultless front →
      outcome = .error (failure.within (.inserting table.name plan.columns)) ∧ left = record
  unreported : Faultless reply.items → Unreported method table metadata values reply →
    outcome = .ok () ∧ left = record
  /-- The first row is stored by its labels, and later ones are not looked at. -/
  returned : Faultless reply.items → method.returnsRow = true →
    (∃ id ∈ table.ids, metadata.maps id = true) → ∀ front row state rest,
      reply.items = front ++ (.ok (.row row), state) :: rest → CountsOnly front →
        record.StoredFrom metadata (row.labels.zip row.values) left outcome
  /-- If the first row has the columns that were asked for, no other field changes than
  those that identify. -/
  identifying : (∀ front row state rest,
      reply.items = front ++ (.ok (.row row), state) :: rest → CountsOnly front →
        ∀ label ∈ row.labels, ∃ column ∈ plan.returning, Text.sameColumn column label = true) →
    ∀ (index : Nat) (definition : FieldDef), metadata.fields[index]? = some definition →
      table.isId definition.column = false → left.cells[index]? = record.cells[index]?
  /-- The last number of all counts goes to the only identifier, if this was left out. -/
  reported : Faultless reply.items → method = .lastInsertId → ∀ id index field number,
    table.ids = [id] → (metadata.fields.zip values)[index]? = some field →
      Text.sameColumn field.1.column id = true → table.LeavesOut field →
      (reportedIds reply.items).getLast? = some number →
        record.NumberStored index number left outcome ∧
          ∀ other, other ≠ index → left.cells[other]? = record.cells[other]?

section Reports

variable {dialect : Dialect} {table : Table} {metadata : RecordMeta} {plan : InsertPlan}
  {values : List Value} {record : Record} {reply : Reply σ}

/-- Of an insert without reports there is no number, or no field for it. -/
theorem lastIdField_eq_none_of_unreported
    (plans : plan.Plans dialect table metadata values)
    (covers : InsertCoverage dialect table metadata values plan)
    (nothing : Unreported dialect.insertMethod table metadata values reply) :
    plan.lastIdField = none ∨ reportedIds reply.items = [] := by
  cases held : plan.lastIdField with
  | none => exact .inl rfl
  | some index =>
      obtain ⟨method, id, field, only, placed, same, leavesOut⟩ :=
        lastIdField_eq_some plans covers held
      have member := List.mem_of_getElem? placed
      cases nothing with
      | silent hidden => simp [method] at hidden
      | unmapped foreign =>
          have maps : metadata.maps id = true :=
            List.any_eq_true.mpr ⟨field.1.column,
              List.mem_map_of_mem (List.of_mem_zip member).1, same⟩
          rw [foreign id (by simp [only])] at maps
          cases maps
      | noRow answers _ => simp [method, InsertMethod.returnsRow] at answers
      | composite _ several => simp [only] at several
      | preset _ given =>
          exact absurd leavesOut
            (given field member (Table.isId_of_sameColumn (by simp [only]) same))
      | noNumber _ none => exact .inr none

/-- A row of the columns that were asked for changes identifying fields only. -/
theorem Record.StoredFrom.keeps {values : List Value}
    (plans : plan.Plans dialect table metadata values)
    (covers : InsertCoverage dialect table metadata values plan) {row : LabeledRow}
    {left : Record} {outcome : Outcome Unit}
    (stored : record.StoredFrom metadata (row.labels.zip row.values) left outcome)
    (labelled : ∀ label ∈ row.labels, ∃ column ∈ plan.returning,
      Text.sameColumn column label = true) {index : Nat} {definition : FieldDef}
    (defined : metadata.fields[index]? = some definition)
    (plain : table.isId definition.column = false) :
    left.cells[index]? = record.cells[index]? := by
  refine stored.others fun column member found => ?_
  obtain ⟨other, here, same⟩ := RecordMeta.fieldIndex?_eq_some_iff.mp found
  obtain rfl := Option.some.inj (defined.symm.trans here)
  obtain ⟨identifier, asked, alike⟩ := labelled column.1 (List.of_mem_zip member).1
  have identifies := isId_of_returned plans covers asked
  rw [Table.isId_congr alike, ← Table.isId_congr same, plain] at identifies
  cases identifies

/-- Numbers that are not stored leave the record as it is. -/
theorem storeReported_of_none {changes : RowsAffected}
    (nothing : plan.lastIdField = none ∨ changes.lastId = none) :
    Provider.storeReported plan changes record = (.ok (), record) := by
  unfold Provider.storeReported
  rcases nothing with none | none
  · rw [none]
  · rw [none]
    cases plan.lastIdField <;> rfl

theorem numberStored_storeReported {changes : RowsAffected} {index : Nat} {number : Int}
    (stores : plan.lastIdField = some index) (last : changes.lastId = some number) :
    record.NumberStored index number (Provider.storeReported plan changes record).2
      (Provider.storeReported plan changes record).1 := by
  unfold Provider.storeReported
  simp only [stores, last]
  cases set : record.set index (.ofInt .int64 number) with
  | ok stored => exact .fits set
  | error failure => exact .refused set

/-! ### Both ways of reporting -/

/-- Where columns are asked for, the first row is stored once all items have been read. -/
theorem writeBack_of_rows (plans : plan.Plans dialect table metadata values)
    (covers : InsertCoverage dialect table metadata values plan)
    (asked : plan.returning ≠ []) {outcome : Outcome Unit} {left : Record} {after : σ}
    (ended : Provider.storeReturned (.inserting table.name plan.columns) metadata record reply =
      (outcome, left, after)) :
    WriteBack dialect.insertMethod table metadata values plan record reply outcome left := by
  obtain ⟨answers, mapped⟩ := (returning_ne_nil_iff plans covers).mp asked
  have noNumbers : dialect.insertMethod ≠ .lastInsertId := by
    intro method
    simp [method, InsertMethod.returnsRow] at answers
  have failed : ∀ front failure state rest,
      reply.items = front ++ (.error failure, state) :: rest → Faultless front →
        outcome = .error (failure.within (.inserting table.name plan.columns)) ∧
          left = record := by
    intro front failure state rest split clear
    rw [Provider.storeReturned_of_failure split clear] at ended
    cases ended
    exact ⟨rfl, rfl⟩
  have unreturned : CountsOnly reply.items → outcome = .ok () ∧ left = record := by
    intro counts
    rw [Provider.storeReturned_of_counts counts] at ended
    cases ended
    exact ⟨rfl, rfl⟩
  have returned : Faultless reply.items → ∀ front row state rest,
      reply.items = front ++ (.ok (.row row), state) :: rest → CountsOnly front →
        record.StoredFrom metadata (row.labels.zip row.values) left outcome := by
    intro faultless front row state rest split counts
    rw [Provider.storeReturned_of_row faultless split counts] at ended
    cases ended
    exact Provider.storedFrom_writeBack rfl
  refine ⟨failed, ?_, fun faultless _ _ => returned faultless, ?_, ?_⟩
  · intro _ nothing
    cases nothing with
    | silent hidden => simp [hidden, InsertMethod.returnsRow] at answers
    | unmapped foreign =>
        obtain ⟨id, member, maps⟩ := mapped
        rw [foreign id member] at maps
        cases maps
    | noRow _ counts => exact unreturned counts
    | composite numbers _ => exact absurd numbers noNumbers
    | preset numbers _ => exact absurd numbers noNumbers
    | noNumber numbers _ => exact absurd numbers noNumbers
  · intro labelled index definition defined plain
    rcases Reply.faultless_or_failure reply.items with
      faultless | ⟨front, failure, state, rest, split, clear⟩
    · rcases Reply.counts_or_row faultless with counts | ⟨front, row, state, rest, split, counts⟩
      · rw [(unreturned counts).2]
      · have stored := returned faultless front row state rest split counts
        exact stored.keeps plans covers (labelled front row state rest split counts) defined plain
    · rw [(failed front failure state rest split clear).2]
  · intro _ method
    exact absurd method noNumbers

/-- Where no columns are asked for, the last number of the counts is stored once all items
have been read. -/
theorem writeBack_of_counts (plans : plan.Plans dialect table metadata values)
    (covers : InsertCoverage dialect table metadata values plan)
    (unasked : plan.returning = []) {outcome : Outcome Unit} {left : Record}
    (failed : ∀ failure after, reply.changes = (.error failure, after) →
      outcome = .error (failure.within (.inserting table.name plan.columns)) ∧ left = record)
    (stores : ∀ changes after, reply.changes = (.ok changes, after) →
      Provider.storeReported plan changes record = (outcome, left)) :
    WriteBack dialect.insertMethod table metadata values plan record reply outcome left := by
  have numbers : Faultless reply.items → ∃ changes,
      Provider.storeReported plan changes record = (outcome, left) ∧
        changes.lastId = (reportedIds reply.items).getLast? := by
    intro faultless
    obtain ⟨changes, summed, _⟩ := Reply.changes_of_faultless faultless
    have last := Reply.lastId_of_sumChanges summed
    exact ⟨changes, stores changes _ summed, by simpa [RowsAffected.none] using last⟩
  have unstored : Faultless reply.items → plan.lastIdField = none ∨ reportedIds reply.items = [] →
      outcome = .ok () ∧ left = record := by
    intro faultless nothing
    obtain ⟨changes, stored, last⟩ := numbers faultless
    rw [storeReported_of_none (nothing.imp_right fun none => by simp [last, none])] at stored
    cases stored
    exact ⟨rfl, rfl⟩
  have stored : Faultless reply.items → ∀ index number, plan.lastIdField = some index →
      (reportedIds reply.items).getLast? = some number →
        record.NumberStored index number left outcome := by
    intro faultless index number field last
    obtain ⟨changes, stored, same⟩ := numbers faultless
    have kept : record.NumberStored index number (Provider.storeReported plan changes record).2
        (Provider.storeReported plan changes record).1 :=
      numberStored_storeReported field (same.trans last)
    rwa [stored] at kept
  have broken : ∀ front failure state rest,
      reply.items = front ++ (.error failure, state) :: rest → Faultless front →
        outcome = .error (failure.within (.inserting table.name plan.columns)) ∧
          left = record := by
    intro front failure state rest split clear
    exact failed failure state (Reply.changes_of_failure split clear)
  refine ⟨broken, ?_, ?_, ?_, ?_⟩
  · intro faultless nothing
    exact unstored faultless (lastIdField_eq_none_of_unreported plans covers nothing)
  · intro _ answers mapped
    exact absurd unasked ((returning_ne_nil_iff plans covers).mpr ⟨answers, mapped⟩)
  · intro _ index definition defined plain
    rcases Reply.faultless_or_failure reply.items with
      faultless | ⟨front, failure, state, rest, split, clear⟩
    · by_cases nothing : plan.lastIdField = none ∨ reportedIds reply.items = []
      · rw [(unstored faultless nothing).2]
      · obtain ⟨field, filled⟩ := not_or.mp nothing
        obtain ⟨place, held⟩ := Option.ne_none_iff_exists'.mp field
        obtain ⟨number, last⟩ := Option.ne_none_iff_exists'.mp
          (mt List.getLast?_eq_none_iff.mp filled)
        refine (stored faultless place number held last).others ?_
        rintro rfl
        rw [isId_of_lastIdField plans covers held defined] at plain
        cases plain
    · rw [(broken front failure state rest split clear).2]
  · intro faultless method id index field number only placed same leavesOut last
    have unwritten := (covers.omitted field (List.mem_of_getElem? placed)).mpr leavesOut
    have held := ((covers.reported method id only).2 index).mpr ⟨field, placed, same, unwritten⟩
    have kept := stored faultless index number held last
    exact ⟨kept, fun other apart => kept.others apart⟩

end Reports

/-- An insert that cannot be planned leaves its record as it is.  A valid table, a valid
record type and one value for each field have a plan, and its reply decides what is written
back: nothing if there is a failure at any place; otherwise the columns of the first row
where identifiers come in rows, and the last number where they come with the counts and the
only identifier was left out. -/
theorem insert_writes_back_reports (provider : Provider σ) (table : Table) (record : Record)
    (state : σ) :
    (∀ failure, provider.planInsert table record = .error failure →
        provider.insert table record state = (.error failure, record, state)) ∧
      ∀ metadata values, table.validate = .ok () → record.type.metadata = .ok metadata →
        record.values = .ok values → values.length = metadata.fields.length →
          ∃ plan, provider.planInsert table record = .ok (metadata, plan) ∧
            WriteBack provider.dialect.insertMethod table metadata values plan record
              (provider.executor.run plan.statement state)
              (provider.insert table record state).1
              (provider.insert table record state).2.1 := by
  constructor
  · intro failure refused
    simp [Provider.insert, refused]
  · intro metadata values valid built valued width
    obtain ⟨plan, written, plans⟩ := provider.dialect.exists_insert valid width
    have planned : provider.planInsert table record = .ok (metadata, plan) := by
      simp only [Provider.planInsert, bind, Except.bind, valid, built, valued, written]
      rfl
    have covers := plans.covers width
    refine ⟨plan, planned, ?_⟩
    by_cases unasked : plan.returning = []
    · refine writeBack_of_counts plans covers unasked ?_ ?_
      · intro failure after changes
        simp [Provider.insert, planned, unasked, changes]
      · intro changes after summed
        simp [Provider.insert, planned, unasked, summed]
    · have stores : provider.insert table record state =
          Provider.storeReturned (.inserting table.name plan.columns) metadata record
            (provider.executor.run plan.statement state) := by
        simp [Provider.insert, planned, unasked]
      exact writeBack_of_rows plans covers unasked stores.symm

/-- The row with the new number has come, and the failure of the statement behind it: the
insert fails under its own context, and the record has no number. -/
theorem insert_writes_back_reports_failure_behind_row :
    let provider : Provider Script := ⟨.sqlite, Script.connection.toExecutor⟩
    let record := Conformance.userNamed "Ada"
    let broken : Failure := .ofText "disk full"
    let script := Script.ofResponses
      [[.ok (.affected ⟨1, some 7⟩), .ok (.row ⟨["ID"], [.ofInt .int64 7]⟩), .error broken]]
    Conformance.usersTable.validate = .ok () ∧
      ∃ metadata values, record.type.metadata = .ok metadata ∧ record.values = .ok values ∧
        values.length = metadata.fields.length ∧
        (provider.insert Conformance.usersTable record script).1 =
          .error (broken.within (.inserting "users" ["name", "age", "address"])) ∧
        (provider.insert Conformance.usersTable record script).2.1 = record := by
  intro provider record broken script
  obtain ⟨plan, planned, verdict⟩ :=
    (insert_writes_back_reports provider Conformance.usersTable record script).2 _ _ rfl rfl rfl rfl
  have clear : ∀ after : Script, Faultless
      [((.ok (.affected ⟨1, some 7⟩) : Outcome Response), after),
        (.ok (.row ⟨["ID"], [.ofInt .int64 7]⟩), after)] := by
    intro after item member
    simp only [List.mem_cons, List.not_mem_nil, or_false] at member
    rcases member with rfl | rfl
    · exact ⟨_, rfl⟩
    · exact ⟨_, rfl⟩
  cases planned
  exact ⟨rfl, _, _, rfl, rfl, rfl, verdict.failed _ broken _ [] rfl (clear _)⟩

end RecordMapping
