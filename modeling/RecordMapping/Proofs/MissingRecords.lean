/-
Module: RecordMapping.Proofs.MissingRecords
Purpose: A record is reported as missing exactly when a statement has found none.
Main exports: Outcome.MissesRecord, Reply.Unbidden, QueryOneVerdict, ChangeVerdict,
  missing_record_exact
-/
import RecordMapping.Proofs.CheckedCalls
import RecordMapping.Conformance.Sample

namespace RecordMapping

/-!
A query for one record reads rows and passes counts over; an update or a delete sums
counts up and passes rows over.  Both end at the first failure.  A missing record is
what they say when they have met no failure and nothing that they look for.
-/

variable {σ κ : Type}

/-- The outcome tells the caller that a record is missing. -/
def Outcome.MissesRecord {α : Type} (outcome : Outcome α) : Prop :=
  ∃ failure, outcome = .error failure ∧ failure.isRecordNotFound = true

/-- The end of a call tells the caller that a record is missing. -/
def CallEnd.MissesRecord (ended : CallEnd) : Prop :=
  ∃ outcome, ended = .returned outcome ∧ outcome.MissesRecord

/-- No failure in a reply speaks of a missing record itself. -/
def Reply.Unbidden (reply : Reply σ) : Prop :=
  ∀ failure state, (.error failure, state) ∈ reply.items → failure.isRecordNotFound = false

/-! ### Failures that speak of no missing record -/

namespace Outcome

variable {α : Type} {failure : Failure}

theorem missesRecord_error_iff :
    MissesRecord (.error failure : Outcome α) ↔ failure.isRecordNotFound = true := by
  constructor
  · rintro ⟨found, same, missing⟩
    cases same
    exact missing
  · intro missing
    exact ⟨failure, rfl, missing⟩

theorem not_missesRecord_ok (result : α) : ¬ MissesRecord (.ok result : Outcome α) := by
  rintro ⟨failure, impossible, _⟩
  cases impossible

theorem not_missesRecord_iff {outcome : Outcome α} :
    ¬ outcome.MissesRecord ↔
      outcome.FailsOnly fun failure => failure.isRecordNotFound = false := by
  constructor
  · intro present failure failed
    by_contra missing
    exact present ⟨failure, failed, by simpa using missing⟩
  · rintro only ⟨failure, failed, missing⟩
    have clear : failure.isRecordNotFound = false := only failure failed
    rw [clear] at missing
    cases missing

/-- Mistakes of a program are no missing records. -/
theorem OnlyMisconfigured.not_missesRecord {outcome : Outcome α}
    (only : outcome.OnlyMisconfigured) : ¬ outcome.MissesRecord :=
  not_missesRecord_iff.mpr fun failure failed =>
    Failure.isRecordNotFound_of_isConfiguration (only failure failed)

/-- Nor are faults of what a database holds. -/
theorem OfData.not_missesRecord {outcome : Outcome α} (ofData : outcome.OfData) :
    ¬ outcome.MissesRecord := by
  rintro ⟨failure, failed, missing⟩
  have data : failure.isOfData = true := ofData failure failed
  rw [Failure.isOfData_of_isRecordNotFound missing] at data
  cases data

end Outcome

@[simp] theorem CallEnd.missesRecord_returned_iff {outcome : Outcome Unit} :
    (CallEnd.returned outcome).MissesRecord ↔ outcome.MissesRecord := by
  constructor
  · rintro ⟨_, same, misses⟩
    cases same
    exact misses
  · intro misses
    exact ⟨outcome, rfl, misses⟩

@[simp] theorem CallEnd.not_missesRecord_overflow : ¬ CallEnd.overflow.MissesRecord := by
  rintro ⟨_, impossible, _⟩
  cases impossible

namespace Reply.Unbidden

variable {reply : Reply σ}

/-- What has come in with a reply that speaks of no missing record speaks of none. -/
theorem of_reported (unbidden : reply.Unbidden) {failure : Failure}
    (reported : failure.Reported reply) : failure.isRecordNotFound = false := by
  obtain ⟨received, state, member, same⟩ := reported
  have clear := unbidden received state member
  unfold Failure.isRecordNotFound at clear ⊢
  rwa [same] at clear

/-- Nor does an outcome that fails only by what has come in or by the data. -/
theorem not_missesRecord (unbidden : reply.Unbidden) {outcome : Outcome Unit}
    (reported : ∀ failure, outcome = .error failure → failure.isOfData = false →
      failure.Reported reply) : ¬ outcome.MissesRecord := by
  rintro ⟨failure, failed, missing⟩
  have foreign := Failure.isOfData_of_isRecordNotFound missing
  rw [unbidden.of_reported (reported failure failed foreign)] at missing
  cases missing

end Reply.Unbidden

/-! ### Verdicts -/

/-- What a query for one record may say, and leave in its target, by the reply to its
statement. -/
structure QueryOneVerdict (sql : String) (scanner : Scanner) (target : Target)
    (reply : Reply σ) (outcome : Outcome Unit) (left : Target) : Prop where
  missing : outcome.MissesRecord ↔ CountsOnly reply.items
  kept : outcome.MissesRecord → left = target
  /-- A failure in front of all rows decides, whatever follows. -/
  failed : ∀ front failure state rest,
    reply.items = front ++ (.error failure, state) :: rest → CountsOnly front →
      outcome = .error (failure.within (.runningQuery sql)) ∧ left = target
  /-- A row in front of all failures decides, whatever follows. -/
  stored : ∀ front row state rest,
    reply.items = front ++ (.ok (.row row), state) :: rest → CountsOnly front →
      (left, outcome) = (scanner.scanInto row target).2

/-- What a change of rows may say by the reply to its statement. -/
structure ChangeVerdict (context : Context) (reply : Reply σ) (outcome : Outcome Unit) :
    Prop where
  missing : outcome.MissesRecord ↔ Faultless reply.items ∧ changedRows reply.items = 0
  done : outcome = .ok () ↔ Faultless reply.items ∧ 0 < changedRows reply.items
  /-- The first failure decides, whatever has been counted before or comes behind. -/
  failed : ∀ front failure state rest,
    reply.items = front ++ (.error failure, state) :: rest → Faultless front →
      outcome = .error (failure.within context)

namespace Provider

variable {provider : Provider σ} {state : σ}

theorem queryOne_verdict {type : TargetType} {text sql : String} {parameters : List Value}
    {scanner : Scanner} (target : Target)
    (prepared : provider.prepare type text = .ok (scanner, sql))
    (unbidden : (provider.executor.run ⟨sql, parameters⟩ state).Unbidden) :
    QueryOneVerdict sql scanner target (provider.executor.run ⟨sql, parameters⟩ state)
      (provider.queryOne type text parameters target state).1
      (provider.queryOne type text parameters target state).2.1 := by
  simp only [queryOne, prepared]
  generalize provider.executor.run ⟨sql, parameters⟩ state = reply at unbidden ⊢
  refine ⟨?_, ?_, ?_, ?_⟩
  · rw [← Reply.rows_eq_nil_iff]
    cases rows : reply.rows with
    | nil => simp [Outcome.missesRecord_error_iff, Failure.isRecordNotFound, Failure.ofCause]
    | cons row rest =>
        have here : row ∈ reply.rows := rows ▸ List.mem_cons_self
        obtain ⟨outcome, between⟩ := row
        cases outcome with
        | error received =>
            have clear := unbidden.of_reported (Failure.reported_of_mem_rows here)
            simp [Outcome.missesRecord_error_iff, clear]
        | ok row =>
            have stores := (scanner.ofData_scanInto row target).not_missesRecord
            simp [stores]
  · cases rows : reply.rows with
    | nil => exact fun _ => rfl
    | cons row rest =>
        obtain ⟨outcome, between⟩ := row
        cases outcome with
        | error received => exact fun _ => rfl
        | ok row =>
            intro missing
            exact absurd missing (scanner.ofData_scanInto row target).not_missesRecord
  · intro front failure between rest split counts
    rw [Reply.rows_behind_counts split counts]
    exact ⟨rfl, rfl⟩
  · intro front row between rest split counts
    rw [Reply.rows_behind_counts split counts]
    rfl

theorem change_verdict (context : Context) {statement : Statement}
    (unbidden : (provider.executor.run statement state).Unbidden) :
    ChangeVerdict context (provider.executor.run statement state)
      (provider.change context statement state).1 := by
  simp only [change, Executor.execute]
  generalize provider.executor.run statement state = reply at unbidden ⊢
  rcases Reply.faultless_or_failure reply.items with faultless |
    ⟨front, failure, between, rest, split, clear⟩
  · obtain ⟨total, summed, counted⟩ := Reply.changes_of_faultless faultless
    rw [summed]
    refine ⟨?_, ?_, ?_⟩
    · by_cases none : changedRows reply.items = 0
      · simp [counted, none, faultless, Outcome.missesRecord_error_iff,
          Failure.isRecordNotFound, Failure.ofCause]
      · simp [counted, none, Outcome.not_missesRecord_ok]
    · by_cases none : changedRows reply.items = 0
      · simp [counted, none]
      · simp [counted, none, faultless, Nat.pos_of_ne_zero none]
    · intro front failure between rest split clear
      rw [Reply.changes_of_failure split clear] at summed
      cases summed
  · have changed := Reply.changes_of_failure split clear
    have faulty : ¬ Faultless reply.items := by
      intro faultless
      obtain ⟨total, summed, _⟩ := Reply.changes_of_faultless faultless
      rw [changed] at summed
      cases summed
    have present := unbidden failure between (by simp [split])
    rw [changed]
    refine ⟨?_, ?_, ?_⟩
    · simp [Outcome.missesRecord_error_iff, present, faulty]
    · simp [faulty]
    · intro others other after behind again clearOthers
      rw [Reply.changes_of_failure again clearOthers] at changed
      cases changed
      rfl

theorem update_verdict {table : Table} {record : Record} {statement : Statement}
    (planned : provider.planUpdate table record = .ok statement)
    (unbidden : (provider.executor.run statement state).Unbidden) :
    ChangeVerdict (.updating table.name) (provider.executor.run statement state)
      (provider.update table record state).1 := by
  simp only [update, planned]
  exact change_verdict _ unbidden

theorem delete_verdict {table : Table} {key : Outcome DeleteKey} {statement : Statement}
    (planned : provider.planDelete table key = .ok statement)
    (unbidden : (provider.executor.run statement state).Unbidden) :
    ChangeVerdict (.deleting table.name) (provider.executor.run statement state)
      (provider.delete table key state).1 := by
  simp only [delete, planned]
  exact change_verdict _ unbidden

/-! ### Operations that never miss a record -/

theorem insert_never_misses {table : Table} {record : Record}
    (unbidden : ∀ metadata plan, provider.planInsert table record = .ok (metadata, plan) →
      (provider.executor.run plan.statement state).Unbidden) :
    ¬ (provider.insert table record state).1.MissesRecord := by
  cases planned : provider.planInsert table record with
  | error failure =>
      have refused : ¬ (provider.planInsert table record).MissesRecord :=
        Outcome.not_missesRecord_iff.mpr <| failsOnly_planInsert
          (fun _ => Failure.isRecordNotFound_of_isConfiguration) fun failure failed => by
            obtain ⟨reason, _, rfl⟩ := Record.values_eq_error failed
            rfl
      rw [planned, Outcome.missesRecord_error_iff] at refused
      simpa [insert, planned, Outcome.missesRecord_error_iff] using refused
  | ok both =>
      obtain ⟨metadata, plan⟩ := both
      refine (unbidden metadata plan planned).not_missesRecord ?_
      intro failure failed foreign
      exact reported_of_insert planned failed foreign

/-- A query that cannot be prepared misses a record only if the layout of its type does. -/
theorem prepare_never_misses {type : TargetType} {text : String}
    (present : ¬ type.layout.MissesRecord) : ¬ (provider.prepare type text).MissesRecord := by
  rw [Outcome.not_missesRecord_iff] at present ⊢
  unfold prepare Scanner.make
  refine (present.map _).bind fun scanner => Outcome.FailsOnly.bind ?_ fun sql => .ok _
  unfold Dialect.select
  split
  · split
    · exact .error rfl
    · exact .ok _
  · exact .ok _

theorem query_never_misses {type : TargetType} {text : String} {parameters : List Value}
    (targets : List Target) (present : ¬ type.layout.MissesRecord)
    (unbidden : ∀ scanner sql, provider.prepare type text = .ok (scanner, sql) →
      (provider.executor.run ⟨sql, parameters⟩ state).Unbidden) :
    ¬ (provider.query type text parameters targets state).1.MissesRecord := by
  cases prepared : provider.prepare type text with
  | error failure =>
      have refused : ¬ (provider.prepare type text).MissesRecord :=
        prepare_never_misses present
      rw [prepared, Outcome.missesRecord_error_iff] at refused
      simpa [query, prepared, Outcome.missesRecord_error_iff] using refused
  | ok both =>
      obtain ⟨scanner, sql⟩ := both
      refine (unbidden scanner sql prepared).not_missesRecord ?_
      intro failure failed foreign
      exact reported_of_query prepared failed foreign

theorem queryChunks_never_misses {type : TargetType} {chunks : ChunkQuery}
    {callback : ChunkCallback κ} (held : κ) (present : ¬ type.layout.MissesRecord)
    (content : ∀ before chunk, ¬ (callback before chunk).1.MissesRecord)
    (unbidden : ∀ scanner sql, provider.prepare type chunks.text = .ok (scanner, sql) →
      (provider.executor.run ⟨sql, chunks.parameters⟩ state).Unbidden) :
    ¬ (provider.queryChunks type chunks callback held state).1.MissesRecord := by
  by_cases blank : chunks.size = 0
  · simp [queryChunks, blank, misconfigured, Outcome.missesRecord_error_iff,
      Failure.isRecordNotFound, Failure.configuration, Failure.ofCause]
  · cases prepared : provider.prepare type chunks.text with
    | error failure =>
        have refused : ¬ (provider.prepare type chunks.text).MissesRecord :=
          prepare_never_misses present
        rw [prepared, Outcome.missesRecord_error_iff] at refused
        simpa [queryChunks, blank, prepared, Outcome.missesRecord_error_iff] using refused
    | ok both =>
        obtain ⟨scanner, sql⟩ := both
        rintro ⟨_, returned, failure, rfl, missing⟩
        have ended : provider.queryChunks type chunks callback held state =
            (.returned (.error failure), _, _) := Prod.ext returned rfl
        rcases reported_of_queryChunks blank prepared ended
          (Failure.isOfData_of_isRecordNotFound missing) with
          reported | ⟨before, chunk, called⟩
        · rw [(unbidden scanner sql prepared).of_reported reported] at missing
          cases missing
        · exact content before chunk ⟨failure, by rw [called], missing⟩

theorem exec_never_misses {sql : String} {parameters : List Value}
    (unbidden : (provider.executor.run ⟨sql, parameters⟩ state).Unbidden) :
    ¬ (provider.exec sql parameters state).1.MissesRecord := by
  rintro ⟨failure, failed, missing⟩
  unfold exec Executor.execute at failed
  cases changed : (provider.executor.run ⟨sql, parameters⟩ state).changes with
  | mk outcome after =>
      rw [changed] at failed
      cases outcome with
      | ok changes => cases failed
      | error received =>
          cases failed
          have reported := (reported_of_changes (by rw [changed])).within (.runningQuery sql)
          rw [unbidden.of_reported reported] at missing
          cases missing

end Provider

/-! ### Layouts -/

namespace TargetType

theorem onlyMisconfigured_ofRecord (type : RecordType) :
    (ofRecord type).layout.OnlyMisconfigured :=
  type.onlyMisconfigured_metadata.map _

theorem onlyMisconfigured_ofJoin (typeName : String)
    (parts : List (String × String × RecordType)) (footprint : Nat) :
    (ofJoin typeName parts footprint).layout.OnlyMisconfigured := by
  have checks : ∀ (done : List JoinedMeta) (parts : List JoinPart),
      (∀ part ∈ parts, part.metadata.OnlyMisconfigured) →
        (Layout.checkParts typeName done parts).OnlyMisconfigured := by
    intro done parts
    induction parts generalizing done with
    | nil => exact fun _ => .ok _
    | cons part rest inductionHypothesis =>
        intro sound
        obtain ⟨here, others⟩ := List.forall_mem_cons.mp sound
        unfold Layout.checkParts
        split
        · exact Outcome.onlyMisconfigured_misconfigured _
        · split
          · exact Outcome.onlyMisconfigured_misconfigured _
          · split
            · rename_i failure failed
              exact .error (here failure failed)
            · exact inductionHypothesis _ others
  unfold ofJoin Layout.fromParts
  dsimp only
  split
  · exact Outcome.onlyMisconfigured_misconfigured _
  · refine (checks [] _ ?_).map _
    intro part member
    obtain ⟨⟨field, tableAlias, type⟩, _, rfl⟩ := List.mem_map.mp member
    exact type.onlyMisconfigured_metadata

end TargetType

/-! ### The whole provider -/

/-- If no failure of a reply speaks of a missing record, a query for one record speaks of
one exactly when the reply has neither a row nor a failure, and an update or a delete
exactly when it has no failure and counts no changed row.  What comes first decides
otherwise.  No other operation ever speaks of a missing record. -/
theorem missing_record_exact (provider : Provider σ) (state : σ)
    (unbidden : ∀ statement, (provider.executor.run statement state).Unbidden) :
    (∀ type text parameters target scanner sql,
      provider.prepare type text = .ok (scanner, sql) →
        QueryOneVerdict sql scanner target (provider.executor.run ⟨sql, parameters⟩ state)
          (provider.queryOne type text parameters target state).1
          (provider.queryOne type text parameters target state).2.1) ∧
      (∀ table record statement, provider.planUpdate table record = .ok statement →
        ChangeVerdict (.updating table.name) (provider.executor.run statement state)
          (provider.update table record state).1) ∧
      (∀ table key statement, provider.planDelete table key = .ok statement →
        ChangeVerdict (.deleting table.name) (provider.executor.run statement state)
          (provider.delete table key state).1) ∧
      (∀ table record, ¬ (provider.insert table record state).1.MissesRecord) ∧
      (∀ type text parameters targets, ¬ type.layout.MissesRecord →
        ¬ (provider.query type text parameters targets state).1.MissesRecord) ∧
      (∀ type chunks (callback : ChunkCallback κ) held, ¬ type.layout.MissesRecord →
        (∀ before chunk, ¬ (callback before chunk).1.MissesRecord) →
          ¬ (provider.queryChunks type chunks callback held state).1.MissesRecord) ∧
      ∀ sql parameters, ¬ (provider.exec sql parameters state).1.MissesRecord := by
  refine ⟨?_, ?_, ?_, ?_, ?_, ?_, ?_⟩
  · intro type text parameters target scanner sql prepared
    exact Provider.queryOne_verdict target prepared (unbidden _)
  · intro table record statement planned
    exact Provider.update_verdict planned (unbidden _)
  · intro table key statement planned
    exact Provider.delete_verdict planned (unbidden _)
  · intro table record
    exact Provider.insert_never_misses fun _ _ _ => unbidden _
  · intro type text parameters targets present
    exact Provider.query_never_misses targets present fun _ _ _ => unbidden _
  · intro type chunks callback held present content
    exact Provider.queryChunks_never_misses held present content fun _ _ _ => unbidden _
  · intro sql parameters
    exact Provider.exec_never_misses (unbidden _)

/-- A row between two counts of no changes: a delete misses a record, a query for one does
not, and neither does a query for many users or, in chunks, for users with their posts. -/
theorem missing_record_exact_row_without_changes :
    let provider : Provider Script := ⟨.sqlite, Script.connection.toExecutor⟩
    let script := Script.ofResponses
      [[.ok (.affected .none), .ok (.row ⟨["name"], [.ofText "Ada"]⟩), .ok (.affected .none)]]
    let accept : ChunkCallback Nat := fun count chunk => (.ok (), count + chunk.length)
    (∀ statement, (provider.executor.run statement script).Unbidden) ∧
      (provider.delete (.named "users") (.ok (.byScalar (.ofInt .int64 7)))
        script).1.MissesRecord ∧
      ¬ (provider.queryOne Conformance.users "from users" [] Conformance.users.blank
        script).1.MissesRecord ∧
      ¬ (provider.query Conformance.users "from users" [] [] script).1.MissesRecord ∧
      ¬ (provider.queryChunks Conformance.userPosts ⟨"from users", [], 2⟩ accept 0
        script).1.MissesRecord := by
  intro provider script accept
  have unbidden : ∀ statement, (provider.executor.run statement script).Unbidden := by
    intro statement failure state member
    simp [provider, script, Script.connection, Script.run, Script.send, Script.ofResponses]
      at member
  have planned : provider.planDelete (.named "users") (.ok (.byScalar (.ofInt .int64 7))) =
      .ok _ := rfl
  have prepared : provider.prepare Conformance.users "from users" = .ok (_, _) := rfl
  obtain ⟨reads, _, deletes, _, many, chunked, _⟩ :=
    missing_record_exact provider script unbidden
  refine ⟨unbidden, (deletes _ _ _ planned).missing.mpr ⟨?_, rfl⟩, ?_, ?_, ?_⟩
  · intro item member
    simp only [provider, script, Script.connection, Script.run, Script.send,
      Script.ofResponses, List.headD_cons, List.map_cons, List.map_nil, List.mem_cons,
      List.not_mem_nil, or_false] at member
    rcases member with rfl | rfl | rfl
    · exact ⟨_, rfl⟩
    · exact ⟨_, rfl⟩
    · exact ⟨_, rfl⟩
  · rw [(reads _ _ [] Conformance.users.blank _ _ prepared).missing]
    intro counts
    obtain ⟨changes, impossible⟩ := counts (.ok (.row ⟨["name"], [.ofText "Ada"]⟩), _)
      (List.mem_cons_of_mem _ List.mem_cons_self)
    cases impossible
  · have valid : Conformance.users.layout.OnlyMisconfigured :=
      TargetType.onlyMisconfigured_ofRecord Conformance.user
    exact many _ _ _ _ valid.not_missesRecord
  · have valid : Conformance.userPosts.layout.OnlyMisconfigured :=
      TargetType.onlyMisconfigured_ofJoin _ _ _
    exact chunked _ _ accept 0 valid.not_missesRecord fun _ _ => Outcome.not_missesRecord_ok ()

end RecordMapping
