/-
Module: RecordMapping.Proofs.CheckedCalls
Purpose: Calls are checked before anything is sent, and send at most one statement.
Main exports: Failure.Reported, Call.Stopped, Call.reported_of_make,
  call_checked_before_sending
-/
import RecordMapping.Connection.Script
import RecordMapping.Proofs.DataFaults
import RecordMapping.Proofs.FlawedCalls
import RecordMapping.Proofs.RecordedRuns

namespace RecordMapping

/-!
Each operation has its own checks in its own order, and one place at which it
sends its statement.  What it finds wrong in front of that place are the mistakes
of a program; behind it, such a mistake can only be one that the executor or a
callback has brought in.
-/

variable {σ κ : Type}

/-- A failure has the cause of one that came in with a reply. -/
def Failure.Reported (failure : Failure) (reply : Reply σ) : Prop :=
  ∃ received state, (.error received, state) ∈ reply.items ∧ received.cause = failure.cause

/-- The callback of a call has failed, and the call has left it in the state of
that failure. -/
def Call.Stopped (call : Call κ) (failure : Failure) (left : Lent κ) : Prop :=
  match call with
  | .queryChunks _ _ callback _ =>
      ∃ before chunk after,
        callback before chunk = (.error failure, after) ∧ left = .callback after
  | _ => False

/-! ### Where misconfigurations come from -/

section Reports

variable {reply : Reply σ} {failure : Failure}

theorem Failure.Reported.within (reported : failure.Reported reply) (context : Context) :
    (failure.within context).Reported reply := by
  obtain ⟨received, state, member, same⟩ := reported
  exact ⟨received, state, member, same.trans (failure.cause_within context).symm⟩

theorem Failure.reported_of_mem_rows {state : σ}
    (member : (.error failure, state) ∈ reply.rows) : failure.Reported reply := by
  obtain ⟨item, present, read⟩ := List.mem_filterMap.mp member
  obtain ⟨outcome, after⟩ := item
  cases outcome with
  | error found =>
      simp only [Reply.rowItem, Option.some.injEq, Prod.mk.injEq, Except.error.injEq] at read
      obtain ⟨rfl, rfl⟩ := read
      exact ⟨found, after, present, rfl⟩
  | ok response =>
      cases response with
      | row row => simp [Reply.rowItem] at read
      | affected changes => simp [Reply.rowItem] at read

theorem Failure.reported_of_mapStates {τ : Type} {view : σ → τ}
    (reported : failure.Reported (reply.mapStates view)) : failure.Reported reply := by
  obtain ⟨received, after, member, same⟩ := reported
  obtain ⟨item, present, seen⟩ := List.mem_map.mp member
  obtain ⟨outcome, state⟩ := item
  obtain ⟨rfl, rfl⟩ := Prod.mk.inj seen
  exact ⟨received, state, present, same⟩

theorem reported_of_changes (failed : reply.changes.1 = .error failure) :
    failure.Reported reply := by
  rcases Reply.faultless_or_failure reply.items with faultless |
    ⟨front, received, state, rest, split, clear⟩
  · obtain ⟨total, summed, _⟩ := Reply.changes_of_faultless faultless
    rw [summed] at failed
    cases failed
  · rw [Reply.changes_of_failure split clear] at failed
    obtain rfl := Except.error.inj failed
    exact ⟨received, state, by simp [split], rfl⟩

end Reports

namespace Provider

variable {reply : Reply σ} {failure : Failure}

theorem reported_of_collect {context : Context} {scanner : Scanner}
    {rows : List (Outcome LabeledRow × σ)} (members : ∀ row ∈ rows, row ∈ reply.rows)
    (failed : (collect context reply.closed scanner rows).1 = .error failure)
    (foreign : failure.isOfData = false) : failure.Reported reply := by
  induction rows generalizing scanner with
  | nil => cases failed
  | cons row rest inductionHypothesis =>
      obtain ⟨here, others⟩ := List.forall_mem_cons.mp members
      obtain ⟨outcome, state⟩ := row
      cases outcome with
      | error received =>
          cases failed
          exact (Failure.reported_of_mem_rows here).within context
      | ok row =>
          have scans := scanner.ofData_scan row
          unfold collect at failed
          cases scanned : scanner.scan row with
          | mk scannerBehind outcome =>
              rw [scanned] at failed scans
              cases outcome with
              | error unscanned =>
                  cases failed
                  rw [scans failure rfl] at foreign
                  cases foreign
              | ok target => exact inductionHypothesis others failed

/-- A callback that ends an iteration does so with its own failure. -/
theorem eq_of_settled_eq_error {outcome : Outcome Unit}
    (failed : settled outcome = .error failure) : outcome = .error failure := by
  cases outcome with
  | ok _ => cases failed
  | error found =>
      unfold settled at failed
      by_cases stop : found.isAbort = true
      · simp [stop] at failed
      · simpa [stop] using failed

theorem reported_of_handOver {context : Context} {size : Nat} {callback : ChunkCallback κ}
    {scanner : Scanner} {gathered : List Target} {held : κ}
    {rows : List (Outcome LabeledRow × σ)} (members : ∀ row ∈ rows, row ∈ reply.rows)
    {outcome : Outcome Unit} {left : κ} {after : σ}
    (ended : handOver context size callback reply.closed scanner gathered held rows =
      (outcome, left, after))
    (failed : outcome = .error failure) (foreign : failure.isOfData = false) :
    failure.Reported reply ∨
      ∃ before chunk, callback before chunk = (.error failure, left) := by
  subst failed
  induction rows generalizing scanner gathered held with
  | nil =>
      unfold handOver at ended
      split at ended
      · cases ended
      · cases called : callback held gathered with
        | mk verdict next =>
            rw [called] at ended
            simp only [Prod.mk.injEq] at ended
            obtain ⟨settles, rfl, _⟩ := ended
            rw [eq_of_settled_eq_error settles] at called
            exact .inr ⟨held, gathered, called⟩
  | cons row rest inductionHypothesis =>
      obtain ⟨here, others⟩ := List.forall_mem_cons.mp members
      obtain ⟨outcome, state⟩ := row
      cases outcome with
      | error received =>
          cases ended
          exact .inl ((Failure.reported_of_mem_rows here).within context)
      | ok row =>
          have scans := scanner.ofData_scan row
          unfold handOver at ended
          cases scanned : scanner.scan row with
          | mk scannerBehind outcome =>
              rw [scanned] at ended scans
              cases outcome with
              | error unscanned =>
                  cases ended
                  rw [scans failure rfl] at foreign
                  cases foreign
              | ok target =>
                  dsimp only at ended
                  split at ended
                  · exact inductionHypothesis others ended
                  · cases called : callback held (gathered ++ [target]) with
                    | mk verdict next =>
                        rw [called] at ended
                        cases verdict with
                        | ok _ => exact inductionHypothesis others ended
                        | error stop =>
                            simp only [Prod.mk.injEq] at ended
                            obtain ⟨settles, rfl, _⟩ := ended
                            rw [eq_of_settled_eq_error settles] at called
                            exact .inr ⟨held, _, called⟩

theorem reported_of_drain {context : Context} {rows : List (Outcome LabeledRow × σ)}
    (members : ∀ row ∈ rows, row ∈ reply.rows)
    (failed : (drain context reply.closed rows).1 = .error failure) :
    failure.Reported reply := by
  induction rows with
  | nil => cases failed
  | cons row rest inductionHypothesis =>
      obtain ⟨here, others⟩ := List.forall_mem_cons.mp members
      obtain ⟨outcome, state⟩ := row
      cases outcome with
      | error received =>
          cases failed
          exact (Failure.reported_of_mem_rows here).within context
      | ok row => exact inductionHypothesis others failed

theorem ofData_writeBack (metadata : RecordMeta) (columns : List (String × Value))
    (record : Record) : (writeBack metadata columns record).2.OfData := by
  induction columns generalizing record with
  | nil => exact .ok ()
  | cons column rest inductionHypothesis =>
      obtain ⟨label, value⟩ := column
      unfold writeBack
      split
      · exact inductionHypothesis record
      · rename_i index _
        have stores := record.ofData_set index value
        split
        · exact inductionHypothesis _
        · rename_i unstored failed
          exact .error (stores unstored failed)

theorem reported_of_storeReturned {context : Context} {metadata : RecordMeta}
    {record : Record} (failed : (storeReturned context metadata record reply).1 = .error failure)
    (foreign : failure.isOfData = false) : failure.Reported reply := by
  unfold storeReturned at failed
  cases rows : reply.rows with
  | nil =>
      rw [rows] at failed
      cases failed
  | cons row rest =>
      have members : ∀ other ∈ row :: rest, other ∈ reply.rows := fun _ member => rows ▸ member
      obtain ⟨here, others⟩ := List.forall_mem_cons.mp members
      rw [rows] at failed
      obtain ⟨outcome, state⟩ := row
      cases outcome with
      | error received =>
          cases failed
          exact (Failure.reported_of_mem_rows here).within context
      | ok row =>
          dsimp only at failed
          cases drained : drain context reply.closed rest with
          | mk outcome last =>
              rw [drained] at failed
              cases outcome with
              | error found =>
                  cases failed
                  exact reported_of_drain others (by rw [drained])
              | ok _ =>
                  have stores := ofData_writeBack metadata (row.labels.zip row.values) record
                  rw [stores failure failed] at foreign
                  cases foreign

theorem ofData_storeReported (plan : InsertPlan) (changes : RowsAffected)
    (record : Record) : (storeReported plan changes record).1.OfData := by
  unfold storeReported
  split
  · rename_i index id _ _
    have stores := record.ofData_set index (Value.ofInt .int64 id)
    split
    · exact .ok ()
    · rename_i unstored failed
      exact .error (stores unstored failed)
  · exact .ok ()

theorem reported_of_change {provider : Provider σ} {context : Context}
    {statement : Statement} {state : σ}
    (failed : (provider.change context statement state).1 = .error failure)
    (present : failure.isRecordNotFound = false) :
    failure.Reported (provider.executor.run statement state) := by
  unfold change at failed
  cases executed : provider.executor.execute statement state with
  | mk outcome after =>
      rw [executed] at failed
      cases outcome with
      | error received =>
          cases failed
          have changed : (provider.executor.run statement state).changes.1 = .error received :=
            congrArg Prod.fst executed
          exact (reported_of_changes changed).within context
      | ok changes =>
          by_cases none : changes.count = 0
          · simp only [none, if_true, Except.error.injEq] at failed
            subst failed
            cases present
          · simp [none] at failed

section Operations

variable {provider : Provider σ} {state : σ}

theorem reported_of_query {type : TargetType} {text sql : String} {parameters : List Value}
    {scanner : Scanner} {present : List Target}
    (prepared : provider.prepare type text = .ok (scanner, sql))
    (failed : (provider.query type text parameters present state).1 = .error failure)
    (foreign : failure.isOfData = false) :
    failure.Reported (provider.executor.run ⟨sql, parameters⟩ state) := by
  simp only [query, prepared] at failed
  exact reported_of_collect (fun _ member => member) failed foreign

theorem reported_of_queryOne {type : TargetType} {text sql : String} {parameters : List Value}
    {scanner : Scanner} {target : Target}
    (prepared : provider.prepare type text = .ok (scanner, sql))
    (failed : (provider.queryOne type text parameters target state).1 = .error failure)
    (foreign : failure.isOfData = false) (present : failure.isRecordNotFound = false) :
    failure.Reported (provider.executor.run ⟨sql, parameters⟩ state) := by
  simp only [queryOne, prepared] at failed
  cases rows : (provider.executor.run ⟨sql, parameters⟩ state).rows with
  | nil =>
      rw [rows] at failed
      cases failed
      cases present
  | cons row rest =>
      have here : row ∈ (provider.executor.run ⟨sql, parameters⟩ state).rows :=
        rows ▸ List.mem_cons_self
      rw [rows] at failed
      obtain ⟨outcome, between⟩ := row
      cases outcome with
      | error received =>
          cases failed
          exact (Failure.reported_of_mem_rows here).within _
      | ok row =>
          have scans := scanner.ofData_scanInto row target
          rw [scans failure failed] at foreign
          cases foreign

theorem reported_of_queryChunks {type : TargetType} {chunks : ChunkQuery} {sql : String}
    {scanner : Scanner} {callback : ChunkCallback κ} {held left : κ} {after : σ}
    (filled : chunks.size ≠ 0)
    (prepared : provider.prepare type chunks.text = .ok (scanner, sql))
    (ended : provider.queryChunks type chunks callback held state =
      (.returned (.error failure), left, after))
    (foreign : failure.isOfData = false) :
    failure.Reported (provider.executor.run ⟨sql, chunks.parameters⟩ state) ∨
      ∃ before chunk, callback before chunk = (.error failure, left) := by
  by_cases room : type.Gathers chunks.size
  · rw [queryChunks_of_gathers filled prepared room] at ended
    obtain ⟨returned, rest⟩ := Prod.mk.inj ended
    have failed := CallEnd.returned.inj returned
    exact reported_of_handOver (fun _ member => member) (Prod.ext failed rest) rfl foreign
  · rw [queryChunks_of_overflow filled prepared room] at ended
    cases ended

theorem reported_of_insert {table : Table} {record : Record} {metadata : RecordMeta}
    {plan : InsertPlan} (planned : provider.planInsert table record = .ok (metadata, plan))
    (failed : (provider.insert table record state).1 = .error failure)
    (foreign : failure.isOfData = false) :
    failure.Reported (provider.executor.run plan.statement state) := by
  simp only [insert, planned] at failed
  split at failed
  · cases changed : (provider.executor.run plan.statement state).changes with
    | mk outcome last =>
        rw [changed] at failed
        cases outcome with
        | error received =>
            cases failed
            exact (reported_of_changes (by rw [changed])).within _
        | ok changes =>
            have stores := ofData_storeReported plan changes record
            rw [stores failure failed] at foreign
            cases foreign
  · exact reported_of_storeReturned failed foreign

end Operations

end Provider

/-- A misconfiguration that comes out of a call that was planned has come in with
the reply to its statement, or is the failure of its callback. -/
theorem Call.reported_of_make {call : Call κ} {provider : Provider σ} {statement : Statement}
    {state after : σ} {left : Lent κ} {failure : Failure}
    (planned : call.plan provider = .ok statement)
    (made : call.make provider state = (.returned (.error failure), left, after))
    (wrong : failure.isConfiguration = true) :
    failure.Reported (provider.executor.run statement state) ∨ call.Stopped failure left := by
  have foreign := Failure.isOfData_of_isConfiguration wrong
  have present := Failure.isRecordNotFound_of_isConfiguration wrong
  cases call with
  | query type text parameters present =>
      obtain ⟨scanner, sql, prepared, rfl⟩ := planQuery_eq_ok_iff.mp planned
      simp only [make, Prod.mk.injEq, CallEnd.returned.injEq] at made
      obtain ⟨failed, _, _⟩ := made
      exact .inl (Provider.reported_of_query prepared failed foreign)
  | queryOne type text parameters target =>
      obtain ⟨scanner, sql, prepared, rfl⟩ := planQuery_eq_ok_iff.mp planned
      simp only [make, Prod.mk.injEq, CallEnd.returned.injEq] at made
      obtain ⟨failed, _, _⟩ := made
      exact .inl (Provider.reported_of_queryOne prepared failed foreign present)
  | queryChunks type chunks callback held =>
      by_cases blank : chunks.size = 0
      · simp [plan, blank, misconfigured] at planned
      · simp only [plan, blank, if_false] at planned
        obtain ⟨scanner, sql, prepared, rfl⟩ := planQuery_eq_ok_iff.mp planned
        simp only [make, Prod.mk.injEq] at made
        obtain ⟨failed, rfl, _⟩ := made
        have ended : provider.queryChunks type chunks callback held state =
            (.returned (.error failure), _, _) := Prod.ext failed rfl
        rcases Provider.reported_of_queryChunks blank prepared ended foreign with
          reported | ⟨before, chunk, called⟩
        · exact .inl reported
        · exact .inr ⟨before, chunk, _, called, rfl⟩
  | insert table record =>
      cases foreseen : provider.planInsert table record with
      | error fault => simp [plan, foreseen, Except.map] at planned
      | ok both =>
          simp only [plan, foreseen, Except.map, Except.ok.injEq] at planned
          subst planned
          simp only [make, Prod.mk.injEq, CallEnd.returned.injEq] at made
          obtain ⟨failed, _, _⟩ := made
          exact .inl (Provider.reported_of_insert foreseen failed foreign)
  | update table record =>
      have foreseen : provider.planUpdate table record = .ok statement := planned
      simp only [make, Provider.update, foreseen, Prod.mk.injEq, CallEnd.returned.injEq] at made
      obtain ⟨failed, _, _⟩ := made
      exact .inl (Provider.reported_of_change failed present)
  | delete table key =>
      have foreseen : provider.planDelete table key = .ok statement := planned
      simp only [make, Provider.delete, foreseen, Prod.mk.injEq, CallEnd.returned.injEq] at made
      obtain ⟨failed, _, _⟩ := made
      exact .inl (Provider.reported_of_change failed present)

/-- A call sends nothing or one statement.  If it sends nothing, it fails and
leaves the database and what it was lent as they are.  If it sends a statement,
then a misconfiguration that comes out has come in with the reply, or is what its
callback failed with.  So whatever is wrong with the call itself is found while
nothing has been sent. -/
theorem call_checked_before_sending (provider : Provider σ) (call : Call κ) (state : σ)
    {ended : CallEnd} {left : Lent κ} {after : σ} {actions : List Action}
    (made : call.make provider.recorded (state, []) = (ended, left, after, actions)) :
    ((actions = [] ∧ left = call.lent ∧ after = state ∧
        ∃ failure, ended = .returned (.error failure)) ∨
      ∃ statement, actions = [.send statement] ∧
        ∀ failure, ended = .returned (.error failure) → failure.isConfiguration = true →
          failure.Reported (provider.executor.run statement state) ∨
            call.Stopped failure left) ∧
      (call.Flawed →
        actions = [] ∧
          ∃ failure, ended = .returned (.error failure) ∧ failure.isConfiguration = true) := by
  have foreseen := call.plan_recorded provider
  cases planned : call.plan provider with
  | error failure =>
      rw [planned] at foreseen
      have stays : call.make provider.recorded (state, []) =
          (.returned (.error failure), call.lent, state, []) := Call.make_of_plan_error foreseen
      rw [made] at stays
      cases stays
      refine ⟨.inl ⟨rfl, rfl, rfl, failure, rfl⟩, fun flawed => ⟨rfl, ?_⟩⟩
      obtain ⟨fault, found, wrong⟩ := Call.plan_of_flawed provider flawed
      rw [planned] at found
      cases found
      exact ⟨failure, rfl, wrong⟩
  | ok statement =>
      rw [planned] at foreseen
      have leaves : (provider.recorded.executor.run statement (state, [])).Leaves
          (call.make provider.recorded (state, [])).2.2 := Call.leaves_make foreseen
      rw [made] at leaves
      have sent : actions = [.send statement] := Executor.actions_of_leaves leaves
      refine ⟨.inr ⟨statement, sent, fun failure failed wrong => ?_⟩, fun flawed => ?_⟩
      · rcases Call.reported_of_make foreseen (failed ▸ made) wrong with reported | stopped
        · exact .inl (Failure.reported_of_mapStates reported)
        · exact .inr stopped
      · obtain ⟨fault, found, _⟩ := Call.plan_of_flawed provider flawed
        rw [planned] at found
        cases found

/-- A delete by a key that is zero is refused, and nothing has been sent. -/
theorem zero_key_checked_before_sending :
    ∃ failure, (Call.delete (κ := Unit) (.named "users")
        (.ok (.byScalar (.ofInt .int64 0)))).make
          (Provider.recorded ⟨.sqlite, Script.connection.toExecutor⟩) (.ofResponses [], []) =
        (.returned (.error failure), .nothing, .ofResponses [], []) ∧
          failure.isConfiguration = true := by
  have flawed : (Call.delete (κ := Unit) (.named "users")
      (.ok (.byScalar (.ofInt .int64 0)))).Flawed := .key rfl rfl
  obtain ⟨cases, refused⟩ := call_checked_before_sending
    ⟨.sqlite, Script.connection.toExecutor⟩ _ (.ofResponses []) rfl
  obtain ⟨_, failure, failed, wrong⟩ := refused flawed
  exact ⟨failure, by rw [← failed]; rfl, wrong⟩

end RecordMapping
