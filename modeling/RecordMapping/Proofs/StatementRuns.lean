/-
Module: RecordMapping.Proofs.StatementRuns
Purpose: What statements of a kind can make of a state, whoever sends them and
  however far their replies are read.
Main exports: Reply.Leaves, Executor.Reaches, Executor.Reaches.preserves,
  TransactionBody.Confined, Call.make_of_plan_error, Call.leaves_make, Call.make_reaches
-/
import RecordMapping.Proofs.ReplyContents
import RecordMapping.Provider.Call
import RecordMapping.Provider.Transaction

namespace RecordMapping

/-!
Work against a database is a run of statements.  A statement may fail, its reply
may be given up after any item, and what is sent next may depend on all that was
read before; none of this matters to an invariant that every state of every
reply keeps.
-/

variable {σ : Type}

/-- The states in which the reader of a reply can leave a database. -/
inductive Reply.Leaves (reply : Reply σ) : σ → Prop
  | opened : Leaves reply reply.opened
  | taken {item : Outcome Response × σ} (member : item ∈ reply.items) : Leaves reply item.2
  | closed : Leaves reply reply.closed

/-- The states that a run of statements of a kind can lead to. -/
inductive Executor.Reaches (executor : Executor σ) (admits : Statement → Prop) :
    σ → σ → Prop
  | refl (state : σ) : Reaches executor admits state state
  | step {statement : Statement} {before between after : σ} (admitted : admits statement)
      (leaves : (executor.run statement before).Leaves between)
      (rest : Reaches executor admits between after) : Reaches executor admits before after

/-- A body that does nothing to a database but send it statements of a kind. -/
def TransactionBody.Confined {κ ρ : Type} (body : TransactionBody σ κ ρ)
    (admits : Statement → Prop) (provider : Provider σ) : Prop :=
  ∀ held state, provider.executor.Reaches admits state (body provider held state).2.2

namespace Executor.Reaches

variable {executor : Executor σ} {admits : Statement → Prop} {before between after : σ}

theorem trans (first : executor.Reaches admits before between)
    (second : executor.Reaches admits between after) :
    executor.Reaches admits before after := by
  induction first with
  | refl state => exact second
  | step admitted leaves _ inductionHypothesis =>
      exact .step admitted leaves (inductionHypothesis second)

/-- What every statement of a kind keeps, in each state of its reply, a whole
run keeps. -/
theorem preserves {property : σ → Prop}
    (kept : ∀ statement state left, admits statement → property state →
      (executor.run statement state).Leaves left → property left)
    (reaches : executor.Reaches admits before after) (holds : property before) :
    property after := by
  induction reaches with
  | refl state => exact holds
  | step admitted leaves _ inductionHypothesis =>
      exact inductionHypothesis (kept _ _ _ admitted holds leaves)

end Executor.Reaches

/-! ### Readers of replies -/

namespace Reply

/-- The sum of changes ends with the reply or with its first failure. -/
theorem leaves_changes (reply : Reply σ) : reply.Leaves reply.changes.2 := by
  rcases faultless_or_failure reply.items with faultless |
    ⟨front, failure, state, rest, split, clear⟩
  · obtain ⟨total, summed, _⟩ := changes_of_faultless faultless
    rw [summed]
    exact .closed
  · have member : (.error failure, state) ∈ reply.items := by simp [split]
    rw [changes_of_failure split clear]
    exact .taken member

theorem leaves_of_mem_rows {reply : Reply σ} {row : Outcome LabeledRow × σ}
    (member : row ∈ reply.rows) : reply.Leaves row.2 := by
  obtain ⟨item, present, read⟩ := List.mem_filterMap.mp member
  have same : item.2 = row.2 := by
    obtain ⟨outcome, state⟩ := item
    rcases outcome with failure | response
    · simp only [rowItem, Option.some.injEq] at read
      exact congrArg Prod.snd read
    · cases response with
      | row row =>
          simp only [rowItem, Option.some.injEq] at read
          exact congrArg Prod.snd read
      | affected changes => simp [rowItem] at read
  rw [← same]
  exact .taken present

end Reply

/-! ### Operations of a provider

An operation stops reading at a failure or at the end of what it asked for.
Wherever it stops, it leaves a state of the reply to its statement.
-/

namespace Provider

variable {reply : Reply σ}

theorem leaves_collect (context : Context) (scanner : Scanner)
    (rows : List (Outcome LabeledRow × σ)) (members : ∀ row ∈ rows, reply.Leaves row.2) :
    reply.Leaves (collect context reply.closed scanner rows).2.2 := by
  induction rows generalizing scanner with
  | nil => exact .closed
  | cons row rest inductionHypothesis =>
      obtain ⟨here, others⟩ := List.forall_mem_cons.mp members
      obtain ⟨outcome, state⟩ := row
      cases outcome with
      | error failure => exact here
      | ok row =>
          unfold collect
          cases scanner.scan row with
          | mk scanner scanned =>
              cases scanned with
              | error failure => exact here
              | ok target => exact inductionHypothesis scanner others

theorem leaves_handOver {κ : Type} (context : Context) (size : Nat)
    (callback : ChunkCallback κ) (scanner : Scanner) (gathered : List Target) (held : κ)
    (rows : List (Outcome LabeledRow × σ)) (members : ∀ row ∈ rows, reply.Leaves row.2) :
    reply.Leaves
      (handOver context size callback reply.closed scanner gathered held rows).2.2 := by
  induction rows generalizing scanner gathered held with
  | nil =>
      unfold handOver
      split
      · exact .closed
      · exact .closed
  | cons row rest inductionHypothesis =>
      obtain ⟨here, others⟩ := List.forall_mem_cons.mp members
      obtain ⟨outcome, state⟩ := row
      cases outcome with
      | error failure => exact here
      | ok row =>
          unfold handOver
          cases scanner.scan row with
          | mk scanner scanned =>
              cases scanned with
              | error failure => exact here
              | ok target =>
                  dsimp only
                  split
                  · exact inductionHypothesis scanner _ held others
                  · cases callback held (gathered ++ [target]) with
                    | mk outcome held =>
                        cases outcome with
                        | error failure => exact here
                        | ok _ => exact inductionHypothesis scanner [] held others

theorem leaves_drain (context : Context) (rows : List (Outcome LabeledRow × σ))
    (members : ∀ row ∈ rows, reply.Leaves row.2) :
    reply.Leaves (drain context reply.closed rows).2 := by
  induction rows with
  | nil => exact .closed
  | cons row rest inductionHypothesis =>
      obtain ⟨here, others⟩ := List.forall_mem_cons.mp members
      obtain ⟨outcome, state⟩ := row
      cases outcome with
      | error failure => exact here
      | ok row => exact inductionHypothesis others

theorem leaves_storeReturned (context : Context) (metadata : RecordMeta) (record : Record) :
    reply.Leaves (storeReturned context metadata record reply).2.2 := by
  unfold storeReturned
  cases rows : reply.rows with
  | nil => exact .closed
  | cons row rest =>
      have members : ∀ other ∈ row :: rest, reply.Leaves other.2 := by
        intro other member
        exact Reply.leaves_of_mem_rows (rows ▸ member)
      obtain ⟨outcome, after⟩ := row
      obtain ⟨here, others⟩ := List.forall_mem_cons.mp members
      cases outcome with
      | error failure => exact here
      | ok row =>
          have drained := leaves_drain context rest others
          dsimp only
          cases ended : drain context reply.closed rest with
          | mk outcome last =>
              rw [ended] at drained
              cases outcome with
              | error failure => exact drained
              | ok _ => exact drained

variable {provider : Provider σ} {admits : Statement → Prop} {state : σ}

theorem exec_reaches {sql : String} {parameters : List Value}
    (admitted : admits ⟨sql, parameters⟩) :
    provider.executor.Reaches admits state (provider.exec sql parameters state).2 :=
  .step admitted (Reply.leaves_changes _) (.refl _)

theorem leaves_change (context : Context) (statement : Statement) :
    (provider.executor.run statement state).Leaves
      (provider.change context statement state).2 := by
  have summed : (provider.executor.run statement state).Leaves
      (provider.executor.execute statement state).2 :=
    Reply.leaves_changes _
  unfold change
  cases executed : provider.executor.execute statement state with
  | mk outcome after =>
      rw [executed] at summed
      cases outcome with
      | error failure => exact summed
      | ok changes =>
          by_cases none : changes.count = 0
          · simpa [none] using summed
          · simpa [none] using summed

theorem leaves_query {type : TargetType} {text sql : String} {parameters : List Value}
    {scanner : Scanner} (present : List Target)
    (prepared : provider.prepare type text = .ok (scanner, sql)) :
    (provider.executor.run ⟨sql, parameters⟩ state).Leaves
      (provider.query type text parameters present state).2.2 := by
  simp only [query, prepared]
  exact leaves_collect _ _ _ fun _ member => Reply.leaves_of_mem_rows member

theorem leaves_queryOne {type : TargetType} {text sql : String} {parameters : List Value}
    {scanner : Scanner} (target : Target)
    (prepared : provider.prepare type text = .ok (scanner, sql)) :
    (provider.executor.run ⟨sql, parameters⟩ state).Leaves
      (provider.queryOne type text parameters target state).2.2 := by
  simp only [queryOne, prepared]
  cases rows : (provider.executor.run ⟨sql, parameters⟩ state).rows with
  | nil => exact .closed
  | cons row rest =>
      have first : (provider.executor.run ⟨sql, parameters⟩ state).Leaves row.2 :=
        Reply.leaves_of_mem_rows (rows ▸ List.mem_cons_self)
      obtain ⟨outcome, after⟩ := row
      cases outcome with
      | error failure => exact first
      | ok row => exact first

theorem leaves_queryChunks {κ : Type} {type : TargetType} {chunks : ChunkQuery}
    {sql : String} {scanner : Scanner} (callback : ChunkCallback κ) (held : κ)
    (filled : chunks.size ≠ 0)
    (prepared : provider.prepare type chunks.text = .ok (scanner, sql)) :
    (provider.executor.run ⟨sql, chunks.parameters⟩ state).Leaves
      (provider.queryChunks type chunks callback held state).2.2 := by
  by_cases room : type.Gathers chunks.size
  · rw [queryChunks_of_gathers filled prepared room]
    exact leaves_handOver _ _ _ _ _ _ _ fun _ member => Reply.leaves_of_mem_rows member
  · rw [queryChunks_of_overflow filled prepared room]
    exact .opened

theorem leaves_insert {table : Table} {record : Record} {metadata : RecordMeta}
    {plan : InsertPlan} (planned : provider.planInsert table record = .ok (metadata, plan)) :
    (provider.executor.run plan.statement state).Leaves
      (provider.insert table record state).2.2 := by
  simp only [insert, planned]
  split
  · have summed := (provider.executor.run plan.statement state).leaves_changes
    cases changed : (provider.executor.run plan.statement state).changes with
    | mk outcome after =>
        rw [changed] at summed
        cases outcome with
        | error failure => exact summed
        | ok changes => exact summed
  · exact leaves_storeReturned _ metadata record

end Provider

/-! ### Calls -/

namespace Call

variable {κ : Type} {call : Call κ} {provider : Provider σ} {statement : Statement}
  {state : σ}

theorem planQuery_eq_ok_iff {type : TargetType} {text : String} {parameters : List Value} :
    planQuery provider type text parameters = .ok statement ↔
      ∃ scanner sql, provider.prepare type text = .ok (scanner, sql) ∧
        ⟨sql, parameters⟩ = statement := by
  unfold planQuery
  cases provider.prepare type text with
  | error failure => simp [Except.map]
  | ok both =>
      obtain ⟨scanner, sql⟩ := both
      simp only [Except.map, Except.ok.injEq, Prod.mk.injEq]
      constructor
      · intro planned
        exact ⟨scanner, sql, ⟨rfl, rfl⟩, planned⟩
      · rintro ⟨_, _, ⟨rfl, rfl⟩, planned⟩
        exact planned

theorem planQuery_eq_error_iff {type : TargetType} {text : String} {parameters : List Value}
    {failure : Failure} :
    planQuery provider type text parameters = .error failure ↔
      provider.prepare type text = .error failure := by
  unfold planQuery
  cases provider.prepare type text with
  | error fault => simp [Except.map]
  | ok both => simp [Except.map]

/-- A call that cannot be planned fails with what is wrong with it, and leaves
everything as it is. -/
theorem make_of_plan_error {failure : Failure} (unplanned : call.plan provider = .error failure) :
    call.make provider state = (.returned (.error failure), call.lent, state) := by
  cases call with
  | query type text parameters present =>
      have unprepared := planQuery_eq_error_iff.mp unplanned
      simp [make, lent, Provider.query, unprepared]
  | queryOne type text parameters target =>
      have unprepared := planQuery_eq_error_iff.mp unplanned
      simp [make, lent, Provider.queryOne, unprepared]
  | queryChunks type chunks callback held =>
      by_cases blank : chunks.size = 0
      · simp only [plan, blank, if_true, misconfigured, Except.error.injEq] at unplanned
        simp [make, lent, Provider.queryChunks, blank, misconfigured, unplanned]
      · simp only [plan, blank, if_false] at unplanned
        have unprepared := planQuery_eq_error_iff.mp unplanned
        simp [make, lent, Provider.queryChunks, blank, unprepared]
  | insert table record =>
      cases planned : provider.planInsert table record with
      | ok both => simp [plan, planned, Except.map] at unplanned
      | error fault =>
          simp only [plan, planned, Except.map, Except.error.injEq] at unplanned
          simp [make, lent, Provider.insert, planned, unplanned]
  | update table record =>
      have planned : provider.planUpdate table record = .error failure := unplanned
      simp [make, lent, Provider.update, planned]
  | delete table key =>
      have planned : provider.planDelete table key = .error failure := unplanned
      simp [make, lent, Provider.delete, planned]

/-- A call that is planned leaves a state of the reply to its statement. -/
theorem leaves_make (planned : call.plan provider = .ok statement) :
    (provider.executor.run statement state).Leaves (call.make provider state).2.2 := by
  cases call with
  | query type text parameters present =>
      obtain ⟨scanner, sql, prepared, rfl⟩ := planQuery_eq_ok_iff.mp planned
      exact Provider.leaves_query present prepared
  | queryOne type text parameters target =>
      obtain ⟨scanner, sql, prepared, rfl⟩ := planQuery_eq_ok_iff.mp planned
      exact Provider.leaves_queryOne target prepared
  | queryChunks type chunks callback held =>
      by_cases blank : chunks.size = 0
      · simp [plan, blank, misconfigured] at planned
      · simp only [plan, blank, if_false] at planned
        obtain ⟨scanner, sql, prepared, rfl⟩ := planQuery_eq_ok_iff.mp planned
        exact Provider.leaves_queryChunks callback held blank prepared
  | insert table record =>
      cases foreseen : provider.planInsert table record with
      | error failure => simp [plan, foreseen, Except.map] at planned
      | ok both =>
          obtain ⟨metadata, insertPlan⟩ := both
          simp only [plan, foreseen, Except.map, Except.ok.injEq] at planned
          subst planned
          exact Provider.leaves_insert foreseen
  | update table record =>
      have foreseen : provider.planUpdate table record = .ok statement := planned
      simp only [make, Provider.update, foreseen]
      exact Provider.leaves_change _ statement
  | delete table key =>
      have foreseen : provider.planDelete table key = .ok statement := planned
      simp only [make, Provider.delete, foreseen]
      exact Provider.leaves_change _ statement

/-- A call sends what it has planned, or nothing. -/
theorem make_reaches {admits : Statement → Prop}
    (admitted : ∀ statement, call.plan provider = .ok statement → admits statement) :
    provider.executor.Reaches admits state (call.make provider state).2.2 := by
  cases planned : call.plan provider with
  | error failure =>
      rw [make_of_plan_error planned]
      exact .refl state
  | ok statement => exact .step (admitted statement planned) (leaves_make planned) (.refl _)

end Call

end RecordMapping
