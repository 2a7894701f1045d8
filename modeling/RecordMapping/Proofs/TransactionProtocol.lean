/-
Module: RecordMapping.Proofs.TransactionProtocol
Purpose: What a transaction asks of its connection, and what it tells its caller.
Main exports: Action.ending, Connection.finish, Outcome.ended,
  Connection.transaction_of_begun, transaction_protocol
-/
import RecordMapping.Connection.Script
import RecordMapping.Proofs.RecordedRuns

namespace RecordMapping

/-!
A transaction that has begun is ended once, by what its body returned.  The
body reaches the connection through its provider only, so all that it can add to
what the connection is asked for are statements.
-/

variable {σ κ ρ : Type}

/-- What ends a transaction whose body has returned. -/
def Action.ending : Outcome ρ → Action
  | .ok _ => .commit
  | .error _ => .rollback

/-- The step of a connection that ends a transaction whose body has returned. -/
def Connection.finish (connection : Connection σ) (returned : Outcome ρ) (state : σ) :
    Outcome Unit × σ :=
  match returned with
  | .ok _ => connection.commit state
  | .error _ => connection.rollback state

/-- What the caller is told of a transaction that has begun, by what its body
returned and by how its end went. -/
def Outcome.ended (returned : Outcome ρ) (ending : Outcome Unit) : Outcome ρ :=
  match returned, ending with
  | .ok result, .ok () => .ok result
  | .ok _, .error failure => .error (failure.within .committing)
  | .error failure, .ok () => .error failure
  | .error failure, .error second =>
      .error (second.within
        (.rollingBack (failure.contexts.map Context.message) failure.cause))

theorem Outcome.ended_eq_ok_iff {returned : Outcome ρ} {ending : Outcome Unit} {result : ρ} :
    returned.ended ending = .ok result ↔ returned = .ok result ∧ ending = .ok () := by
  cases returned with
  | ok value =>
      cases ending with
      | ok _ => simp [ended]
      | error failure => simp [ended]
  | error failure =>
      cases ending with
      | ok _ => simp [ended]
      | error second => simp [ended]

/-- The whole text of the first failure stands in the context of the second. -/
theorem Failure.message_rollingBack (failure : Failure) :
    (Context.rollingBack (failure.contexts.map Context.message) failure.cause).message =
      "Could not roll back the transaction after the error: " ++ failure.render := rfl

namespace Connection

variable {connection : Connection σ} {dialect : Dialect} {held left : κ}

theorem transaction_of_begun {body : TransactionBody σ κ ρ} {state begun worked after : σ}
    {returned : Outcome ρ} {ending : Outcome Unit}
    (started : connection.begin state = (.ok (), begun))
    (ran : body (connection.provider dialect) held begun = (returned, left, worked))
    (ended : connection.finish returned worked = (ending, after)) :
    connection.transaction dialect body held state = (returned.ended ending, left, after) := by
  apply transaction_eq_iff.mpr
  cases returned with
  | ok result =>
      cases ending with
      | ok _ => exact .committed started ran ended
      | error failure => exact .uncommitted started ran ended
  | error failure =>
      cases ending with
      | ok _ => exact .rolledBack started ran ended
      | error second => exact .stuck started ran ended

theorem finish_recorded (returned : Outcome ρ) :
    connection.recorded.finish returned =
      (Action.ending returned).noted (connection.finish returned) := by
  cases returned with
  | ok result => rfl
  | error failure => rfl

end Connection

/-- A transaction asks its connection to begin.  Where that fails it asks for
nothing else; otherwise the statements of the body follow, and then a commit or a
rollback as the body succeeded or failed.  It succeeds just if all three steps
do.  The failure of a body that was rolled back comes out as it is, and any other
failure under a context that tells the step. -/
theorem transaction_protocol (connection : Connection σ) (dialect : Dialect)
    {admits : Statement → Prop} (body : TransactionBody (σ × List Action) κ ρ)
    (confined : body.Confined admits (connection.recorded.provider dialect))
    (held : κ) (state : σ) {outcome : Outcome ρ} {left : κ} {after : σ} {actions : List Action}
    (run : connection.recorded.transaction dialect body held (state, []) =
      (outcome, left, after, actions)) :
    (∀ failure refused, connection.begin state = (.error failure, refused) →
      actions = [.begin] ∧ left = held ∧ after = refused ∧
        ∃ context, outcome = .error (failure.within context) ∧
          context.message = "Could not begin the transaction") ∧
    (∀ begun, connection.begin state = (.ok (), begun) →
      ∃ returned worked, ∃ statements : List Statement,
        body (connection.recorded.provider dialect) held (begun, [.begin]) =
          (returned, left, worked, .begin :: statements.map .send) ∧
        (∀ statement ∈ statements, admits statement) ∧
        actions = .begin :: statements.map .send ++ [.ending returned] ∧
        (∀ result, outcome = .ok result ↔
          returned = .ok result ∧ (connection.commit worked).1 = .ok ()) ∧
        (∀ result failure, returned = .ok result →
          (connection.commit worked).1 = .error failure →
          ∃ context, outcome = .error (failure.within context) ∧
            context.message = "Could not commit the transaction") ∧
        (∀ failure, returned = .error failure → (connection.rollback worked).1 = .ok () →
          outcome = .error failure) ∧
        (∀ failure second, returned = .error failure →
          (connection.rollback worked).1 = .error second →
          ∃ context, outcome = .error (second.within context) ∧
            context.message =
              "Could not roll back the transaction after the error: " ++ failure.render)) ∧
    ∀ (γ : Type) (call : Call γ), call.plan (connection.recorded.provider dialect) =
      call.plan (connection.provider dialect) := by
  refine ⟨?_, ?_, fun γ call => call.plan_recorded (connection.provider dialect)⟩
  · intro failure refused started
    have asked : connection.recorded.begin (state, []) =
        (.error failure, refused, [.begin]) := Action.noted_eq_iff.mpr ⟨started, rfl⟩
    have ended : connection.recorded.transaction dialect body held (state, []) =
        (.error (failure.within .beginning), held, refused, [.begin]) :=
      Connection.transaction_eq_iff.mpr (.refused asked)
    rw [run] at ended
    cases ended
    exact ⟨rfl, rfl, rfl, .beginning, rfl, rfl⟩
  · intro begun started
    have asked : connection.recorded.begin (state, []) = (.ok (), begun, [.begin]) :=
      Action.noted_eq_iff.mpr ⟨started, rfl⟩
    have worked := confined held (begun, [.begin])
    obtain ⟨statements, kind, sent⟩ := Executor.actions_of_reaches worked
    cases ran : body (connection.recorded.provider dialect) held (begun, [.begin]) with
    | mk returned rest =>
        obtain ⟨handed, between, log⟩ := rest
        rw [ran] at sent
        obtain rfl : log = .begin :: statements.map .send := sent
        cases finished : connection.finish returned between with
        | mk ending last =>
            have closed : connection.recorded.finish returned
                (between, .begin :: statements.map .send) =
                (ending, last, .begin :: statements.map .send ++ [.ending returned]) := by
              rw [Connection.finish_recorded]
              exact Action.noted_eq_iff.mpr ⟨finished, rfl⟩
            have ended := Connection.transaction_of_begun asked ran closed
            rw [run] at ended
            cases ended
            have told : (connection.finish returned between).1 = ending :=
              congrArg Prod.fst finished
            refine ⟨returned, between, statements, rfl, kind, rfl, ?_, ?_, ?_, ?_⟩
            · intro result
              rw [Outcome.ended_eq_ok_iff]
              constructor
              · rintro ⟨rfl, rfl⟩
                exact ⟨rfl, told⟩
              · rintro ⟨rfl, committed⟩
                exact ⟨rfl, told.symm.trans committed⟩
            · rintro result failure rfl uncommitted
              obtain rfl : ending = .error failure := told.symm.trans uncommitted
              exact ⟨.committing, rfl, rfl⟩
            · rintro failure rfl rolledBack
              obtain rfl : ending = .ok () := told.symm.trans rolledBack
              rfl
            · rintro failure second rfl stuck
              obtain rfl : ending = .error second := told.symm.trans stuck
              exact ⟨_, rfl, failure.message_rollingBack⟩

/-- Deletes a user who is not there, and gives up. -/
def deleteMissing {σ : Type} : TransactionBody σ Unit Unit := fun provider held state =>
  match provider.delete (.named "users") (.ok (.byScalar (.ofInt .int64 7))) state with
  | (outcome, after) => (outcome, held, after)

/-- When the rollback fails after a record was not found, both are told. -/
theorem transaction_protocol_failed_rollback :
    ∃ left after failure statement,
      Script.connection.recorded.transaction .sqlite deleteMissing ()
        (.ofResponses [[], [], [.error (.ofText "disk failure")]], []) =
          (.error failure, left, after, [.begin, .send statement, .rollback]) ∧
      failure.messages = ["Could not roll back the transaction after the error: " ++
        "rowmap: record not found", "disk failure"] := by
  have confined : deleteMissing.Confined (fun _ => True)
      (Script.connection.recorded.provider .sqlite) := by
    intro held state
    have sends (call : Call Unit) :
        (Script.connection.recorded.provider .sqlite).executor.Reaches (fun _ => True) state
          (call.make (Script.connection.recorded.provider .sqlite) state).2.2 :=
      Call.make_reaches fun _ _ => trivial
    exact sends (.delete (.named "users") (.ok (.byScalar (.ofInt .int64 7))))
  cases run : Script.connection.recorded.transaction .sqlite deleteMissing ()
      (.ofResponses [[], [], [.error (.ofText "disk failure")]], []) with
  | mk outcome rest =>
      obtain ⟨left, after, actions⟩ := rest
      obtain ⟨_, begun, _⟩ :=
        transaction_protocol Script.connection .sqlite deleteMissing confined () _ run
      obtain ⟨returned, worked, statements, ran, _, asked, _, _, _, stuck⟩ := begun _ rfl
      have failed : returned = .error (.ofCause .recordNotFound) :=
        (congrArg Prod.fst ran).symm
      have log : 2 = (Action.begin :: statements.map .send).length :=
        congrArg (fun ended => ended.2.2.2.length) ran
      obtain ⟨statement, rfl⟩ : ∃ statement, statements = [statement] := by
        apply List.length_eq_one_iff.mp
        simpa using log.symm
      have stays : (Script.connection.rollback worked).1 = .error (.ofText "disk failure") := by
        have place := congrArg (fun ended => ended.2.2.1) ran
        dsimp only at place
        rw [← place]
        rfl
      obtain ⟨context, told, wording⟩ := stuck _ _ failed stays
      subst failed told asked
      refine ⟨left, after, _, statement, rfl, ?_⟩
      have behind : ((Failure.ofText "disk failure").within context).messages =
          [context.message, "disk failure"] := rfl
      rw [behind, wording]
      rfl

end RecordMapping
