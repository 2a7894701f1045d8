/-
Module: RecordMapping.Connection.Recorded
Purpose: Connections that remember what they have been asked for.
Main exports: Action, Reply.mapStates, Executor.recorded, Connection.recorded
-/
import RecordMapping.Connection

namespace RecordMapping

/-!
Any connection can remember, beside its own state, what it has been asked for.
An action is remembered from the moment it is asked for, whether or not it
succeeds, and a statement is remembered once, however far its reply is read.
Nothing else is changed: states and outcomes are those of the connection.
-/

/-- What can be asked of a connection. -/
inductive Action where
  | begin
  | send (statement : Statement)
  | commit
  | rollback
  | abandon
deriving Repr, DecidableEq

variable {σ τ : Type}

/-- The reply with every state seen through a function. -/
def Reply.mapStates (view : σ → τ) (reply : Reply σ) : Reply τ :=
  ⟨view reply.opened, reply.items.map fun (item, state) => (item, view state),
    view reply.closed⟩

/-- The executor with the statements it has been sent. -/
def Executor.recorded (executor : Executor σ) : Executor (σ × List Action) where
  run statement state :=
    (executor.run statement state.1).mapStates fun after =>
      (after, state.2 ++ [.send statement])

theorem Executor.run_recorded (executor : Executor σ) (statement : Statement)
    (state : σ × List Action) :
    executor.recorded.run statement state =
      (executor.run statement state.1).mapStates fun after =>
        (after, state.2 ++ [.send statement]) := rfl

/-- A step of a connection that is remembered as an action. -/
def Action.noted (action : Action) (step : σ → Outcome Unit × σ) :
    σ × List Action → Outcome Unit × σ × List Action :=
  fun (state, actions) =>
    match step state with
    | (outcome, after) => (outcome, after, actions ++ [action])

/-- The connection with the actions it has been asked for. -/
def Connection.recorded (connection : Connection σ) : Connection (σ × List Action) where
  toExecutor := connection.toExecutor.recorded
  begin := Action.noted .begin connection.begin
  commit := Action.noted .commit connection.commit
  rollback := Action.noted .rollback connection.rollback
  abandon := fun (state, actions) => (connection.abandon state, actions ++ [.abandon])

/-- An action is remembered after those before it, and the step is taken as
without it. -/
theorem Action.noted_eq_iff {action : Action} {step : σ → Outcome Unit × σ} {state after : σ}
    {before actions : List Action} {outcome : Outcome Unit} :
    action.noted step (state, before) = (outcome, after, actions) ↔
      step state = (outcome, after) ∧ actions = before ++ [action] := by
  simp only [Action.noted, Prod.mk.injEq]
  constructor
  · rintro ⟨rfl, rfl, rfl⟩
    exact ⟨rfl, rfl⟩
  · rintro ⟨stepped, rfl⟩
    simp [stepped]

end RecordMapping
