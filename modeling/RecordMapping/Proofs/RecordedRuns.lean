/-
Module: RecordMapping.Proofs.RecordedRuns
Purpose: What a connection has been asked for after a run of statements.
Main exports: Executor.actions_of_leaves, Executor.actions_of_reaches, Provider.recorded,
  Call.plan_recorded
-/
import RecordMapping.Connection.Recorded
import RecordMapping.Proofs.StatementRuns

namespace RecordMapping

variable {σ τ : Type}

/-- The reader of a reply seen through a function leaves a state seen through
it. -/
theorem Reply.leaves_of_mapStates {view : σ → τ} {reply : Reply σ} {left : τ}
    (leaves : (reply.mapStates view).Leaves left) :
    ∃ between, reply.Leaves between ∧ left = view between := by
  cases leaves with
  | opened => exact ⟨_, .opened, rfl⟩
  | taken member =>
      obtain ⟨item, present, rfl⟩ := List.mem_map.mp member
      exact ⟨item.2, .taken present, rfl⟩
  | closed => exact ⟨_, .closed, rfl⟩

namespace Executor

variable {executor : Executor σ} {statement : Statement}
  {before after : σ × List Action}

/-- However far its reply is read, a statement is remembered once. -/
theorem actions_of_leaves (leaves : (executor.recorded.run statement before).Leaves after) :
    after.2 = before.2 ++ [.send statement] := by
  rw [run_recorded] at leaves
  obtain ⟨_, _, rfl⟩ := Reply.leaves_of_mapStates leaves
  rfl

/-- A run of statements of a kind is remembered as sends of such statements,
behind what was asked for before it. -/
theorem actions_of_reaches {admits : Statement → Prop}
    (reaches : executor.recorded.Reaches admits before after) :
    ∃ statements : List Statement, (∀ statement ∈ statements, admits statement) ∧
      after.2 = before.2 ++ statements.map .send := by
  induction reaches with
  | refl state => exact ⟨[], by simp, by simp⟩
  | @step statement before between after admitted leaves _ inductionHypothesis =>
      obtain ⟨statements, kind, remembered⟩ := inductionHypothesis
      refine ⟨statement :: statements, List.forall_mem_cons.mpr ⟨admitted, kind⟩, ?_⟩
      rw [remembered, actions_of_leaves leaves]
      simp

end Executor

/-- The provider with the statements that its executor has been sent. -/
def Provider.recorded (provider : Provider σ) : Provider (σ × List Action) :=
  ⟨provider.dialect, provider.executor.recorded⟩

/-- A plan depends on the dialect alone. -/
theorem Call.plan_recorded {κ : Type} (call : Call κ) (provider : Provider σ) :
    call.plan provider.recorded = call.plan provider := by
  cases call with
  | _ => rfl

end RecordMapping
