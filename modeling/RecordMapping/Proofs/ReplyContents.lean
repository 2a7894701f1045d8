/-
Module: RecordMapping.Proofs.ReplyContents
Purpose: What readers of rows and of counts make of the items of a reply.
Main exports: CountsOnly, Faultless, changedRows, reportedIds, Reply.rows_eq_nil_iff,
  Reply.changes_of_faultless, Reply.changes_of_failure, Reply.faultless_or_failure,
  Reply.counts_or_row
-/
import RecordMapping.Connection

namespace RecordMapping

/-!
A reply may mix rows, counts and failures in any order.  A reader of rows passes counts
over and a reader of counts passes rows over; a failure ends both.  Counts are summed as
natural numbers, with which a sum in 64 bits agrees while it does not overflow.
-/

variable {σ : Type}

/-- Items of which each is a count of changes. -/
def CountsOnly (items : List (Outcome Response × σ)) : Prop :=
  ∀ item ∈ items, ∃ changes, item.1 = .ok (.affected changes)

/-- Items of which none is a failure. -/
def Faultless (items : List (Outcome Response × σ)) : Prop :=
  ∀ item ∈ items, ∃ response, item.1 = .ok response

/-- The number of rows that an item reports as changed. -/
def changedBy : Outcome Response → Nat
  | .ok (.affected changes) => changes.count
  | .ok (.row _) | .error _ => 0

/-- The number of rows that items report as changed in all. -/
def changedRows : List (Outcome Response × σ) → Nat
  | [] => 0
  | (outcome, _) :: rest => changedBy outcome + changedRows rest

/-- The identifier that an item reports as the last one. -/
def reportedBy : Outcome Response → Option Int
  | .ok (.affected changes) => changes.lastId
  | .ok (.row _) | .error _ => none

/-- The identifiers that items report, in order. -/
def reportedIds (items : List (Outcome Response × σ)) : List Int :=
  items.filterMap fun item => reportedBy item.1

namespace Reply

variable {reply : Reply σ} {front rest : List (Outcome Response × σ)}

theorem filterMap_rowItem_eq_nil_iff {items : List (Outcome Response × σ)} :
    items.filterMap rowItem = [] ↔ CountsOnly items := by
  unfold CountsOnly
  rw [List.filterMap_eq_nil_iff]
  refine forall₂_congr fun item _ => ?_
  obtain ⟨outcome, state⟩ := item
  cases outcome with
  | error failure => simp [rowItem]
  | ok response =>
      cases response with
      | row row => simp [rowItem]
      | affected changes => simp [rowItem]

theorem rows_eq_nil_iff : reply.rows = [] ↔ CountsOnly reply.items :=
  filterMap_rowItem_eq_nil_iff

/-- Counts in front of other items are not seen by a reader of rows. -/
theorem rows_behind_counts (split : reply.items = front ++ rest) (counts : CountsOnly front) :
    reply.rows = rest.filterMap rowItem := by
  simp [rows, split, filterMap_rowItem_eq_nil_iff.mpr counts]

/-- Without a failure, a sum of changes reaches the end of the items. -/
theorem sumChanges_of_faultless (closed : σ) (changes : RowsAffected)
    {items : List (Outcome Response × σ)} (faultless : Faultless items) :
    ∃ total, sumChanges closed changes items = (.ok total, closed) ∧
      total.count = changes.count + changedRows items := by
  induction items generalizing changes with
  | nil => exact ⟨changes, rfl, by simp [changedRows]⟩
  | cons item rest inductionHypothesis =>
      obtain ⟨⟨response, here⟩, others⟩ := List.forall_mem_cons.mp faultless
      obtain ⟨outcome, state⟩ := item
      obtain rfl : outcome = .ok response := here
      cases response with
      | row row =>
          obtain ⟨total, summed, counted⟩ := inductionHypothesis changes others
          refine ⟨total, summed, ?_⟩
          simpa [changedRows, changedBy] using counted
      | affected further =>
          obtain ⟨total, summed, counted⟩ := inductionHypothesis (changes.extend further) others
          refine ⟨total, summed, ?_⟩
          rw [counted]
          simp [RowsAffected.extend, changedRows, changedBy, Nat.add_assoc]

/-- Each identifier that is reported takes the place of those before it. -/
theorem lastId_of_sumChanges {closed after : σ} {changes total : RowsAffected}
    {items : List (Outcome Response × σ)}
    (summed : sumChanges closed changes items = (.ok total, after)) :
    total.lastId = (reportedIds items).getLast?.or changes.lastId := by
  induction items generalizing changes with
  | nil =>
      cases summed
      rfl
  | cons item rest inductionHypothesis =>
      obtain ⟨outcome, state⟩ := item
      cases outcome with
      | error failure => cases summed
      | ok response =>
          cases response with
          | row row => exact inductionHypothesis summed
          | affected further =>
              have split : reportedIds ((.ok (.affected further), state) :: rest) =
                  further.lastId.toList ++ reportedIds rest := by
                cases reports : further.lastId <;>
                  simp [reportedIds, reportedBy, reports]
              rw [inductionHypothesis summed, split, List.getLast?_append, Option.or_assoc]
              cases reports : further.lastId <;> simp [RowsAffected.extend, reports]

/-- A sum of changes ends with the first failure, whatever has been counted before. -/
theorem sumChanges_of_failure (closed : σ) (changes : RowsAffected) {failure : Failure}
    {state : σ} (faultless : Faultless front) :
    sumChanges closed changes (front ++ (.error failure, state) :: rest) =
      (.error failure, state) := by
  induction front generalizing changes with
  | nil => rfl
  | cons item others inductionHypothesis =>
      obtain ⟨⟨response, here⟩, behind⟩ := List.forall_mem_cons.mp faultless
      obtain ⟨outcome, between⟩ := item
      obtain rfl : outcome = .ok response := here
      cases response with
      | row row => exact inductionHypothesis changes behind
      | affected further => exact inductionHypothesis (changes.extend further) behind

theorem changes_of_faultless (faultless : Faultless reply.items) :
    ∃ total, reply.changes = (.ok total, reply.closed) ∧
      total.count = changedRows reply.items := by
  obtain ⟨total, summed, counted⟩ := sumChanges_of_faultless reply.closed .none faultless
  exact ⟨total, summed, by simpa [RowsAffected.none] using counted⟩

theorem changes_of_failure {failure : Failure} {state : σ}
    (split : reply.items = front ++ (.error failure, state) :: rest)
    (faultless : Faultless front) : reply.changes = (.error failure, state) := by
  rw [changes, split]
  exact sumChanges_of_failure reply.closed .none faultless

/-- Items have no failure, or a first one. -/
theorem faultless_or_failure (items : List (Outcome Response × σ)) :
    Faultless items ∨ ∃ front failure state rest,
      items = front ++ (.error failure, state) :: rest ∧ Faultless front := by
  induction items with
  | nil => exact .inl (by simp [Faultless])
  | cons item others inductionHypothesis =>
      obtain ⟨outcome, between⟩ := item
      cases outcome with
      | error failure => exact .inr ⟨[], failure, between, others, rfl, by simp [Faultless]⟩
      | ok response =>
          rcases inductionHypothesis with faultless | ⟨front, failure, state, rest, rfl, clear⟩
          · exact .inl (List.forall_mem_cons.mpr ⟨⟨response, rfl⟩, faultless⟩)
          · exact .inr ⟨(.ok response, between) :: front, failure, state, rest, rfl,
              List.forall_mem_cons.mpr ⟨⟨response, rfl⟩, clear⟩⟩

/-- The rows among items without a failure are no failures. -/
theorem row_of_faultless {items : List (Outcome Response × σ)}
    (faultless : Faultless items) :
    ∀ item ∈ items.filterMap rowItem, ∃ row, item.1 = .ok row := by
  intro item member
  obtain ⟨⟨outcome, state⟩, present, read⟩ := List.mem_filterMap.mp member
  obtain ⟨response, rfl⟩ : ∃ response, outcome = .ok response := faultless _ present
  cases response with
  | row row =>
      cases read
      exact ⟨row, rfl⟩
  | affected changes => cases read

/-- Items without a failure have no row, or a first one. -/
theorem counts_or_row {items : List (Outcome Response × σ)} (faultless : Faultless items) :
    CountsOnly items ∨ ∃ front row state rest,
      items = front ++ (.ok (.row row), state) :: rest ∧ CountsOnly front := by
  induction items with
  | nil => exact .inl (by simp [CountsOnly])
  | cons item others inductionHypothesis =>
      obtain ⟨⟨response, here⟩, behind⟩ := List.forall_mem_cons.mp faultless
      obtain ⟨outcome, between⟩ := item
      obtain rfl : outcome = .ok response := here
      cases response with
      | row row => exact .inr ⟨[], row, between, others, rfl, by simp [CountsOnly]⟩
      | affected changes =>
          rcases inductionHypothesis behind with counts | ⟨front, row, state, rest, rfl, counts⟩
          · exact .inl (List.forall_mem_cons.mpr ⟨⟨changes, rfl⟩, counts⟩)
          · exact .inr ⟨(.ok (.affected changes), between) :: front, row, state, rest, rfl,
              List.forall_mem_cons.mpr ⟨⟨changes, rfl⟩, counts⟩⟩

end Reply

end RecordMapping
