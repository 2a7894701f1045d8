/-
Module: RecordMapping.Proofs.CursorHistories
Purpose: What a cursor shows after any calls, and which row it still shows after an advance
  that has failed.
Main exports: CursorCall, Cursor.answer, Cursor.announced, Cursor.Stands, Cursor.Truthful,
  cursor_tells_history, failed_advance_keeps_row
-/
import RecordMapping.Proofs.DataFaults
import RecordMapping.Proofs.ReadingAgreement

namespace RecordMapping

/-!
A cursor keeps a statement, a row and a phase, and changes them at different places.
That they fit together is one invariant: a cursor stands at a number of items of its
statement.  An advance takes one item, a closing takes none ever after, and every other
call leaves the cursor alone.  Calls that are finitely many take finitely many items, so
a list of items is as good as a stream that never ends.
-/

variable {σ : Type}

/-! ### Calls -/

/-- A call on a cursor. -/
inductive CursorCall where
  | next
  | scan (type : TargetType) (target : Target)
  | columns
  | current
  | isClosed
  | close

/-- What a call on a cursor answers. -/
inductive CursorAnswer where
  | advanced (outcome : Outcome Bool)
  | scanned (target : Target) (outcome : Outcome Unit)
  | labels (columns : Option (List String))
  | row (current : Option LabeledRow)
  | flag (closed : Bool)
  | released

namespace CursorCall

/-- The advances in front of the first closing. -/
def advances : List CursorCall → Nat
  | [] => 0
  | .close :: _ => 0
  | .next :: rest => advances rest + 1
  | _ :: rest => advances rest

/-- Whether one of the calls is a closing. -/
def closing : List CursorCall → Bool
  | [] => false
  | .close :: _ => true
  | _ :: rest => closing rest

end CursorCall

/-- The rows among the items of a statement. -/
def rowsOf (items : List (Outcome LabeledRow × σ)) : List LabeledRow :=
  items.filterMap fun (item, _) => item.toOption

/-- A row stored in a target by a scanner of its own, if the target type has one. -/
def TargetType.bindAlone (type : TargetType) (row : LabeledRow) (target : Target) :
    Target × Outcome Unit :=
  match type.layout with
  | .error failure => (target, .error failure)
  | .ok layout => layout.bindRow type.typeName row target

namespace Cursor

/-- One call on a cursor. -/
def answer (cursor : Cursor σ) : CursorCall → CursorAnswer × Cursor σ
  | .next =>
      match cursor.next with
      | (outcome, behind) => (.advanced outcome, behind)
  | .scan type target =>
      match cursor.scan type target with
      | (stored, outcome) => (.scanned stored outcome, cursor)
  | .columns => (.labels cursor.columns?, cursor)
  | .current => (.row cursor.current, cursor)
  | .isClosed => (.flag cursor.isClosed, cursor)
  | .close => (.released, cursor.close)

/-- The cursor after calls. -/
def after (cursor : Cursor σ) : List CursorCall → Cursor σ
  | [] => cursor
  | call :: rest => (cursor.answer call).2.after rest

/-- What is the current row each time an advance has answered `true`. -/
def announced (cursor : Cursor σ) : List CursorCall → List (Option LabeledRow)
  | [] => []
  | call :: rest =>
      match cursor.answer call with
      | (.advanced (.ok true), behind) => behind.current :: behind.announced rest
      | (_, behind) => behind.announced rest

/-- The refusal of a cursor in its present phase. -/
def refusal {α : Type} (fault : CursorFault) : Outcome α :=
  .error (.ofCause (.cursor fault))

/-! ### Where a cursor stands -/

/-- Where a cursor over the items of a statement stands when it has taken `count` of
them.  Beyond the last item stands a cursor that has seen the end. -/
inductive Stands (items : List (Outcome LabeledRow × σ)) (count : Nat) (cursor : Cursor σ) :
    Prop
  | held (inside : count ≤ items.length) (rest : cursor.remaining = some (items.drop count))
      (shown : cursor.current = (rowsOf (items.take count)).getLast?)
      (phase : cursor.phase = if cursor.current.isSome then .onRow else .fresh)
  | exhausted (beyond : items.length < count) (released : cursor.remaining = none)
      (free : cursor.current = none) (phase : cursor.phase = .exhausted)
  | closed (released : cursor.remaining = none) (free : cursor.current = none)
      (phase : cursor.phase = .closed)

variable {items : List (Outcome LabeledRow × σ)} {count : Nat} {cursor : Cursor σ}
  {calls : List CursorCall}

theorem stands_ofReply (reply : Reply σ) : (ofReply reply).Stands reply.rows 0 :=
  .held (Nat.zero_le _) rfl rfl rfl

theorem rowsOf_take_succ {item : Outcome LabeledRow} {state : σ}
    (next : items[count]? = some (item, state)) :
    rowsOf (items.take (count + 1)) = rowsOf (items.take count) ++ item.toOption.toList := by
  rw [List.take_add_one, next, rowsOf, List.filterMap_append]
  cases item <;> rfl

theorem drop_of_getElem? {item : Outcome LabeledRow × σ} (next : items[count]? = some item) :
    items.drop count = item :: items.drop (count + 1) := by
  obtain ⟨within, rfl⟩ := List.getElem?_eq_some_iff.mp next
  exact List.drop_eq_getElem_cons within

/-- What an advance of a cursor that holds its statement answers and leaves, by the next
item. -/
theorem next_of_held (rest : cursor.remaining = some (items.drop count))
    (phase : cursor.phase ≠ .exhausted) :
    cursor.next =
      match items[count]? with
      | none =>
          (.ok false,
            { cursor with
              remaining := none, state := cursor.finished, current := none
              phase := .exhausted })
      | some (.error failure, state) =>
          (.error failure,
            { cursor with remaining := some (items.drop (count + 1)), state := state })
      | some (.ok row, state) =>
          (.ok true,
            { cursor with
              remaining := some (items.drop (count + 1)), state := state
              current := some row, phase := .onRow }) := by
  unfold next
  rw [if_neg phase, rest]
  cases next : items[count]? with
  | none => rw [List.drop_eq_nil_of_le (List.getElem?_eq_none_iff.mp next)]
  | some item =>
      rw [drop_of_getElem? next]
      obtain ⟨outcome, state⟩ := item
      cases outcome <;> rfl

theorem phase_ne_of_held
    (phase : cursor.phase = if cursor.current.isSome then .onRow else .fresh) :
    cursor.phase ≠ .exhausted ∧ cursor.phase ≠ .closed := by
  rw [phase]
  split <;> exact ⟨nofun, nofun⟩

/-- An advance takes one item, unless the cursor is closed. -/
theorem Stands.advanced (stands : cursor.Stands items count) (opened : cursor.phase ≠ .closed) :
    cursor.next.2.Stands items (count + 1) ∧ cursor.next.2.phase ≠ .closed := by
  cases stands with
  | held inside rest shown phase =>
      rw [next_of_held rest (phase_ne_of_held phase).1]
      cases next : items[count]? with
      | none =>
          have whole := List.getElem?_eq_none_iff.mp next
          exact ⟨.exhausted (by omega) rfl rfl rfl, nofun⟩
      | some item =>
          obtain ⟨outcome, state⟩ := item
          obtain ⟨within, -⟩ := List.getElem?_eq_some_iff.mp next
          have rows := rowsOf_take_succ next
          cases outcome with
          | error failure =>
              refine ⟨.held within rfl ?_ phase, opened⟩
              rw [rows, shown]
              simp [Except.toOption]
          | ok row =>
              refine ⟨.held within rfl ?_ rfl, nofun⟩
              rw [rows]
              simp [Except.toOption]
  | exhausted beyond released free phase =>
      have same : cursor.next.2 = cursor := by simp [Cursor.next, phase]
      rw [same]
      exact ⟨.exhausted (by omega) released free phase, opened⟩
  | closed _ _ phase => exact absurd phase opened

/-! ### Runs of calls -/

theorem after_next (cursor : Cursor σ) (rest : List CursorCall) :
    cursor.after (.next :: rest) = cursor.next.2.after rest := rfl

theorem announced_next (cursor : Cursor σ) (rest : List CursorCall) :
    cursor.announced (.next :: rest) =
      match cursor.next with
      | (.ok true, behind) => behind.current :: behind.announced rest
      | (_, behind) => behind.announced rest := by
  cases stepped : cursor.next with
  | mk outcome behind =>
      have answered : cursor.answer .next = (.advanced outcome, behind) := by
        rw [answer, stepped]
      rw [announced, answered]
      rcases outcome with failure | flag
      · rfl
      · cases flag <;> rfl

/-- No call opens a cursor again. -/
theorem answer_close (cursor : Cursor σ) (call : CursorCall) :
    (cursor.close.answer call).2 = cursor.close := by
  cases call <;> rfl

theorem after_close (cursor : Cursor σ) (calls : List CursorCall) :
    cursor.close.after calls = cursor.close := by
  induction calls with
  | nil => rfl
  | cons call rest inductionHypothesis => rw [after, answer_close, inductionHypothesis]

theorem announced_close (cursor : Cursor σ) (calls : List CursorCall) :
    cursor.close.announced calls = [] := by
  induction calls with
  | nil => rfl
  | cons call rest inductionHypothesis =>
      have unannounced : cursor.close.announced (call :: rest) = cursor.close.announced rest := by
        cases call <;> rfl
      rw [unannounced, inductionHypothesis]

/-- The row of an item is announced when the item is taken. -/
theorem announced_next_of_held (rest : cursor.remaining = some (items.drop count))
    (phase : cursor.phase ≠ .exhausted) (further : List CursorCall) :
    cursor.announced (.next :: further) =
      (rowsOf ((items.drop count).take 1)).map some ++ cursor.next.2.announced further := by
  rw [announced_next, next_of_held rest phase]
  cases next : items[count]? with
  | none =>
      rw [List.drop_eq_nil_of_le (List.getElem?_eq_none_iff.mp next)]
      rfl
  | some item =>
      rw [drop_of_getElem? next]
      obtain ⟨outcome, state⟩ := item
      cases outcome <;> rfl

/-- Whole runs, by induction on the calls: a cursor that has not been closed goes on from
where it stands by as many items as it is advanced, and announces the rows among them. -/
theorem Stands.run (stands : cursor.Stands items count) (opened : cursor.phase ≠ .closed)
    (calls : List CursorCall) :
    (cursor.after calls).Stands items (count + CursorCall.advances calls) ∧
      ((cursor.after calls).phase = .closed ↔ CursorCall.closing calls = true) ∧
      cursor.announced calls =
        (rowsOf ((items.drop count).take (CursorCall.advances calls))).map some := by
  induction calls generalizing cursor count with
  | nil => exact ⟨stands, by simpa [CursorCall.closing, after] using opened, rfl⟩
  | cons call rest inductionHypothesis =>
      cases call with
      | next =>
          obtain ⟨behind, stillOpened⟩ := stands.advanced opened
          obtain ⟨last, closed, rows⟩ := inductionHypothesis behind stillOpened
          have taken : count + 1 + CursorCall.advances rest =
              count + CursorCall.advances (.next :: rest) := by
            rw [CursorCall.advances]
            omega
          refine ⟨taken ▸ last, closed, ?_⟩
          rw [CursorCall.advances, Nat.add_comm, List.take_add, rowsOf, List.filterMap_append,
            List.map_append]
          cases stands with
          | held inside held shown phase =>
              rw [announced_next_of_held held (phase_ne_of_held phase).1, rows, List.drop_drop]
              rfl
          | exhausted beyond _ _ phase =>
              have same : cursor.next = (.ok false, cursor) := by simp [Cursor.next, phase]
              rw [same] at rows
              rw [announced_next, same]
              dsimp only
              rw [rows, List.drop_eq_nil_of_le (by omega : items.length ≤ count),
                List.drop_eq_nil_of_le (by omega : items.length ≤ count + 1)]
              simp [rowsOf]
          | closed _ _ phase => exact absurd phase opened
      | close =>
          have closed : cursor.after (.close :: rest) = cursor.close := cursor.after_close rest
          rw [closed]
          refine ⟨.closed rfl rfl rfl, iff_of_true rfl rfl, ?_⟩
          exact cursor.announced_close rest
      | scan _ _ | columns | current | isClosed => exact inductionHypothesis stands opened

/-- Where a cursor stands that has been had calls from its beginning on. -/
theorem run_ofReply (reply : Reply σ) (calls : List CursorCall) :
    ((ofReply reply).after calls).Stands reply.rows (CursorCall.advances calls) ∧
      (((ofReply reply).after calls).phase = .closed ↔ CursorCall.closing calls = true) ∧
      (ofReply reply).announced calls =
        (rowsOf (reply.rows.take (CursorCall.advances calls))).map some := by
  have whole := (stands_ofReply reply).run nofun calls
  rwa [Nat.zero_add, List.drop_zero] at whole

/-! ### Answers -/

theorem scan_of_shown {row : LabeledRow} (shown : cursor.current = some row) (type : TargetType)
    (target : Target) : cursor.scan type target = type.bindAlone row target := by
  unfold TargetType.bindAlone
  cases valid : type.layout with
  | error failure => simp [scan, shown, Scanner.make, valid, Except.map]
  | ok layout => exact scan_of_row shown valid target

theorem scan_of_free (free : cursor.current = none) (type : TargetType) (target : Target) :
    cursor.scan type target = (target, .error cursor.unavailable) := by
  rw [scan, free]

theorem next_of_exhausted (phase : cursor.phase = .exhausted) :
    cursor.next = (.ok false, cursor) := by
  rw [next, if_pos phase]

theorem next_of_closed (phase : cursor.phase = .closed) (released : cursor.remaining = none) :
    cursor.next = (.error cursor.unavailable, cursor) := by
  rw [next, if_neg (by simp [phase]), released]

/-- At the end of the rows nothing but a closing changes a cursor. -/
theorem after_of_exhausted (phase : cursor.phase = .exhausted)
    (opened : CursorCall.closing calls = false) : cursor.after calls = cursor := by
  induction calls with
  | nil => rfl
  | cons call rest inductionHypothesis =>
      cases call with
      | next =>
          rw [after_next, next_of_exhausted phase]
          exact inductionHypothesis opened
      | close => cases opened
      | scan _ _ | columns | current | isClosed => exact inductionHypothesis opened

/-- An advance that answers `false` has seen the end of the rows. -/
theorem Stands.ended (stands : cursor.Stands items count) (answered : cursor.next.1 = .ok false) :
    cursor.next.2.phase = .exhausted ∧ cursor.next.2.current = none := by
  cases stands with
  | held inside rest shown phase =>
      rw [next_of_held rest (phase_ne_of_held phase).1] at answered ⊢
      split at answered
      · exact ⟨rfl, rfl⟩
      · cases answered
      · cases answered
  | exhausted beyond released free phase =>
      rw [next_of_exhausted phase]
      exact ⟨phase, free⟩
  | closed released free phase =>
      rw [next_of_closed phase released] at answered
      cases answered

/-! ### What a place tells -/

theorem Stands.released_iff (stands : cursor.Stands items count) :
    cursor.remaining = none ↔ cursor.phase = .exhausted ∨ cursor.phase = .closed := by
  cases stands with
  | held inside rest shown phase =>
      obtain ⟨unread, opened⟩ := phase_ne_of_held phase
      simp [rest, unread, opened]
  | exhausted _ released _ phase => simp [released, phase]
  | closed released _ phase => simp [released, phase]

theorem Stands.current_iff (stands : cursor.Stands items count) :
    cursor.current ≠ none ↔ cursor.phase = .onRow := by
  cases stands with
  | held inside rest shown phase =>
      rw [phase]
      cases cursor.current <;> simp
  | exhausted _ _ free phase => simp [free, phase]
  | closed _ free phase => simp [free, phase]

theorem Stands.exhausted_iff (stands : cursor.Stands items count) :
    cursor.phase = .exhausted ↔ cursor.phase ≠ .closed ∧ items.length < count := by
  cases stands with
  | held inside rest shown phase =>
      obtain ⟨unread, opened⟩ := phase_ne_of_held phase
      simp only [unread, false_iff, not_and]
      omega
  | exhausted beyond _ _ phase => simp [phase, beyond]
  | closed _ _ phase => simp [phase]

/-- An advance of a cursor that has its statement still goes by the next item. -/
theorem Stands.next_item (stands : cursor.Stands items count)
    (unreleased : cursor.remaining ≠ none) :
    cursor.remaining = some (items.drop count) ∧
      cursor.next.1 =
        match items[count]? with
        | none => .ok false
        | some (item, _) => item.map fun _ => true := by
  cases stands with
  | held inside rest shown phase =>
      refine ⟨rest, ?_⟩
      rw [next_of_held rest (phase_ne_of_held phase).1]
      rcases items[count]? with _ | ⟨failure | row, state⟩ <;> rfl
  | exhausted _ released _ _ => exact absurd released unreleased
  | closed released _ _ => exact absurd released unreleased

theorem Stands.unseen (stands : cursor.Stands items count) (phase : cursor.phase = .fresh) :
    rowsOf (items.take count) = [] := by
  cases stands with
  | held inside rest shown sorted =>
      rw [phase] at sorted
      cases free : cursor.current with
      | none => exact List.getLast?_eq_none_iff.mp (shown.symm.trans free)
      | some row =>
          rw [free] at sorted
          cases sorted
  | exhausted _ _ _ other =>
      rw [phase] at other
      cases other
  | closed _ _ other =>
      rw [phase] at other
      cases other

theorem Stands.shown_last (stands : cursor.Stands items count) {row : LabeledRow}
    (shown : cursor.current = some row) : (rowsOf (items.take count)).getLast? = some row := by
  cases stands with
  | held inside rest last phase => exact last.symm.trans shown
  | exhausted _ _ free _ =>
      rw [free] at shown
      cases shown
  | closed _ free _ =>
      rw [free] at shown
      cases shown

/-- Without a row to show, the phase is a reason to refuse. -/
theorem Stands.unavailable_ne (stands : cursor.Stands items count)
    (missing : cursor.current = none) :
    cursor.unavailable ≠ .ofCause (.cursor .noRow) := by
  have offRow : cursor.phase ≠ .onRow := fun onRow => stands.current_iff.mpr onRow missing
  unfold unavailable
  cases phase : cursor.phase with
  | onRow => exact absurd phase offRow
  | fresh | exhausted | closed => simp [Failure.ofCause]

/-- An advance that says that no row is available has it from the statement. -/
theorem Stands.next_noRow (stands : cursor.Stands items count)
    (answered : cursor.next.1 = refusal .noRow) :
    ∃ state, items[count]? = some (refusal .noRow, state) := by
  cases released : cursor.remaining with
  | some rest =>
      rw [(stands.next_item (by simp [released])).2] at answered
      rcases next : items[count]? with _ | ⟨failure | row, state⟩
      · rw [next] at answered
        cases answered
      · rw [next] at answered
        cases answered
        exact ⟨state, rfl⟩
      · rw [next] at answered
        cases answered
  | none =>
      rcases stands.released_iff.mp released with phase | phase
      · rw [next_of_exhausted phase] at answered
        cases answered
      · rw [next_of_closed phase released] at answered
        have missing : cursor.current = none := by
          by_contra shown
          rw [stands.current_iff.mp shown] at phase
          cases phase
        exact absurd (Except.error.inj answered) (stands.unavailable_ne missing)

/-- A scan that says so has it from the layout of the target type. -/
theorem Stands.scan_noRow (stands : cursor.Stands items count) {type : TargetType}
    {target : Target} (answered : (cursor.scan type target).2 = refusal .noRow) :
    type.layout = refusal .noRow := by
  cases shown : cursor.current with
  | none =>
      rw [scan_of_free shown] at answered
      exact absurd (Except.error.inj answered) (stands.unavailable_ne shown)
  | some row =>
      unfold scan at answered
      rw [shown] at answered
      cases valid : type.layout with
      | error failure =>
          simp only [Scanner.make, valid, Except.map] at answered
          exact congrArg Except.error (Except.error.inj answered)
      | ok layout =>
          simp only [Scanner.make, valid, Except.map] at answered
          have data := (Scanner.withLayout type layout).ofData_scanInto row target _ answered
          cases data

/-! ### Histories -/

/-- What holds of a cursor over the items of a statement after calls, in which the rows
`announced` have been announced. -/
structure Truthful (items : List (Outcome LabeledRow × σ)) (calls : List CursorCall)
    (announced : List (Option LabeledRow)) (cursor : Cursor σ) : Prop where
  /-- The statement is released once its rows are exhausted or the cursor is closed. -/
  released : cursor.remaining = none ↔ cursor.phase = .exhausted ∨ cursor.phase = .closed
  /-- A row is held on a row and nowhere else. -/
  held : cursor.current ≠ none ↔ cursor.phase = .onRow
  /-- The cursor is closed if it has been closed. -/
  closed : cursor.phase = .closed ↔ CursorCall.closing calls = true
  /-- The rows are exhausted if the cursor has been advanced beyond the last item. -/
  exhausted : cursor.phase = .exhausted ↔
    CursorCall.closing calls = false ∧ items.length < CursorCall.advances calls
  /-- Each advance in front of a closing has taken one item, and the rows among these
  have been announced, each once and in their order. -/
  delivered : announced = (rowsOf (items.take (CursorCall.advances calls))).map some
  /-- The next advance goes by the first item that has not been taken. -/
  advance : cursor.remaining ≠ none →
    cursor.remaining = some (items.drop (CursorCall.advances calls)) ∧
      cursor.next.1 =
        match items[CursorCall.advances calls]? with
        | none => .ok false
        | some (item, _) => item.map fun _ => true
  /-- Before any row a scan is refused. -/
  unstarted : cursor.phase = .fresh →
    announced = [] ∧ ∀ type target, cursor.scan type target = (target, refusal .notStarted)
  /-- On a row, that is the one announced last, and it is what is shown and bound. -/
  bound : cursor.phase = .onRow →
    ∃ row, announced.getLast? = some (some row) ∧ cursor.current = some row ∧
      cursor.columns? = some row.labels ∧
      ∀ type target, cursor.scan type target = type.bindAlone row target
  /-- Looking at a row and binding it does not advance the cursor. -/
  unmoved : ∀ call, call ≠ .next → call ≠ .close → (cursor.answer call).2 = cursor
  /-- Once an advance has answered `false`, all further ones do so and every scan is
  refused, up to a closing. -/
  ended : cursor.next.1 = .ok false → ∀ later, CursorCall.closing later = false →
    (cursor.next.2.after later).next.1 = .ok false ∧
      ∀ type target,
        (cursor.next.2.after later).scan type target = (target, refusal .exhausted)
  /-- After a closing every advance and every scan is refused. -/
  shut : ∀ later, (cursor.close.after later).next.1 = refusal .closed ∧
    ∀ type target, (cursor.close.after later).scan type target = (target, refusal .closed)
  /-- That no row is available is not said, unless the statement or the layout of a target
  type has failed in these words. -/
  unsaid : (cursor.next.1 = refusal .noRow →
      ∃ state, items[CursorCall.advances calls]? = some (refusal .noRow, state)) ∧
    ∀ type target, (cursor.scan type target).2 = refusal .noRow →
      type.layout = refusal .noRow

end Cursor

/-- After any calls, a cursor over any rows and failures has announced the rows it has
taken, holds what its phase says, and goes on as its phase says. -/
theorem cursor_tells_history (reply : Reply σ) (calls : List CursorCall) :
    Cursor.Truthful reply.rows calls ((Cursor.ofReply reply).announced calls)
      ((Cursor.ofReply reply).after calls) := by
  obtain ⟨stands, closed, rows⟩ := Cursor.run_ofReply reply calls
  generalize (Cursor.ofReply reply).after calls = cursor at stands closed ⊢
  have free {phase : CursorPhase} (here : cursor.phase = phase) (off : phase ≠ .onRow) :
      cursor.current = none := by
    by_contra shown
    exact off (here.symm.trans (stands.current_iff.mp shown))
  rw [rows]
  exact {
    released := stands.released_iff
    held := stands.current_iff
    closed := closed
    exhausted := by
      rw [stands.exhausted_iff, Ne, closed, Bool.not_eq_true]
    delivered := rfl
    advance := stands.next_item
    unstarted := by
      intro phase
      refine ⟨by rw [stands.unseen phase]; rfl, fun type target => ?_⟩
      rw [Cursor.scan_of_free (free phase nofun), Cursor.unavailable, phase]
      rfl
    bound := by
      intro phase
      obtain ⟨row, shown⟩ := Option.ne_none_iff_exists'.mp (stands.current_iff.mpr phase)
      refine ⟨row, ?_, shown, by rw [Cursor.columns?, shown]; rfl, Cursor.scan_of_shown shown⟩
      rw [List.getLast?_map, stands.shown_last shown]
      rfl
    unmoved := by
      intro call unadvanced opened
      cases call with
      | next => exact absurd rfl unadvanced
      | close => exact absurd rfl opened
      | scan _ _ | columns | current | isClosed => rfl
    ended := by
      intro answered later opened
      obtain ⟨phase, missing⟩ := stands.ended answered
      rw [Cursor.after_of_exhausted phase opened, Cursor.next_of_exhausted phase]
      refine ⟨rfl, fun type target => ?_⟩
      rw [Cursor.scan_of_free missing, Cursor.unavailable, phase]
      rfl
    shut := by
      intro later
      rw [Cursor.after_close]
      exact ⟨rfl, fun _ _ => rfl⟩
    unsaid := ⟨stands.next_noRow, fun _ _ => stands.scan_noRow⟩ }

/-! ### Failed advances -/

namespace Cursor

variable {items : List (Outcome LabeledRow × σ)} {count : Nat} {cursor : Cursor σ}

/-- A cursor of which no row can be had. -/
structure ShowsNothing (cursor : Cursor σ) : Prop where
  current : cursor.current = none
  columns : cursor.columns? = none
  scan : ∀ type target, ∃ failure, (cursor.scan type target).2 = .error failure

theorem showsNothing_iff : cursor.ShowsNothing ↔ cursor.current = none := by
  constructor
  · exact ShowsNothing.current
  · intro free
    refine ⟨free, by rw [columns?, free]; rfl, fun type target => ⟨cursor.unavailable, ?_⟩⟩
    rw [scan_of_free free]

theorem after_append (cursor : Cursor σ) (earlier later : List CursorCall) :
    cursor.after (earlier ++ later) = (cursor.after earlier).after later := by
  induction earlier generalizing cursor with
  | nil => rfl
  | cons call rest inductionHypothesis => exact inductionHypothesis _

theorem announced_append (cursor : Cursor σ) (earlier later : List CursorCall) :
    cursor.announced (earlier ++ later) =
      cursor.announced earlier ++ (cursor.after earlier).announced later := by
  induction earlier generalizing cursor with
  | nil => rfl
  | cons call rest inductionHypothesis =>
      rw [List.cons_append, after, announced, announced]
      split
      · rename_i behind answered
        rw [answered, inductionHypothesis]
        rfl
      · rename_i behind _ answered
        rw [answered, inductionHypothesis]

/-- A cursor that is neither behind its rows nor closed shows the last row it has taken. -/
theorem Stands.current_eq (stands : cursor.Stands items count)
    (unread : cursor.phase ≠ .exhausted) (opened : cursor.phase ≠ .closed) :
    cursor.current = (rowsOf (items.take count)).getLast? := by
  cases stands with
  | held _ _ shown _ => exact shown
  | exhausted _ _ _ phase => exact absurd phase unread
  | closed _ _ phase => exact absurd phase opened

theorem announced_of_failed {failure : Failure} (failed : cursor.next.1 = .error failure)
    (later : List CursorCall) :
    cursor.announced (.next :: later) = cursor.next.2.announced later := by
  rw [announced_next]
  cases stepped : cursor.next with
  | mk outcome behind =>
      rw [stepped] at failed
      obtain rfl : outcome = .error failure := failed
      rfl

end Cursor

theorem CursorCall.closing_append (earlier later : List CursorCall) :
    closing (earlier ++ later) = (closing earlier || closing later) := by
  induction earlier with
  | nil => rfl
  | cons call rest inductionHypothesis =>
      cases call with
      | close => rfl
      | _ => exact inductionHypothesis

/-- After an advance that has failed, and for as long as no advance answers `true`, a
cursor shows nothing only if no row had been announced before, or if it has since come to
the end of the rows or been closed.  Any row that it shows is the one announced last
before the failure, and it is bound once more as it was then. -/
theorem failed_advance_keeps_row (reply : Reply σ) (earlier later : List CursorCall)
    {failure : Failure}
    (failed : ((Cursor.ofReply reply).after earlier).next.1 = .error failure)
    (unannounced : ((Cursor.ofReply reply).after earlier).next.2.announced later = []) :
    let announced := (Cursor.ofReply reply).announced earlier
    let before := (Cursor.ofReply reply).after earlier
    let cursor := before.next.2.after later
    (cursor.ShowsNothing ↔
      announced = [] ∨ cursor.phase = .exhausted ∨ cursor.phase = .closed) ∧
    ∀ row, cursor.current = some row →
      announced.getLast? = some (some row) ∧ before.current = some row ∧
        ∀ type target, cursor.scan type target = before.scan type target := by
  intro announced before cursor
  have reached : (Cursor.ofReply reply).after (earlier ++ .next :: later) = cursor :=
    Cursor.after_append _ earlier _
  have same : (Cursor.ofReply reply).announced (earlier ++ .next :: later) = announced := by
    rw [Cursor.announced_append, Cursor.announced_of_failed failed, unannounced,
      List.append_nil]
  obtain ⟨stands, closed, rows⟩ := Cursor.run_ofReply reply (earlier ++ .next :: later)
  obtain ⟨stood, closedBefore, rowsBefore⟩ := Cursor.run_ofReply reply earlier
  rw [reached] at stands closed
  rw [same] at rows
  have unread : before.phase ≠ .exhausted := by
    intro phase
    rw [Cursor.next_of_exhausted phase] at failed
    cases failed
  constructor
  · rw [Cursor.showsNothing_iff]
    constructor
    · intro free
      by_contra others
      obtain ⟨rowed, reading, opened⟩ :
          announced ≠ [] ∧ cursor.phase ≠ .exhausted ∧ cursor.phase ≠ .closed := by
        simpa only [not_or] using others
      rw [stands.current_eq reading opened, List.getLast?_eq_none_iff] at free
      rw [rows, free] at rowed
      exact rowed rfl
    · rintro (rowless | off)
      · rw [rows, List.map_eq_nil_iff] at rowless
        by_contra shown
        obtain ⟨row, shown⟩ := Option.ne_none_iff_exists'.mp shown
        have last := stands.shown_last shown
        rw [rowless] at last
        cases last
      · by_contra shown
        rw [stands.current_iff.mp shown] at off
        rcases off with phase | phase <;> cases phase
  · intro row shown
    have last := stands.shown_last shown
    have opened : before.phase ≠ .closed := by
      intro phase
      have closing : CursorCall.closing (earlier ++ .next :: later) = true := by
        rw [CursorCall.closing_append, closedBefore.mp phase, Bool.true_or]
      have held := stands.current_iff.mp (by rw [shown]; nofun)
      rw [closed.mpr closing] at held
      cases held
    have lastBefore : before.current = some row := by
      have taken := List.map_injective_iff.mpr (Option.some_injective _)
        (rowsBefore.symm.trans rows)
      rw [stood.current_eq unread opened, taken, last]
    refine ⟨?_, lastBefore, fun type target => ?_⟩
    · rw [rows, List.getLast?_map, last]
      rfl
    · rw [Cursor.scan_of_shown shown, Cursor.scan_of_shown lastBefore]

/-- The second of three items is a failure and the third one too: the first row is still
bound after both. -/
theorem failed_advance_keeps_row_twice_failed :
    let row : LabeledRow := ⟨["name"], [.ofText "Ada"]⟩
    let reply : Reply Unit :=
      ⟨(), [(.ok (.row row), ()), (.error (.ofText "lost"), ()),
        (.error (.ofText "lost again"), ())], ()⟩
    let before := (Cursor.ofReply reply).after [.next]
    let cursor := before.next.2.after [.current, .next, .columns]
    before.next.1 = .error (.ofText "lost") ∧
      before.next.2.announced [.current, .next, .columns] = [] ∧
      ¬ cursor.ShowsNothing ∧
      cursor.scan Conformance.users Conformance.users.blank =
        before.scan Conformance.users Conformance.users.blank := by
  intro row reply before cursor
  have failed : before.next.1 = .error (.ofText "lost") := rfl
  have unannounced : before.next.2.announced [.current, .next, .columns] = [] := rfl
  obtain ⟨nothing, again⟩ := failed_advance_keeps_row reply [.next]
    [.current, .next, .columns] failed unannounced
  refine ⟨failed, unannounced, ?_, (again row rfl).2.2 _ _⟩
  rw [nothing]
  rintro (rowless | phase | phase)
  · cases rowless
  · cases phase
  · cases phase

/-- After an advance that has failed the row before it is shown, and it can be bound a
second time. -/
theorem failed_advance_shows_row_again :
    let row : LabeledRow := ⟨["name"], [.ofText "Ada"]⟩
    let reply : Reply Unit :=
      ⟨(), [(.ok (.row row), ()), (.error (.ofText "lost"), ())], ()⟩
    let before := (Cursor.ofReply reply).after [.next]
    let cursor := before.next.2
    before.next.1 = .error (.ofText "lost") ∧
      cursor.current = some row ∧ cursor.columns? = some ["name"] ∧
      (cursor.scan Conformance.users Conformance.users.blank).2 = .ok () ∧
      ¬ cursor.ShowsNothing := by
  intro row reply before cursor
  refine ⟨rfl, rfl, rfl, by decide +kernel, fun nothing => ?_⟩
  cases nothing.current

end RecordMapping
