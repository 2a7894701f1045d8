/-
Module: RecordMapping.Proofs.ReportedKeys
Purpose: Of the keys that a statement inserts, the last one is reported only if it is
  another one than the last key inserted before on the connection.
Main exports: Machine.TracksKeys, Machine.Reached, machine_tracksKeys,
  key_reported_where_other
-/
import Mathlib
import RecordMapping.Proofs.ChangeCounts
import RecordMapping.Proofs.WriteBack

namespace RecordMapping.Sqlite

/-!
An engine keeps the key of the row inserted last, and nothing tells whether a
statement has set it: it is compared before and after.  So a statement that inserts
the same key as the last one before it, in another table or after a deletion, reports
no key.  What is reported follows from all keys inserted on the connection.
-/

namespace Machine

variable {σ π : Type}

/-- What an engine promises of the last key, where `inserted` has the keys of the rows
that a statement inserts, in order; they are inserted before it gives its first row. -/
structure TracksKeys (machine : Machine σ π) (inserted : π → List Datum → σ → List Int) :
    Prop where
  moved : ∀ statement data state,
    machine.lastKey (machine.execute statement data state).last =
      (inserted statement data state).getLastD (machine.lastKey state)
  shown : ∀ statement data state, ∀ entry ∈ (machine.execute statement data state).rows,
    machine.lastKey entry.2 =
      (inserted statement data state).getLastD (machine.lastKey state)

/-- The states of a connection, with the keys inserted on it so far: it begins without
any, and a statement may be stepped to its end or left behind one of its rows. -/
inductive Reached (machine : Machine σ π) (inserted : π → List Datum → σ → List Int) :
    σ → List Int → Prop
  | opened {state : σ} (fresh : machine.lastKey state = 0) : Reached machine inserted state []
  | executed {state : σ} {keys : List Int} (statement : π) (data : List Datum)
      (reached : Reached machine inserted state keys) :
      Reached machine inserted (machine.execute statement data state).last
        (keys ++ inserted statement data state)
  | left {state : σ} {keys : List Int} {entry : List Datum × σ} (statement : π)
      (data : List Datum) (reached : Reached machine inserted state keys)
      (member : entry ∈ (machine.execute statement data state).rows) :
      Reached machine inserted entry.2 (keys ++ inserted statement data state)

end Machine

/-- The keys of the rows that a statement has inserted. -/
def Visit.inserted {σ π : Type} (visit : Visit σ π)
    (inserted : π → List Datum → σ → List Int) : List Int :=
  inserted visit.statement visit.data visit.before

/-- The last of some keys, if it is another one than a key before them. -/
def otherKey (before : Int) (keys : List Int) : Option Int :=
  keys.getLast?.filter (· ≠ before)

theorem getLastD_append {α : Type} (front back : List α) (default : α) :
    (front ++ back).getLastD default = back.getLastD (front.getLastD default) := by
  simp only [List.getLastD_eq_getLast?, List.getLast?_append]
  cases back.getLast? <;> rfl

/-- What the comparison of two keys reports, if the later one is the last of some. -/
theorem otherKey_eq (before : Int) (keys : List Int) :
    (if keys.getLastD before = before then none else some (keys.getLastD before)) =
      otherKey before keys := by
  rw [otherKey, List.getLastD_eq_getLast?]
  cases keys.getLast? with
  | none => simp
  | some key => by_cases same : key = before <;> simp [same, Option.filter]

namespace Machine

variable {σ π : Type} {machine : Machine σ π} {inserted : π → List Datum → σ → List Int}
  {text : List Char} {place there : Nat} {state after : σ} {visits : List (Visit σ π)}
  {keys : List Int}

/-- The key that an engine keeps is the last one inserted on the connection. -/
theorem TracksKeys.lastKey_of_reached (tracks : machine.TracksKeys inserted)
    (reached : machine.Reached inserted state keys) :
    machine.lastKey state = keys.getLastD 0 := by
  induction reached with
  | opened fresh => exact fresh
  | executed statement data _ inductionHypothesis =>
      rw [tracks.moved, inductionHypothesis, getLastD_append]
  | left statement data _ member inductionHypothesis =>
      rw [tracks.shown _ _ _ _ member, inductionHypothesis, getLastD_append]

/-- The statements of a run add their keys to those inserted before. -/
theorem Reached.through (reached : machine.Reached inserted state keys)
    (visited : machine.Visits text place state visits there after) :
    machine.Reached inserted after (keys ++ visits.flatMap (·.inserted inserted)) := by
  induction visited generalizing keys with
  | refl place state => simpa using reached
  | blank _ _ _ inductionHypothesis => exact inductionHypothesis reached
  | @statement place there after taken visit visits _ _ _ _ inductionHypothesis =>
      have behind := inductionHypothesis (reached.executed visit.statement visit.data)
      simpa [Visit.inserted] using behind

/-- The states behind the rows of a statement. -/
theorem Reached.rowItems (reached : machine.Reached inserted state keys) (statement : π)
    (data : List Datum) {item : Outcome Response × σ}
    (member : item ∈ machine.rowItems statement (machine.execute statement data state)) :
    machine.Reached inserted item.2 (keys ++ inserted statement data state) := by
  obtain ⟨entry, present, rfl⟩ := List.mem_map.mp member
  exact reached.left statement data present

/-- The states behind the items of a statement. -/
theorem Reached.items {visit : Visit σ π}
    (reached : machine.Reached inserted visit.before keys) {item : Outcome Response × σ}
    (member : item ∈ visit.items machine) :
    machine.Reached inserted item.2 (keys ++ visit.inserted inserted) := by
  rcases List.mem_append.mp member with shown | changed
  · exact reached.rowItems visit.statement visit.data shown
  · unfold changeItems at changed
    split at changed
    · cases changed
    · obtain rfl := List.mem_singleton.mp changed
      exact reached.executed visit.statement visit.data

/-- The states behind the last items of a run, and the one at its end. -/
theorem Reached.ends {parameters : List Value} {items : List (Outcome Response × σ)}
    {closed : σ} (reached : machine.Reached inserted state keys)
    (ends : machine.Ends text place state parameters items closed) :
    (∀ item ∈ items, ∃ more, machine.Reached inserted item.2 (keys ++ more)) ∧
      ∃ more, machine.Reached inserted closed (keys ++ more) := by
  have still : ∃ more, machine.Reached inserted state (keys ++ more) := ⟨[], by simpa⟩
  cases ends with
  | finished => exact ⟨by simp, still⟩
  | unused | refused | unbound => exact ⟨by simpa using still, still⟩
  | @broken parameters rest statement taken data failure _ _ _ _ =>
      have last := reached.executed statement data
      refine ⟨fun item member => ?_, _, last⟩
      rcases List.mem_append.mp member with shown | failed
      · exact ⟨_, reached.rowItems statement data shown⟩
      · obtain rfl := List.mem_singleton.mp failed
        exact ⟨_, last⟩

/-- Wherever the reader of a script leaves it, the connection is in a state that single
statements reach. -/
theorem Reached.run (reached : machine.Reached inserted state keys) (statement : Statement) :
    (∀ item ∈ (machine.run statement state).items,
        ∃ more, machine.Reached inserted item.2 (keys ++ more)) ∧
      ∃ more, machine.Reached inserted (machine.run statement state).closed (keys ++ more) := by
  rcases machine.run_cases statement state with
    ⟨position, reply⟩ | ⟨visits, there, after, rest, items, closed, visited, _, ends, reply⟩
  · have still : ∃ more, machine.Reached inserted state (keys ++ more) := ⟨[], by simpa⟩
    rw [reply]
    exact ⟨by simpa using still, still⟩
  · rw [reply]
    have behind : ∀ {state : σ} {more : List Int},
        machine.Reached inserted state (keys ++ visits.flatMap (·.inserted inserted) ++ more) →
        ∃ more, machine.Reached inserted state (keys ++ more) :=
      fun found => ⟨_, by simpa using found⟩
    obtain ⟨lastItems, ⟨_, last⟩⟩ := (reached.through visited).ends ends
    refine ⟨fun item member => ?_, behind last⟩
    rcases List.mem_append.mp member with early | late
    · obtain ⟨visit, present, shown⟩ := List.mem_flatMap.mp early
      obtain ⟨front, back, split⟩ := List.append_of_mem present
      obtain ⟨_, between, earlier⟩ := visited.before split
      have found := (reached.through earlier).items shown
      exact ⟨_, by simpa using found⟩
    · obtain ⟨_, found⟩ := lastItems item late
      exact behind found

/-- What a statement reports of its keys. -/
theorem TracksKeys.lastId_of_visit (tracks : machine.TracksKeys inserted) (visit : Visit σ π)
    (reached : machine.Reached inserted visit.before keys) :
    (machine.changesBetween visit.before (visit.after machine)).lastId =
      otherKey (keys.getLastD 0) (visit.inserted inserted) := by
  have before := tracks.lastKey_of_reached reached
  have moved : machine.lastKey (visit.after machine) =
      (visit.inserted inserted).getLastD (keys.getLastD 0) := by
    rw [← before]
    exact tracks.moved visit.statement visit.data visit.before
  simp only [changesBetween, moved, before]
  exact otherKey_eq _ _

/-! ### Scripts of one statement -/

/-- A script is run as one statement that can write and takes all parameters. -/
structure RunsAlone (machine : Machine σ π) (script : Statement) (state : σ)
    (visit : Visit σ π) (after : σ) : Prop where
  clear : nulPosition? script.sql = none
  visited : machine.Visits script.sql.toList 0 state [visit] script.sql.toList.length after
  dealt : script.parameters = visit.share
  writes : machine.isReadOnly visit.statement = false

theorem items_of_writes {visit : Visit σ π}
    (writes : machine.isReadOnly visit.statement = false) :
    visit.items machine = machine.rowItems visit.statement (visit.execution machine) ++
      [(.ok (.affected (machine.changesBetween visit.before (visit.after machine))),
        visit.after machine)] := by
  simp [Visit.items, changeItems, writes]

/-- What a script of one statement reports in all. -/
theorem RunsAlone.changes {script : Statement} {visit : Visit σ π}
    (runs : machine.RunsAlone script state visit after) :
    ∃ total, (machine.run script state).changes = (.ok total, after) ∧
      total.lastId = (machine.changesBetween visit.before (visit.after machine)).lastId := by
  have reply := run_of_visits runs.clear runs.visited (by simpa using runs.dealt)
    (.finished le_rfl)
  have items : (machine.run script state).items =
      machine.rowItems visit.statement (visit.execution machine) ++
        [(.ok (.affected (machine.changesBetween visit.before (visit.after machine))),
          visit.after machine)] := by
    simp [reply, items_of_writes runs.writes]
  have faultless : Faultless (machine.run script state).items := by
    rw [items]
    intro item member
    rcases List.mem_append.mp member with shown | changed
    · obtain ⟨entry, _, rfl⟩ := List.mem_map.mp shown
      exact ⟨_, rfl⟩
    · obtain rfl := List.mem_singleton.mp changed
      exact ⟨_, rfl⟩
  have rowsSilent : reportedIds (machine.rowItems visit.statement (visit.execution machine)) =
      [] := by
    simp [reportedIds, rowItems, reportedBy]
  obtain ⟨total, summed, _⟩ := Reply.changes_of_faultless faultless
  have last := Reply.lastId_of_sumChanges summed
  refine ⟨total, by simpa [reply] using summed, ?_⟩
  have split : reportedIds (machine.run script state).items =
      (machine.changesBetween visit.before (visit.after machine)).lastId.toList := by
    rw [items, reportedIds, List.filterMap_append]
    rw [reportedIds] at rowsSilent
    rw [rowsSilent]
    cases reports : (machine.changesBetween visit.before (visit.after machine)).lastId <;>
      simp [reportedBy, reports]
  rw [last, split]
  cases (machine.changesBetween visit.before (visit.after machine)).lastId <;> rfl

end Machine

/-! ### Keys on the machine of SQLite -/

/-- The keys of the rows that a statement inserts: that of the new row of an insert,
unless this fails. -/
def Plan.insertedKeys (plan : Plan) (parameters : List Datum) : List Int :=
  match plan with
  | .insert target columns operands _ =>
      match newRow target columns
        (operands.map (Operand.datum parameters ⟨IntType.int64.zero, []⟩)) with
      | .error _ => []
      | .ok row =>
          match target.insertRow row with
          | .error _ => []
          | .ok _ => [row.key.val]
  | _ => []

/-- The keys of the rows that a compiled statement inserts. -/
def insertedKeys (compiled : Compiled) (data : List Datum) (_ : Session) : List Int :=
  compiled.plan.insertedKeys data

/-- A statement that runs makes the key of the row that it inserts the last one, and
keeps the last key if it inserts none. -/
theorem lastKey_of_run {plan : Plan} {data : List Datum} {session after : Session}
    {rows : List (List Datum)} (ran : plan.run data session = .ok (rows, after)) :
    after.lastKey = (plan.insertedKeys data).getLastD session.lastKey := by
  cases plan with
  | select _ _ _ _ | delete _ _ | create _ | drop _ => cases ran; rfl
  | insert target columns operands outputs =>
      obtain ⟨row, created, ran⟩ := ok_of_bind ran
      obtain ⟨relation, placed, ran⟩ := ok_of_bind ran
      cases ran
      simp [Plan.insertedKeys, created, placed]
  | update target assignments conditions =>
      obtain ⟨relation, _, ran⟩ := ok_of_bind ran
      cases ran
      rfl
  | begin | commit | rollback =>
      rw [Plan.run] at ran
      split at ran <;> cases ran
      rfl

/-- A statement that fails inserts no row. -/
theorem insertedKeys_of_error {plan : Plan} {data : List Datum} {session : Session}
    {fault : Fault} (failed : plan.run data session = .error fault) :
    plan.insertedKeys data = [] := by
  cases plan with
  | insert target columns operands outputs =>
      simp only [Plan.run, bind, Except.bind] at failed
      simp only [Plan.insertedKeys]
      cases created : Plan.newRow target columns
          (operands.map (Operand.datum data ⟨IntType.int64.zero, []⟩)) with
      | error other => rfl
      | ok row =>
          cases placed : target.insertRow row with
          | error other => simp [placed]
          | ok relation => simp [created, placed, pure, Except.pure] at failed
  | _ => rfl

theorem machine_tracksKeys : machine.TracksKeys insertedKeys := by
  constructor
  · intro compiled data session
    change (execute compiled data session).last.lastKey =
      (compiled.plan.insertedKeys data).getLastD session.lastKey
    unfold execute
    cases ran : compiled.plan.run data session with
    | error fault => simp [insertedKeys_of_error ran]
    | ok result => exact lastKey_of_run ran
  · intro compiled data session entry member
    change entry.2.lastKey = (compiled.plan.insertedKeys data).getLastD session.lastKey
    change entry ∈ (execute compiled data session).rows at member
    unfold execute at member
    cases ran : compiled.plan.run data session with
    | error fault => simp [ran] at member
    | ok result =>
        rw [ran] at member
        obtain ⟨row, _, rfl⟩ := List.mem_map.mp member
        exact lastKey_of_run ran

/-! ### The next statement on the machine of SQLite -/

section Places

variable {text : List Char} {place : Nat} {session : Session}

/-- Behind its last statement, the machine comes to the end of a script. -/
theorem visits_to_end (inside : place ≤ text.length) (nothing : statementsAt text place = []) :
    machine.Visits text place session [] text.length session := by
  induction place using place_induction text with
  | ended place outside =>
      obtain rfl := Nat.le_antisymm inside (Nat.le_of_not_lt outside)
      exact .refl _ _
  | blank place taken before same compiles inductionHypothesis =>
      exact .blank before (compiles session)
        (inductionHypothesis (Machine.placeBehind_le before taken) (same ▸ nothing))
  | statement place taken tokens before same _ _ => simp [same] at nothing

/-- The machine comes to the only statement of a script and runs it. -/
theorem visits_of_single {after : Session} {tokens : List Token} {compiled : Compiled}
    {share : List Value} {data : List Datum} {rows : List (List Datum)}
    (split : statementsAt text place = [tokens])
    (read : compileTokens tokens session = .ok compiled)
    (counted : share.length = compiled.parameterCount) (binds : Binds machine.hold share data)
    (ran : compiled.plan.run data session = .ok (rows, after)) :
    machine.Visits text place session [⟨compiled, share, data, session⟩] text.length after := by
  let visit : Visit Session Compiled := ⟨compiled, share, data, session⟩
  have finished : visit.execution machine = ⟨rows.map fun row => (row, after), none, after⟩ := by
    simp [visit, Visit.execution, machine, execute, ran]
  have completes : visit.Completes machine := ⟨counted, binds, by rw [finished]⟩
  induction place using place_induction text with
  | ended place outside => simp [statementsAt_end outside] at split
  | blank place taken inside same compiles inductionHypothesis =>
      exact .blank inside (compiles session) (inductionHypothesis (same ▸ split))
  | statement place taken first inside same compiles _ =>
      obtain ⟨rfl, behind⟩ := List.cons.inj (same.symm.trans split)
      have answer := compiles session
      rw [read] at answer
      have rest : machine.Visits text (Machine.placeBehind text.length place taken)
          (visit.after machine) [] text.length after := by
        rw [Visit.after, finished]
        exact visits_to_end (Machine.placeBehind_le inside taken) behind
      change machine.Visits text place visit.before [visit] text.length after
      exact .statement inside answer completes rest

end Places

/-- What has been planned for the only identifying column of an insert, if it is left out
and the driver reports a number for it. -/
theorem planned_lastIdField {σ : Type} {provider : Provider σ} {table : Table}
    {record : Record} {metadata : RecordMeta} {values : List Value} {plan : InsertPlan}
    (planned : provider.planInsert table record = .ok (metadata, plan))
    (valued : record.values = .ok values)
    (method : provider.dialect.insertMethod = .lastInsertId) {id : String}
    (only : table.ids = [id]) {index : Nat} {field : FieldDef × Value}
    (placed : (metadata.fields.zip values)[index]? = some field)
    (same : Text.sameColumn field.1.column id = true) (leavesOut : table.LeavesOut field) :
    plan.returning = [] ∧ plan.lastIdField = some index := by
  unfold Provider.planInsert at planned
  obtain ⟨_, _, planned⟩ := ok_of_bind planned
  obtain ⟨found, _, planned⟩ := ok_of_bind planned
  obtain ⟨others, known, planned⟩ := ok_of_bind planned
  cases valued.symm.trans known
  obtain ⟨other, written, planned⟩ := ok_of_bind planned
  cases planned
  obtain ⟨_, width, plans⟩ := Dialect.insert_eq_ok_iff.mp written
  have covers := plans.covers width
  obtain ⟨unasked, reported⟩ := covers.reported method id only
  exact ⟨unasked, (reported index).mpr ⟨field, placed, same,
    (covers.omitted field (List.mem_of_getElem? placed)).mpr leavesOut⟩⟩

/-- On a connection on which some keys have been inserted, a statement of a script that
can write reports the last of the keys that it inserts if this is another one than the
last key inserted before it, or than zero if there is none; otherwise it reports no key.
An insert whose driver reports a number, of a record whose only identifier is left out,
stores this key, and without one it leaves the record as it is. -/
theorem key_reported_where_other {σ π : Type} {machine : Machine σ π}
    {inserted : π → List Datum → σ → List Int} (tracks : machine.TracksKeys inserted)
    {state : σ} {keys : List Int} (reached : machine.Reached inserted state keys) :
    (∀ text place visits there after, machine.Visits text place state visits there after →
      ∀ front visit back, visits = front ++ visit :: back →
        machine.isReadOnly visit.statement = false → ∃ changes,
          visit.items machine =
            machine.rowItems visit.statement (visit.execution machine) ++
              [(.ok (.affected changes), visit.after machine)] ∧
          changes.lastId =
            otherKey ((keys ++ front.flatMap (·.inserted inserted)).getLastD 0)
              (visit.inserted inserted)) ∧
    ∀ dialect table record metadata values plan,
      dialect.insertMethod = .lastInsertId →
      (⟨dialect, machine.executor⟩ : Provider σ).planInsert table record =
        .ok (metadata, plan) →
      record.values = .ok values →
      ∀ id index field, table.ids = [id] →
        (metadata.fields.zip values)[index]? = some field →
        Text.sameColumn field.1.column id = true → table.LeavesOut field →
        ∀ visit after, machine.RunsAlone plan.statement state visit after →
          (otherKey (keys.getLastD 0) (visit.inserted inserted) = none →
            (⟨dialect, machine.executor⟩ : Provider σ).insert table record state =
              (.ok (), record, after)) ∧
          ∀ key, otherKey (keys.getLastD 0) (visit.inserted inserted) = some key →
            ∃ outcome left,
              (⟨dialect, machine.executor⟩ : Provider σ).insert table record state =
                (outcome, left, after) ∧
              record.NumberStored index key left outcome := by
  constructor
  · intro text place visits there after visited front visit back split writes
    obtain ⟨_, between, earlier⟩ := visited.before split
    exact ⟨_, Machine.items_of_writes writes,
      tracks.lastId_of_visit visit (reached.through earlier)⟩
  · intro dialect table record metadata values plan method planned valued id index field only
      placed same leavesOut visit after runs
    obtain ⟨unasked, held⟩ :=
      planned_lastIdField planned valued method only placed same leavesOut
    obtain ⟨total, summed, last⟩ := runs.changes
    obtain ⟨_, between, earlier⟩ := runs.visited.before (List.nil_append [visit]).symm
    have reports : total.lastId = otherKey (keys.getLastD 0) (visit.inserted inserted) := by
      rw [last]
      exact tracks.lastId_of_visit visit (by simpa using reached.through earlier)
    have stores : (⟨dialect, machine.executor⟩ : Provider σ).insert table record state =
        ((Provider.storeReported plan total record).1,
          (Provider.storeReported plan total record).2, after) := by
      have read : (machine.executor.run plan.statement state).changes = (.ok total, after) :=
        summed
      simp [Provider.insert, planned, unasked, read]
    constructor
    · intro none
      rw [stores, storeReported_of_none (.inr (reports.trans none))]
    · intro key some
      exact ⟨_, _, stores, numberStored_storeReported held (reports.trans some)⟩

/-- A row is inserted, deleted and inserted again.  The second row has the key of the
first one, and no key is reported for it. -/
theorem key_inserted_again_unreported :
    let past : Statement :=
      ⟨"CREATE TABLE t (id INTEGER PRIMARY KEY, n); INSERT INTO t (n) VALUES (?); DELETE FROM t",
        [.varchar (some "a")]⟩
    let again : Statement := ⟨"INSERT INTO t (n) VALUES (?)", [.varchar (some "a")]⟩
    let emptied : Session := ⟨⟨[⟨"t", "id", ["n"], []⟩]⟩, none, 1, 2⟩
    let after : Session :=
      ⟨⟨[⟨"t", "id", ["n"], [⟨⟨1, by decide⟩, [.text "a"]⟩]⟩]⟩, none, 1, 3⟩
    (∃ keys, machine.Reached insertedKeys emptied keys) ∧
      (machine.run past .fresh).closed = emptied ∧
      machine.run again emptied = ⟨emptied, [(.ok (.affected ⟨1, none⟩), after)], after⟩ := by
  intro past again emptied after
  have pastClear : nulPosition? past.sql = none := by cbv
  have againClear : nulPosition? again.sql = none := by cbv
  have pastTokens : Token.statements past.sql =
      [[.word "CREATE", .word "TABLE", .word "t", .mark '(', .word "id", .word "INTEGER",
          .word "PRIMARY", .word "KEY", .mark ',', .word "n", .mark ')', .stop],
        [.word "INSERT", .word "INTO", .word "t", .mark '(', .word "n", .mark ')',
          .word "VALUES", .mark '(', .parameter, .mark ')', .stop],
        [.word "DELETE", .word "FROM", .word "t"]] := by cbv
  have againTokens : Token.statements again.sql =
      [[.word "INSERT", .word "INTO", .word "t", .mark '(', .word "n", .mark ')',
        .word "VALUES", .mark '(', .parameter, .mark ')']] := by cbv
  have ran : (machine.run past .fresh).closed = emptied := by
    change (run past .fresh).closed = emptied
    simp only [run_eq_itemsAndEnd, itemsAndEnd, pastClear, pastTokens]
    decide
  refine ⟨?_, ran, ?_⟩
  · obtain ⟨keys, reached⟩ :=
      ((Machine.Reached.opened rfl : machine.Reached insertedKeys .fresh []).run past).2
    exact ⟨_, ran ▸ reached⟩
  · change run again emptied = _
    simp only [run_eq_itemsAndEnd, itemsAndEnd, againClear, againTokens]
    rfl

/-- The first row of either of two tables has the key one.  So the second of two inserts
reports no key, and the record keeps the zero that it had. -/
theorem key_of_other_table_unreported :
    let dialect : Dialect := { Dialect.sqlite with insertMethod := .lastInsertId }
    let note : Record := Conformance.filled
      ⟨"Note", [Conformance.plain "id" (.integer .int64), Conformance.plain "n" .text], [], 32⟩
      [("n", .ofText "a")]
    let row : Row := ⟨⟨1, by decide⟩, [.text "a"]⟩
    let between : Session :=
      ⟨⟨[⟨"s", "id", ["n"], [row]⟩, ⟨"t", "id", ["n"], []⟩]⟩, none, 1, 1⟩
    let after : Session :=
      ⟨⟨[⟨"t", "id", ["n"], [row]⟩, ⟨"s", "id", ["n"], [row]⟩]⟩, none, 1, 2⟩
    machine.Reached insertedKeys between [1] ∧
      (⟨dialect, machine.executor⟩ : Provider Session).insert (.named "t") note between =
        (.ok (), note, after) := by
  intro dialect note row between after
  let opened : Session :=
    ⟨⟨[⟨"s", "id", ["n"], []⟩, ⟨"t", "id", ["n"], []⟩]⟩, none, 0, 0⟩
  let fills (table : String) : Compiled :=
    ⟨.insert ⟨table, "id", ["n"], []⟩ [1] [.parameter 0] [], 1⟩
  have firstTokens : statementsAt "INSERT INTO s (n) VALUES (?)".toList 0 =
      [[.word "INSERT", .word "INTO", .word "s", .mark '(', .word "n", .mark ')',
        .word "VALUES", .mark '(', .parameter, .mark ')']] := by cbv
  have secondTokens : statementsAt "INSERT INTO \"t\" (\"n\")\nVALUES (?)".toList 0 =
      [[.word "INSERT", .word "INTO", .quoted "t", .mark '(', .quoted "n", .mark ')',
        .word "VALUES", .mark '(', .parameter, .mark ')']] := by cbv
  have clear : nulPosition? "INSERT INTO \"t\" (\"n\")\nVALUES (?)" = none := by cbv
  have binds : Binds machine.hold [.varchar (some "a")] [.text "a"] := .cons rfl .nil
  have first : machine.Visits "INSERT INTO s (n) VALUES (?)".toList 0 opened
      [⟨fills "s", [.varchar (some "a")], [.text "a"], opened⟩] _ between :=
    visits_of_single firstTokens rfl rfl binds rfl
  have ran : (fills "t").plan.run [.text "a"] between = .ok ([], after) := by decide
  have second : machine.Visits "INSERT INTO \"t\" (\"n\")\nVALUES (?)".toList 0 between
      [⟨fills "t", [.varchar (some "a")], [.text "a"], between⟩] _ after :=
    visits_of_single secondTokens (by decide) rfl binds ran
  have reached : machine.Reached insertedKeys between [1] :=
    (Machine.Reached.opened rfl).through first
  have verdict := (key_reported_where_other machine_tracksKeys reached).2 dialect (.named "t")
    note _ _ _ rfl rfl rfl "id" 0 _ rfl rfl rfl (.inl ⟨rfl, .inr (Value.isZero_iff.mp rfl)⟩) _ after
    ⟨clear, second, rfl, rfl⟩
  exact ⟨reached, verdict.1 rfl⟩

end RecordMapping.Sqlite
