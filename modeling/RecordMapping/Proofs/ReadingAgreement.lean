/-
Module: RecordMapping.Proofs.ReadingAgreement
Purpose: A query into a list, a query in chunks and a cursor read the same records from
  the same rows.
Main exports: Cursor.readAll, gather, WholeBlocks, RowReading.outcome, RowReading.ending,
  Provider.collect_eq, Cursor.readAll_of_rows, three_readings_disagree, three_readings_agree
-/
import RecordMapping.Proofs.ChunkedIteration
import RecordMapping.Proofs.LabelCache

namespace RecordMapping

/-!
Rows can be had as one list, in chunks or one by one.  The first two keep a scanner for
all rows; a cursor makes a new one for each row that it binds.  Each of the three loops
is compared with the one reading of the rows that knows neither chunks nor cursors.  Only
the second asks for a buffer before the first row, and panics if this is too large.
-/

variable {σ : Type}

/-! ### Rows one by one -/

namespace Cursor

variable {cursor behind : Cursor σ} {type : TargetType}

/-- An advance to a row takes it from what the statement still has to give. -/
theorem next_shorter (advanced : cursor.next = (.ok true, behind)) :
    (behind.remaining.getD []).length < (cursor.remaining.getD []).length := by
  unfold next at advanced
  split at advanced
  · cases advanced
  · split at advanced
    · cases advanced
    · cases advanced
    · cases advanced
    · rename_i held
      cases advanced
      simp [held]

/-- Advances until there is no row any more, and binds each row to a new target; the
first failure, of an advance or of a binding, ends the loop. -/
def readAll (type : TargetType) (cursor : Cursor σ) : Outcome Unit × List Target × Cursor σ :=
  match _ : cursor.next with
  | (.error failure, behind) => (.error failure, [], behind)
  | (.ok false, behind) => (.ok (), [], behind)
  | (.ok true, behind) =>
      match behind.scan type type.blank with
      | (_, .error failure) => (.error failure, [], behind)
      | (target, .ok ()) =>
          match behind.readAll type with
          | (outcome, targets, last) => (outcome, target :: targets, last)
termination_by (cursor.remaining.getD []).length
decreasing_by exact next_shorter ‹_›

/-- The loop, with its first advance in front. -/
theorem readAll_eq (type : TargetType) (cursor : Cursor σ) :
    cursor.readAll type =
      match cursor.next with
      | (.error failure, behind) => (.error failure, [], behind)
      | (.ok false, behind) => (.ok (), [], behind)
      | (.ok true, behind) =>
          match behind.scan type type.blank with
          | (_, .error failure) => (.error failure, [], behind)
          | (target, .ok ()) =>
              match behind.readAll type with
              | (outcome, targets, last) => (outcome, target :: targets, last) := by
  rw [readAll]
  split <;> simp_all

/-- The current row is bound as a row that no scanner has seen a row before. -/
theorem scan_of_row {row : LabeledRow} {layout : Layout} (onRow : cursor.current = some row)
    (valid : type.layout = .ok layout) (target : Target) :
    cursor.scan type target = layout.bindRow type.typeName row target := by
  have made : Scanner.make type = .ok (Scanner.withLayout type layout) := by
    simp [Scanner.make, valid, Except.map]
  unfold scan
  rw [onRow, made]
  exact (Scanner.coherent_withLayout type layout).snd_scanInto row target

end Cursor

/-! ### Readings -/

theorem Outcome.within_eq_ok_iff {α : Type} {outcome : Outcome α} {context : Context}
    {result : α} : outcome.within context = .ok result ↔ outcome = .ok result := by
  cases outcome with
  | ok _ => rfl
  | error failure => simp [Outcome.within]

namespace RowReading

/-- How a reading ends. -/
def outcome (reading : RowReading σ) : Outcome Unit :=
  match reading.failure with
  | none => .ok ()
  | some (failure, _) => .error failure

/-- The state of the database when a reading has ended. -/
def ending (reading : RowReading σ) (closed : σ) : σ :=
  match reading.failure with
  | none => closed
  | some (_, state) => state

theorem outcome_eq_ok_iff {reading : RowReading σ} :
    reading.outcome = .ok () ↔ reading.failure = none := by
  unfold outcome
  cases reading.failure with
  | none => simp
  | some ended => simp

/-- Without a verdict of a callback, the reading decides. -/
theorem conclusion_none {κ : Type} (reading : RowReading σ) (closed : σ) (left : κ) :
    reading.conclusion closed none left = (reading.outcome, left, reading.ending closed) := by
  unfold conclusion outcome ending
  cases reading.failure with
  | none => rfl
  | some ended => rfl

end RowReading

/-- A query into a list gives the records of the reading and ends as the reading does. -/
theorem Provider.collect_eq (context : Context) (closed : σ) (scanner : Scanner)
    (rows : List (Outcome LabeledRow × σ)) :
    collect context closed scanner rows =
      ((RowReading.ofRows context scanner rows).outcome,
        (RowReading.ofRows context scanner rows).scanned.map Prod.fst,
        (RowReading.ofRows context scanner rows).ending closed) := by
  induction rows generalizing scanner with
  | nil => rfl
  | cons row rest inductionHypothesis =>
      obtain ⟨item, state⟩ := row
      cases item with
      | error failure => rfl
      | ok row =>
          unfold collect RowReading.ofRows
          cases scanner.scan row with
          | mk behind outcome =>
              cases outcome with
              | error failure => rfl
              | ok target =>
                  simp only [inductionHypothesis behind]
                  rfl

/-- A new scanner for each row binds the rows as one scanner for all of them.  The loop
ends as the reading does, but for the context that the reading puts in front of the
failure of a row. -/
theorem Cursor.readAll_of_rows {type : TargetType} {layout : Layout}
    (valid : type.layout = .ok layout) (context : Context)
    (rows : List (Outcome LabeledRow × σ)) {scanner : Scanner} (coherent : scanner.Coherent)
    (sameType : scanner.type = type) (sameLayout : scanner.layout = layout)
    (cursor : Cursor σ) (held : cursor.remaining = some rows)
    (unread : cursor.phase ≠ .exhausted) :
    ∃ ended last,
      cursor.readAll type =
        (ended, (RowReading.ofRows context scanner rows).scanned.map Prod.fst, last) ∧
      (ended = (RowReading.ofRows context scanner rows).outcome ∨
        ended.within context = (RowReading.ofRows context scanner rows).outcome) ∧
      last.state = (RowReading.ofRows context scanner rows).ending cursor.finished := by
  induction rows generalizing scanner cursor with
  | nil =>
      rw [readAll_eq]
      simp [next, unread, held, RowReading.ofRows, RowReading.outcome, RowReading.ending]
  | cons row rest inductionHypothesis =>
      obtain ⟨item, state⟩ := row
      cases item with
      | error failure =>
          rw [readAll_eq]
          simp [next, unread, held, RowReading.ofRows, RowReading.outcome, RowReading.ending,
            Outcome.within]
      | ok row =>
          let behind : Cursor σ :=
            { cursor with
              remaining := some rest, state := state, current := some row
              phase := .onRow }
          have advanced : cursor.next = (.ok true, behind) := by
            simp [next, unread, held, behind]
          have bound : behind.scan type type.blank =
              layout.bindRow type.typeName row type.blank := behind.scan_of_row rfl valid _
          have scanned := coherent.snd_scan row
          have past := coherent.past row.labels
          rw [← Scanner.fst_scan] at past
          rw [sameType, sameLayout] at scanned past
          rw [readAll_eq, advanced]
          dsimp only
          rw [bound, RowReading.ofRows]
          cases scan : scanner.scan row with
          | mk further outcome =>
              rw [scan] at scanned past
              obtain ⟨furtherCoherent, furtherType, furtherLayout⟩ := past
              cases stored : layout.bindRow type.typeName row type.blank with
              | mk target ended =>
                  rw [stored] at scanned
                  obtain rfl : outcome = ended.map fun _ => target := scanned
                  cases ended with
                  | error failure => exact ⟨_, behind, rfl, .inl rfl, rfl⟩
                  | ok _ =>
                      obtain ⟨final, last, read, ends⟩ := inductionHypothesis furtherCoherent
                        furtherType furtherLayout behind rfl (by simp [behind])
                      refine ⟨final, last, ?_, ends⟩
                      simp only [read, Except.map, List.map_cons]

/-! ### Chunks -/

/-- A callback that keeps every record it is given and asks for more. -/
def gather : ChunkCallback (List Target) := fun held chunk => (.ok (), held ++ chunk)

/-- The longest beginning of a list that can be cut into blocks of a size. -/
structure WholeBlocks {α : Type} (size : Nat) (front list : List α) : Prop where
  begins : front <+: list
  whole : size ∣ front.length
  longest : ∀ other, other <+: list → size ∣ other.length → other.length ≤ front.length

/-- Less than a block behind whole ones cannot complete another one. -/
theorem WholeBlocks.of_room {α : Type} {size : Nat} {front list : List α}
    (begins : front <+: list) (whole : size ∣ front.length)
    (room : list.length < front.length + size) : WholeBlocks size front list := by
  refine ⟨begins, whole, fun other otherBegins otherWhole => ?_⟩
  have short := otherBegins.length_le
  obtain ⟨count, counted⟩ := whole
  obtain ⟨others, otherCounted⟩ := otherWhole
  have fewer : size * others < size * (count + 1) := by
    rw [Nat.mul_succ, ← counted, ← otherCounted]
    omega
  rw [counted, otherCounted]
  exact Nat.mul_le_mul_left size (Nat.le_of_lt_succ (Nat.lt_of_mul_lt_mul_left fewer))

/-- The keeping callback never ends an iteration, and is left with the blocks put one
behind the other. -/
theorem Handed.of_gather {size : Nat} {closed : σ} {held left : List Target}
    {blocks : List (List (Target × σ))} {verdict : Option (Failure × σ)}
    (handed : Handed gather size closed held blocks verdict left) :
    verdict = none ∧ left = held ++ blocks.flatten.map Prod.fst := by
  constructor
  · induction handed with
    | nothing held => rfl
    | stopped called _ => cases called
    | further _ _ inductionHypothesis => exact inductionHypothesis
  · rw [List.map_flatten]
    exact handed.collected id id fun _ _ => rfl

/-- What the keeping callback is left with: all records if the rows have ended, and the
whole blocks of them if they have failed. -/
theorem ChunkedRun.kept {size : Nat} {closed : σ} {reading : RowReading σ}
    {blocks : List (List (Target × σ))} {verdict : Option (Failure × σ)}
    {left : List Target}
    (run : ChunkedRun gather size closed [] reading blocks verdict left) :
    verdict = none ∧ (reading.failure = none → left = reading.scanned.map Prod.fst) ∧
      (reading.failure ≠ none →
        WholeBlocks size left (reading.scanned.map Prod.fst)) := by
  obtain ⟨unstopped, rfl⟩ := run.handed.of_gather
  obtain ⟨room, all⟩ := run.exhaustive unstopped
  rw [List.nil_append]
  refine ⟨unstopped, fun ended => by rw [all ended], fun failed => ?_⟩
  refine .of_room (run.consecutive.map Prod.fst) ?_ (by simpa only [List.length_map] using room)
  have full : blocks.map List.length = List.replicate blocks.length size := by
    rw [List.map_eq_replicate_iff]
    intro block member
    rcases run.sized block member with full | ⟨_, _, ended, _⟩
    · exact full
    · exact absurd ended failed
  rw [List.length_map, List.length_flatten, full, List.sum_replicate_nat]
  exact Nat.dvd_mul_left size blocks.length

/-- A query in chunks to the keeping callback ends as the reading of its rows does. -/
theorem Provider.handOver_gather {size : Nat} (positive : 0 < size) (context : Context)
    (closed : σ) (scanner : Scanner) (rows : List (Outcome LabeledRow × σ)) :
    ∃ delivered,
      handOver context size gather closed scanner [] [] rows =
        ((RowReading.ofRows context scanner rows).outcome, delivered,
          (RowReading.ofRows context scanner rows).ending closed) ∧
      ((RowReading.ofRows context scanner rows).failure = none →
        delivered = (RowReading.ofRows context scanner rows).scanned.map Prod.fst) ∧
      ((RowReading.ofRows context scanner rows).failure ≠ none →
        WholeBlocks size delivered
          ((RowReading.ofRows context scanner rows).scanned.map Prod.fst)) := by
  obtain ⟨blocks, verdict, delivered, run, handed⟩ :=
    @handOver_run _ _ gather _ positive context closed rows scanner [] [] positive
  obtain ⟨rfl, all, whole⟩ := run.kept
  rw [RowReading.conclusion_none] at handed
  exact ⟨delivered, handed, all, whole⟩

/-! ### The three loops -/

/-- A prepared query has a scanner that has seen no row, for the layout of its type. -/
theorem Provider.prepare_eq_ok {provider : Provider σ} {type : TargetType} {text sql : String}
    {scanner : Scanner} (prepared : provider.prepare type text = .ok (scanner, sql)) :
    ∃ layout, type.layout = .ok layout ∧ scanner = Scanner.withLayout type layout := by
  unfold prepare at prepared
  obtain ⟨made, making, prepared⟩ := ok_of_bind prepared
  obtain ⟨_, _, prepared⟩ := ok_of_bind prepared
  cases prepared
  unfold Scanner.make at making
  cases valid : type.layout with
  | error failure =>
      rw [valid] at making
      cases making
  | ok layout =>
      rw [valid] at making
      cases making
      exact ⟨layout, rfl, rfl⟩

/-- A query into a list succeeds where one in chunks panics. -/
theorem three_readings_disagree :
    ¬ ∀ (provider : Provider Script) (type : TargetType) (text sql : String)
      (scanner : Scanner) (parameters : List Value) (size : Nat) (script : Script),
      provider.prepare type text = .ok (scanner, sql) → 0 < size →
        ((provider.query type text parameters [] script).1 = .ok () ↔
          (provider.queryChunks type ⟨text, parameters, size⟩ gather [] script).1 =
            .returned (.ok ())) := by
  intro always
  let provider : Provider Script := ⟨.sqlite, Script.connection.toExecutor⟩
  let script := Script.ofResponses [[.ok (.row ⟨["name"], [.ofText "Ada"]⟩)]]
  let size := 2 ^ 63 - 1
  have positive : 0 < size := by decide
  have beyond : ¬ Conformance.users.Gathers size := by decide
  have prepared : provider.prepare Conformance.users "from users" = .ok (_, _) := rfl
  have listed : (provider.query Conformance.users "from users" [] [] script).1 = .ok () := rfl
  have overflows : provider.queryChunks Conformance.users ⟨"from users", [], size⟩ gather []
      script = (.overflow, [], _) :=
    Provider.queryChunks_of_overflow (Nat.ne_of_gt positive) prepared beyond
  have chunked := (always provider _ _ _ _ [] size script prepared positive).mp listed
  rw [overflows] at chunked
  cases chunked

/-- Once its statement has been sent, a query gives the same records as a list and one by
one, and both end in the same state; they succeed together.  In chunks to a callback that
keeps them, it ends as into a list, as long as a buffer for a chunk can be asked for: if it
succeeds, the callback has been given the same records, and if it fails, the whole chunks of
them.  Otherwise it panics before the first row is read. -/
theorem three_readings_agree (provider : Provider σ) {type : TargetType} {text sql : String}
    {scanner : Scanner} (prepared : provider.prepare type text = .ok (scanner, sql))
    (parameters : List Value) {size : Nat} (positive : 0 < size) (present : List Target)
    (state : σ) :
    ∃ outcome records after ended cursor,
      provider.query type text parameters present state = (outcome, records, after) ∧
      (provider.rows sql parameters state).readAll type = (ended, records, cursor) ∧
      cursor.state = after ∧
      (ended = outcome ∨ ended.within (.runningQuery sql) = outcome) ∧
      (ended = .ok () ↔ outcome = .ok ()) ∧
      if type.Gathers size then
        ∃ delivered,
          provider.queryChunks type ⟨text, parameters, size⟩ gather [] state =
            (.returned outcome, delivered, after) ∧
          (outcome = .ok () → delivered = records) ∧
          (outcome ≠ .ok () → WholeBlocks size delivered records)
      else
        provider.queryChunks type ⟨text, parameters, size⟩ gather [] state =
          (.overflow, [], (provider.executor.run ⟨sql, parameters⟩ state).opened) := by
  obtain ⟨layout, valid, rfl⟩ := Provider.prepare_eq_ok prepared
  have notZero : size ≠ 0 := Nat.ne_of_gt positive
  obtain ⟨ended, cursor, read, same, left⟩ := Cursor.readAll_of_rows valid (.runningQuery sql)
    (provider.executor.run ⟨sql, parameters⟩ state).rows
    (Scanner.coherent_withLayout type layout) rfl rfl (provider.rows sql parameters state) rfl
    (by simp [Provider.rows, Cursor.ofReply])
  refine ⟨_, _, _, ended, cursor, ?_, read, left, same, ?_, ?_⟩
  · simp only [Provider.query, prepared]
    exact Provider.collect_eq _ _ _ _
  · rcases same with same | same
    · rw [same]
    · rw [← same, Outcome.within_eq_ok_iff]
  · split
    · rename_i room
      obtain ⟨delivered, chunked, all, whole⟩ := Provider.handOver_gather positive
        (.runningQuery sql) (provider.executor.run ⟨sql, parameters⟩ state).closed
        (Scanner.withLayout type layout) (provider.executor.run ⟨sql, parameters⟩ state).rows
      have handed : provider.queryChunks type ⟨text, parameters, size⟩ gather [] state =
          (.returned _, _) := Provider.queryChunks_of_gathers notZero prepared room
      refine ⟨delivered, ?_, ?_, ?_⟩
      · rw [handed, chunked]
        rfl
      · rw [RowReading.outcome_eq_ok_iff]
        exact all
      · rw [Ne, RowReading.outcome_eq_ok_iff]
        exact whole
    · rename_i beyond
      exact Provider.queryChunks_of_overflow notZero prepared beyond

/-- Four rows, of which the second has other labels and the last has no number where one
is needed: three users are read, and two of them have come in a whole chunk. -/
theorem three_readings_agree_changing_labels :
    let provider : Provider Script := ⟨.sqlite, Script.connection.toExecutor⟩
    let script := Script.ofResponses
      [[.ok (.row ⟨["name"], [.ofText "Ada"]⟩),
        .ok (.row ⟨["ID", "Name"], [.ofInt .int64 2, .ofText "Bia"]⟩),
        .ok (.row ⟨["name", "none"], [.ofText "Cem"]⟩),
        .ok (.row ⟨["name", "id"], [.ofText "Dov", .ofText "four"]⟩)]]
    0 < 2 ∧ ∃ scanner sql,
      provider.prepare Conformance.users "from users" = .ok (scanner, sql) ∧
      ∃ outcome records after ended cursor delivered,
        provider.query Conformance.users "from users" [] [] script =
          (outcome, records, after) ∧
        (provider.rows sql [] script).readAll Conformance.users = (ended, records, cursor) ∧
        provider.queryChunks Conformance.users ⟨"from users", [], 2⟩ gather [] script =
          (.returned outcome, delivered, after) ∧
        records.length = 3 ∧ delivered.length = 2 ∧ outcome ≠ .ok () := by
  intro provider script
  have positive : 0 < 2 := by decide
  have room : Conformance.users.Gathers 2 := by decide
  refine ⟨positive, _, _, rfl, ?_⟩
  have prepared : provider.prepare Conformance.users "from users" = .ok (_, _) := rfl
  obtain ⟨outcome, records, after, ended, cursor, listed, read, _, _, _, chunks⟩ :=
    three_readings_agree provider prepared [] positive [] script
  rw [if_pos room] at chunks
  obtain ⟨delivered, chunked, _⟩ := chunks
  have count : (provider.query Conformance.users "from users" [] [] script).2.1.length = 3 := by
    decide +kernel
  have handed : (provider.queryChunks Conformance.users ⟨"from users", [], 2⟩ gather []
      script).2.1.length = 2 := by
    decide +kernel
  have failed : (provider.query Conformance.users "from users" [] [] script).1.isOk = false := by
    decide +kernel
  rw [listed] at count failed
  rw [chunked] at handed
  refine ⟨outcome, records, after, ended, cursor, delivered, listed, read, chunked, count,
    handed, ?_⟩
  rintro rfl
  cases failed

end RecordMapping
