/-
Module: RecordMapping.Proofs.ChunkedIteration
Purpose: Whole runs of an iteration in chunks: what the callback is given, and
  how the run ends.
Main exports: RowReading, RowReading.ofItems, Handed, ChunkedRun, Provider.handOver_run,
  queryChunks_overflows, queryChunks_run
-/
import Mathlib.Data.List.Basic
import RecordMapping.Conformance.Sample
import RecordMapping.Connection.Script
import RecordMapping.Provider.Chunks

namespace RecordMapping

/-!
The iteration keeps one buffer and leaves its loop in four ways.  Its result is
compared with a reading that knows no chunks, the records before the first
failure, and with the calls of a callback that are made one after another until
one fails.  Each record is kept with the state of the database after its row, so
that a row taken too early would show.
-/

/-- The records of a stream of rows up to its first failure, each with the state
after its row, and that failure with the state it leaves. -/
structure RowReading (σ : Type) where
  scanned : List (Target × σ)
  failure : Option (Failure × σ)

namespace RowReading

variable {σ : Type}

/-- The reading of rows: a failed row fails under the context of the query, a
row that cannot be scanned fails as the scan does. -/
def ofRows (context : Context) (scanner : Scanner) :
    List (Outcome LabeledRow × σ) → RowReading σ
  | [] => ⟨[], none⟩
  | (.error failure, state) :: _ => ⟨[], some (failure.within context, state)⟩
  | (.ok row, state) :: rest =>
      match scanner.scan row with
      | (_, .error failure) => ⟨[], some (failure, state)⟩
      | (scanner, .ok target) =>
          let behind := ofRows context scanner rest
          ⟨(target, state) :: behind.scanned, behind.failure⟩

/-- The reading of what a statement sends back: counts are passed over. -/
def ofItems (context : Context) (scanner : Scanner) :
    List (Outcome Response × σ) → RowReading σ
  | [] => ⟨[], none⟩
  | (.error failure, state) :: _ => ⟨[], some (failure.within context, state)⟩
  | (.ok (.affected _), _) :: rest => ofItems context scanner rest
  | (.ok (.row row), state) :: rest =>
      match scanner.scan row with
      | (_, .error failure) => ⟨[], some (failure, state)⟩
      | (scanner, .ok target) =>
          let behind := ofItems context scanner rest
          ⟨(target, state) :: behind.scanned, behind.failure⟩

/-- The rows of a reply are read as its items are. -/
theorem ofRows_rows (context : Context) (scanner : Scanner) (reply : Reply σ) :
    ofRows context scanner reply.rows = ofItems context scanner reply.items := by
  unfold Reply.rows
  induction reply.items generalizing scanner with
  | nil => rfl
  | cons item rest inductionHypothesis =>
      obtain ⟨outcome, state⟩ := item
      cases outcome with
      | error failure => rfl
      | ok response =>
          cases response with
          | affected changes => exact inductionHypothesis scanner
          | row row =>
              simp only [List.filterMap_cons, Reply.rowItem, ofRows, ofItems,
                inductionHypothesis]

/-- The reading with further records in front. -/
def behind (front : List (Target × σ)) (reading : RowReading σ) : RowReading σ :=
  ⟨front ++ reading.scanned, reading.failure⟩

@[simp] theorem behind_scanned (front : List (Target × σ)) (reading : RowReading σ) :
    (reading.behind front).scanned = front ++ reading.scanned := rfl

@[simp] theorem behind_nil (reading : RowReading σ) : reading.behind [] = reading := rfl

@[simp] theorem behind_failure (front : List (Target × σ)) (reading : RowReading σ) :
    (reading.behind front).failure = reading.failure := rfl

end RowReading

/-- A block of records with the state in which it is handed over: a full block
right after its last row, a shorter one after the end of the rows. -/
inductive HandedAt {σ : Type} (size : Nat) (closed : σ) : List (Target × σ) → σ → Prop where
  | full {front : List (Target × σ)} {target : Target} {state : σ}
      (whole : front.length + 1 = size) :
      HandedAt size closed (front ++ [(target, state)]) state
  | last {block : List (Target × σ)} (short : block.length < size) :
      HandedAt size closed block closed

/-- A callback is given blocks one after another, each in the state that the
call before has left.  The first call that fails is the last one; the verdict
is its failure, with the state of the database at that call. -/
inductive Handed {σ κ : Type} (callback : ChunkCallback κ) (size : Nat) (closed : σ) :
    κ → List (List (Target × σ)) → Option (Failure × σ) → κ → Prop where
  | nothing (held : κ) : Handed callback size closed held [] none held
  | stopped {held left : κ} {block : List (Target × σ)} {failure : Failure} {state : σ}
      (called : callback held (block.map Prod.fst) = (.error failure, left))
      (handed : HandedAt size closed block state) :
      Handed callback size closed held [block] (some (failure, state)) left
  | further {held next left : κ} {block : List (Target × σ)}
      {rest : List (List (Target × σ))} {verdict : Option (Failure × σ)}
      (called : callback held (block.map Prod.fst) = (.ok (), next))
      (others : Handed callback size closed next rest verdict left) :
      Handed callback size closed held (block :: rest) verdict left

/-- A callback that keeps a share of each chunk is left with the shares of all blocks. -/
theorem Handed.collected {σ κ α : Type} {callback : ChunkCallback κ} {size : Nat} {closed : σ}
    {held left : κ} {blocks : List (List (Target × σ))} {verdict : Option (Failure × σ)}
    (kept : κ → List α) (share : List Target → List α)
    (keeps : ∀ held chunk, kept (callback held chunk).2 = kept held ++ share chunk)
    (handed : Handed callback size closed held blocks verdict left) :
    kept left = kept held ++ blocks.flatMap fun block => share (block.map Prod.fst) := by
  induction handed with
  | nothing held => simp
  | @stopped held left block failure state called _ =>
      have here := keeps held (block.map Prod.fst)
      rw [called] at here
      simpa using here
  | @further held next left block rest verdict called _ inductionHypothesis =>
      have here := keeps held (block.map Prod.fst)
      rw [called] at here
      rw [inductionHypothesis, here]
      simp

/-- The calls of an iteration against the reading of its rows. -/
structure ChunkedRun {σ κ : Type} (callback : ChunkCallback κ) (size : Nat) (closed : σ)
    (held : κ) (reading : RowReading σ) (blocks : List (List (Target × σ)))
    (verdict : Option (Failure × σ)) (left : κ) : Prop where
  /-- The blocks are handed over in order, up to the first call that fails. -/
  handed : Handed callback size closed held blocks verdict left
  /-- They are consecutive records, from the first one on. -/
  consecutive : blocks.flatten <+: reading.scanned
  nonempty : ∀ block ∈ blocks, block ≠ []
  /-- Each has the given size; a shorter one is the last, holds the last record,
  and is handed over only if the rows have ended without failure. -/
  sized : ∀ block ∈ blocks, block.length = size ∨
    block.length < size ∧ blocks.getLast? = some block ∧
      reading.failure = none ∧ blocks.flatten = reading.scanned
  /-- Unless the callback stops the run, less than a block is held back at a
  failure, and nothing at the end of the rows. -/
  exhaustive : verdict = none →
    reading.scanned.length < blocks.flatten.length + size ∧
      (reading.failure = none → blocks.flatten = reading.scanned)

/-- How an iteration ends: by the failure of its callback, where the wish to
stop is a success, and otherwise as the reading of its rows does. -/
def RowReading.conclusion {σ κ : Type} (reading : RowReading σ) (closed : σ)
    (verdict : Option (Failure × σ)) (left : κ) : Outcome Unit × κ × σ :=
  match verdict, reading.failure with
  | some (failure, state), _ =>
      (if failure.isAbort then .ok () else .error failure, left, state)
  | none, some (failure, state) => (.error failure, left, state)
  | none, none => (.ok (), left, closed)

theorem RowReading.fst_snd_conclusion {σ κ : Type} (reading : RowReading σ) (closed : σ)
    (verdict : Option (Failure × σ)) (left : κ) :
    (reading.conclusion closed verdict left).2.1 = left := by
  unfold conclusion
  split <;> rfl

namespace ChunkedRun

variable {σ κ : Type} {callback : ChunkCallback κ} {size : Nat} {closed : σ}
  {held next left : κ} {reading : RowReading σ} {blocks : List (List (Target × σ))}
  {verdict : Option (Failure × σ)} {block front : List (Target × σ)} {failure : Failure}
  {target : Target} {state : σ}

/-! ### Steps of a run -/

/-- The rows have ended, or failed with less than a block gathered: nothing is
handed over. -/
theorem withheld (room : reading.scanned.length < size)
    (kept : reading.failure = none → reading.scanned = []) :
    ChunkedRun callback size closed held reading [] none held where
  handed := .nothing held
  consecutive := List.nil_prefix
  nonempty := by simp
  sized := by simp
  exhaustive := fun _ => ⟨by simpa using room, fun ended => by simp [kept ended]⟩

/-- The rows have ended with less than a block gathered: it is handed over. -/
theorem remainder (filled : reading.scanned ≠ []) (room : reading.scanned.length < size)
    (ended : reading.failure = none)
    (handed : Handed callback size closed held [reading.scanned] verdict left) :
    ChunkedRun callback size closed held reading [reading.scanned] verdict left where
  handed := handed
  consecutive := by simp
  nonempty := by simpa using filled
  sized := by simp [room, ended]
  exhaustive := fun _ => ⟨by simp; omega, fun _ => by simp⟩

/-- A full block is handed over and the callback fails. -/
theorem halt (whole : front.length + 1 = size)
    (called : callback held ((front ++ [(target, state)]).map Prod.fst) =
      (.error failure, left)) :
    ChunkedRun callback size closed held (reading.behind (front ++ [(target, state)]))
      [front ++ [(target, state)]] (some (failure, state)) left where
  handed := .stopped called (.full whole)
  consecutive := by simp
  nonempty := by simp
  sized := by simp [whole]
  exhaustive := by simp

/-- A full block is handed over and the callback asks for more. -/
theorem advance (positive : 0 < size) (whole : block.length = size)
    (called : callback held (block.map Prod.fst) = (.ok (), next))
    (rest : ChunkedRun callback size closed next reading blocks verdict left) :
    ChunkedRun callback size closed held (reading.behind block) (block :: blocks)
      verdict left where
  handed := .further called rest.handed
  consecutive := by
    simpa using (List.prefix_append_right_inj block).mpr rest.consecutive
  nonempty := by
    intro other member
    rcases List.mem_cons.mp member with rfl | behind
    · exact List.ne_nil_of_length_pos (whole ▸ positive)
    · exact rest.nonempty other behind
  sized := by
    intro other member
    rcases List.mem_cons.mp member with rfl | behind
    · exact .inl whole
    · rcases rest.sized other behind with full | ⟨short, last, ended, all⟩
      · exact .inl full
      · refine .inr ⟨short, ?_, ended, by simp [all]⟩
        rw [List.getLast?_cons, last]
        rfl
  exhaustive := by
    intro unstopped
    obtain ⟨heldBack, all⟩ := rest.exhaustive unstopped
    refine ⟨?_, fun ended => by simp [all ended]⟩
    simp only [RowReading.behind_scanned, List.length_append, List.flatten_cons]
    omega

end ChunkedRun

/-! ### Whole runs -/

/-- What is gathered in front of a row and the row itself are gathered in front
of the rows behind it. -/
theorem RowReading.behind_cons {σ : Type} (front : List (Target × σ)) (target : Target)
    (state : σ) (reading : RowReading σ) :
    RowReading.behind front ⟨(target, state) :: reading.scanned, reading.failure⟩ =
      reading.behind (front ++ [(target, state)]) := by
  simp [RowReading.behind]

namespace Provider

variable {σ κ : Type}

/-- The end of the rows: what is gathered, if anything, is handed over. -/
theorem handOver_nil_run {callback : ChunkCallback κ} {size : Nat} (context : Context)
    (closed : σ) (scanner : Scanner) (front : List (Target × σ)) (held : κ)
    (room : front.length < size) :
    ∃ blocks verdict left,
      ChunkedRun callback size closed held ⟨front, none⟩ blocks verdict left ∧
      handOver context size callback closed scanner (front.map Prod.fst) held [] =
        RowReading.conclusion ⟨front, none⟩ closed verdict left := by
  cases front with
  | nil => exact ⟨[], none, held, .withheld room fun _ => rfl, rfl⟩
  | cons first others =>
      have run {verdict : Option (Failure × σ)} {left : κ}
          (handed : Handed callback size closed held [first :: others] verdict left) :
          ChunkedRun callback size closed held ⟨first :: others, none⟩ [first :: others]
            verdict left :=
        .remainder (by simp) room rfl handed
      cases called : callback held ((first :: others).map Prod.fst) with
      | mk outcome left =>
          have handed : handOver context size callback closed scanner
              ((first :: others).map Prod.fst) held [] = (settled outcome, left, closed) := by
            rw [List.map_cons] at called ⊢
            simp [handOver, called]
          cases outcome with
          | ok _ => exact ⟨_, none, left, run (.further called (.nothing left)), handed⟩
          | error failure =>
              exact ⟨_, some (failure, closed), left, run (.stopped called (.last room)),
                handed⟩

/-- The loop, entered with less than a block gathered.  The induction is on the
rows; a row either joins the gathered records or completes a block, after which
the loop goes on with nothing gathered. -/
theorem handOver_run {callback : ChunkCallback κ} {size : Nat} (positive : 0 < size)
    (context : Context) (closed : σ) (rows : List (Outcome LabeledRow × σ))
    (scanner : Scanner) (front : List (Target × σ)) (held : κ)
    (room : front.length < size) :
    ∃ blocks verdict left,
      ChunkedRun callback size closed held
        ((RowReading.ofRows context scanner rows).behind front) blocks verdict left ∧
      handOver context size callback closed scanner (front.map Prod.fst) held rows =
        ((RowReading.ofRows context scanner rows).behind front).conclusion closed
          verdict left := by
  induction rows generalizing scanner front held with
  | nil =>
      simpa [RowReading.ofRows, RowReading.behind] using
        handOver_nil_run context closed scanner front held room
  | cons row rest inductionHypothesis =>
      obtain ⟨item, state⟩ := row
      -- A failure holds back what is gathered, wherever it comes from.
      have holdBack (failure : Failure) :
          ChunkedRun callback size closed held ⟨front, some (failure, state)⟩ [] none held :=
        .withheld room (by simp)
      cases item with
      | error failure =>
          refine ⟨[], none, held, ?_, rfl⟩
          simpa [RowReading.ofRows, RowReading.behind] using holdBack _
      | ok row =>
          cases scanned : scanner.scan row with
          | mk scannerBehind outcome =>
              cases outcome with
              | error failure =>
                  refine ⟨[], none, held, ?_, ?_⟩
                  · simpa [RowReading.ofRows, RowReading.behind, scanned] using holdBack _
                  · simp [handOver, scanned, RowReading.conclusion, RowReading.ofRows]
              | ok target =>
                  have gathered : front.map Prod.fst ++ [target] =
                      (front ++ [(target, state)]).map Prod.fst := by simp
                  simp only [RowReading.ofRows, scanned, RowReading.behind_cons, handOver,
                    gathered]
                  by_cases more : (front ++ [(target, state)]).length < size
                  · rw [if_pos (by simpa using more)]
                    exact inductionHypothesis scannerBehind _ held more
                  · rw [if_neg (by simpa using more)]
                    have whole : front.length + 1 = size := by
                      simp only [List.length_append, List.length_singleton] at more
                      omega
                    cases called : callback held
                        ((front ++ [(target, state)]).map Prod.fst) with
                    | mk outcome next =>
                        cases outcome with
                        | error failure => exact ⟨_, _, _, .halt whole called, rfl⟩
                        | ok _ =>
                            obtain ⟨blocks, verdict, left, run, result⟩ :=
                              inductionHypothesis scannerBehind [] next positive
                            exact ⟨_, verdict, left,
                              .advance positive (by simpa using whole) called run, result⟩

end Provider

/-- A buffer that is asked for in full can be too large for an iteration that would hand
over a single record: the call panics. -/
theorem queryChunks_overflows :
    ¬ ∀ (provider : Provider Script) (type : TargetType) (query : ChunkQuery)
      (callback : ChunkCallback Nat) (held : Nat) (script : Script) (scanner : Scanner)
      (sql : String),
      0 < query.size → provider.prepare type query.text = .ok (scanner, sql) →
        let reply := provider.executor.run ⟨sql, query.parameters⟩ script
        let reading := RowReading.ofItems (.runningQuery sql) scanner reply.items
        ∃ blocks verdict left,
          ChunkedRun callback query.size reply.closed held reading blocks verdict left ∧
          provider.queryChunks type query callback held script =
            (reading.conclusion reply.closed verdict left).map .returned id := by
  intro always
  let provider : Provider Script := ⟨.sqlite, Script.connection.toExecutor⟩
  let script := Script.ofResponses [[.ok (.row ⟨["name"], [.ofText "Ada"]⟩)]]
  let greatest : ChunkQuery := ⟨"from users", [], 2 ^ 63 - 1⟩
  have filled : greatest.size ≠ 0 := by decide
  have beyond : ¬ Conformance.users.Gathers greatest.size := by decide
  have prepared : provider.prepare Conformance.users "from users" = .ok (_, _) := rfl
  obtain ⟨_, _, _, _, returned⟩ := always provider _ greatest
    (fun calls _ => (.ok (), calls + 1)) 0 script _ _ (Nat.pos_of_ne_zero filled) prepared
  rw [Provider.queryChunks_of_overflow filled prepared beyond] at returned
  cases congrArg Prod.fst returned

/-- A query in chunks either fails to be built, with nothing sent and no call made, or its
callback is given consecutive blocks of the records that the rows hold in front of the first
failure, until it fails itself; then no later row is taken.  That is so as long as a buffer
for a chunk can be asked for; otherwise the statement is sent, but nothing is read and no
call is made. -/
theorem queryChunks_run {σ κ : Type} (provider : Provider σ) (type : TargetType)
    (query : ChunkQuery) (callback : ChunkCallback κ) (held : κ) (state : σ)
    (positive : 0 < query.size) :
    match provider.prepare type query.text with
    | .error failure =>
        provider.queryChunks type query callback held state =
          (.returned (.error failure), held, state)
    | .ok (scanner, sql) =>
        let reply := provider.executor.run ⟨sql, query.parameters⟩ state
        let reading := RowReading.ofItems (.runningQuery sql) scanner reply.items
        if type.Gathers query.size then
          ∃ blocks verdict left,
            ChunkedRun callback query.size reply.closed held reading blocks verdict left ∧
            provider.queryChunks type query callback held state =
              (reading.conclusion reply.closed verdict left).map .returned id
        else
          provider.queryChunks type query callback held state =
            (.overflow, held, reply.opened) := by
  have sizeNotZero : query.size ≠ 0 := Nat.ne_of_gt positive
  cases prepared : provider.prepare type query.text with
  | error failure => simp [Provider.queryChunks, sizeNotZero, prepared]
  | ok ready =>
      obtain ⟨scanner, sql⟩ := ready
      dsimp only
      split
      · rename_i room
        obtain ⟨blocks, verdict, left, run, handed⟩ :=
          @Provider.handOver_run _ _ callback _ positive (.runningQuery sql) _ _ scanner []
            held positive
        rw [RowReading.ofRows_rows, RowReading.behind_nil] at run handed
        refine ⟨blocks, verdict, left, run, ?_⟩
        rw [← handed]
        exact Provider.queryChunks_of_gathers sizeNotZero prepared room
      · rename_i beyond
        exact Provider.queryChunks_of_overflow sizeNotZero prepared beyond

/-- Five users in chunks of two, with a count between the rows, for a callback that keeps its
chunks and stops at the second one: it has been called twice, and the fifth row has not been
taken. -/
theorem queryChunks_run_five_users :
    let named (name : String) : Outcome Response := .ok (.row ⟨["name"], [.ofText name]⟩)
    let items : List (Outcome Response × Nat) :=
      [(named "Ada", 1), (named "Bia", 2), (.ok (.affected .none), 3), (named "Cem", 4),
        (named "Dov", 5), (named "Eva", 6)]
    let provider : Provider Nat := ⟨.sqlite, ⟨fun _ _ => ⟨0, items, 7⟩⟩⟩
    let callback : ChunkCallback (List (List Target)) := fun chunks chunk =>
      (if chunks.isEmpty then .ok () else .error (.ofCause .abortIteration), chunks ++ [chunk])
    0 < 2 ∧ ∃ scanner sql,
      provider.prepare Conformance.users "from users" = .ok (scanner, sql) ∧
      ∃ blocks verdict left,
        ChunkedRun callback 2 7 [] (.ofItems (.runningQuery sql) scanner items) blocks verdict
          left ∧
        blocks.map (·.map fun entry => entry.1.map (Conformance.textOf · "name")) =
          [[["Ada"], ["Bia"]], [["Cem"], ["Dov"]]] ∧
        verdict = some (.ofCause .abortIteration, 5) ∧ left.length = 2 ∧
        provider.queryChunks Conformance.users ⟨"from users", [], 2⟩ callback [] 0 =
          (.returned (.ok ()), left, 5) := by
  intro named items provider callback
  have positive : 0 < 2 := by decide
  have prepared : provider.prepare Conformance.users "from users" = .ok (_, _) := rfl
  have room : Conformance.users.Gathers 2 := by decide
  have run := queryChunks_run provider Conformance.users ⟨"from users", [], 2⟩ callback [] 0
    positive
  rw [prepared] at run
  dsimp only at run
  rw [if_pos room] at run
  obtain ⟨blocks, verdict, left, chunked, ended⟩ := run
  have names : (provider.queryChunks Conformance.users ⟨"from users", [], 2⟩ callback []
      0).2.1.map (·.map (·.map (Conformance.textOf · "name"))) =
      [[["Ada"], ["Bia"]], [["Cem"], ["Dov"]]] := by
    decide +kernel
  have reached : (provider.queryChunks Conformance.users ⟨"from users", [], 2⟩ callback []
      0).2.2 = 5 := by
    decide +kernel
  rw [ended] at names reached
  -- The callback is left with the chunks that it has been given.
  have kept : left = blocks.map (·.map Prod.fst) := by
    have shares := chunked.handed.collected id (fun chunk => [chunk]) fun _ _ => rfl
    rwa [← List.map_eq_flatMap] at shares
  have delivered : blocks.map (·.map fun entry =>
      entry.1.map (Conformance.textOf · "name")) = [[["Ada"], ["Bia"]], [["Cem"], ["Dov"]]] := by
    rw [← names, Prod.map_snd, id, RowReading.fst_snd_conclusion, kept]
    simp [Function.comp_def]
  obtain ⟨first, second, rfl⟩ : ∃ first second, blocks = [first, second] :=
    List.length_eq_two.mp (by simpa using congrArg List.length delivered)
  cases chunked.handed with
  | further firstCall others =>
      cases others with
      | further secondCall _ =>
          cases firstCall
          cases secondCall
      | stopped secondCall _ =>
          cases firstCall
          cases secondCall
          obtain rfl : _ = 5 := reached
          exact ⟨positive, _, _, prepared, _, _, _, chunked, delivered, rfl, rfl, ended⟩

end RecordMapping
