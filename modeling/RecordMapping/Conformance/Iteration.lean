/-
Module: RecordMapping.Conformance.Iteration
Purpose: Scenarios that take rows in chunks and one by one.
Main exports: Trial.readChunks, Trial.readRows
-/
import RecordMapping.Conformance.Reading

namespace RecordMapping.Conformance

/-!
Chunks are asked for with and without the list of columns in the query, in
several sizes, and with callbacks that stop the iteration.  Cursors are read to
their end, scanned into a record with fewer fields than the row has columns,
and closed early.
-/

/-- A user of whom only the age is read. -/
def userAgeType : RecordType where
  typeName := "rowmap_tests::scan_rows::UserAge"
  fields := [plain "id" (.integer .uint64), plain "age" (.integer .int32)]
  unmapped := []
  footprint := 16

/-- How an iteration has to end whose callback answers with outcomes. -/
structure Ending where
  outcomes : List (Outcome Unit)
  /-- The lengths of the chunks that the callback sees. -/
  lengths : List Nat
  succeeds : Bool

/-- The failure of a callback in its own words. -/
def callbackFault : String := "fake error msg"

/-- The endings that the outcomes of a callback bring about. -/
def endings : List Ending :=
  let stop : Outcome Unit := .error (.ofCause .abortIteration)
  let fault : Outcome Unit := .error (.ofText callbackFault)
  [⟨[stop], [2], true⟩, ⟨[.ok (), stop], [2, 1], true⟩,
   ⟨[fault], [2], false⟩, ⟨[.ok (), fault], [2, 1], false⟩]

namespace Trial

variable {σ : Type}

/-- The names of users in order. -/
def namesOf (read : List Target) : List String :=
  read.map fun target => textOf (userOf target) "name"

/-- Inserts users with the given names, and gives them as they are then. -/
def insertUsers (names : List String) : Trial σ (List Record) :=
  names.mapM fun name => do
    let (outcome, record) ← insert usersTable (userNamed name)
    expect "Failed to insert a user" outcome
    return record

/-! ### Chunks -/

/-- One row, which does not fill a chunk. -/
def chunkOfOne (lead : String) : Trial σ Unit := do
  freshTables
  let record := (userNamed "User1").withCell "address" (addressIn "BR")
  let (outcome, _) ← insert usersTable record
  expect "Failed to insert User1" outcome
  let sql := lead ++ "FROM users WHERE name = " ++ (← place 0)
  let (outcome, read) ← chunks users ⟨sql, [.ofText "User1"], 100⟩ []
  expect "Failed to query a single row" outcome
  same (read.map List.length) [1]
  let found := userAt read.flatten 0
  nonzero (found.value "id")
  same (textOf found "name") "User1"
  same (addressMember found "country") "BR"

/-- Rows in chunks of a size. -/
def chunksOfSize (sql : String) (size : Nat) (lengths : List Nat) : Trial σ Unit := do
  let (outcome, read) ← chunks users ⟨sql, [.ofText "User%"], size⟩ []
  expect "Failed to query in chunks" outcome
  sameAs ("chunk size " ++ toString size) (read.map List.length) lengths
  same (namesOf read.flatten) ["User1", "User2", "User3"]
  holds (read.flatten.all fun target => !((userOf target).value "id").isZero)
    "users.iter().all(|u| u.id != 0)"

/-- Rows in chunks of two, under a callback that brings about an ending. -/
def chunksUntil (sql : String) (ending : Ending) : Trial σ Unit := do
  let (outcome, read) ← chunks users ⟨sql, [.ofText "User%"], 2⟩ ending.outcomes
  match outcome with
  | .ok () => require ending.succeeds "The error of the callback was lost"
  | .error failure =>
      require (!ending.succeeds) ("Unexpected error: " ++ failure.render)
      same failure.headline callbackFault
  same (read.map List.length) ending.lengths
  let names := namesOf read.flatten
  same (names.take 1) ["User1"]
  same ((names.drop 1).take 1) ["User2"]

/-- Chunks of queries that begin with a list of columns or without one. -/
def chunksUnder (lead : String) : Trial σ Unit := do
  chunkOfOne lead
  freshTables
  let _ ← insertUsers ["User1", "User2", "User3"]
  let sql := lead ++ "from users where name like " ++ (← place 0) ++
    " order by name asc;"
  for (size, lengths) in [(100, [3]), (1, [1, 1, 1]), (2, [2, 1])] do
    chunksOfSize sql size lengths
  for ending in endings do
    chunksUntil sql ending
  let (outcome, read) ← chunks users ⟨lead ++ "not a valid query", [], 10⟩ []
  let failure ← refused "An invalid query must fail" outcome
  holds read.isEmpty "!called"
  mentionsQuery failure

/-- What a joined target tells: whose post it is, and its title. -/
def summaryOf (target : Target) : Value × String × String :=
  let writer := userOf target
  (writer.value "id", textOf writer "name", textOf (partOf target 1 post) "title")

/-- Rows of joined tables in chunks. -/
def joinedChunks : Trial σ Unit := do
  freshTables
  let written ← insertUsers ["Thiago Ribeiro", "Thatiana Ribeiro"]
  let idAt (index : Nat) := ((written[index]?).getD (.blank user)).value "id"
  for title in ["Thatiana Post1", "Thatiana Post2"] do
    addPost (idAt 1) title
  addPost (idAt 0) "Thiago Post1"
  let sql := "FROM users u JOIN posts p ON p.user_id = u.id WHERE u.name like " ++
    (← place 0) ++ " ORDER BY u.id, p.id"
  let (outcome, read) ← chunks userPosts ⟨sql, [.ofText "% Ribeiro"], 2⟩ []
  expect "Failed to query the joined tables in chunks" outcome
  same (read.map List.length) [2, 1]
  same (read.flatten.map summaryOf)
    [(idAt 0, "Thiago Ribeiro", "Thiago Post1"),
     (idAt 1, "Thatiana Ribeiro", "Thatiana Post1"),
     (idAt 1, "Thatiana Ribeiro", "Thatiana Post2")]
  let (outcome, _) ← chunks userPosts ⟨joinedSelect, [], 10⟩ []
  isMisconfiguration (← refused "A joined struct cannot be used with SELECT" outcome)

/-- Rows read in chunks. -/
def readChunks : Trial σ Unit := do
  for lead in ["SELECT * ", ""] do
    chunksUnder lead
  joinedChunks

/-! ### Cursors -/

/-- A cursor after an advance that has to give a row. -/
def onRow (cursor : Cursor σ) : Trial σ (Cursor σ) := do
  let (outcome, cursor) ← next cursor
  holds (← expect "Failed to advance the rows" outcome)
    "rows.next().await.expect(\"Failed to advance the rows\")"
  return cursor

/-- The only user that a cursor gives. -/
def cursorOverOne : Trial σ Unit := do
  let sql := "SELECT * FROM users WHERE name = " ++ (← place 0) ++ " ORDER BY id"
  let cursor ← onRow (← rows sql [.ofText "User2"])
  let (target, outcome) := cursor.scan users users.blank
  expect "Failed to scan the user" outcome
  let found := userOf target
  nonzero (found.value "id")
  same (textOf found "name") "User2"
  same (found.value "age") (int32 14)
  same (addressMember found "country") "BR"
  let (outcome, _) ← next cursor
  holds (!(← expect "Failed to reach the end" outcome))
    "!rows.next().await.expect(\"Failed to reach the end\")"

/-- The ages in the rest of a cursor.  The fuel is one more than the rows and
failures that the cursor still holds, as each advance takes one of them or finds
the end. -/
def agesOf : Nat → Cursor σ → Trial σ (List Value)
  | 0, _ => return []
  | fuel + 1, cursor => do
      let (outcome, cursor) ← next cursor
      if ← expect "Failed to advance the rows" outcome then
        let type := TargetType.ofRecord userAgeType
        let (target, outcome) := cursor.scan type type.blank
        expect "Failed to scan the partial user" outcome
        let found := partOf target 0 userAgeType
        nonzero (found.value "id")
        return found.value "age" :: (← agesOf fuel cursor)
      else return []

/-- A cursor that is not used to its end, and not usable any more. -/
def closedCursor (sql : String) : Trial σ Unit := do
  let cursor := (← onRow (← rows sql [])).close
  holds cursor.isClosed "rows.is_closed()"
  let (outcome, cursor) ← next cursor
  holds (!outcome.isOk) "rows.next().await.is_err()"
  let type := TargetType.ofRecord userAgeType
  holds (!(cursor.scan type type.blank).2.isOk)
    "rows.scan(&mut UserAge::default()).is_err()"

/-- Rows read one by one. -/
def readRows : Trial σ Unit := do
  freshTables
  for (name, age) in [("User1", 22), ("User2", 14), ("User3", 43)] do
    let record := (filled user [("name", .ofText name), ("age", int32 age)]).withCell
      "address" (addressIn "BR")
    let (outcome, _) ← insert usersTable record
    expect "Failed to insert a user" outcome
  cursorOverOne
  let sql := "SELECT * FROM users ORDER BY id"
  let cursor ← rows sql []
  let ages ← agesOf (((cursor.remaining.map List.length).getD 0) + 1) cursor
  same ages [int32 22, int32 14, int32 43]
  closedCursor sql

end Trial

end RecordMapping.Conformance
