/-
Module: RecordMapping.Conformance.Reading
Purpose: Scenarios that read rows into lists of targets and into single targets.
Main exports: Trial.readMany, Trial.readOne
-/
import RecordMapping.Conformance.Sample

namespace RecordMapping.Conformance.Trial

/-!
Both scenarios fill the tables and read them back: no row, one row, several
rows, rows of joined tables.  At the end they ask for what has to fail.
-/

variable {σ : Type}

/-- Inserts a user by a statement, with an address in a country. -/
def addUser (remark name country : String) : Trial σ Unit := do
  let sql := "INSERT INTO users (name, age, address) VALUES (" ++ (← places 3) ++ ")"
  let text := "\x7b\"country\":\"" ++ country ++ "\"\x7d"
  let _ ← expect remark (← exec sql [.ofText name, int32 0, .ofText text])

/-- Inserts a post by a statement. -/
def addPost (userId : Value) (title : String) : Trial σ Unit := do
  let sql := "INSERT INTO posts (user_id, title) VALUES (" ++ (← places 2) ++ ")"
  let _ ← expect "Failed to insert a post" (← exec sql [userId, .ofText title])

/-- A complete query over joined tables, which no joined target can take. -/
def joinedSelect : String := "SELECT * FROM users u JOIN posts p ON p.user_id = u.id"

/-- Queries that begin with `FROM users WHERE name like`, in a given order. -/
def namesLike (order : String) : Trial σ String := do
  return "FROM users WHERE name like " ++ (← place 0) ++ " ORDER BY " ++ order

/-- A failure has to name the query that it belongs to. -/
def mentionsQuery (failure : Failure) : Trial σ Unit :=
  holds (mentions failure.render "error running query")
    "format!(\"\x7b:#\x7d\", error).contains(\"error running query\")"

/-- A failure has to be a misconfiguration. -/
def isMisconfiguration (failure : Failure) : Trial σ Unit :=
  holds failure.isConfiguration "is_config_error(&error)"

/-- A failure has to be a missing record. -/
def isMissingRecord (failure : Failure) : Trial σ Unit :=
  holds failure.isRecordNotFound "is_record_not_found(&error)"

/-- Joined targets read from users and posts.  Gives the users that were read
before. -/
def readJoined (first second : Record) : Trial σ (List Target) := do
  addPost (first.value "id") "João Post1"
  addPost (second.value "id") "Bia Post1"
  addPost (second.value "id") "Bia Post2"
  let sql := "FROM users u JOIN posts p ON p.user_id = u.id WHERE u.name like " ++
    (← place 0) ++ " ORDER BY u.id, p.id"
  let (outcome, joined) ← query userPosts [] sql [.ofText "% Garcia"]
  expect "Failed to query the joined tables" outcome
  same joined.length 3
  let postAt (index : Nat) := partOf ((joined[index]?).getD []) 1 post
  same (valuesOf (userAt joined 0)) (valuesOf first)
  same (textOf (postAt 0) "title") "João Post1"
  same (valuesOf (userAt joined 1)) (valuesOf second)
  same ((valuesOf (postAt 2)).drop 1) [second.value "id", .ofText "Bia Post2"]
  return joined

/-- Queries that have to fail. -/
def readMistakes (read joined : List Target) : Trial σ Unit := do
  let (outcome, read) ← query users read "SELECT * FROM not a valid query" []
  mentionsQuery (← refused "An invalid query must fail" outcome)
  let (outcome, _) ← query userPosts joined joinedSelect []
  let failure ← refused "A joined struct cannot be used with SELECT" outcome
  isMisconfiguration failure
  holds (mentions failure.headline "nested struct")
    "format!(\"\x7b\x7d\", error).contains(\"nested struct\")"
  let (outcome, _) ← query users read "FROM users WHERE name = 'Bia'" [int32 1]
  mentionsQuery (← refused "Unused parameters must be reported" outcome)

/-- Rows read into a list of targets. -/
def readMany : Trial σ Unit := do
  freshTables
  let (outcome, read) ← query users [users.blank] "FROM users WHERE id=1" []
  expect "Failed to query an empty table" outcome
  require read.isEmpty "The output vector must be cleared"
  addUser "Failed to insert Bia" "Bia" "BR"
  let sql := "FROM users WHERE name = " ++ (← place 0)
  let (outcome, read) ← query users read sql [.ofText "Bia"]
  expect "Failed to query Bia" outcome
  same read.length 1
  nonzero ((userAt read 0).value "id")
  same (textOf (userAt read 0) "name") "Bia"
  let bia := (userNamed "Bia").withCell "address" (addressIn "BR")
  same ((userAt read 0).value "address") (bia.value "address")
  addUser "Failed to insert a Garcia" "João Garcia" "US"
  addUser "Failed to insert a Garcia" "Bia Garcia" "BR"
  let sql ← namesLike "id"
  let (outcome, read) ← query users read sql [.ofText "% Garcia"]
  expect "Failed to query the Garcias" outcome
  same read.length 2
  let first := userAt read 0
  let second := userAt read 1
  same (textOf first "name") "João Garcia"
  same (addressMember first "country") "US"
  same (textOf second "name") "Bia Garcia"
  same (addressMember second "country") "BR"
  let (outcome, boxed) ← query boxedUsers [] sql [.ofText "% Garcia"]
  expect "Failed to query the Garcias into boxes" outcome
  same boxed.length 2
  same (valuesOf (userAt boxed 0)) (valuesOf first)
  same (valuesOf (userAt boxed 1)) (valuesOf second)
  let joined ← readJoined first second
  readMistakes read joined

/-- The first row read into a target. -/
def readOne : Trial σ Unit := do
  freshTables
  let (outcome, target) ← queryOne users users.blank "FROM users WHERE id=1" []
  isMissingRecord (← refused "Querying an empty table must fail" outcome)
  for name in ["Bia", "Bia Garcia", "João Garcia"] do
    let (outcome, _) ← insert usersTable (userNamed name)
    expect "Failed to insert a user" outcome
  let sql := "FROM users WHERE name = " ++ (← place 0)
  let (outcome, target) ← queryOne users target sql [.ofText "Bia"]
  expect "Failed to query Bia" outcome
  nonzero ((userOf target).value "id")
  same (textOf (userOf target) "name") "Bia"
  let (outcome, target) ←
    queryOne users target (← namesLike "id ASC") [.ofText "% Garcia"]
  expect "Failed to query the Garcias" outcome
  same (textOf (userOf target) "name") "Bia Garcia"
  let labels ← dialect
  let sql := "SELECT id AS " ++ labels.identifier "ID" ++ ", name AS " ++
    labels.identifier "NAME" ++ " FROM users WHERE name = " ++ (← place 0)
  let (outcome, target) ← queryOne users users.blank sql [.ofText "João Garcia"]
  expect "Failed to query upper case labels" outcome
  let found := userOf target
  nonzero (found.value "id")
  same (textOf found "name") "João Garcia"
  addPost (found.value "id") "João Post1"
  let sql := "FROM users u JOIN posts p ON p.user_id = u.id WHERE u.name = " ++ (← place 0)
  let (outcome, joined) ←
    queryOne userPosts userPosts.blank sql [.ofText "João Garcia"]
  expect "Failed to query the joined tables" outcome
  same ((userOf joined).value "id") (found.value "id")
  same ((partOf joined 1 post).value "user_id") (found.value "id")
  same (textOf (partOf joined 1 post) "title") "João Post1"
  let (outcome, _) ← queryOne users target "SELECT * FROM not a valid query" []
  mentionsQuery (← refused "An invalid query must fail" outcome)
  let (outcome, _) ← queryOne userPosts joined joinedSelect []
  isMisconfiguration (← refused "A joined struct cannot be used with SELECT" outcome)

end RecordMapping.Conformance.Trial
