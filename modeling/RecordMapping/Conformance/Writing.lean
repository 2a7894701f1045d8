/-
Module: RecordMapping.Conformance.Writing
Purpose: Scenarios that insert, delete and update records.
Main exports: Trial.insertRecords, Trial.deleteRecords, Trial.updateRecords
-/
import RecordMapping.Conformance.Reading

namespace RecordMapping.Conformance

/-!
Every scenario reads back what it wrote.  What is generated by the database has
to come back in the record wherever the dialect can tell it.  At the end the
scenarios ask for what has to fail before anything is sent.
-/

/-- A user without identifier, known by name and age. -/
def userByNameType : RecordType where
  typeName := "rowmap_tests::insert::UserByName"
  fields := [plain "name" .text, plain "age" (.integer .int32)]
  unmapped := []
  footprint := 32

/-- A user with a column that no table has. -/
def nonExistingType : RecordType where
  typeName := "rowmap_tests::insert::NonExisting"
  fields :=
    [plain "id" .text,
     ⟨⟨"non_existing_column", "non_existing", false, false, true⟩,
       .scalar ⟨.integer .int32, false⟩⟩,
     plain "name" .text]
  unmapped := []
  footprint := 56

/-- A user with an identifier that no table has. -/
def brokenIdType : RecordType where
  typeName := "rowmap_tests::insert::BrokenId"
  fields :=
    [⟨⟨"id", "non_existing_id", false, false, true⟩, .scalar ⟨.text, false⟩⟩,
     plain "age" (.integer .int32), plain "name" .text]
  unmapped := []
  footprint := 56

/-- A name alone. -/
def nameOnlyType : RecordType where
  typeName := "rowmap_tests::delete::NameOnly"
  fields := [plain "name" .text]
  unmapped := []
  footprint := 24

/-- A name with an identifier that may be `NULL`. -/
def nullableIdType : RecordType where
  typeName := "rowmap_tests::delete::NullableId"
  fields := [nullable "id" (.integer .int32), plain "name" .text]
  unmapped := []
  footprint := 32

/-- A name with an identifier. -/
def zeroIdType : RecordType where
  typeName := "rowmap_tests::delete::ZeroId"
  fields := [plain "id" (.integer .int32), plain "name" .text]
  unmapped := []
  footprint := 32

/-- A user whose age may be left as it is. -/
def partialUserType : RecordType where
  typeName := "rowmap_tests::update::PartialUser"
  fields :=
    [plain "id" (.integer .uint64), plain "name" .text, nullable "age" (.integer .int32)]
  unmapped := []
  footprint := 40

/-- An integer field as a cell of its type. -/
def int64 (number : Int) : Value := .ofInt .int64 number

/-- A new permission. -/
def newPermission (userId permissionId : Int) : Record :=
  filled permission [("user_id", int64 userId), ("perm_id", int64 permissionId)]

namespace Trial

variable {σ : Type}

/-- A message has to contain parts; the condition is reported as it is written. -/
def mentionsAll (message : String) (parts : List String) (written : String) : Trial σ Unit :=
  holds (parts.all (mentions message)) written

/-! ### Inserts -/

/-- An insert under two identifying columns, of which none is written back by
the last identifier. -/
def insertUnderTwoIds : Trial σ Unit := do
  let record := filled user [("name", .ofText "No ID returned"), ("age", int32 3434)]
  let (outcome, record) ← insert ⟨"users", ["id", "name"]⟩ record
  expect "Failed to insert with two ID columns" outcome
  same (record.value "id") (.ofInt .uint64 0)
  let found ← expect "Failed to read the user back" (← userByName "No ID returned")
  same (found.value "age") (int32 3434)

/-- Inserts of records with an identifier of their own and without any. -/
def insertByName : Trial σ Unit := do
  let preset := filled userByNameType
    [("name", .ofText "Preset Name"), ("age", int32 5455)]
  let (outcome, _) ← insert ⟨"users", ["name"]⟩ preset
  expect "Failed to insert with a preset ID" outcome
  let found ← expect "Failed to read the preset user back" (← userByName "Preset Name")
  same (found.value "age") (int32 5455)
  let unmapped := filled userByNameType
    [("name", .ofText "Inserted With no ID"), ("age", int32 42)]
  let (outcome, _) ← insert usersTable unmapped
  expect "Failed to insert without ID field" outcome
  let found ← expect "Failed to read the user back" (← userByName "Inserted With no ID")
  nonzero (found.value "id")
  same (found.value "age") (int32 42)

/-- The only permission of a user after an insert of it. -/
def insertPermission (remark : String) (userId : Int) : Trial σ (Record × Record) := do
  let (outcome, record) ←
    insert ⟨"user_permissions", ["id", "user_id", "perm_id"]⟩ (newPermission userId 42)
  expect remark outcome
  let stored ← expect "Failed to read the permissions back" (← permissionsByUser userId)
  same stored.length 1
  let found := (stored[0]?).getD (.blank permission)
  same [found.value "user_id", found.value "perm_id"] [int64 userId, int64 42]
  return (record, found)

/-- Inserts that have to fail. -/
def insertMistakes : Trial σ Unit := do
  let (outcome, _) ← insert ⟨"users", [""]⟩ (.blank user)
  let message := (← refused "An empty ID column must be rejected" outcome).headline
  mentionsAll message ["rowmap::Table", "ID"]
    "message.contains(\"rowmap::Table\") && message.contains(\"ID\")"
  mentionsAll message ["empty string"] "message.contains(\"empty string\")"
  let (outcome, _) ← insert (.named "") (.blank user)
  let message := (← refused "An empty table name must be rejected" outcome).headline
  mentionsAll message ["rowmap::Table", "table name"]
    "message.contains(\"rowmap::Table\") && message.contains(\"table name\")"
  let record := filled nonExistingType
    [("non_existing", int32 42), ("name", .ofText "fake-name")]
  let (outcome, _) ← insert usersTable record
  let message := (← refused "A column missing in the database must fail" outcome).render
  require (mentions message "column") message
  require (mentions message "non_existing") message

/-- Inserts under an identifier that the table does not have, whatever comes of
them. -/
def insertBrokenIds : Trial σ Unit := do
  let record := filled brokenIdType [("age", int32 42), ("name", .ofText "fake-name")]
  let _ ← insert usersTable record
  let _ ← insert ⟨"users", ["non_existing_id"]⟩ record

/-- Records inserted and read back. -/
def insertRecords : Trial σ Unit := do
  freshTables
  let method := (← dialect).insertMethod
  let record := (userNamed "Fernanda").withCell "address" (addressIn "Brazil")
  let (outcome, record) ← insert usersTable record
  expect "Failed to insert Fernanda" outcome
  nonzero (record.value "id")
  let found ← expect "Failed to read Fernanda back" (← userById (record.value "id"))
  same (valuesOf found) (valuesOf record)
  if method = .lastInsertId then insertUnderTwoIds
  insertByName
  let _ ← insertPermission "Failed to insert into a composite key table" 1
  let (record, stored) ← insertPermission "Failed to insert partially provided keys" 2
  if method.returnsRow then
    nonzero (record.value "id")
    same (stored.value "id") (record.value "id")
  else same (record.value "id") (int64 0)
  insertMistakes
  insertBrokenIds

/-! ### Deletes -/

/-- A user after an insert, which can be read back. -/
def insertedUser (name : String) : Trial σ Record := do
  let (outcome, record) ← insert usersTable (userNamed name)
  expect "Failed to insert a user" outcome
  nonzero (record.value "id")
  let found ← expect "Failed to read the user back" (← userById (record.value "id"))
  same (found.value "id") (record.value "id")
  return record

/-- Deletes the first of two users by a key. -/
def deleteOneOfTwo (remark : String) (keyOf : Record → Outcome DeleteKey) :
    Trial σ Unit := do
  let deleted ← insertedUser "Fernanda"
  let kept ← insertedUser "Won't be deleted"
  expect remark (← delete usersTable (keyOf deleted))
  isMissingRecord
    (← expectFailure "The user must be deleted" describeUser
      (← userById (deleted.value "id")))
  let found ← expect "The other user must be kept" (← userById (kept.value "id"))
  same (textOf found "name") "Won't be deleted"

/-- The table of permissions under a key of two columns. -/
def pairedPermissions : Table := ⟨"user_permissions", ["user_id", "perm_id"]⟩

/-- A permission after an insert. -/
def insertedPermission (userId permissionId : Int) : Trial σ Record := do
  let (outcome, record) ← insert permissionsTable (newPermission userId permissionId)
  expect "Failed to insert a permission" outcome
  nonzero (record.value "id")
  return record

/-- Deletes one of two permissions of a user by a key of two columns. -/
def deletePermission (remark : String) (userId : Int)
    (keyOf : Record → Outcome DeleteKey) : Trial σ Unit := do
  let kept ← insertedPermission userId 44
  let deleted ← insertedPermission userId 42
  expect remark (← delete pairedPermissions (keyOf deleted))
  let stored ← expect "Failed to read the permissions back" (← permissionsByUser userId)
  same (stored.map valuesOf) [valuesOf kept]

/-- The message of a delete that has to fail. -/
def deleteMessage (remark : String) (table : Table) (key : Outcome DeleteKey) :
    Trial σ String := do
  return (← refused remark (← delete table key)).headline

/-- Deletes by keys that identify nothing. -/
def deleteMistakes : Trial σ Unit := do
  let name := ("name", Value.ofText "fake-name")
  let message ← deleteMessage "A missing ID must be rejected" usersTable
    (DeleteKey.ofRecord (filled nameOnlyType [name]))
  mentionsAll message ["missing required", "id"]
    "message.contains(\"missing required\") && message.contains(\"id\")"
  let message ← deleteMessage "A NULL ID must be rejected" usersTable
    (DeleteKey.ofRecord (filled nullableIdType [name]))
  holds (mentions message "missing required" &&
      "`id`: nil".toList.isSuffixOf message.toList)
    "message.contains(\"missing required\") && message.ends_with(\"`id`: nil\")"
  let message ← deleteMessage "A zero ID must be rejected" usersTable
    (DeleteKey.ofRecord (filled zeroIdType [name]))
  mentionsAll message ["invalid value", "0"]
    "message.contains(\"invalid value\") && message.contains(\"0\")"
  let message ← deleteMessage "A missing perm_id must be rejected" pairedPermissions
    (.ok (.byFields [("user_id", int32 1), name]))
  mentionsAll message ["missing required", "perm_id"]
    "message.contains(\"missing required\") && message.contains(\"perm_id\")"
  let message ← deleteMessage "A NULL perm_id must be rejected" pairedPermissions
    (.ok (.byFields [("user_id", int32 1), ("perm_id", .null)]))
  mentionsAll message ["invalid value", "nil"]
    "message.contains(\"invalid value\") && message.contains(\"nil\")"
  mentionsAll message ["perm_id"] "message.contains(\"perm_id\")"
  let message ← deleteMessage "A zero perm_id must be rejected" pairedPermissions
    (.ok (.byFields [("user_id", int32 1), ("perm_id", int32 0)]))
  mentionsAll message ["invalid value", "perm_id"]
    "message.contains(\"invalid value\") && message.contains(\"perm_id\")"

/-- Deletes from tables that are wrong in themselves. -/
def deleteFromWrongTables : Trial σ Unit := do
  let record := filled user [("id", .ofInt .uint64 42)]
  let failure ← refused "An empty ID column must be rejected"
    (← delete ⟨"users", [""]⟩ (DeleteKey.ofRecord record))
  isMisconfiguration failure
  mentionsAll failure.headline ["rowmap::Table", "empty string"]
    "message.contains(\"rowmap::Table\") && message.contains(\"empty string\")"
  let message ← deleteMessage "An empty table name must be rejected" (.named "")
    (DeleteKey.ofRecord (.blank user))
  mentionsAll message ["table name", "empty string"]
    "message.contains(\"table name\") && message.contains(\"empty string\")"

/-- Records deleted by every kind of key. -/
def deleteRecords : Trial σ Unit := do
  freshTables
  deleteOneOfTwo "Failed to delete by ID" fun record => .ok (.byScalar (record.value "id"))
  deleteOneOfTwo "Failed to delete by record" DeleteKey.ofRecord
  deletePermission "Failed to delete by composite record" 1 DeleteKey.ofRecord
  deletePermission "Failed to delete by composite map" 2 fun _ =>
    .ok (.byFields [("user_id", int32 2), ("perm_id", int32 42)])
  isMissingRecord
    (← refused "Deleting a missing row must fail"
      (← delete usersTable (.ok (.byScalar (int32 4200)))))
  deleteMistakes
  deleteFromWrongTables

/-! ### Updates -/

/-- A user inserted by a statement and read back. -/
def rawUser (name : String) (age : Int) : Trial σ Record := do
  let sql := "INSERT INTO users (name, age) VALUES (" ++ (← places 2) ++ ")"
  let _ ← expect "Failed to insert a user" (← exec sql [.ofText name, int32 age])
  let found ← expect "Failed to read the user back" (← userByName name)
  nonzero (found.value "id")
  return found

/-- The user of a record after an update, read back. -/
def updatedUser (remark : String) (record : Record) : Trial σ Record := do
  expect remark (← update usersTable record)
  expect "Failed to read the user back" (← userById (record.value "id"))

/-- Updates of rows and tables that are not there. -/
def updateMistakes : Trial σ Unit := do
  let thayane (id : Int) :=
    filled user [("id", .ofInt .uint64 id), ("name", .ofText "Thayane")]
  isMissingRecord
    (← refused "Updating a missing row must fail" (← update usersTable (thayane 4200)))
  let failure ← refused "Updating a missing table must fail"
    (← update (.named "non_existing_table") (thayane 1))
  mentionsAll failure.render ["non_existing_table"]
    "format!(\"\x7b:#\x7d\", error).contains(\"non_existing_table\")"

/-- Records updated and read back; a `NULL` leaves its column as it was. -/
def updateRecords : Trial σ Unit := do
  freshTables
  let found ← rawUser "Letícia" 0
  let found ← updatedUser "Failed to update Letícia"
    (filled user [("id", found.value "id"), ("name", .ofText "Thayane")])
  same (textOf found "name") "Thayane"
  let found ← rawUser "Letícia 22" 22
  let id := found.value "id"
  let found ← updatedUser "Failed to update partially"
    (filled partialUserType [("id", id)])
  same (textOf found "name") ""
  same (found.value "age") (int32 22)
  let found ← updatedUser "Failed to update every field"
    (filled partialUserType [("id", id), ("name", .ofText "Thay"), ("age", int32 42)])
  same (textOf found "name") "Thay"
  same (found.value "age") (int32 42)
  updateMistakes

end Trial

end RecordMapping.Conformance
