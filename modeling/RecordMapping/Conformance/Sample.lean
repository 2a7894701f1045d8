/-
Module: RecordMapping.Conformance.Sample
Purpose: The tables and record types that scenarios work on.
Main exports: user, post, permission, userPosts, usersTable, createTables, userByName,
  userById, permissionsByUser
-/
import RecordMapping.Conformance.Trial

namespace RecordMapping.Conformance

/-!
The scenarios keep users, their posts and their permissions.  The tables are
created in the column types of each engine, and are dropped before, whether or
not they are there.  A user has an address, which is stored as JSON and leaves
out what is empty.
-/

/-- A field that is mapped to the column of its name. -/
def plain (column : String) (scalar : ScalarType) : Field :=
  ⟨⟨column, column, false, false, true⟩, .scalar ⟨scalar, false⟩⟩

/-- A field with a `NULL` that is mapped to the column of its name. -/
def nullable (column : String) (scalar : ScalarType) : Field :=
  ⟨⟨column, column, true, false, true⟩, .scalar ⟨scalar, true⟩⟩

/-- The members of an address. -/
def addressMembers : List String := ["street", "number", "city", "state", "country"]

/-- An address. -/
def address : Json.Shape :=
  .structure (addressMembers.map fun name => (name, .hiddenWhenBlank, .text))

/-- An address of which only the country is known. -/
def addressIn (country : String) : Cell :=
  .document (.object [("country", .text country)])

/-- A user. -/
def user : RecordType where
  typeName := "rowmap_tests::models::User"
  fields :=
    [plain "id" (.integer .uint64), plain "name" .text, plain "age" (.integer .int32),
     ⟨⟨"address", "address", false, true, true⟩, .json address⟩]
  unmapped := []
  footprint := 160

/-- A post of a user. -/
def post : RecordType where
  typeName := "rowmap_tests::models::Post"
  fields :=
    [plain "id" (.integer .int64), plain "user_id" (.integer .uint64),
     plain "title" .text]
  unmapped := []
  footprint := 40

/-- A permission of a user. -/
def permission : RecordType where
  typeName := "rowmap_tests::models::UserPermission"
  fields :=
    [plain "id" (.integer .int64), plain "user_id" (.integer .int64),
     plain "perm_id" (.integer .int64)]
  unmapped := []
  footprint := 24

/-- Users as targets. -/
def users : TargetType := .ofRecord user

/-- Users behind a box as targets. -/
def boxedUsers : TargetType :=
  { users with
    typeName := "alloc::boxed::Box<rowmap_tests::models::User>"
    footprint := 8 }

/-- Permissions as targets. -/
def permissions : TargetType := .ofRecord permission

/-- Users joined with their posts as targets. -/
def userPosts : TargetType :=
  .ofJoin "rowmap_tests::models::UserPost" [("user", "u", user), ("post", "p", post)] 200

/-- The table of users. -/
def usersTable : Table := .named "users"

/-- The table of posts. -/
def postsTable : Table := .named "posts"

/-- The table of permissions. -/
def permissionsTable : Table := .named "user_permissions"

/-- A 32-bit integer as a cell. -/
def int32 (number : Int) : Value := .ofInt .int32 number

/-- A record with values in place of blank ones. -/
def filled (type : RecordType) (values : List (String × Value)) : Record :=
  values.foldl
    (fun record (column, value) => record.withCell column (.value value))
    (.blank type)

/-- A new user with a name. -/
def userNamed (name : String) : Record := filled user [("name", .ofText name)]

/-- The values of a record, each field of which has a value. -/
def valuesOf (record : Record) : List Value := record.values.toOption.getD []

/-- The record of one part of a target. -/
def partOf (target : Target) (part : Nat) (type : RecordType) : Record :=
  (target[part]?).getD (.blank type)

/-- The user that a target begins with. -/
def userOf (target : Target) : Record := partOf target 0 user

/-- The record at an index of single-record targets. -/
def recordAt (targets : List Target) (index : Nat) (type : RecordType) : Record :=
  partOf ((targets[index]?).getD []) 0 type

/-- The user at an index of targets. -/
def userAt (targets : List Target) (index : Nat) : Record := recordAt targets index user

/-- A member of the address of a user. -/
def addressMember (record : Record) (member : String) : String :=
  match record.cell? "address" with
  | some (.document document) => ((document.member? member).bind (·.text?)).getD ""
  | _ => ""

/-- The text of an identifier, with its integer alone. -/
def describeInteger : Value → String
  | .integer _ (some number) => toString number.val
  | _ => ""

/-- A character inside quotes as it is described. -/
def describeCharacter (character : Char) : List Char :=
  match character with
  | '\x22' => ['\\', '\x22']
  | '\\' => ['\\', '\\']
  | '\n' => ['\\', 'n']
  | '\r' => ['\\', 'r']
  | '\t' => ['\\', 't']
  | '\x00' => ['\\', '0']
  | character =>
      if character.toNat < 0x20 ∨ 0x7F ≤ character.toNat ∧ character.toNat < 0xA0 then
        "\\u\x7b".toList ++ (Nat.toDigits 16 character.toNat) ++ ['\x7d']
      else [character]

/-- A text as it is described: in quotes. -/
def describeText (text : String) : String :=
  "\"" ++ String.ofList (text.toList.flatMap describeCharacter) ++ "\""

/-- A structure as it is described: its name and its members. -/
def describeMembers (name : String) (members : List (String × String)) : String :=
  name ++ " \x7b " ++
    ", ".intercalate (members.map fun (member, content) => member ++ ": " ++ content) ++
    " \x7d"

/-- The text content of a field. -/
def textOf (record : Record) (column : String) : String :=
  match record.value column with
  | .varchar (some content) => content
  | _ => ""

/-- A user as it is described. -/
def describeUser (record : Record) : String :=
  describeMembers "User"
    [("id", describeInteger (record.value "id")),
     ("name", describeText (textOf record "name")),
     ("age", describeInteger (record.value "age")),
     ("address", describeMembers "Address"
       (addressMembers.map fun member =>
         (member, describeText (addressMember record member))))]

/-- The declarations of the tables in the column types of an engine. -/
def tableDeclarations (engine : String) : List String :=
  if engine = "postgres" then
    ["CREATE TABLE users (id serial PRIMARY KEY, age INT, name VARCHAR(50), address jsonb)",
     "CREATE TABLE posts (id serial PRIMARY KEY, user_id INT, title VARCHAR(50))",
     "CREATE TABLE user_permissions (id serial PRIMARY KEY, user_id INT, perm_id INT, " ++
       "UNIQUE (user_id, perm_id))"]
  else if engine = "mysql" then
    ["CREATE TABLE users (id INT AUTO_INCREMENT PRIMARY KEY, age INT, name VARCHAR(50), " ++
       "address JSON)",
     "CREATE TABLE posts (id INT AUTO_INCREMENT PRIMARY KEY, user_id INT, title VARCHAR(50))",
     "CREATE TABLE user_permissions (id INT AUTO_INCREMENT PRIMARY KEY, user_id INT, " ++
       "perm_id INT, UNIQUE KEY (user_id, perm_id))"]
  else if engine = "sqlserver" then
    ["CREATE TABLE users (id INT IDENTITY(1,1) PRIMARY KEY, age INT, name VARCHAR(50), " ++
       "address NVARCHAR(4000))",
     "CREATE TABLE posts (id INT IDENTITY(1,1) PRIMARY KEY, user_id INT, title VARCHAR(50))",
     "CREATE TABLE user_permissions (id INT IDENTITY(1,1) PRIMARY KEY, user_id INT, " ++
       "perm_id INT, CONSTRAINT unique_1 UNIQUE (user_id, perm_id))"]
  else
    ["CREATE TABLE users (id INTEGER PRIMARY KEY, age INTEGER, name TEXT, address BLOB)",
     "CREATE TABLE posts (id INTEGER PRIMARY KEY, user_id INTEGER, title TEXT)",
     "CREATE TABLE user_permissions (id INTEGER PRIMARY KEY, user_id INTEGER, " ++
       "perm_id INTEGER, UNIQUE (user_id, perm_id))"]

namespace Trial

variable {σ : Type}

/-- Runs statements in order, up to the first that fails. -/
def execAll : List String → Trial σ (Outcome Unit)
  | [] => return .ok ()
  | sql :: rest => do
      match ← exec sql [] with
      | .ok _ => execAll rest
      | .error failure => return .error failure

/-- Creates the tables anew. -/
def createTables : Trial σ (Outcome Unit) := do
  for table in [usersTable, postsTable, permissionsTable] do
    let _ ← exec ("DROP TABLE " ++ table.name) []
  execAll (tableDeclarations (← dialect).name)

/-- Creates the tables anew, which has to succeed. -/
def freshTables : Trial σ Unit := do
  expect "Could not create the test tables" (← createTables)

/-- The user that a query finds first. -/
def findUser (column : String) (value : Value) : Trial σ (Outcome Record) := do
  let sql := "FROM users WHERE " ++ column ++ " = " ++ (← place 0)
  let (outcome, target) ← queryOne users users.blank sql [value]
  return outcome.map fun _ => userOf target

/-- The user with a name. -/
def userByName (name : String) : Trial σ (Outcome Record) :=
  findUser "name" (.ofText name)

/-- The user with an identifier. -/
def userById (id : Value) : Trial σ (Outcome Record) := findUser "id" id

/-- The permissions of a user. -/
def permissionsByUser (id : Int) : Trial σ (Outcome (List Record)) := do
  let sql := "FROM user_permissions WHERE user_id = " ++ (← place 0)
  let (outcome, targets) ← query permissions [] sql [.ofInt .int64 id]
  return outcome.map fun _ => targets.map fun target => partOf target 0 permission

end Trial

end RecordMapping.Conformance
