/-
Module: RecordMapping.Sqlite.Connection
Purpose: SQLite databases opened by their address.
Main exports: openDatabase, engine, connection
-/
import RecordMapping.Sqlite.Run
import RecordMapping.Sqlite.Transaction

namespace RecordMapping.Sqlite

/-!
An address names a file behind the scheme, and options behind a question mark.
Only databases in memory can be opened here; there are no files, so every other
name is one of a file that cannot be opened.
-/

/-- What addresses begin with. -/
def scheme : String := "sqlite://"

/-- The name that stands for a database in memory. -/
def memoryName : String := ":memory:"

/-- The ways in which a database may be accessed. -/
def accessModes : List String := ["ro", "rw", "rwc", "memory"]

/-- The values of an option of an address, in order. -/
def optionValues (name : String) (options : List Char) : List String :=
  (options.splitOn '&').filterMap fun option =>
    let (key, value) := option.span (· != '=')
    if key = name.toList then some (String.ofList (value.drop 1)) else none

/-- Why the file of an address, given without its scheme, cannot be opened. -/
def openingFault? (path : String) : Option String :=
  let (name, options) := (path.toList.takeWhile (· != '#')).span (· != '?')
  let modes := optionValues "mode" (options.drop 1)
  match modes.find? fun mode => !accessModes.contains mode with
  | some mode => some s!"no such access mode: {mode}"
  | none =>
      if String.ofList name = memoryName ∨ modes.getLast? = some "memory" then none
      else some "unable to open database file"

/-- The path of an address. -/
def pathOf? (address : String) : Option String :=
  if scheme.toList.isPrefixOf address.toList then
    some (String.ofList (address.toList.drop scheme.length))
  else none

/-- The state of a new connection to the database with an address. -/
def openDatabase (address : String) : Outcome Session :=
  match pathOf? address with
  | none =>
      .error (.ofText
        s!"Expected sqlite connection url to start with `{scheme}`, got `{address}`")
  | some path =>
      match nulPosition? ("file:" ++ path) with
      | some position =>
          .error ((Failure.ofText (nulMessage position)).within
            (.note s!"Error while decoding connection URL: `{address}`"))
      | none =>
          match openingFault? path with
          | some message =>
              .error ((Failure.ofText message).within
                (.note s!"Could not open the database `{address}`"))
          | none => .ok .fresh

/-- The engine; taking back is a rollback, which has no effect outside of
transactions. -/
def engine : Engine Session where
  run := run
  takeBack := fun session => (run (.ofSql "ROLLBACK") session).changes.2

/-- A connection to an SQLite database. -/
def connection : Connection Session := engine.connection

end RecordMapping.Sqlite
