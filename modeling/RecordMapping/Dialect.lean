/-
Module: RecordMapping.Dialect
Purpose: The SQL flavours of database engines.
Main exports: InsertMethod, PlaceholderStyle, Dialect, Dialect.identifier,
  Dialect.placeholder, Dialect.forDriver
-/
import RecordMapping.Failure
import RecordMapping.Text.Quoted

namespace RecordMapping

/-!
Engines agree on the statements used here except in four points: how an
identifier is quoted, how a parameter is marked, what an insert without
columns looks like, and how generated identifiers come back.
-/

/-- How a database hands back the identifiers that it generates. -/
inductive InsertMethod where
  /-- In a row, asked for at the end of the insert. -/
  | returning
  /-- In a row, asked for in front of the inserted values. -/
  | output
  /-- With the number of affected rows. -/
  | lastInsertId
  /-- Not at all. -/
  | noIdRetrieval
deriving Repr, DecidableEq

/-- Whether generated identifiers come back in a row. -/
def InsertMethod.returnsRow : InsertMethod → Bool
  | .returning | .output => true
  | .lastInsertId | .noIdRetrieval => false

/-- How parameters are marked in a statement. -/
inductive PlaceholderStyle where
  /-- By a question mark, in order. -/
  | mark
  /-- By their number from one on, after a lead. -/
  | numbered (lead : String)
deriving Repr, DecidableEq

/-- The SQL flavour of an engine. -/
structure Dialect where
  name : String
  insertMethod : InsertMethod
  placeholders : PlaceholderStyle
  quotes : Text.Quotes
  defaultValues : String
deriving Repr, DecidableEq

namespace Dialect

/-- A quoted identifier. -/
def identifier (dialect : Dialect) (name : String) : String :=
  dialect.quotes.quote name

/-- The mark of the parameter at an index, counted from zero. -/
def placeholder (dialect : Dialect) (index : Nat) : String :=
  match dialect.placeholders with
  | .mark => "?"
  | .numbered lead => lead ++ toString (index + 1)

/-- Double quotes on either side. -/
def doubleQuotes : Text.Quotes := ⟨'\x22', '\x22'⟩

/-- The body of an insert without columns in standard SQL. -/
def standardDefaultValues : String := "\nDEFAULT VALUES"

/-- PostgreSQL. -/
def postgres : Dialect :=
  ⟨"postgres", .returning, .numbered "$", doubleQuotes, standardDefaultValues⟩

/-- SQLite. -/
def sqlite : Dialect :=
  ⟨"sqlite3", .returning, .mark, doubleQuotes, standardDefaultValues⟩

/-- MySQL. -/
def mysql : Dialect :=
  ⟨"mysql", .lastInsertId, .mark, ⟨'\x60', '\x60'⟩, " () VALUES ()"⟩

/-- SQL Server. -/
def sqlserver : Dialect :=
  ⟨"sqlserver", .output, .numbered "@p", ⟨'[', ']'⟩, standardDefaultValues⟩

/-- Standard SQL of an engine that generates identifiers and keeps them to
itself. -/
def withoutIds : Dialect :=
  ⟨"noid", .noIdRetrieval, .mark, doubleQuotes, standardDefaultValues⟩

/-- The dialect of a driver by one of its names. -/
def forDriver (driver : String) : Outcome Dialect :=
  if driver = "postgres" ∨ driver = "pgx" then .ok postgres
  else if driver = "sqlite" ∨ driver = "sqlite3" then .ok sqlite
  else if driver = "mysql" then .ok mysql
  else if driver = "sqlserver" ∨ driver = "mssql" then .ok sqlserver
  else misconfigured (.unsupportedDriver driver)

end Dialect

end RecordMapping
