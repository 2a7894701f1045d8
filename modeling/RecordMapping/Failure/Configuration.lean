/-
Module: RecordMapping.Failure.Configuration
Purpose: The mistakes that are found before anything is sent to a database.
Main exports: ConfigFault, ConfigFault.message
-/
import RecordMapping.Value

namespace RecordMapping

/-!
A table descriptor, a record type, a joined layout, a delete key or a chunk
size can be wrong in itself.  Each way of being wrong is one constructor with
the names that locate it; the wording is kept in one place.
-/

/-- A misconfiguration. -/
inductive ConfigFault where
  /-- A table without a name. -/
  | emptyTableName
  /-- A table without identifying columns. -/
  | noIdColumn
  /-- An identifying column without a name. -/
  | emptyIdColumn
  /-- No dialect is known by the name of a driver. -/
  | unsupportedDriver (driver : String)
  /-- A record type that maps no field. -/
  | noMappedField (typeName : String)
  /-- A field mapped to a column without a name. -/
  | emptyColumn (field typeName : String)
  /-- A mapped field that is not public. -/
  | privateField (field typeName column : String)
  /-- A column mapped by an earlier field already. -/
  | duplicateColumn (column typeName : String)
  /-- A joined type without parts. -/
  | noJoinedPart (typeName : String)
  /-- A part without a table alias. -/
  | emptyAlias (field typeName : String)
  /-- An alias used by an earlier part already. -/
  | duplicateAlias (tableAlias typeName : String)
  /-- A complete statement where the selected columns have to be generated. -/
  | selectIntoNested
  /-- A record that gives more or fewer values than it maps fields. -/
  | valueCount (typeName : String) (expected actual : Nat)
  /-- A record to update that does not map an identifying column. -/
  | unmappedId (id typeName : String)
  /-- A record to update whose identifier is `NULL`. -/
  | nullId (id : String)
  /-- A record to update that changes no column. -/
  | nothingToUpdate (table typeName : String)
  /-- A single key value for a table with another number of identifying columns. -/
  | scalarKey (table : String) (count : Nat)
  /-- A key without a value for an identifying column. -/
  | missingKey (id : String)
  /-- A key record whose identifier is `NULL`. -/
  | nullKey (id : String)
  /-- A key value that identifies nothing. -/
  | invalidKey (id : String) (value : Value)
  /-- Chunks without rows. -/
  | emptyChunk
  /-- A misconfiguration reported by a caller in its own words. -/
  | other (text : String)
deriving Repr, DecidableEq

/-- The wording of a misconfiguration. -/
def ConfigFault.message : ConfigFault → String
  | .emptyTableName => "rowmap::Table: table name cannot be an empty string"
  | .noIdColumn => "rowmap::Table: at least one ID column is required"
  | .emptyIdColumn => "rowmap::Table: ID column cannot be an empty string"
  | .unsupportedDriver driver =>
      s!"unsupported driver `{driver}`, expected one of postgres, pgx, sqlite, sqlite3, mysql, sqlserver, mssql"
  | .noMappedField typeName =>
      s!"the struct `{typeName}` must have at least one field tagged with a column name"
  | .emptyColumn field typeName =>
      s!"the field `{field}` of `{typeName}` has an empty column tag"
  | .privateField field typeName column =>
      s!"all fields using the rowmap column tag must be public, but the field `{field}` of `{typeName}` tagged `{column}` is private"
  | .duplicateColumn column typeName =>
      s!"found two fields with the same column tag `{column}` in struct `{typeName}`"
  | .noJoinedPart typeName =>
      s!"the joined struct `{typeName}` must have at least one field tagged with a table alias"
  | .emptyAlias field typeName =>
      s!"the field `{field}` of the joined struct `{typeName}` has an empty table alias"
  | .duplicateAlias tableAlias typeName =>
      s!"found duplicate table alias `{tableAlias}` in the joined struct `{typeName}`"
  | .selectIntoNested =>
      "queries starting with SELECT cannot be scanned into a nested struct, " ++
        "this feature is only available for queries starting with FROM"
  | .valueCount typeName expected actual =>
      s!"`{typeName}` maps {expected} fields but returned {actual} values"
  | .unmappedId id typeName =>
      s!"missing required ID field `{id}` on record `{typeName}`"
  | .nullId id => s!"invalid value for required ID field `{id}`: nil"
  | .nothingToUpdate table typeName =>
      s!"nothing to update on table `{table}`: every non ID field of `{typeName}` is empty"
  | .scalarKey table count =>
      s!"a single value can only be used as key for tables with one ID column, but `{table}` has {count}"
  | .missingKey id => s!"missing required ID field `{id}`"
  | .nullKey id => s!"missing required ID field `{id}`: nil"
  | .invalidKey id value =>
      s!"invalid value for required ID field `{id}`: {value.text}"
  | .emptyChunk => "rowmap::ChunkParser: the chunk size must be greater than zero"
  | .other text => text

/-- The wording with the name of the library in front. -/
def ConfigFault.text (fault : ConfigFault) : String :=
  "rowmap: " ++ fault.message

end RecordMapping
