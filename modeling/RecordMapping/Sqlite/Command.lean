/-
Module: RecordMapping.Sqlite.Command
Purpose: The statements that the engine understands, read from their tokens.
Main exports: Name, Term, Command, Command.read
-/
import RecordMapping.Sqlite.Fault
import RecordMapping.Sqlite.Token

namespace RecordMapping.Sqlite

/-!
The engine understands the statements that this library builds, and the few
besides them that prepare a table or delimit a transaction.  A statement is
read from left to right.  The first token that it cannot go on with decides the
fault, and parameters are numbered in the order in which they are met.
-/

/-- An identifier; in double quotes it may stand for a text if it names
nothing. -/
structure Name where
  text : String
  quoted : Bool
deriving Repr, DecidableEq

/-- An identifier as it is written. -/
def Name.spelling (name : Name) : String :=
  if name.quoted then Token.quotedSpelling name.text else name.text

/-- What is selected, stored or compared. -/
inductive Term where
  /-- The parameter at an index of the statement. -/
  | parameter (index : Nat)
  /-- A column, perhaps behind the name of what it belongs to. -/
  | column (owner : Option Name) (name : Name)
deriving Repr, DecidableEq

/-- A member of a list of results. -/
inductive Selected where
  | all
  | term (content : Term) (label : Option Name)
deriving Repr, DecidableEq

/-- A table that rows are taken from, and the name it goes by. -/
structure Source where
  table : Name
  tableAlias : Option Name
deriving Repr, DecidableEq

/-- A statement. -/
inductive Command where
  | select (selected : List Selected) (source : Option Source)
      (conditions : List (Term × Term)) (order : List Term)
  /-- An insert of one row; without columns, of a row of defaults. -/
  | insert (table : Name) (columns : List Name) (terms : List Term)
      (returned : List Selected)
  | update (table : Name) (assignments : List (Name × Term))
      (conditions : List (Term × Term))
  | delete (table : Name) (conditions : List (Term × Term))
  | create (table key : Name) (columns : List Name)
  | drop (table : Name)
  | begin
  | commit
  | rollback
deriving Repr, DecidableEq

/-- The keywords that are no identifiers. -/
def reservedWords : List String :=
  ["add", "all", "alter", "and", "as", "autoincrement", "between", "case",
   "check", "collate", "commit", "constraint", "create", "default", "deferrable",
   "delete", "distinct", "drop", "else", "escape", "except", "exists", "foreign",
   "from", "group", "having", "in", "index", "insert", "intersect", "into", "is",
   "isnull", "join", "limit", "not", "nothing", "notnull", "null", "on", "or",
   "order", "primary", "references", "returning", "select", "set", "table",
   "then", "to", "transaction", "union", "unique", "update", "using", "values",
   "when", "where"]

/-- The tokens still to be read, and the number of parameters met. -/
structure Reading where
  tokens : List Token
  parameters : Nat
deriving Repr

/-- A reader of a part of a statement. -/
abbrev Reader := StateT Reading (Except Fault)

namespace Reader

/-- The fault of a statement that cannot go on. -/
def faultAt : List Token → Fault
  | [] => .incomplete
  | .unknown spelling :: _ => .unrecognized spelling
  | token :: _ => .unexpected token.spelling

/-- Refuses the next token. -/
def refuse {α : Type} : Reader α := fun reading => .error (faultAt reading.tokens)

/-- The next token, which stays to be read. -/
def peek : Reader (Option Token) := fun reading =>
  .ok (reading.tokens.head?, reading)

/-- Passes over a token. -/
def advance : Reader Unit := fun reading =>
  .ok ((), { reading with tokens := reading.tokens.drop 1 })

/-- Whether the next token has a property; if so, passes over it. -/
def skips (has : Token → Bool) : Reader Bool := do
  match ← peek with
  | some token =>
      if has token then
        advance
        return true
      else return false
  | none => return false

/-- Passes over a token that must have a property. -/
def require (has : Token → Bool) : Reader Unit := do
  if ← skips has then return () else refuse

/-- Passes over keywords. -/
def keywords : List String → Reader Unit
  | [] => return ()
  | keyword :: rest => do
      require (Token.isKeyword keyword)
      keywords rest

/-- Passes over a punctuation mark. -/
def mark (character : Char) : Reader Unit := require (· == .mark character)

/-- The identifier that a token is, if it is one. -/
def nameOf? : Token → Option Name
  | .word spelling =>
      if reservedWords.any (Text.sameColumn spelling) then none
      else some ⟨spelling, false⟩
  | .quoted name => some ⟨name, true⟩
  | _ => none

/-- An identifier, if one comes next. -/
def name? : Reader (Option Name) := do
  match (← peek).bind nameOf? with
  | some name =>
      advance
      return some name
  | none => return none

/-- An identifier. -/
def name : Reader Name := do
  match ← name? with
  | some found => return found
  | none => refuse

/-- A parameter or a column. -/
def term : Reader Term := do
  if ← skips (· == .parameter) then
    fun reading =>
      .ok (.parameter reading.parameters,
        { reading with parameters := reading.parameters + 1 })
  else
    let first ← name
    if ← skips (· == .mark '.') then return .column (some first) (← name)
    else return .column none first

/-- Items between separators, at most `limit + 1` of them. -/
def separatedWithin {α : Type} (isSeparator : Token → Bool) (item : Reader α) :
    Nat → Reader (List α)
  | 0 => do return [← item]
  | limit + 1 => do
      let first ← item
      if ← skips isSeparator then
        return first :: (← separatedWithin isSeparator item limit)
      else return [first]

/-- One or more items between separators. -/
def separated {α : Type} (isSeparator : Token → Bool) (item : Reader α) :
    Reader (List α) :=
  fun reading => separatedWithin isSeparator item reading.tokens.length reading

/-- One or more items between commas. -/
def commaList {α : Type} (item : Reader α) : Reader (List α) :=
  separated (· == .mark ',') item

/-- One or more items between commas, in parentheses. -/
def parenthesized {α : Type} (item : Reader α) : Reader (List α) := do
  mark '('
  let items ← commaList item
  mark ')'
  return items

/-- A member of a list of results. -/
def selected : Reader Selected := do
  if ← skips (· == .mark '*') then return .all
  else
    let content ← term
    if ← skips (Token.isKeyword "as") then return .term content (some (← name))
    else return .term content (← name?)

/-- Two terms that have to be equal. -/
def condition : Reader (Term × Term) := do
  let left ← term
  mark '='
  return (left, ← term)

/-- The conditions on rows; none if they are left out. -/
def conditions : Reader (List (Term × Term)) := do
  if ← skips (Token.isKeyword "where") then
    separated (Token.isKeyword "and") condition
  else return []

/-- A column and what is stored in it. -/
def assignment : Reader (Name × Term) := do
  let column ← name
  mark '='
  return (column, ← term)

/-- A table and the name it goes by. -/
def source : Reader Source := do
  let table ← name
  if ← skips (Token.isKeyword "as") then return ⟨table, some (← name)⟩
  else return ⟨table, ← name?⟩

/-- The rest of a query. -/
def select : Reader Command := do
  let members ← commaList selected
  if ← skips (Token.isKeyword "from") then
    let table ← source
    let filters ← conditions
    if ← skips (Token.isKeyword "order") then
      keywords ["by"]
      return .select members (some table) filters (← commaList term)
    else return .select members (some table) filters []
  else return .select members none [] []

/-- The results of an insert; none if they are left out. -/
def returned : Reader (List Selected) := do
  if ← skips (Token.isKeyword "returning") then commaList selected else return []

/-- The rest of an insert. -/
def insert : Reader Command := do
  keywords ["into"]
  let table ← name
  if ← skips (Token.isKeyword "default") then
    keywords ["values"]
    return .insert table [] [] (← returned)
  else
    let columns ← parenthesized name
    keywords ["values"]
    let terms ← parenthesized term
    return .insert table columns terms (← returned)

/-- The rest of an update. -/
def update : Reader Command := do
  let table ← name
  keywords ["set"]
  let assignments ← commaList assignment
  return .update table assignments (← conditions)

/-- The rest of a delete. -/
def delete : Reader Command := do
  keywords ["from"]
  let table ← name
  return .delete table (← conditions)

/-- The rest of a table declaration: the key, then columns without type. -/
def create : Reader Command := do
  keywords ["table"]
  let table ← name
  mark '('
  let key ← name
  keywords ["integer", "primary", "key"]
  let columns ← if ← skips (· == .mark ',') then commaList name else pure []
  mark ')'
  return .create table key columns

/-- The rest of the removal of a table. -/
def drop : Reader Command := do
  keywords ["table"]
  return .drop (← name)

/-- Each keyword that begins a statement, with the reader of the rest. -/
def commands : List (String × Reader Command) :=
  [("select", select), ("insert", insert), ("update", update),
   ("delete", delete), ("create", create), ("drop", drop),
   ("begin", pure .begin), ("commit", pure .commit), ("rollback", pure .rollback)]

/-- A statement up to its end. -/
def command : Reader Command := do
  let first ← peek
  match commands.find? fun entry => first.any (Token.isKeyword entry.1) with
  | none => refuse
  | some (_, rest) =>
      advance
      let found ← rest
      match ← peek with
      | none | some .stop => return found
      | some _ => refuse

end Reader

/-- The statement with the given tokens, and the number of its parameters. -/
def Command.read (tokens : List Token) : Except Fault (Command × Nat) :=
  match Reader.command ⟨tokens, 0⟩ with
  | .ok (command, reading) => .ok (command, reading.parameters)
  | .error fault => .error fault

end RecordMapping.Sqlite
