/-
Module: RecordMapping.Record.Declaration
Purpose: Fields as they are declared, and what their attributes make of them.
Main exports: DeclaredType, Attribute, FieldDeclaration, readAttributes,
  FieldDeclaration.mapping, FieldDeclaration.part
-/
import RecordMapping.Record.Metadata

namespace RecordMapping

/-!
A record type and a joined type are declared as structures whose fields carry
attributes.  Only the attributes of this library count, and they are read one
after the other.  The items of each are read from left to right, a later one
replaces an earlier one of its kind, and the first that cannot be read decides
the fault.
-/

/-- An argument of a generic type. -/
inductive TypeArgument where
  | lifetime (name : String)
  | type (text : String)
  /-- A constant, an associated item or a bound on one. -/
  | other (text : String)
deriving Repr, DecidableEq

/-- A part of the path of a type, with its generic arguments. -/
structure TypeSegment where
  name : String
  arguments : List TypeArgument
deriving Repr, DecidableEq

/-- The type that a field is declared with. -/
inductive DeclaredType where
  | path (segments : List TypeSegment)
  | reference (target : DeclaredType)
  | pointer (target : DeclaredType)
  | array (item : DeclaredType)
  | slice (item : DeclaredType)
  | tuple
  /-- A type in parentheses of its own. -/
  | parenthesized (inner : DeclaredType)
  /-- A type that a macro has put in for one of its variables. -/
  | grouped (inner : DeclaredType)
  /-- Any other form: a function, a bound, the never type, a macro or `_`. -/
  | unnamed (text : String)
deriving Repr

/-- What an attribute item is set to. -/
inductive ItemValue where
  | text (content : String)
  /-- A literal that is no text, or an expression. -/
  | other
deriving Repr, DecidableEq

/-- An item of an attribute: the path that names it and what it is set to. -/
structure AttributeItem where
  path : List String
  value : Option ItemValue
deriving Repr, DecidableEq

/-- An attribute of a field. -/
structure Attribute where
  path : List String
  items : List AttributeItem
deriving Repr, DecidableEq

/-- A field as it is declared. -/
structure FieldDeclaration where
  name : Option String
  isPublic : Bool
  type : DeclaredType
  attributes : List Attribute
deriving Repr

/-- A fault of a declaration. -/
inductive DeclarationFault where
  /-- A field of a record type without a name. -/
  | unnamedField
  /-- A column that is not set to a text. -/
  | columnForm
  /-- An item that a mapped field does not have. -/
  | unknownItem (path : List String)
  /-- A value behind an item that has none. -/
  | unexpectedValue
  /-- A field stored as JSON in no column. -/
  | jsonWithoutColumn
  /-- A field of a joined type without a name. -/
  | unnamedPart
  /-- A part held behind a reference or a pointer. -/
  | referencedPart
  /-- A part held inside another type. -/
  | wrappedPart (wrapper : String)
  /-- An alias that is not set to a text. -/
  | tableForm
  /-- An item that a part does not have. -/
  | unknownPartItem
  /-- A part without an alias. -/
  | missingAlias (field : String)
deriving Repr, DecidableEq

/-- The wording of a fault of a declaration. -/
def DeclarationFault.message : DeclarationFault → String
  | .unnamedField => "Record fields must be named"
  | .columnForm =>
      "Error while parsing `column`, use it like: `#[rowmap(column = \"my_column\")]`"
  | .unknownItem path =>
      let name :=
        match path with
        | [name] => name
        | _ => ""
      s!"Unknown attribute `{name}` inside rowmap macro"
  | .unexpectedValue => "expected `,`"
  | .jsonWithoutColumn =>
      "`json` requires a column, use it like: `#[rowmap(column = \"my_column\", json)]`"
  | .unnamedPart => "Joined fields must be named"
  | .referencedPart => "Joined fields must be records held by value, not references"
  | .wrappedPart wrapper =>
      s!"Joined fields must be records held by value, not `{wrapper}`"
  | .tableForm =>
      "Error while parsing `table`, use it like: `#[rowmap(table = \"alias\")]`"
  | .unknownPartItem =>
      "Unknown attribute inside rowmap macro, joined fields only accept `table`"
  | .missingAlias field =>
      s!"The field `{field}` of a joined struct must be tagged with its table alias: " ++
        "`#[rowmap(table = \"alias\")]`"

/-- The path of the attributes that count. -/
def Attribute.ownPath : List String := ["rowmap"]

namespace DeclaredType

/-- The last part of the path of a type that has one. -/
def lastSegment? : DeclaredType → Option TypeSegment
  | .path segments => segments.getLast?
  | _ => none

/-- Whether a type is an option of some type. -/
def isOption (type : DeclaredType) : Bool :=
  type.lastSegment?.any fun segment =>
    segment.name == "Option" &&
      segment.arguments.any fun argument =>
        match argument with
        | .type _ => true
        | .lifetime _ | .other _ => false

/-- The types that hold a part and are not records themselves. -/
def wrappers : List String := ["Option", "Box", "Rc", "Arc"]

/-- Why a part cannot be held as a type. -/
def partFault? : DeclaredType → Option DeclarationFault
  | .reference _ | .pointer _ => some .referencedPart
  | type =>
      (type.lastSegment?.filter fun segment => wrappers.contains segment.name).map
        fun segment => .wrappedPart segment.name

end DeclaredType

/-- What the items of a mapped field have said so far. -/
structure ColumnTag where
  column : Option String
  json : Bool
deriving Repr, DecidableEq

/-- Takes in one more item of a mapped field. -/
def ColumnTag.extend (tag : ColumnTag) (item : AttributeItem) :
    Except DeclarationFault ColumnTag :=
  match item.path, item.value with
  | ["column"], some (.text column) => .ok { tag with column := some column }
  | ["column"], _ => .error .columnForm
  | ["json"], none => .ok { tag with json := true }
  | ["json"], some _ => .error .unexpectedValue
  | path, _ => .error (.unknownItem path)

/-- The alias after one more item of a part. -/
def extendAlias (_ : Option String) (item : AttributeItem) :
    Except DeclarationFault (Option String) :=
  match item.path, item.value with
  | ["table"], some (.text tableAlias) => .ok (some tableAlias)
  | ["table"], _ => .error .tableForm
  | _, _ => .error .unknownPartItem

/-- A part of a joined type as it is declared. -/
structure PartDeclaration where
  field : String
  tableAlias : String
deriving Repr, DecidableEq

/-- Takes in the items of one more attribute, if it is one that counts. -/
def Attribute.extend {σ : Type} (take : σ → AttributeItem → Except DeclarationFault σ)
    (state : σ) (tag : Attribute) : Except DeclarationFault σ :=
  if tag.path = Attribute.ownPath then tag.items.foldlM take state else .ok state

/-- What attributes have said when they are all taken in. -/
def readAttributes {σ : Type} (take : σ → AttributeItem → Except DeclarationFault σ)
    (start : σ) (attributes : List Attribute) : Except DeclarationFault σ :=
  attributes.foldlM (Attribute.extend take) start

namespace FieldDeclaration

/-- How a field of a record type is mapped; nothing for a field without items. -/
def mapping (declaration : FieldDeclaration) :
    Except DeclarationFault (Option FieldDef) := do
  match declaration.name with
  | none => .error .unnamedField
  | some name =>
      let tag ← readAttributes ColumnTag.extend ⟨none, false⟩ declaration.attributes
      match tag.column with
      | none => if tag.json then .error .jsonWithoutColumn else return none
      | some column =>
          return some {
            field := name
            column := column
            nullable := declaration.type.isOption
            json := tag.json
            isPublic := declaration.isPublic }

/-- The part that a field of a joined type is. -/
def part (declaration : FieldDeclaration) : Except DeclarationFault PartDeclaration := do
  match declaration.name, declaration.type.partFault? with
  | none, _ => .error .unnamedPart
  | some _, some fault => .error fault
  | some name, none =>
      match ← readAttributes extendAlias none declaration.attributes with
      | some tableAlias => return ⟨name, tableAlias⟩
      | none => .error (.missingAlias name)

end FieldDeclaration

end RecordMapping
