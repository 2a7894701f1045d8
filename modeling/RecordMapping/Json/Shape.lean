/-
Module: RecordMapping.Json.Shape
Purpose: The shapes that JSON fields of a record have, and documents read by them.
Main exports: Presence, Shape, Shape.blank, Shape.ofOutlineWithin, Shape.read
-/
import RecordMapping.Json.Document
import RecordMapping.Number.IntType

namespace RecordMapping.Json

/-!
A field that is stored as JSON has a shape.  Reading a text by a shape gives
the document in the one form that the field is written in: the members of a
structure stand in the order of its declaration, whatever their order in the
text, and members that it does not declare are gone.

A structure is read from an object or from a list of its members by position.
-/

/-- What it means that a member of a structure is missing. -/
inductive Presence where
  /-- The text is not of the shape. -/
  | required
  /-- In an object the member is empty; in a list it must not be missing. -/
  | optional
  /-- The member is blank. -/
  | defaulted
  /-- The member is blank, and is not written while it is. -/
  | hiddenWhenBlank
deriving Repr, DecidableEq

/-- The shape of a JSON field. -/
inductive Shape where
  | any
  | text
  | truth
  | integer (type : IntType)
  | optional (content : Shape)
  | listOf (item : Shape)
  | structure (members : List (String × Presence × Shape))
deriving Repr

/-- Whether a document is the blank one of the shapes that can be hidden. -/
def Document.isBlankText : Document → Bool
  | .text content => content.isEmpty
  | _ => false

/-- A member in front of further members, unless it is hidden. -/
def consMember (name : String) (presence : Presence) (content : Document)
    (rest : List (String × Document)) : List (String × Document) :=
  if presence = .hiddenWhenBlank ∧ content.isBlankText then rest
  else (name, content) :: rest

namespace Shape

mutual

/-- The document of a field that nothing has been stored in. -/
def blank : Shape → Document
  | .any => .null
  | .text => .text ""
  | .truth => .truth false
  | .integer _ => .number (.integer 0)
  | .optional _ => .null
  | .listOf _ => .list []
  | .structure members => .object (blankMembers members)

/-- The blank members of a structure. -/
def blankMembers : List (String × Presence × Shape) → List (String × Document)
  | [] => []
  | (name, presence, shape) :: rest =>
      consMember name presence shape.blank (blankMembers rest)

end

/-- The integer of a type that a numeral denotes: a numeral that denotes a
floating-point number is not one, even if its value is whole. -/
def integer? (type : IntType) (written : Numeral) : Option Document :=
  match written.value? with
  | some (.integer value) =>
      (type.ofInt? value).map fun number => .number (.integer number.val)
  | _ => none

/-- The keys of an object, read as text. -/
def keyed? (members : List (List UInt8 × Outline)) : Option (List (String × Outline)) :=
  members.mapM fun (key, content) => (unescape? key).map fun key => (key, content)

/-- Whether one of the names is the key of more than one member. -/
def repeats (names : List String) (members : List (String × Outline)) : Bool :=
  names.any fun name => 1 < (members.filter fun entry => entry.1 == name).length

mutual

/-- The document of a shape that an outline denotes, nested within `depth`. -/
def ofOutlineWithin (depth : Nat) : Shape → Outline → Option Document
  | .any, outline => Document.ofOutlineWithin depth outline
  | .text, .text written => (unescape? written).map .text
  | .truth, .truth flag => some (.truth flag)
  | .integer type, .numeral written => integer? type written
  | .optional _, .null => some .null
  | .optional content, outline => ofOutlineWithin depth content outline
  | .listOf item, .list items =>
      if depth = 0 then none
      else (items.mapM fun outline => ofOutlineWithin (depth - 1) item outline).map .list
  | .structure members, .object written =>
      if depth = 0 then none
      else
        match keyed? written with
        | none => none
        | some keyed =>
            if repeats (members.map (·.1)) keyed then none
            else (ofKeyed (depth - 1) members keyed).map .object
  | .structure members, .list items =>
      if depth = 0 then none
      else (ofPositions (depth - 1) members items).map .object
  | _, _ => none

/-- The members of a structure found by their keys. -/
def ofKeyed (depth : Nat) : List (String × Presence × Shape) →
    List (String × Outline) → Option (List (String × Document))
  | [], _ => some []
  | (name, presence, shape) :: rest, written => do
      let content ←
        match written.find? fun entry => entry.1 == name with
        | some (_, outline) => ofOutlineWithin depth shape outline
        | none =>
            match presence with
            | .required => none
            | .optional => some .null
            | .defaulted | .hiddenWhenBlank => some shape.blank
      let later ← ofKeyed depth rest written
      return consMember name presence content later

/-- The members of a structure taken by position. -/
def ofPositions (depth : Nat) : List (String × Presence × Shape) →
    List Outline → Option (List (String × Document))
  | [], items => if items.isEmpty then some [] else none
  | (name, presence, shape) :: rest, [] =>
      match presence with
      | .required | .optional => none
      | .defaulted | .hiddenWhenBlank =>
          (ofPositions depth rest []).map (consMember name presence shape.blank ·)
  | (name, presence, shape) :: rest, item :: items => do
      let content ← ofOutlineWithin depth shape item
      let later ← ofPositions depth rest items
      return consMember name presence content later

end

/-- The document of a shape that a JSON text denotes. -/
def read (shape : Shape) (bytes : List UInt8) : Option Document :=
  (Outline.read bytes).bind (ofOutlineWithin Document.depthLimit shape)

end Shape

end RecordMapping.Json
