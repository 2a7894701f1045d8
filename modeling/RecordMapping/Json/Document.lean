/-
Module: RecordMapping.Json.Document
Purpose: JSON documents, their compact text, and outlines read as documents.
Main exports: Document, Document.render, Document.ofOutline?, Document.read,
  Document.member?
-/
import RecordMapping.Json.Leaf
import RecordMapping.Json.Outline

namespace RecordMapping.Json

/-!
A document read without further knowledge has the members of each object in
the order of their keys, one member to a key: of members with equal keys the
last one counts.  A document is written without any space.
-/

/-- A JSON document. -/
inductive Document where
  | null
  | truth (flag : Bool)
  | number (value : Number)
  | text (content : String)
  | list (items : List Document)
  | object (members : List (String × Document))
deriving Repr

namespace Document

instance : Inhabited Document := ⟨.null⟩

mutual

/-- The compact text of a document. -/
def render : Document → String
  | .null => "null"
  | .truth flag => if flag then "true" else "false"
  | .number value => value.render
  | .text content => quote content
  | .list items => "[" ++ ",".intercalate (renderItems items) ++ "]"
  | .object members => "\x7b" ++ ",".intercalate (renderMembers members) ++ "\x7d"

/-- The texts of the items of a list. -/
def renderItems : List Document → List String
  | [] => []
  | item :: rest => item.render :: renderItems rest

/-- The texts of the members of an object. -/
def renderMembers : List (String × Document) → List String
  | [] => []
  | (key, content) :: rest =>
      (quote key ++ ":" ++ content.render) :: renderMembers rest

end

/-- Members in the order of their keys with one more among them, which takes
the place of a member with its key. -/
def insertMember (key : String) (content : Document) :
    List (String × Document) → List (String × Document)
  | [] => [(key, content)]
  | (other, held) :: rest =>
      if key = other then (key, content) :: rest
      else if key < other then (key, content) :: (other, held) :: rest
      else (other, held) :: insertMember key content rest

/-- The greatest number of lists and objects that may be nested. -/
def depthLimit : Nat := 127

mutual

/-- The document of an outline whose leaves denote something and whose nesting
stays within `depth`. -/
def ofOutlineWithin (depth : Nat) : Outline → Option Document
  | .null => some .null
  | .truth flag => some (.truth flag)
  | .numeral written => written.value?.map .number
  | .text written => (unescape? written).map .text
  | .list items =>
      if depth = 0 then none else (ofItems (depth - 1) items).map .list
  | .object members =>
      if depth = 0 then none else (ofMembers (depth - 1) members []).map .object

/-- The documents of the items of a list. -/
def ofItems (depth : Nat) : List Outline → Option (List Document)
  | [] => some []
  | item :: rest =>
      match ofOutlineWithin depth item with
      | none => none
      | some document => (ofItems depth rest).map (document :: ·)

/-- The members of an object, entered one after another. -/
def ofMembers (depth : Nat) : List (List UInt8 × Outline) →
    List (String × Document) → Option (List (String × Document))
  | [], entered => some entered
  | (key, content) :: rest, entered =>
      match unescape? key, ofOutlineWithin depth content with
      | some key, some document => ofMembers depth rest (insertMember key document entered)
      | _, _ => none

end

/-- The document of an outline. -/
def ofOutline? (outline : Outline) : Option Document :=
  ofOutlineWithin depthLimit outline

/-- The document of a JSON text, or nothing when it is none. -/
def read (bytes : List UInt8) : Option Document :=
  (Outline.read bytes).bind ofOutline?

/-- The content of a text. -/
def text? : Document → Option String
  | .text content => some content
  | _ => none

/-- The content of a truth value. -/
def truth? : Document → Option Bool
  | .truth flag => some flag
  | _ => none

/-- The value of a number that is an integer. -/
def integer? : Document → Option Int
  | .number (.integer value) => some value
  | _ => none

/-- The value of a number that is a natural one. -/
def natural? (document : Document) : Option Nat :=
  document.integer?.bind Int.toNat?

/-- The items of a list. -/
def items? : Document → Option (List Document)
  | .list items => some items
  | _ => none

/-- The members of an object. -/
def members? : Document → Option (List (String × Document))
  | .object members => some members
  | _ => none

/-- The member of an object with the given key. -/
def member? (document : Document) (key : String) : Option Document :=
  document.members?.bind fun members =>
    (members.find? fun entry => entry.1 == key).map (·.2)

end Document

end RecordMapping.Json
