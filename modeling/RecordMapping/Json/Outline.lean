/-
Module: RecordMapping.Json.Outline
Purpose: The tree of a JSON document whose texts and numerals are still as written.
Main exports: Outline, Outline.read
-/
import RecordMapping.Json.Token

namespace RecordMapping.Json

/-!
A document is first checked against the grammar as a whole.  What comes out is
an outline: the nesting is known, the leaves are as written.  A reader that
wants a value decides what a leaf denotes; a member that it ignores was
checked here and is not looked at again, however deep it is.

The grammar is a stack of open lists and objects over the sequence of tokens,
so reading takes one step per token.
-/

/-- A document by its nesting. -/
inductive Outline where
  | null
  | truth (flag : Bool)
  | numeral (written : Numeral)
  | text (written : List UInt8)
  | list (items : List Outline)
  | object (members : List (List UInt8 × Outline))
deriving Repr

namespace Outline

/-- A list or an object that has been opened, with what it holds so far, the
last first. -/
inductive Frame where
  | list (items : List Outline)
  | object (members : List (List UInt8 × Outline)) (key : List UInt8)

/-- What the grammar admits next. -/
inductive Expecting where
  /-- A value. -/
  | value
  /-- A value, or the end of a list just opened. -/
  | firstItem
  /-- A key, or the end of an object just opened. -/
  | firstKey (members : List (List UInt8 × Outline))
  /-- A key after a comma. -/
  | key (members : List (List UInt8 × Outline))
  /-- The colon after a key. -/
  | colon (members : List (List UInt8 × Outline)) (key : List UInt8)
  /-- A comma or the end of what is open, after a complete value. -/
  | after (complete : Outline)

/-- The value that a token is by itself. -/
def ofToken? : Token → Option Outline
  | .null => some .null
  | .truth flag => some (.truth flag)
  | .numeral written => some (.numeral written)
  | .text written => some (.text written)
  | _ => none

/-- One step of the grammar: what is expected after a token, and what is open. -/
def step (expecting : Expecting) (stack : List Frame) (token : Token) :
    Option (Expecting × List Frame) :=
  match expecting, token, stack with
  | .value, .openList, _ | .firstItem, .openList, _ =>
      some (.firstItem, .list [] :: stack)
  | .value, .openObject, _ | .firstItem, .openObject, _ =>
      some (.firstKey [], stack)
  | .firstItem, .closeList, .list _ :: outer => some (.after (.list []), outer)
  | .value, leaf, _ | .firstItem, leaf, _ =>
      (ofToken? leaf).map fun complete => (.after complete, stack)
  | .firstKey _, .closeObject, _ => some (.after (.object []), stack)
  | .firstKey members, .text key, _ | .key members, .text key, _ =>
      some (.colon members key, stack)
  | .colon members key, .colon, _ => some (.value, .object members key :: stack)
  | .after complete, .comma, .list items :: outer =>
      some (.value, .list (complete :: items) :: outer)
  | .after complete, .closeList, .list items :: outer =>
      some (.after (.list (complete :: items).reverse), outer)
  | .after complete, .comma, .object members key :: outer =>
      some (.key ((key, complete) :: members), outer)
  | .after complete, .closeObject, .object members key :: outer =>
      some (.after (.object ((key, complete) :: members).reverse), outer)
  | _, _, _ => none

/-- The document that the tokens form. -/
def build (expecting : Expecting) (stack : List Frame) : List Token → Option Outline
  | [] =>
      match expecting, stack with
      | .after complete, [] => some complete
      | _, _ => none
  | token :: rest =>
      match step expecting stack token with
      | none => none
      | some (expecting, stack) => build expecting stack rest

/-- The outline of JSON text, or nothing when the text is no document. -/
def read (bytes : List UInt8) : Option Outline :=
  (Token.lex bytes).bind (build .value [])

end Outline

end RecordMapping.Json
