/-
Module: RecordMapping.Uuid
Purpose: Universally unique identifiers, their texts and their bytes.
Main exports: Uuid, Uuid.text, Uuid.parse, Uuid.ofBytes?
-/
import RecordMapping.Text.Digits

namespace RecordMapping

/-!
An identifier is a number of 128 bits.  It is written as 32 lower-case
hexadecimal digits in five groups; it is also read without hyphens, and with
them inside braces or after the URN scheme.
-/

/-- A 128-bit identifier. -/
structure Uuid where
  number : Fin 0x100000000000000000000000000000000
deriving Repr, DecidableEq

namespace Uuid

/-- The identifier whose bits are all zero. -/
def nil : Uuid := ⟨⟨0, by decide⟩⟩

/-- The identifier with the given number, which is reduced to 128 bits. -/
def ofNat (number : Nat) : Uuid :=
  ⟨⟨number % 0x100000000000000000000000000000000, Nat.mod_lt _ (by decide)⟩⟩

/-- The sizes of the hyphenated groups. -/
def groups : List Nat := [8, 4, 4, 4, 12]

/-- Digits cut into groups of the given sizes. -/
def cut : List Nat → List Char → List (List Char)
  | [], _ => []
  | size :: sizes, digits => digits.take size :: cut sizes (digits.drop size)

/-- The hyphenated lower-case text. -/
def text (uuid : Uuid) : String :=
  "-".intercalate
    ((cut groups (Text.hexDigits 32 uuid.number.val)).map String.ofList)

/-- An identifier of 32 hexadecimal digits. -/
def parseDigits (digits : List Char) : Option Uuid :=
  if digits.length = 32 then
    (digits.mapM Text.hexValue?).map fun values => ofNat (Text.natOfDigits 16 values)
  else none

/-- The digits of groups of the given sizes with hyphens between them. -/
def ungroup : List Nat → List Char → Option (List Char)
  | [], rest => if rest.isEmpty then some [] else none
  | [size], rest => if rest.length = size then some rest else none
  | size :: sizes, rest =>
      match rest.drop size with
      | '-' :: later => (ungroup sizes later).map (rest.take size ++ ·)
      | _ => none

/-- An identifier in hyphenated form. -/
def parseHyphenated (characters : List Char) : Option Uuid :=
  (ungroup groups characters).bind parseDigits

/-- The URN scheme in front of an identifier, in lower case. -/
def urnScheme : List Char := "urn:uuid:".toList

/-- The identifier that a text denotes in any of its forms. -/
def parse (text : String) : Option Uuid :=
  let characters := text.toList
  match characters.length with
  | 32 => parseDigits characters
  | 36 => parseHyphenated characters
  | 38 =>
      if characters.head? = some '\x7b' ∧ characters.getLast? = some '\x7d' then
        parseHyphenated ((characters.drop 1).dropLast)
      else none
  | 45 =>
      if (characters.take 9).map Char.toLower = urnScheme then
        parseHyphenated (characters.drop 9)
      else none
  | _ => none

/-- The identifier with the given sixteen bytes, most significant first. -/
def ofBytes? (bytes : List UInt8) : Option Uuid :=
  if bytes.length = 16 then
    some (ofNat (Text.natOfDigits 256 (bytes.map UInt8.toNat)))
  else none

end Uuid

end RecordMapping
