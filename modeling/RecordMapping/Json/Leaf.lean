/-
Module: RecordMapping.Json.Leaf
Purpose: The numbers and texts of JSON documents, written and read.
Main exports: Number, Numeral.value?, Number.render, unescape?, quote
-/
import RecordMapping.Json.Token
import RecordMapping.Number.Binary.Shortest
import RecordMapping.Text.Utf8

namespace RecordMapping.Json

/-!
A numeral without fraction and exponent denotes an integer as long as the
integer fits 64 bits; every other numeral denotes a floating-point number.
Its digits are gathered while they fit 64 bits, and the gathered number is
scaled by a power of ten, so two roundings separate it from the numeral.

A text may escape any character.  Code units of the surrogate range stand for
a character in pairs only.
-/

/-- The numbers of a document. -/
inductive Number where
  | integer (value : Int)
  | real (value : Binary64)
deriving Repr, DecidableEq

/-- One more than the greatest number that 64 bits hold. -/
def significandLimit : Nat := 0x10000000000000000

/-- A number extended by further digits while it fits 64 bits, with the number
of digits taken. -/
def gather (significand : Nat) : List Nat → Nat × Nat
  | [] => (significand, 0)
  | digit :: rest =>
      let extended := significand * 10 + digit
      if extended < significandLimit then
        let (gathered, taken) := gather extended rest
        (gathered, taken + 1)
      else (significand, 0)

/-- The greatest power of ten that a floating-point number is scaled by at
once. -/
def greatestPower : Nat := 308

/-- Ten to a power as a floating-point number. -/
def powerOfTen (exponent : Nat) : Binary64 :=
  Binary.ofInt .double (Nat.pow 10 exponent)

/-- A magnitude divided by ten to the exponent, in steps of the greatest power
until it vanishes. -/
def scaledDown (magnitude : Binary64) (exponent : Nat) : Binary64 :=
  if exponent ≤ greatestPower then magnitude.divide (powerOfTen exponent)
  else if magnitude.isZero then magnitude
  else
    scaledDown (magnitude.divide (powerOfTen greatestPower)) (exponent - greatestPower)
termination_by exponent
decreasing_by simp only [greatestPower] at *; omega

/-- A magnitude times ten to the exponent, unless it is too great. -/
def scaled (magnitude : Binary64) (exponent : Int) : Option Binary64 :=
  if exponent < 0 then some (scaledDown magnitude (-exponent).toNat)
  else if magnitude.isZero then some magnitude
  else if exponent.toNat ≤ greatestPower then
    let product := magnitude.multiply (powerOfTen exponent.toNat)
    if product.isFinite then some product else none
  else none

namespace Numeral

/-- The floating-point number that a numeral denotes. -/
def real? (numeral : Numeral) : Option Binary64 :=
  let (significand, taken) := gather 0 numeral.whole
  let (significand, places) := gather significand (numeral.fraction.getD [])
  let exponent : Int :=
    (numeral.whole.length - taken : Nat) - (places : Int) + numeral.exponent.getD 0
  (scaled (Binary.ofInt .double significand) exponent).map fun magnitude =>
    if numeral.negative then magnitude.negate else magnitude

/-- The number that a numeral denotes: an integer of 64 bits if it is written
as one and is not a negative zero. -/
def value? (numeral : Numeral) : Option Number :=
  let magnitude := Text.natOfDigits 10 numeral.whole
  if numeral.fraction.isNone && numeral.exponent.isNone then
    if numeral.negative then
      if magnitude ≠ 0 ∧ magnitude ≤ 0x8000000000000000 then some (.integer (-(magnitude : Int)))
      else numeral.real?.map .real
    else if magnitude < significandLimit then some (.integer magnitude)
    else numeral.real?.map .real
  else numeral.real?.map .real

end Numeral

/-- A floating-point magnitude with its shortest digits: positional with a
decimal between ten to the minus five and ten to the sixteen, with an exponent
elsewhere. -/
def renderMagnitude (form : ShortForm) : String :=
  let digits := form.characters
  let point : Int := digits.length + form.exponent
  if 0 ≤ form.exponent ∧ point ≤ 16 then
    String.ofList (digits ++ List.replicate form.exponent.toNat '0') ++ ".0"
  else if 0 < point ∧ point ≤ 16 then
    String.ofList (digits.take point.toNat ++ '.' :: digits.drop point.toNat)
  else if -5 < point ∧ point ≤ 0 then
    "0." ++ String.ofList (List.replicate (-point).toNat '0' ++ digits)
  else
    let fraction := digits.drop 1
    String.ofList (digits.take 1) ++
      (if fraction.isEmpty then "" else "." ++ String.ofList fraction) ++
      "e" ++ (if 0 ≤ point - 1 then "+" else "-") ++ toString (point - 1).natAbs

/-- The text of a floating-point number; what is not finite has none in JSON
and is written as the empty value. -/
def renderReal : Binary64 → String
  | .nan | .infinite _ => "null"
  | .finite negative code =>
      (if negative then "-" else "") ++
        if code.val = 0 then "0.0"
        else renderMagnitude (Binary.shortForm .double .even code)

/-- The text of a number. -/
def Number.render : Number → String
  | .integer value => toString value
  | .real value => renderReal value

/-- The number of four hexadecimal digits. -/
def codeUnit (first second third fourth : UInt8) : Nat :=
  Text.natOfDigits 16
    ([first, second, third, fourth].map fun byte =>
      (Text.hexValue? (Char.ofNat byte.toNat)).getD 0)

/-- The byte that an escape other than a code unit stands for. -/
def escapedByte (escaped : UInt8) : UInt8 :=
  if escaped = byteOf 'b' then 0x08
  else if escaped = byteOf 'f' then 0x0C
  else if escaped = byteOf 'n' then 0x0A
  else if escaped = byteOf 'r' then 0x0D
  else if escaped = byteOf 't' then 0x09
  else escaped

/-- The bytes that a written text stands for; nothing when a surrogate has no
partner. -/
def unescapeBytes? : List UInt8 → Option (List UInt8)
  | [] => some []
  | 0x5C :: 0x75 :: a :: b :: c :: d :: 0x5C :: 0x75 :: e :: f :: g :: h :: rest =>
      let unit := codeUnit a b c d
      if 0xD800 ≤ unit ∧ unit < 0xDC00 then
        let low := codeUnit e f g h
        if 0xDC00 ≤ low ∧ low < 0xE000 then
          (unescapeBytes? rest).map
            (String.utf8EncodeChar
              (Char.ofNat (0x10000 + (unit - 0xD800) * 0x400 + (low - 0xDC00))) ++ ·)
        else none
      else if 0xDC00 ≤ unit ∧ unit < 0xE000 then none
      else
        (unescapeBytes? (0x5C :: 0x75 :: e :: f :: g :: h :: rest)).map
          (String.utf8EncodeChar (Char.ofNat unit) ++ ·)
  | 0x5C :: 0x75 :: a :: b :: c :: d :: rest =>
      let unit := codeUnit a b c d
      if 0xD800 ≤ unit ∧ unit < 0xE000 then none
      else
        (unescapeBytes? rest).map (String.utf8EncodeChar (Char.ofNat unit) ++ ·)
  | 0x5C :: escaped :: rest => (unescapeBytes? rest).map (escapedByte escaped :: ·)
  | byte :: rest => (unescapeBytes? rest).map (byte :: ·)

/-- The text that is written between quotes. -/
def unescape? (written : List UInt8) : Option String :=
  (unescapeBytes? written).bind fun bytes =>
    match Text.Utf8.decode bytes with
    | .ok text => some text
    | .error _ => none

/-- A character between quotes: quotes, backslashes and control characters are
escaped. -/
def escapeCharacter (character : Char) : List Char :=
  if character = '\x22' then ['\\', '\x22']
  else if character = '\\' then ['\\', '\\']
  else if character = '\x08' then ['\\', 'b']
  else if character = '\x0c' then ['\\', 'f']
  else if character = '\n' then ['\\', 'n']
  else if character = '\r' then ['\\', 'r']
  else if character = '\t' then ['\\', 't']
  else if character.toNat < 0x20 then
    '\\' :: 'u' :: Text.hexDigits 4 character.toNat
  else [character]

/-- A text between quotes. -/
def quote (text : String) : String :=
  String.ofList ('\x22' :: text.toList.flatMap escapeCharacter ++ ['\x22'])

end RecordMapping.Json
