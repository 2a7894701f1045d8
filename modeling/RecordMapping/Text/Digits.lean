/-
Module: RecordMapping.Text.Digits
Purpose: Natural numbers written and read as digits.
Main exports: digitValue?, hexValue?, natOfDigits, digits?, padded, hexText
-/

namespace RecordMapping.Text

/-!
Numbers are written with ASCII digits only and read from ASCII digits only;
a digit of another script is an ordinary character.
-/

/-- The value of a decimal digit. -/
def digitValue? (character : Char) : Option Nat :=
  if '0' ≤ character ∧ character ≤ '9' then some (character.toNat - 0x30)
  else none

/-- The value of a hexadecimal digit of either case. -/
def hexValue? (character : Char) : Option Nat :=
  if '0' ≤ character ∧ character ≤ '9' then some (character.toNat - 0x30)
  else if 'a' ≤ character ∧ character ≤ 'f' then some (character.toNat - 0x61 + 10)
  else if 'A' ≤ character ∧ character ≤ 'F' then some (character.toNat - 0x41 + 10)
  else none

/-- The number that a list of digit values, most significant first, denotes
in a base. -/
def natOfDigits (base : Nat) (values : List Nat) : Nat :=
  values.foldl (fun number value => number * base + value) 0

/-- The values of characters that all are decimal digits. -/
def digits? (characters : List Char) : Option (List Nat) :=
  characters.mapM digitValue?

/-- The number written by one or more decimal digits and nothing else. -/
def decimal? (characters : List Char) : Option Nat :=
  if characters.isEmpty then none
  else (digits? characters).map (natOfDigits 10)

/-- The decimal text of a number with zeros in front up to `width` digits. -/
def padded (width number : Nat) : String :=
  let digits := (toString number).toList
  String.ofList (List.replicate (width - digits.length) '0' ++ digits)

/-- The lower-case hexadecimal digit of a value below sixteen. -/
def hexDigit (value : Nat) : Char :=
  if value < 10 then Char.ofNat (0x30 + value) else Char.ofNat (0x61 + value - 10)

/-- The last `width` hexadecimal digits of a number. -/
def hexDigits : Nat → Nat → List Char
  | 0, _ => []
  | width + 1, number => hexDigits width (number / 16) ++ [hexDigit (number % 16)]

/-- The number as exactly `width` lower-case hexadecimal digits. -/
def hexText (width number : Nat) : String :=
  String.ofList (hexDigits width number)

end RecordMapping.Text
