/-
Module: RecordMapping.Number.Binary.Text
Purpose: Floating-point numbers written positionally and read from decimal text.
Main exports: Binary.text, Binary.parse
-/
import RecordMapping.Number.Binary.Shortest
import RecordMapping.Text.Digits

namespace RecordMapping

namespace Binary

variable {format : BinaryFormat}

/-!
The written form has the fewest digits that identify the number and never an
exponent, so great numbers end in zeros and small ones begin with them.  The
reader takes any decimal spelling, with or without a point or an exponent, and
rounds once.
-/

/-- A decimal written without exponent: zeros are filled in up to the point. -/
def positional (form : ShortForm) : String :=
  let digits := form.characters
  if 0 ≤ form.exponent then
    String.ofList (digits ++ List.replicate form.exponent.toNat '0')
  else
    let places := (-form.exponent).toNat
    let filled := List.replicate (places + 1 - digits.length) '0' ++ digits
    let whole := filled.length - places
    String.ofList (filled.take whole ++ '.' :: filled.drop whole)

/-- The text of a number. -/
def text : Binary format → String
  | .nan => "NaN"
  | .infinite negative => if negative then "-inf" else "inf"
  | .finite negative code =>
      let magnitude :=
        if code.val = 0 then "0" else positional (shortForm format .up code)
      if negative then "-" ++ magnitude else magnitude

/-- The exponent after its mark: an optional sign and one or more digits. -/
def parseExponent : List Char → Option Int
  | '+' :: digits => (Text.decimal? digits).map Int.ofNat
  | '-' :: digits => (Text.decimal? digits).map fun number => -(number : Int)
  | digits => (Text.decimal? digits).map Int.ofNat

/-- A decimal numeral without sign: digits around an optional point, at least
one of them, and an optional exponent. -/
def parseMagnitude (format : BinaryFormat) (negative : Bool)
    (characters : List Char) : Option (Binary format) := do
  let isMark (character : Char) : Bool := character == 'e' || character == 'E'
  let mantissa := characters.takeWhile fun character => !isMark character
  let exponent ←
    match characters.dropWhile fun character => !isMark character with
    | [] => some 0
    | _ :: digits => parseExponent digits
  let whole := mantissa.takeWhile (· != '.')
  let fraction := (mantissa.dropWhile (· != '.')).drop 1
  let digits ← Text.digits? (whole ++ fraction)
  if digits.isEmpty then none
  else
    some (ofScientific format negative (Text.natOfDigits 10 digits)
      (exponent - fraction.length))

/-- A number without sign: a word for infinity or not-a-number in any case,
or a decimal numeral. -/
def parseUnsigned (format : BinaryFormat) (negative : Bool)
    (characters : List Char) : Option (Binary format) :=
  let word := String.ofList (characters.map Char.toLower)
  if word = "inf" ∨ word = "infinity" then some (.infinite negative)
  else if word = "nan" then some .nan
  else parseMagnitude format negative characters

/-- The number of a format that a text denotes, correctly rounded. -/
def parse (format : BinaryFormat) (source : String) : Option (Binary format) :=
  match source.toList with
  | '-' :: rest => parseUnsigned format true rest
  | '+' :: rest => parseUnsigned format false rest
  | rest => parseUnsigned format false rest

end Binary

end RecordMapping
