/-
Module: RecordMapping.Number.Decimal.Text
Purpose: Decimals read from positional and scientific text.
Main exports: Decimal.parse
-/
import RecordMapping.Number.Decimal
import RecordMapping.Number.IntType

namespace RecordMapping

namespace Decimal

/-!
Digits are taken into the mantissa one after another, those after the point
with a place each.  In front of the point there must be room for all of them.
Behind it the first digit that has no room, because the places are used up or
the mantissa would need more than 96 bits, rounds the number, half away from
zero, and the digits after it only have to be digits.

An underscore may stand anywhere after the first digit.  It changes nothing,
with one exception: small mantissas are gathered in a word of 64 bits, and
behind the last place of such a mantissa an underscore counts as the digit that
rounds, a zero.  Behind the last place of a greater mantissa it is passed over,
and the digit after it rounds.
-/

/-- What has been read of an unsigned numeral. -/
structure Numeral where
  mantissa : Nat
  scale : Nat
  /-- The point has been passed. -/
  fractional : Bool
  /-- At least one digit has been read. -/
  started : Bool

/-- Rounds by the first digit without room: a five or more adds one to the last
place, and a mantissa that overflows by it gives up its last place. -/
def Numeral.rounded (numeral : Numeral) (digit : Nat) : Option Numeral :=
  if digit < 5 then some numeral
  else if numeral.mantissa + 1 < mantissaBound then
    some { numeral with mantissa := numeral.mantissa + 1 }
  else if numeral.scale = 0 then none
  else
    some
      { numeral with
        mantissa := (numeral.mantissa + 5) / 10
        scale := numeral.scale - 1 }

/-- What may follow the digit that rounded the number. -/
def isIgnored (character : Char) : Bool :=
  character == '_' || (Text.digitValue? character).isSome

/-- The bound of the mantissas that take their next digit within the word. -/
def wordBound : Nat := 0xFFFFFFFFFFFFFFFF / 10 - 0xFF

/-- Whether all places are used up. -/
def Numeral.isFull (numeral : Numeral) : Bool :=
  numeral.fractional && numeral.scale == maxScale

/-- Whether the last digit was taken within the word. -/
def Numeral.isWord (numeral : Numeral) : Bool :=
  numeral.mantissa / 10 < wordBound

/-- Continues a numeral to the end of the text. -/
def Numeral.read (numeral : Numeral) : List Char → Option Numeral
  | [] => if numeral.started then some numeral else none
  | character :: rest =>
      match Text.digitValue? character with
      | some digit =>
          let extended := numeral.mantissa * 10 + digit
          if numeral.isFull || mantissaBound ≤ extended then
            if numeral.fractional && rest.all isIgnored then numeral.rounded digit
            else none
          else
            Numeral.read
              { numeral with
                mantissa := extended
                scale := if numeral.fractional then numeral.scale + 1 else 0
                started := true }
              rest
      | none =>
          if character = '.' ∧ numeral.fractional = false then
            Numeral.read { numeral with fractional := true } rest
          else if character = '_' ∧ numeral.started then
            if numeral.isFull && numeral.isWord then
              if rest.all isIgnored then numeral.rounded 0 else none
            else Numeral.read numeral rest
          else none

/-- The number `mantissa / 10 ^ scale` with a sign. -/
def ofParts? (negative : Bool) (mantissa scale : Nat) : Option Decimal :=
  make? (if negative then -(mantissa : Int) else mantissa) scale

/-- A numeral after its sign. -/
def parseUnsigned (negative : Bool) (characters : List Char) : Option Decimal := do
  let numeral ← Numeral.read ⟨0, 0, false, false⟩ characters
  ofParts? negative numeral.mantissa numeral.scale

/-- A positional numeral: an optional sign, digits and an optional point. -/
def parsePositional : List Char → Option Decimal
  | '-' :: rest => parseUnsigned true rest
  | '+' :: rest => parseUnsigned false rest
  | rest => parseUnsigned false rest

/-- The decimal with fewer places, the last of them rounded half away from
zero. -/
def rescaled (decimal : Decimal) (scale : Nat) : Option Decimal :=
  let divisor := Nat.pow 10 (decimal.scale - scale)
  ofParts? (decimal.mantissa < 0)
    ((2 * decimal.mantissa.natAbs + divisor) / (2 * divisor)) scale

/-- The decimal divided by ten to the `exponent`.  Places beyond the last one
are rounded off first. -/
def shiftedDown (decimal : Decimal) (exponent : Nat) : Option Decimal :=
  if maxScale < exponent then none
  else if decimal.scale + exponent ≤ maxScale then
    make? decimal.mantissa (decimal.scale + exponent)
  else do
    let shortened ← decimal.rescaled (maxScale - exponent)
    make? shortened.mantissa maxScale

/-- The decimal multiplied by ten to the `exponent`: places are given up first,
and zeros are appended when there are none left. -/
def shiftedUp (decimal : Decimal) (exponent : Nat) : Option Decimal :=
  if exponent ≤ decimal.scale then
    make? decimal.mantissa (decimal.scale - exponent)
  else if maxScale < exponent then none
  else make? (decimal.mantissa * Nat.pow 10 (exponent - decimal.scale)) 0

/-- The number of an exponent: an optional plus and digits of 32 bits. -/
def exponent? (characters : List Char) : Option Nat :=
  match IntType.parseInt .uint32 characters with
  | .ok number => some number.toNat
  | .error _ => none

/-- A positional numeral, an exponent mark and an exponent. -/
def parseScientific (characters : List Char) : Option Decimal := do
  let isMark (character : Char) : Bool := character == 'e' || character == 'E'
  let base ← parsePositional (characters.takeWhile fun character => !isMark character)
  match characters.dropWhile fun character => !isMark character with
  | [] => none
  | _ :: '-' :: digits => base.shiftedDown (← exponent? digits)
  | _ :: digits => base.shiftedUp (← exponent? digits)

/-- The decimal that a text denotes, read as a positional numeral if it is one
and otherwise in scientific notation. -/
def parse (text : String) : Option Decimal :=
  (parsePositional text.toList).orElse fun _ => parseScientific text.toList

end Decimal

end RecordMapping
