/-
Module: RecordMapping.Number.Binary
Purpose: Binary floating-point numbers as exact data, with correctly rounded operations.
Main exports: BinaryFormat, Binary, Binary.ofRatio, Binary.units, Binary.convert,
  Binary.ofInt, Binary.add, Binary.multiply, Binary.divide, Binary.round
-/

namespace RecordMapping

/-!
The finite magnitudes of a binary interchange format, in increasing order, are
numbered by their encodings: code 0 is zero, code 1 the least positive number,
and the next code is the next magnitude.  Every finite magnitude is a whole
number of units, the unit being the least positive number, so all arithmetic
here is arithmetic of natural numbers and rounding happens once, at the end,
to the nearest code with ties to the even one.

Infinities follow the finite codes; there is one not-a-number.
-/

/-- The two formats that columns are stored in. -/
inductive BinaryFormat where
  /-- 32 bits: 8 for the exponent, 23 for the fraction. -/
  | single
  /-- 64 bits: 11 for the exponent, 52 for the fraction. -/
  | double
deriving Repr, DecidableEq

namespace BinaryFormat

/-- The width of the exponent field. -/
def exponentBits : BinaryFormat → Nat
  | .single => 8
  | .double => 11

/-- The width of the fraction field. -/
def fractionBits : BinaryFormat → Nat
  | .single => 23
  | .double => 52

/-- How many finite magnitudes there are. -/
def finiteCodes (format : BinaryFormat) : Nat :=
  (Nat.pow 2 format.exponentBits - 1) * Nat.pow 2 format.fractionBits

/-- The unit is one divided by two to the `depth`. -/
def depth (format : BinaryFormat) : Nat :=
  Nat.pow 2 (format.exponentBits - 1) - 2 + format.fractionBits

theorem finiteCodes_pos (format : BinaryFormat) : 0 < format.finiteCodes := by
  cases format <;> decide

end BinaryFormat

/-- A floating-point number of a format. -/
inductive Binary (format : BinaryFormat) where
  | nan
  | finite (negative : Bool) (code : Fin format.finiteCodes)
  | infinite (negative : Bool)
deriving Repr, DecidableEq

/-- Numbers of the 32-bit format. -/
abbrev Binary32 := Binary .single

/-- Numbers of the 64-bit format. -/
abbrev Binary64 := Binary .double

/-- The whole number nearest to a quotient; a half goes to the even neighbour. -/
def roundHalfEven (numerator denominator : Nat) : Nat :=
  let quotient := numerator / denominator
  let twice := 2 * (numerator % denominator)
  if twice < denominator then quotient
  else if denominator < twice then quotient + 1
  else quotient + quotient % 2

namespace Binary

variable {format : BinaryFormat}

/-- The significand of a code: a fraction alone below the least normal
number, a fraction under a leading one from there on. -/
def significand (format : BinaryFormat) (code : Nat) : Nat :=
  if code < Nat.pow 2 format.fractionBits then code
  else Nat.pow 2 format.fractionBits + code % Nat.pow 2 format.fractionBits

/-- How many times the significand of a code is doubled. -/
def doublings (format : BinaryFormat) (code : Nat) : Nat :=
  code / Nat.pow 2 format.fractionBits - 1

/-- The magnitude with the given code, in units of the least positive number. -/
def units (format : BinaryFormat) (code : Nat) : Nat :=
  significand format code * Nat.pow 2 (doublings format code)

/-- The code whose magnitude is nearest to a number of units given as a
quotient, as if there were no greatest finite code. -/
def nearestCode (format : BinaryFormat) (numerator denominator : Nat) : Nat :=
  let bits := Nat.log2 (numerator / denominator) + 1
  let doublings := bits - (format.fractionBits + 1)
  doublings * Nat.pow 2 format.fractionBits +
    roundHalfEven numerator (denominator * Nat.pow 2 doublings)

/-- The number nearest to `numerator / denominator` with the given sign; what
would round past the greatest finite number is infinite. -/
def ofRatio (format : BinaryFormat) (negative : Bool)
    (numerator denominator : Nat) : Binary format :=
  let code := nearestCode format (numerator * Nat.pow 2 format.depth) denominator
  if bounded : code < format.finiteCodes then .finite negative ⟨code, bounded⟩
  else .infinite negative

/-- Zero with a sign. -/
def zero (format : BinaryFormat) (negative : Bool) : Binary format :=
  .finite negative ⟨0, format.finiteCodes_pos⟩

/-- The number nearest to an integer. -/
def ofInt (format : BinaryFormat) (number : Int) : Binary format :=
  ofRatio format (number < 0) number.natAbs 1

/-- The number of a format nearest to one of another format. -/
def convert (target : BinaryFormat) : Binary format → Binary target
  | .nan => .nan
  | .infinite negative => .infinite negative
  | .finite negative code =>
      ofRatio target negative (units format code) (Nat.pow 2 format.depth)

/-- Whether a number is neither infinite nor not-a-number. -/
def isFinite : Binary format → Bool
  | .finite _ _ => true
  | .nan | .infinite _ => false

/-- Whether a number is zero of either sign. -/
def isZero : Binary format → Bool
  | .finite _ code => code.val == 0
  | .nan | .infinite _ => false

/-- Numeric equality: the zeros are equal, not-a-number equals nothing. -/
def sameNumber : Binary format → Binary format → Bool
  | .finite firstSign first, .finite secondSign second =>
      first == second && (firstSign == secondSign || first.val == 0)
  | .infinite first, .infinite second => first == second
  | _, _ => false

/-- The number with the other sign. -/
def negate : Binary format → Binary format
  | .nan => .nan
  | .infinite negative => .infinite !negative
  | .finite negative code => .finite (!negative) code

/-- The sum, correctly rounded. -/
def add : Binary format → Binary format → Binary format
  | .nan, _ | _, .nan => .nan
  | .infinite first, .infinite second =>
      if first = second then .infinite first else .nan
  | .infinite negative, .finite _ _ | .finite _ _, .infinite negative =>
      .infinite negative
  | .finite firstSign first, .finite secondSign second =>
      let signed (negative : Bool) (magnitude : Nat) : Int :=
        if negative then -magnitude else magnitude
      let sum := signed firstSign (units format first) +
        signed secondSign (units format second)
      ofRatio format
        (if sum = 0 then firstSign && secondSign else sum < 0)
        sum.natAbs (Nat.pow 2 format.depth)

/-- The product, correctly rounded. -/
def multiply : Binary format → Binary format → Binary format
  | .nan, _ | _, .nan => .nan
  | .infinite first, .infinite second => .infinite (first != second)
  | .infinite first, .finite second code | .finite first code, .infinite second =>
      if code.val = 0 then .nan else .infinite (first != second)
  | .finite firstSign first, .finite secondSign second =>
      ofRatio format (firstSign != secondSign)
        (units format first * units format second)
        (Nat.pow 2 format.depth * Nat.pow 2 format.depth)

/-- The quotient, correctly rounded. -/
def divide : Binary format → Binary format → Binary format
  | .nan, _ | _, .nan | .infinite _, .infinite _ => .nan
  | .infinite first, .finite second _ => .infinite (first != second)
  | .finite first _, .infinite second => zero format (first != second)
  | .finite firstSign first, .finite secondSign second =>
      if second.val = 0 then
        if first.val = 0 then .nan else .infinite (firstSign != secondSign)
      else
        ofRatio format (firstSign != secondSign)
          (units format first) (units format second)

/-- The nearest whole number; a half goes away from zero. -/
def round : Binary format → Binary format
  | .nan => .nan
  | .infinite negative => .infinite negative
  | .finite negative code =>
      let one := Nat.pow 2 format.depth
      ofRatio format negative ((2 * units format code + one) / (2 * one)) 1

/-- The number nearest to `digits` times ten to the `exponent`.  Far outside
the range of the format the answer does not depend on the digits, so no power
of ten is computed there. -/
def ofScientific (format : BinaryFormat) (negative : Bool) (digits : Nat)
    (exponent : Int) : Binary format :=
  let places := ((toString digits).length : Int) + exponent
  if digits = 0 ∨ places < -(Nat.pow 2 format.exponentBits : Nat) then
    zero format negative
  else if (Nat.pow 2 format.exponentBits : Nat) < places then .infinite negative
  else if 0 ≤ exponent then
    ofRatio format negative (digits * Nat.pow 10 exponent.toNat) 1
  else ofRatio format negative digits (Nat.pow 10 (-exponent).toNat)

/-- The number encoded by the sign, exponent and fraction fields of a word. -/
def ofBits (format : BinaryFormat) (word : Nat) : Binary format :=
  let signPlace := Nat.pow 2 (format.exponentBits + format.fractionBits)
  let negative := word / signPlace % 2 == 1
  let code := word % signPlace
  if bounded : code < format.finiteCodes then .finite negative ⟨code, bounded⟩
  else if code = format.finiteCodes then .infinite negative
  else .nan

/-- The word that encodes a number; nothing for not-a-number, which has many. -/
def bits? : Binary format → Option Nat
  | .nan => none
  | .infinite negative =>
      some (negative.toNat * Nat.pow 2 (format.exponentBits + format.fractionBits) +
        format.finiteCodes)
  | .finite negative code =>
      some (negative.toNat * Nat.pow 2 (format.exponentBits + format.fractionBits) + code)

end Binary

end RecordMapping
