/-
Module: RecordMapping.Number.Decimal.Binary
Purpose: Decimals from binary floating-point numbers, and back.
Main exports: Decimal.ofBinary?, Decimal.toDouble, Decimal.toSingle
-/
import RecordMapping.Number.Decimal
import RecordMapping.Number.Binary

namespace RecordMapping

namespace Decimal

/-!
A binary number is expanded in base ten within a mantissa of 96 bits: a
division by two becomes a multiplication by five and one more place while
there is room for it.  What the format cannot have known is then rounded away:
the mantissa is shortened until it is below the significand bound of the
format, and trailing zeros are dropped.

A decimal becomes binary as the sum of its whole part and its fraction, each
rounded to 64 bits, and the sum is rounded once more to the places of the
decimal.
-/

/-- A mantissa and a decimal exponent under expansion. -/
structure Expansion where
  mantissa : Nat
  exponent : Int

/-- One division by two, as a multiplication by five where there is room. -/
def Expansion.halve (expansion : Expansion) : Expansion :=
  if expansion.mantissa % 2 = 0 then
    ⟨expansion.mantissa / 2, expansion.exponent + 1⟩
  else if expansion.mantissa * 5 < mantissaBound then
    ⟨expansion.mantissa * 5, expansion.exponent⟩
  else ⟨expansion.mantissa / 2, expansion.exponent + 1⟩

/-- As many divisions by two as given. -/
def Expansion.halves : Nat → Expansion → Expansion
  | 0, expansion => expansion
  | count + 1, expansion => Expansion.halves count expansion.halve

/-- As many multiplications by two as given: while the top bit is free the
mantissa doubles and the exponent falls, which trades a factor of ten for one
of five; then the mantissa is divided by five. -/
def Expansion.doubles : Nat → Expansion → Option Expansion
  | 0, expansion => some expansion
  | count + 1, expansion =>
      if expansion.mantissa < mantissaBound / 2 then
        Expansion.doubles count ⟨expansion.mantissa * 2, expansion.exponent - 1⟩
      else if (count + 1 : Int) < expansion.exponent * 2 then none
      else Expansion.doubles count ⟨expansion.mantissa / 5, expansion.exponent⟩

/-- Brings a positive exponent to zero by multiplying the mantissa. -/
def Expansion.raised : Nat → Expansion → Option Expansion
  | 0, expansion => some expansion
  | fuel + 1, expansion =>
      if expansion.exponent ≤ 0 then some expansion
      else if expansion.mantissa * 10 < mantissaBound then
        Expansion.raised fuel ⟨expansion.mantissa * 10, expansion.exponent - 1⟩
      else none

/-- A quotient by ten, rounded half up. -/
def tenthRounded (mantissa : Nat) : Nat :=
  if mantissa % 10 < 5 then mantissa / 10 else mantissa / 10 + 1

/-- Brings the exponent up to the last place; a mantissa that vanishes on the
way is zero. -/
def Expansion.lowered : Nat → Expansion → Expansion
  | 0, expansion => expansion
  | fuel + 1, expansion =>
      if -(maxScale : Int) ≤ expansion.exponent then expansion
      else if expansion.mantissa / 10 = 0 then ⟨0, 0⟩
      else
        Expansion.lowered fuel
          ⟨tenthRounded expansion.mantissa, expansion.exponent + 1⟩

/-- Rounds places away until the mantissa is below `bound`. -/
def Expansion.shortened (bound : Nat) : Nat → Expansion → Expansion
  | 0, expansion => expansion
  | fuel + 1, expansion =>
      if expansion.exponent < 0 ∧ bound ≤ expansion.mantissa then
        Expansion.shortened bound fuel
          ⟨tenthRounded expansion.mantissa, expansion.exponent + 1⟩
      else expansion

/-- Drops places that are zero. -/
def Expansion.stripped : Nat → Expansion → Expansion
  | 0, expansion => expansion
  | fuel + 1, expansion =>
      if expansion.exponent < 0 ∧ expansion.mantissa % 10 = 0 then
        Expansion.stripped fuel ⟨expansion.mantissa / 10, expansion.exponent + 1⟩
      else expansion

/-- One more than the significands that the digits of a format can tell apart. -/
def significandBound : BinaryFormat → Nat
  | .single => 0x1000000
  | .double => 0x10000000000000

/-- A significand times a power of two, expanded in base ten. -/
def Expansion.ofBinary (significand : Nat) (exponent : Int) : Option Expansion :=
  if exponent ≤ 0 then
    some (Expansion.halves (-exponent).toNat ⟨significand, exponent⟩)
  else Expansion.doubles exponent.toNat ⟨significand, exponent⟩

/-- The decimal that stands for a floating-point number; nothing for one that
is not finite or too great. -/
def ofBinary? {format : BinaryFormat} : Binary format → Option Decimal
  | .nan | .infinite _ => none
  | .finite negative code => do
      if code.val = 0 then return zero
      let exponent : Int := Binary.doublings format code - format.depth
      let expansion ←
        Expansion.ofBinary (Binary.significand format code) exponent
      let raised ← expansion.raised expansion.exponent.toNat
      let lowered := raised.lowered raised.exponent.natAbs
      let shortened :=
        lowered.shortened (significandBound format) lowered.exponent.natAbs
      let stripped := shortened.stripped shortened.exponent.natAbs
      make? (if negative then -(stripped.mantissa : Int) else stripped.mantissa)
        (-stripped.exponent).toNat

/-- The magnitude of a decimal with places, in 64 bits. -/
def magnitudeToDouble (magnitude scale : Nat) : Binary64 :=
  let power := Nat.pow 10 scale
  let whole := Binary.ofInt .double (magnitude / power)
  let powerRounded := Binary.ofInt .double power
  let fraction := (Binary.ofInt .double (magnitude % power)).divide powerRounded
  if fraction.isZero then whole
  else (((whole.add fraction).multiply powerRounded).round).divide powerRounded

/-- A decimal in 64 bits. -/
def toDouble (decimal : Decimal) : Binary64 :=
  if decimal.scale = 0 then Binary.ofInt .double decimal.mantissa
  else
    let magnitude := magnitudeToDouble decimal.mantissa.natAbs decimal.scale
    if decimal.mantissa < 0 then magnitude.negate else magnitude

/-- A decimal in 32 bits, by way of 64 bits. -/
def toSingle (decimal : Decimal) : Binary32 :=
  decimal.toDouble.convert .single

end Decimal

end RecordMapping
