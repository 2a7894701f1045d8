/-
Module: RecordMapping.Number.Decimal
Purpose: Decimal numbers of 96 bits with up to 28 places.
Main exports: Decimal, Decimal.make?, Decimal.ofInt?, Decimal.sameNumber,
  Decimal.isIntegral, Decimal.text
-/
import RecordMapping.Text.Digits

namespace RecordMapping

/-!
A decimal is a whole mantissa of at most 96 bits over a power of ten.  The
number of places is kept, so `1.50` and `1.5` are different decimals that are
the same number.
-/

/-- One more than the greatest magnitude of a mantissa. -/
def Decimal.mantissaBound : Nat := 0x1000000000000000000000000

/-- The greatest number of places. -/
def Decimal.maxScale : Nat := 28

/-- The number `mantissa / 10 ^ scale`. -/
structure Decimal where
  mantissa : Int
  scale : Nat
  mantissa_bound : mantissa.natAbs < Decimal.mantissaBound
  scale_bound : scale ≤ Decimal.maxScale
deriving DecidableEq

namespace Decimal

instance : Repr Decimal where
  reprPrec decimal _ := repr (decimal.mantissa, decimal.scale)

/-- The decimal with the given parts, if they are in range. -/
def make? (mantissa : Int) (scale : Nat) : Option Decimal :=
  if bounds : mantissa.natAbs < mantissaBound ∧ scale ≤ maxScale then
    some ⟨mantissa, scale, bounds.1, bounds.2⟩
  else none

/-- The decimal zero without places. -/
def zero : Decimal := ⟨0, 0, by decide, by decide⟩

/-- An integer as a decimal without places; nothing beyond 96 bits. -/
def ofInt? (number : Int) : Option Decimal := make? number 0

/-- Equality of the numbers, whatever their places. -/
def sameNumber (first second : Decimal) : Bool :=
  first.mantissa * Nat.pow 10 second.scale == second.mantissa * Nat.pow 10 first.scale

/-- Whether a decimal is zero, with any number of places. -/
def isZero (decimal : Decimal) : Bool := decimal.mantissa == 0

/-- Whether all places after the point are zero. -/
def isIntegral (decimal : Decimal) : Bool :=
  decimal.mantissa.natAbs % Nat.pow 10 decimal.scale == 0

/-- The whole part, toward zero. -/
def whole (decimal : Decimal) : Int :=
  decimal.mantissa.tdiv (Nat.pow 10 decimal.scale)

/-- The text of a decimal: all its places, and at least one digit in front of
them. -/
def text (decimal : Decimal) : String :=
  let digits := (Text.padded (decimal.scale + 1) decimal.mantissa.natAbs).toList
  let split := digits.length - decimal.scale
  let fraction := if decimal.scale = 0 then [] else '.' :: digits.drop split
  (if decimal.mantissa < 0 then "-" else "") ++
    String.ofList (digits.take split ++ fraction)

theorem make?_eq_some_iff {mantissa : Int} {scale : Nat} {decimal : Decimal} :
    make? mantissa scale = some decimal ↔
      decimal.mantissa = mantissa ∧ decimal.scale = scale := by
  unfold make?
  split
  · constructor
    · intro same
      cases same
      exact ⟨rfl, rfl⟩
    · rintro ⟨rfl, rfl⟩
      rfl
  · rename_i outside
    constructor
    · intro impossible
      cases impossible
    · rintro ⟨rfl, rfl⟩
      exact absurd ⟨decimal.mantissa_bound, decimal.scale_bound⟩ outside

end Decimal

end RecordMapping
