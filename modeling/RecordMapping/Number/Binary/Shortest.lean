/-
Module: RecordMapping.Number.Binary.Shortest
Purpose: The fewest decimal digits that identify a floating-point number.
Main exports: Tie, ShortForm, Binary.shortForm
-/
import RecordMapping.Number.Binary

namespace RecordMapping

/-!
A decimal identifies a floating-point number when no other number of the
format is nearer to it.  The decimals that identify a number form an interval,
closed when its code is even because ties round to even codes.  The digits
written are those of the coarsest decimal grid that meets the interval, and on
that grid the point nearest to the number.
-/

/-- Which of two equally near decimals is written. -/
inductive Tie where
  /-- The greater one. -/
  | up
  /-- The one whose last digit is even. -/
  | even
deriving Repr, DecidableEq

/-- The decimal `digits · 10 ^ exponent`. -/
structure ShortForm where
  digits : Nat
  exponent : Int
deriving Repr, DecidableEq

namespace ShortForm

/-- Moves trailing zeros of the digits into the exponent, at most `fuel` of
them. -/
def stripped : Nat → ShortForm → ShortForm
  | 0, form => form
  | fuel + 1, form =>
      if form.digits ≠ 0 ∧ form.digits % 10 = 0 then
        stripped fuel ⟨form.digits / 10, form.exponent + 1⟩
      else form

/-- The digits of a form as characters. -/
def characters (form : ShortForm) : List Char :=
  (toString form.digits).toList

end ShortForm

namespace Binary

/-- The decimals that identify a magnitude, in halves of a unit. -/
structure Interval where
  low : Nat
  middle : Nat
  high : Nat
  closed : Bool

/-- The interval around the magnitude of a code. -/
def intervalOf (format : BinaryFormat) (code : Nat) : Interval where
  low := units format (code - 1) + units format code
  middle := 2 * units format code
  high := units format code + units format (code + 1)
  closed := code % 2 == 0

/-- The number of digits in front of the decimal point of a positive quotient;
for a quotient below one, minus the number of zeros that follow the point. -/
def pointPosition (numerator denominator : Nat) : Int :=
  let guess : Int :=
    (((Nat.log2 numerator : Int) - Nat.log2 denominator) * 30103).fdiv 100000
  let reaches (exponent : Int) : Bool :=
    if 0 ≤ exponent then denominator * Nat.pow 10 exponent.toNat ≤ numerator
    else denominator ≤ numerator * Nat.pow 10 (-exponent).toNat
  if reaches (guess + 1) then guess + 2
  else if reaches guess then guess + 1
  else guess

/-- The nearest of the two points of the grid `10 ^ exponent` around the
middle of an interval, if one of them lies in the interval. -/
def gridPoint (tie : Tie) (interval : Interval) (denominator : Nat)
    (exponent : Int) : Option ShortForm :=
  let grid := if 0 ≤ exponent then denominator * Nat.pow 10 exponent.toNat else denominator
  let scale := if 0 ≤ exponent then 1 else Nat.pow 10 (-exponent).toNat
  let low := interval.low * scale
  let middle := interval.middle * scale
  let high := interval.high * scale
  let below := middle / grid
  let above := below + 1
  let inside (point : Nat) : Bool :=
    if interval.closed then low ≤ point * grid && point * grid ≤ high
    else low < point * grid && point * grid < high
  let toBelow := middle - below * grid
  let toAbove := above * grid - middle
  let preferAbove : Bool :=
    if toBelow = toAbove then
      match tie with
      | .up => true
      | .even => below % 2 == 1
    else toAbove < toBelow
  match inside below, inside above with
  | true, true => some ⟨if preferAbove then above else below, exponent⟩
  | true, false => some ⟨below, exponent⟩
  | false, true => some ⟨above, exponent⟩
  | false, false => none

/-- The shortest decimal that identifies the magnitude of a positive code.
Seventeen digits always suffice; the exact expansion stands behind them. -/
def shortForm (format : BinaryFormat) (tie : Tie) (code : Nat) : ShortForm :=
  let interval := intervalOf format code
  let denominator := Nat.pow 2 (format.depth + 1)
  let position := pointPosition interval.middle denominator
  let tried := (List.range 17).findSome? fun (extra : Nat) =>
    gridPoint tie interval denominator (position - ((extra : Int) + 1))
  let form := tried.getD
    ⟨units format code * Nat.pow 5 format.depth, -(format.depth : Int)⟩
  form.stripped (toString form.digits).length

end Binary

end RecordMapping
