/-
Module: RecordMapping.Proofs.LosslessConversions
Purpose: Which conversions between types of numbers keep the number.
Main exports: Value.rational?, Value.Conversions, Value.conversions_of_number
-/
import RecordMapping.Proofs.DecimalExpansion

namespace RecordMapping

/-!
A cell of a numeric type denotes a rational number.  Converted to a floating-point type it
is rounded, so it keeps the number if and only if the format has it; converted to a decimal
it keeps its number unless it is floating-point and has too many digits.  No conversion but
that of a number too great for a decimal says that anything was lost.
-/

namespace Decimal

/-- The numbers of a format whose decimals are exact: integers, and those with few digits. -/
def Spelled (format : BinaryFormat) (number : ℚ) : Prop :=
  (∃ whole : Int, number = whole) ∨
    ∃ (digits : Int) (places : Nat), digits.natAbs < significandBound format ∧
      places ≤ maxScale ∧ number = digits / 10 ^ places

open Binary

theorem spelled_signedBy_iff {format : BinaryFormat} {negative : Bool} {magnitude : ℚ}
    (nonneg : 0 ≤ magnitude) :
    Spelled format (signedBy negative magnitude) ↔
      (∃ whole : Nat, magnitude = whole) ∨
        ∃ digits places : Nat, digits < significandBound format ∧ places ≤ maxScale ∧
          magnitude = digits / 10 ^ places := by
  have size : |signedBy negative magnitude| = magnitude := abs_signedBy nonneg
  have sign (number : Nat) : ∃ signed : Int, signed.natAbs = number ∧
      (signed : ℚ) = signedBy negative number := by
    cases negative
    · exact ⟨number, by simp, by simp [signedBy]⟩
    · exact ⟨-number, by simp, by simp [signedBy]⟩
  constructor
  · rintro (⟨whole, same⟩ | ⟨digits, places, few, small, same⟩)
    · refine .inl ⟨whole.natAbs, ?_⟩
      rw [← size, same, Nat.cast_natAbs, Int.cast_abs]
    · refine .inr ⟨digits.natAbs, places, few, small, ?_⟩
      rw [← size, same, abs_div, Nat.cast_natAbs, Int.cast_abs,
        abs_of_nonneg (by positivity : (0 : ℚ) ≤ 10 ^ places)]
  · rintro (⟨whole, same⟩ | ⟨digits, places, few, small, same⟩)
    · obtain ⟨signed, -, held⟩ := sign whole
      exact .inl ⟨signed, by rw [same, held]⟩
    · obtain ⟨signed, few_eq, held⟩ := sign digits
      refine .inr ⟨signed, places, by rwa [few_eq], small, ?_⟩
      rw [same, held]
      cases negative <;> simp [signedBy, neg_div]

variable {format : BinaryFormat} {content : Binary format} {number : ℚ}

theorem ofBinary?_eq_none_iff_of_rational (held : content.rational? = some number) :
    ofBinary? content = none ↔ (mantissaBound : ℚ) ≤ |number| := by
  cases content with
  | nan => cases held
  | infinite _ => cases held
  | finite negative code =>
      rw [← Option.some.inj held, abs_signedBy (magnitude_nonneg format code)]
      exact ofBinary?_eq_none_iff

theorem rational_ofBinary?_iff_of_rational (held : content.rational? = some number)
    {decimal : Decimal} (made : ofBinary? content = some decimal) :
    decimal.rational = number ↔ Spelled format number := by
  cases content with
  | nan => cases held
  | infinite _ => cases held
  | finite negative code =>
      rw [← Option.some.inj held, spelled_signedBy_iff (magnitude_nonneg format code)]
      exact rational_ofBinary?_iff made

end Decimal

/-- All integers of the eight types are within the mantissas of decimals. -/
theorem IntType.natAbs_lt_mantissaBound {type : IntType} (number : type.Number) :
    number.val.natAbs < Decimal.mantissaBound := by
  obtain ⟨number, low, high⟩ := number
  have greatest : type.greatest < Decimal.mantissaBound := by cases type <;> decide
  have least : -(Decimal.mantissaBound : Int) < type.least := by cases type <;> decide
  dsimp only
  omega

namespace Value

open Binary

/-- The rational number that a cell of a numeric type denotes. -/
def rational? : Value → Option ℚ
  | .integer _ (some number) => some number.val
  | .float32 (some number) => number.rational?
  | .float64 (some number) => number.rational?
  | .decimal (some number) => some number.rational
  | _ => none

/-- The cells whose number alone decides what it is rounded to: all but decimals with a
fraction and very many digits. -/
def Plain : Value → Prop
  | .decimal (some number) => number.isIntegral = true ∨ number.Short
  | _ => True

/-- The cells whose number has an exact decimal. -/
def HasDecimal (number : ℚ) : Value → Prop
  | .float32 _ => Decimal.Spelled .single number
  | .float64 _ => Decimal.Spelled .double number
  | _ => True

/-- The conversion to a floating-point type never fails.  It keeps the number only if the
format has it, and in a plain cell always if the format has it. -/
def Rounded (value : Value) (number : ℚ) (format : BinaryFormat) : Prop :=
  ∃ content, value.toBinary format = .ok content ∧
    (content.rational? = some number → format.Has number) ∧
    (value.Plain → format.Has number → content.rational? = some number)

/-- What becomes of the number of a cell under the conversions to types of fractions. -/
structure Conversions (value : Value) (number : ℚ) : Prop where
  binary (format : BinaryFormat) : value.Rounded number format
  /-- A conversion to a decimal fails exactly if the number is too great. -/
  tooGreat : value.toDecimal = value.unconvertible .decimal ↔
    (Decimal.mantissaBound : ℚ) ≤ |number|
  /-- Otherwise it keeps the number exactly if the number has an exact decimal. -/
  decimal : |number| < Decimal.mantissaBound → ∃ content, value.toDecimal = .ok content ∧
    (content.rational = number ↔ value.HasDecimal number)

variable {number : ℚ}

/-- A decimal is the same number in a format exactly when the format has the number. -/
theorem rational?_decimalToBinary {decimal : Decimal} (format : BinaryFormat)
    (plain : decimal.isIntegral = true ∨ decimal.Short) (has : format.Has decimal.rational) :
    (decimalToBinary format decimal).rational? = some decimal.rational := by
  cases format with
  | single =>
      have wide := (Decimal.rational?_toDouble_iff plain).mpr has.widen
      exact (rational?_convert_iff wide).mpr has
  | double => exact (Decimal.rational?_toDouble_iff plain).mpr has

theorem conversions_of_kept {value : Value} {content : Decimal}
    (binary : ∀ format, value.Rounded number format) (held : value.toDecimal = .ok content)
    (same : content.rational = number) (exact : value.HasDecimal number) :
    value.Conversions number where
  binary := binary
  tooGreat := by
    rw [held, ← same]
    exact iff_of_false (by simp [unconvertible]) (not_le.mpr content.abs_rational_lt)
  decimal := fun _ => ⟨content, held, iff_of_true same exact⟩

/-- The conversions of a floating-point cell of either format. -/
theorem conversions_of_binary {format : BinaryFormat} {content : Binary format} {value : Value}
    (held : content.rational? = some number)
    (toBinary : ∀ target, value.toBinary target = .ok (content.convert target))
    (toDecimal : value.toDecimal = value.convertible .decimal (Decimal.ofBinary? content))
    (spelled : value.HasDecimal number ↔ Decimal.Spelled format number) :
    value.Conversions number where
  binary := fun target => ⟨_, toBinary target, fun exact => ⟨_, exact⟩,
    fun _ has => (rational?_convert_iff held).mpr has⟩
  tooGreat := by
    rw [← Decimal.ofBinary?_eq_none_iff_of_rational held, toDecimal]
    cases Decimal.ofBinary? content with
    | none => exact iff_of_true rfl rfl
    | some decimal => exact iff_of_false (by simp [convertible, unconvertible]) (by simp)
  decimal := by
    intro small
    rw [← not_le, ← Decimal.ofBinary?_eq_none_iff_of_rational held] at small
    obtain ⟨decimal, made⟩ := Option.ne_none_iff_exists'.mp small
    refine ⟨decimal, by rw [toDecimal, made]; rfl, ?_⟩
    rw [spelled]
    exact Decimal.rational_ofBinary?_iff_of_rational held made

/-- Every cell that denotes a number is converted to each floating-point type, with the
number kept exactly when the format has it, and to a decimal unless the number is too great,
with the number kept exactly when it has an exact decimal. -/
theorem conversions_of_number {value : Value} (numeric : value.rational? = some number) :
    value.Conversions number := by
  cases value with
  | integer type content =>
      cases content with
      | none => cases numeric
      | some held =>
          have made : Decimal.ofInt? held.val =
              some ⟨held.val, 0, IntType.natAbs_lt_mantissaBound held, Nat.zero_le _⟩ :=
            Decimal.make?_eq_some_iff.mpr ⟨rfl, rfl⟩
          rw [← Option.some.inj numeric]
          refine conversions_of_kept (fun format => ⟨_, rfl, fun exact => ⟨_, exact⟩,
            fun _ has => rational?_ofInt_iff.mpr has⟩) (by rw [toDecimal, made]; rfl) ?_ trivial
          simp [Decimal.rational]
  | float32 content =>
      cases content with
      | none => cases numeric
      | some held => exact conversions_of_binary numeric (fun _ => rfl) rfl Iff.rfl
  | float64 content =>
      cases content with
      | none => cases numeric
      | some held => exact conversions_of_binary numeric (fun _ => rfl) rfl Iff.rfl
  | decimal content =>
      cases content with
      | none => cases numeric
      | some held =>
          rw [← Option.some.inj numeric]
          exact conversions_of_kept (fun format => ⟨_, rfl, fun exact => ⟨_, exact⟩,
            fun plain has => rational?_decimalToBinary format plain has⟩) rfl rfl trivial
  | _ => cases numeric

/-- One half in 64 bits. -/
theorem conversions_of_number_half :
    (float64 (some (Binary.ofRatio .double false 1 2))).rational? = some (1 / 2) ∧
      (float64 (some (Binary.ofRatio .double false 1 2))).Conversions (1 / 2) := by
  have numeric : (float64 (some (Binary.ofRatio .double false 1 2))).rational? =
      some (1 / 2) := by decide +kernel
  exact ⟨numeric, conversions_of_number numeric⟩

/-- Whatever a conversion to a type of fractions gives is the number itself. -/
def Lossless (value : Value) (number : ℚ) : Prop :=
  (∀ format content, value.toBinary format = .ok content → content.rational? = some number) ∧
    ∀ content, value.toDecimal = .ok content → content.rational = number

/-- The integer behind the twenty-fourth power of two is rounded silently. -/
theorem integer_not_lossless :
    (ofInt .int32 16777217).rational? = some 16777217 ∧
      ¬ (ofInt .int32 16777217).Lossless 16777217 := by
  refine ⟨by decide +kernel, fun lossless => ?_⟩
  have changed : (Binary.ofInt .single 16777217).rational? ≠ some 16777217 := by
    decide +kernel
  exact changed (lossless.1 .single _ rfl)

end Value

end RecordMapping
