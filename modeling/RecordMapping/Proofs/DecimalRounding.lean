/-
Module: RecordMapping.Proofs.DecimalRounding
Purpose: How near a decimal is to the floating-point number it becomes.
Main exports: Decimal.rational, Decimal.DoubleRun, Decimal.DoubleRun.rounds_of_short,
  Decimal.rational?_toDouble_iff
-/
import RecordMapping.Proofs.BinaryOperations
import RecordMapping.Proofs.IntegerReading

namespace RecordMapping

/-!
A decimal becomes a floating-point number by a chain of operations that are rounded one by
one.  The chain is described once, by the numbers that each operation rounds; what is said
of its end is arithmetic of rational numbers from there on.
-/

namespace Decimal

open Binary

/-- The rational number that a decimal is. -/
def rational (decimal : Decimal) : ℚ := decimal.mantissa / 10 ^ decimal.scale

/-! ### From decimals to 64 bits -/

/-- The codes that the parts of a decimal are rounded to: its power of ten, what stands in
front of the point and behind it, and the latter over the power. -/
structure DoubleParts (number scale power whole rest fraction : Nat) : Prop where
  power_rounds : Rounds .double ((10 ^ scale : Nat) : ℚ) power
  whole_rounds : Rounds .double ((number / 10 ^ scale : Nat) : ℚ) whole
  rest_rounds : Rounds .double ((number % 10 ^ scale : Nat) : ℚ) rest
  fraction_rounds : Rounds .double (magnitude .double rest / magnitude .double power) fraction

/-- The chain of roundings from the digits and the places of a decimal to a code. -/
inductive DoubleRun (number scale : Nat) : Nat → Prop
  /-- Nothing behind the point: the code is that of the whole part. -/
  | integral {power whole rest fraction : Nat}
      (parts : DoubleParts number scale power whole rest fraction)
      (none : magnitude .double fraction = 0) : DoubleRun number scale whole
  /-- The parts are added, scaled up, rounded to a whole number and scaled down. -/
  | fractional {power whole rest fraction sum product count nearest result : Nat}
      (parts : DoubleParts number scale power whole rest fraction)
      (some : magnitude .double fraction ≠ 0)
      (sum_rounds : Rounds .double (magnitude .double whole + magnitude .double fraction) sum)
      (product_rounds : Rounds .double (magnitude .double sum * magnitude .double power) product)
      (near : |magnitude .double product - count| ≤ 1 / 2)
      (count_rounds : Rounds .double count nearest)
      (result_rounds : Rounds .double (magnitude .double nearest / magnitude .double power)
        result) : DoubleRun number scale result

variable {number scale power whole rest fraction : Nat}

theorem ranges_power (few : scale ≤ maxScale) : Ranges 1 (10 ^ 28) (10 ^ scale : Nat) :=
  ranges_natCast (by exact_mod_cast Nat.pow_le_pow_right (by decide) few)

theorem ranges_of_le {part : Nat} (bounded : number < mantissaBound) (le : part ≤ number) :
    Ranges 1 (10 ^ 29) (part : ℚ) := by
  have below : number < 10 ^ 29 := Nat.lt_trans bounded (by decide)
  exact ranges_natCast (by exact_mod_cast Nat.le_of_lt (Nat.lt_of_le_of_lt le below))

/-- A power of ten is not far from what it is rounded to. -/
theorem power_bounds (few : scale ≤ maxScale)
    (rounds : Rounds .double ((10 ^ scale : Nat) : ℚ) power) :
    1 / 2 ≤ magnitude .double power ∧ magnitude .double power ≤ 2 * 10 ^ 28 := by
  have least := (ranges_power few).low.resolve_left (by positivity)
  have greatest := (ranges_power few).high
  obtain ⟨below, above⟩ := rounds.bounds
  exact ⟨by linarith, by linarith⟩

theorem ne_zero_of_least {code : Nat} (least : 1 / 2 ≤ magnitude .double code) : code ≠ 0 := by
  intro zero
  rw [magnitude_eq_zero_iff.mpr zero] at least
  linarith

/-- The parts of a decimal are rounded to finite numbers. -/
theorem exists_doubleParts (bounded : number < mantissaBound) (few : scale ≤ maxScale) :
    ∃ power whole rest fraction : Fin BinaryFormat.double.finiteCodes,
      DoubleParts number scale power whole rest fraction ∧
      Binary.ofInt .double ((10 ^ scale : Nat) : Int) = .finite false power ∧
      Binary.ofInt .double ((number / 10 ^ scale : Nat) : Int) = .finite false whole ∧
      (Binary.ofInt .double ((number % 10 ^ scale : Nat) : Int)).divide (.finite false power) =
        .finite false fraction := by
  obtain ⟨power, powerIs, power_rounds⟩ := ofInt_natCast_of_normal
    ((ranges_power few).normal (by norm_num) (by norm_num))
  obtain ⟨whole, wholeIs, whole_rounds⟩ := ofInt_natCast_of_normal
    ((ranges_of_le bounded (Nat.div_le_self number (10 ^ scale))).normal (by norm_num)
      (by norm_num))
  have restRanges := ranges_of_le bounded (Nat.mod_le number (10 ^ scale))
  obtain ⟨rest, restIs, rest_rounds⟩ := ofInt_natCast_of_normal
    (restRanges.normal (by norm_num) (by norm_num))
  obtain ⟨least, greatest⟩ := power_bounds few power_rounds
  obtain ⟨fraction, fractionIs, fraction_rounds⟩ := divide_of_normal (ne_zero_of_least least)
    (((restRanges.rounds rest_rounds).div least greatest).normal (by norm_num) (by norm_num))
  refine ⟨power, whole, rest, fraction,
    ⟨power_rounds, whole_rounds, rest_rounds, fraction_rounds⟩, powerIs, wholeIs, ?_⟩
  rw [restIs, fractionIs]

/-- The whole part and the fraction add up to a number of a moderate size. -/
theorem DoubleParts.ranges_sum (parts : DoubleParts number scale power whole rest fraction)
    (bounded : number < mantissaBound) (few : scale ≤ maxScale)
    (some : magnitude .double fraction ≠ 0) :
    Ranges (1 / 10 ^ 30) (10 ^ 30) (magnitude .double whole + magnitude .double fraction) := by
  obtain ⟨least, greatest⟩ := power_bounds few parts.power_rounds
  have wholeRanges :=
    (ranges_of_le bounded (Nat.div_le_self number (10 ^ scale))).rounds parts.whole_rounds
  have fractionRanges :=
    (((ranges_of_le bounded (Nat.mod_le number (10 ^ scale))).rounds parts.rest_rounds).div
      least greatest).rounds parts.fraction_rounds
  have wholeNonneg := wholeRanges.nonneg
  have wholeHigh := wholeRanges.high
  have fractionLow := fractionRanges.low.resolve_left some
  have fractionHigh := fractionRanges.high
  norm_num at wholeHigh fractionLow fractionHigh ⊢
  exact ⟨by linarith, .inr (by linarith), by linarith⟩

/-- The rest of the chain stays within the finite numbers. -/
theorem DoubleParts.exists_fractional {power whole fraction : Fin BinaryFormat.double.finiteCodes}
    (parts : DoubleParts number scale power whole rest fraction)
    (bounded : number < mantissaBound) (few : scale ≤ maxScale)
    (some : magnitude .double fraction ≠ 0) :
    ∃ result : Fin BinaryFormat.double.finiteCodes,
      ((((Binary.finite false whole).add (.finite false fraction)).multiply
        (.finite false power)).round).divide (.finite false power) = .finite false result ∧
        DoubleRun number scale result := by
  obtain ⟨least, greatest⟩ := power_bounds few parts.power_rounds
  have sumRanges := parts.ranges_sum bounded few some
  obtain ⟨sum, sumIs, sum_rounds⟩ := add_of_normal
    (sumRanges.normal (by norm_num) (by norm_num))
  have productRanges := (sumRanges.rounds sum_rounds).mul least greatest
  obtain ⟨product, productIs, product_rounds⟩ := multiply_of_normal
    (productRanges.normal (by norm_num) (by norm_num))
  have countRanges : ∀ count : Nat, |magnitude .double product - count| ≤ 1 / 2 →
      Ranges 1 (10 ^ 62) (count : ℚ) := by
    intro count near
    have high := (productRanges.rounds product_rounds).high
    have below := (abs_le.mp near).1
    norm_num at high below
    have bound : (count : ℚ) ≤ 10 ^ 62 := by linarith
    exact ranges_natCast bound
  obtain ⟨count, nearest, near, nearestIs, count_rounds⟩ := round_of_normal
    fun count near => (countRanges count near).normal (by norm_num) (by norm_num)
  obtain ⟨result, resultIs, result_rounds⟩ := divide_of_normal (ne_zero_of_least least)
    ((((countRanges count near).rounds count_rounds).div least greatest).normal
      (by norm_num) (by norm_num))
  refine ⟨result, ?_, .fractional parts some sum_rounds product_rounds near count_rounds
    result_rounds⟩
  rw [sumIs, productIs, nearestIs, resultIs]

/-- The conversion in terms of what its first operations are rounded to. -/
theorem magnitudeToDouble_eq {power whole fraction : Binary64}
    (powerIs : Binary.ofInt .double ((10 ^ scale : Nat) : Int) = power)
    (wholeIs : Binary.ofInt .double ((number / 10 ^ scale : Nat) : Int) = whole)
    (fractionIs : (Binary.ofInt .double ((number % 10 ^ scale : Nat) : Int)).divide power =
      fraction) :
    magnitudeToDouble number scale =
      if fraction.isZero then whole
      else (((whole.add fraction).multiply power).round).divide power := by
  rw [Int.natCast_ediv] at wholeIs
  rw [Int.natCast_emod] at fractionIs
  unfold magnitudeToDouble
  rw [Nat.pow_eq]
  dsimp only
  rw [powerIs, fractionIs, wholeIs]

/-- Every magnitude of a decimal becomes a finite number by such a chain. -/
theorem exists_doubleRun (bounded : number < mantissaBound) (few : scale ≤ maxScale) :
    ∃ code, magnitudeToDouble number scale = .finite false code ∧
      DoubleRun number scale code := by
  obtain ⟨power, whole, rest, fraction, parts, powerIs, wholeIs, fractionIs⟩ :=
    exists_doubleParts bounded few
  rw [magnitudeToDouble_eq powerIs wholeIs fractionIs]
  have isZero : (Binary.finite false fraction).isZero = true ↔
      magnitude .double fraction = 0 := by
    rw [Binary.isZero, beq_iff_eq, magnitude_eq_zero_iff]
  by_cases none : magnitude .double fraction = 0
  · exact ⟨whole, if_pos (isZero.mpr none), .integral parts none⟩
  · obtain ⟨result, resultIs, run⟩ := parts.exists_fractional bounded few none
    exact ⟨result, by rw [if_neg (mt isZero.mp none), resultIs], run⟩

/-! ### What the chain comes to -/

variable {result : Nat}

/-- A number of at most 53 bits is its own rounding. -/
theorem magnitude_of_small {code : Nat} (rounds : Rounds .double (number : ℚ) code)
    (small : number < 2 ^ 53) : magnitude .double code = number := by
  apply rounds.same
  have within : ((number : Nat) : Int).natAbs < 2 ^ BinaryFormat.double.reach :=
    Nat.lt_of_lt_of_le small (Nat.pow_le_pow_right (by decide) (by decide))
  have has := (BinaryFormat.has_intCast_iff within).mpr
    ⟨number, 0, by simp, small⟩
  exact_mod_cast has

/-- The powers of ten up to the twenty-second have few enough bits. -/
theorem magnitude_of_power (rounds : Rounds .double ((10 ^ scale : Nat) : ℚ) power)
    (few : scale ≤ 22) : magnitude .double power = (10 ^ scale : Nat) := by
  apply rounds.same
  have within : ((10 ^ scale : Nat) : Int).natAbs < 2 ^ BinaryFormat.double.reach := by
    refine Nat.lt_of_le_of_lt (Nat.pow_le_pow_right (by decide) few) ?_
    exact Nat.lt_of_lt_of_le (by decide : 10 ^ 22 < 2 ^ 100)
      (Nat.pow_le_pow_right (by decide) (by decide))
  have has := (BinaryFormat.has_intCast_iff within).mpr
    ⟨5 ^ scale, scale, by rw [← Nat.mul_pow]; rfl, Nat.lt_of_le_of_lt
      (Nat.pow_le_pow_right (by decide) few) (by decide)⟩
  exact_mod_cast has

/-- Nothing behind the point is rounded to nothing. -/
theorem DoubleParts.fraction_eq_zero (parts : DoubleParts number scale power whole rest fraction)
    (integral : number % 10 ^ scale = 0) : magnitude .double fraction = 0 := by
  have nothing : ∀ {code}, Rounds .double 0 code → magnitude .double code = 0 := by
    intro code rounds
    exact rounds.same ⟨Binary.zero .double false, by
      simp [Binary.zero, rational?, magnitude, units, significand, signedBy]⟩
  have rest_rounds := parts.rest_rounds
  rw [integral, Nat.cast_zero] at rest_rounds
  have fraction_rounds := parts.fraction_rounds
  rw [nothing rest_rounds, zero_div] at fraction_rounds
  exact nothing fraction_rounds

/-- A decimal without fraction becomes its whole part, rounded. -/
theorem DoubleRun.rounds_of_integral (run : DoubleRun number scale result)
    (integral : number % 10 ^ scale = 0) :
    Rounds .double (number / 10 ^ scale : Nat) result := by
  cases run with
  | integral parts none => exact parts.whole_rounds
  | fractional parts some => exact absurd (parts.fraction_eq_zero integral) some

/-- The whole part and the fraction add up to the decimal. -/
theorem whole_add_rest (number scale : Nat) :
    ((number / 10 ^ scale : Nat) : ℚ) + ((number % 10 ^ scale : Nat) : ℚ) / (10 ^ scale : Nat) =
      number / (10 ^ scale : Nat) := by
  have positive : ((10 ^ scale : Nat) : ℚ) ≠ 0 := by positivity
  have split := Nat.div_add_mod number (10 ^ scale)
  rw [eq_div_iff positive, add_mul, div_mul_cancel₀ _ positive]
  exact_mod_cast (by rw [Nat.mul_comm]; exact split)

/-- Only an integer has a fraction that is rounded to nothing. -/
theorem DoubleParts.integral (parts : DoubleParts number scale power whole rest fraction)
    (few : scale ≤ maxScale) (none : magnitude .double fraction = 0) :
    number % 10 ^ scale = 0 := by
  have least := (power_bounds few parts.power_rounds).1
  have quotient := parts.fraction_rounds.eq_zero none
  rw [div_eq_zero_iff, or_iff_left (by linarith)] at quotient
  exact_mod_cast parts.rest_rounds.eq_zero quotient

/-- Whole numbers less than one apart are the same. -/
theorem eq_of_lt_add_one {one two : Nat} (above : (one : ℚ) < two + 1)
    (below : (two : ℚ) < one + 1) : one = two := by
  have least : one < two + 1 := by exact_mod_cast above
  have most : two < one + 1 := by exact_mod_cast below
  omega

/-- Whole numbers that are both within a half of a number are the same. -/
theorem eq_of_near_of_near {one two : Nat} {middle : ℚ} (first : |middle - one| ≤ 1 / 2)
    (second : |middle - two| < 1 / 2) : one = two := by
  obtain ⟨_, _⟩ := abs_le.mp first
  obtain ⟨_, _⟩ := abs_lt.mp second
  exact eq_of_lt_add_one (by linarith) (by linarith)

/-- Scaled up again, the sum of the parts is close to the digits: they are what a number that
the format has comes to, and few digits outweigh three roundings. -/
theorem DoubleParts.product_near (parts : DoubleParts number scale power whole rest fraction)
    (small : number < 2 ^ 53) (few : scale ≤ 22)
    (close : BinaryFormat.double.Has (number / (10 ^ scale : Nat)) ∨ number ≤ 10 ^ 15)
    {sum product : Nat}
    (sum_rounds : Rounds .double (magnitude .double whole + magnitude .double fraction) sum)
    (product_rounds : Rounds .double (magnitude .double sum * magnitude .double power) product) :
    |magnitude .double product - number| < 1 / 2 := by
  have positive : (0 : ℚ) < (10 ^ scale : Nat) := by positivity
  have powerIs := magnitude_of_power parts.power_rounds few
  have wholeIs := magnitude_of_small parts.whole_rounds
    (Nat.lt_of_le_of_lt (Nat.div_le_self _ _) small)
  have restIs := magnitude_of_small parts.rest_rounds
    (Nat.lt_of_le_of_lt (Nat.mod_le _ _) small)
  have fraction_rounds := parts.fraction_rounds
  have split := whole_add_rest number scale
  rw [powerIs, restIs] at fraction_rounds
  rw [wholeIs] at sum_rounds
  rw [powerIs] at product_rounds
  rcases close with has | bounded
  · -- the format has the fraction as well, so none of the three operations rounds
    rw [fraction_rounds.same (has.fraction (Nat.pow_pos (by decide))), split] at sum_rounds
    rw [sum_rounds.same has, div_mul_cancel₀ _ positive.ne'] at product_rounds
    rw [magnitude_of_small product_rounds small, sub_self, abs_zero]
    norm_num
  · -- each of the three is off by 2⁻⁵³ of what it rounds, which is less than a sixth in all
    have bound : (number : ℚ) ≤ 1000000000000000 := by exact_mod_cast bounded
    have fractionNear := fraction_rounds.near_mul positive
    have sumNear := sum_rounds.near_mul positive
    have productNear := product_rounds.near
    have total : ((number / 10 ^ scale : Nat) : ℚ) * (10 ^ scale : Nat) +
        ((number % 10 ^ scale : Nat) : ℚ) = number := by
      exact_mod_cast Nat.div_add_mod' number (10 ^ scale)
    have wholeNonneg : (0 : ℚ) ≤ ((number / 10 ^ scale : Nat) : ℚ) * (10 ^ scale : Nat) := by
      positivity
    have restNonneg : (0 : ℚ) ≤ ((number % 10 ^ scale : Nat) : ℚ) := by positivity
    rw [div_mul_cancel₀ _ positive.ne'] at fractionNear
    rw [add_mul] at sumNear
    generalize ((number / 10 ^ scale : Nat) : ℚ) * (10 ^ scale : Nat) = front at *
    generalize magnitude .double fraction * (10 ^ scale : Nat) = behind at *
    generalize magnitude .double sum * (10 ^ scale : Nat) = together at *
    have bits : (2 : ℚ) ^ (BinaryFormat.double.fractionBits + 1) = 2 ^ 53 := rfl
    rw [bits] at productNear
    norm_num at fractionNear sumNear productNear ⊢
    rw [← le_div_iff₀ (by norm_num), abs_le] at fractionNear sumNear productNear
    obtain ⟨_, _⟩ := fractionNear
    obtain ⟨_, _⟩ := sumNear
    obtain ⟨_, _⟩ := productNear
    rw [abs_lt]
    constructor
    · linarith
    · linarith

/-- A decimal of at most 53 bits and 22 places becomes the number of the format nearest to
it, if the format has it or it has at most fifteen digits. -/
theorem DoubleRun.rounds_of_short (run : DoubleRun number scale result) (small : number < 2 ^ 53)
    (few : scale ≤ 22)
    (close : BinaryFormat.double.Has (number / (10 ^ scale : Nat)) ∨ number ≤ 10 ^ 15) :
    Rounds .double (number / (10 ^ scale : Nat)) result := by
  have places : scale ≤ maxScale := Nat.le_trans few (by decide)
  cases run with
  | @integral power _ rest fraction parts none =>
      have integral := parts.integral places none
      have exact := (DoubleRun.integral parts none).rounds_of_integral integral
      have split := whole_add_rest number scale
      rw [integral, Nat.cast_zero, zero_div, add_zero] at split
      rwa [split] at exact
  | fractional parts some sum_rounds product_rounds near count_rounds result_rounds =>
      have same := eq_of_near_of_near near
        (parts.product_near small few close sum_rounds product_rounds)
      rw [same] at count_rounds
      rwa [magnitude_of_small count_rounds small, magnitude_of_power parts.power_rounds few]
        at result_rounds

/-- A decimal with places stays below the bound of mantissas. -/
theorem DoubleRun.lt_bound (run : DoubleRun number scale result)
    (bounded : number < mantissaBound) (few : scale ≤ maxScale) (places : scale ≠ 0) :
    magnitude .double result < mantissaBound := by
  have tenth : ((number / 10 ^ scale : Nat) : ℚ) ≤ mantissaBound / 10 := by
    rw [le_div_iff₀ (by norm_num)]
    have ten : 10 ≤ 10 ^ scale := Nat.le_self_pow places 10
    have le := Nat.le_trans (Nat.mul_le_mul_left (number / 10 ^ scale) ten)
      (Nat.div_mul_le_self number (10 ^ scale))
    exact_mod_cast Nat.le_trans le bounded.le
  have size : (mantissaBound : ℚ) = 2 ^ 96 := by norm_num [mantissaBound]
  rw [size] at tenth ⊢
  cases run with
  | integral parts none =>
      have := parts.whole_rounds.le
      norm_num at *
      linarith
  | @fractional power whole rest fraction sum product count nearest _ parts some sum_rounds
      product_rounds near count_rounds result_rounds =>
      obtain ⟨least, _⟩ := power_bounds few parts.power_rounds
      have positive : 0 < magnitude .double power := by linarith
      have proper : magnitude .double rest / magnitude .double power ≤ 4 := by
        rw [div_le_iff₀ positive]
        have := parts.rest_rounds.bounds.2
        have := parts.power_rounds.bounds.1
        have strict : ((number % 10 ^ scale : Nat) : ℚ) < (10 ^ scale : Nat) := by
          exact_mod_cast Nat.mod_lt number (Nat.pow_pos (by decide))
        linarith
      have product_le : magnitude .double product / magnitude .double power ≤
          magnitude .double sum * (1001 / 1000) := by
        rw [div_le_iff₀ positive]
        have := product_rounds.le
        linarith
      have nearest_le : magnitude .double nearest / magnitude .double power ≤
          magnitude .double product / magnitude .double power * (1001 / 1000) + 2 := by
        rw [div_le_iff₀ positive, add_mul, mul_right_comm, div_mul_cancel₀ _ positive.ne']
        have := count_rounds.le
        have := (abs_le.mp near).1
        linarith
      have := parts.whole_rounds.le
      have := parts.fraction_rounds.le
      have := sum_rounds.le
      have := result_rounds.le
      norm_num at *
      linarith

/-! ### Decimals -/

theorem rational_eq_signedBy (decimal : Decimal) :
    decimal.rational = signedBy (decide (decimal.mantissa < 0))
      (decimal.mantissa.natAbs / (10 ^ decimal.scale : Nat)) := by
  rw [rational, ← signedBy_natAbs decimal.mantissa]
  cases decide (decimal.mantissa < 0) <;> simp [signedBy, neg_div]

theorem abs_rational (decimal : Decimal) :
    |decimal.rational| = decimal.mantissa.natAbs / 10 ^ decimal.scale := by
  rw [rational, abs_div, abs_of_pos (by positivity : (0 : ℚ) < 10 ^ decimal.scale),
    Nat.cast_natAbs, Int.cast_abs]

/-- The mantissas of decimals are bounded, and so are the numbers. -/
theorem abs_rational_lt (decimal : Decimal) : |decimal.rational| < mantissaBound := by
  rw [abs_rational]
  refine lt_of_le_of_lt (div_le_self (by positivity) (one_le_pow₀ (by norm_num))) ?_
  exact_mod_cast decimal.mantissa_bound

theorem sameNumber_iff {one two : Decimal} :
    one.sameNumber two = true ↔ one.rational = two.rational := by
  rw [sameNumber, beq_iff_eq, rational, rational, div_eq_div_iff (by positivity) (by positivity)]
  simp only [Nat.pow_eq]
  exact_mod_cast Iff.rfl

/-- A magnitude without fraction becomes its whole part. -/
theorem magnitudeToDouble_of_integral (bounded : number < mantissaBound) (few : scale ≤ maxScale)
    (integral : number % 10 ^ scale = 0) :
    magnitudeToDouble number scale = Binary.ofInt .double (number / 10 ^ scale : Nat) := by
  obtain ⟨power, whole, rest, fraction, parts, powerIs, wholeIs, fractionIs⟩ :=
    exists_doubleParts bounded few
  rw [magnitudeToDouble_eq powerIs wholeIs fractionIs, wholeIs, if_pos]
  rw [Binary.isZero, beq_iff_eq, ← magnitude_eq_zero_iff, parts.fraction_eq_zero integral]

/-- An integer with a sign is the same as rounding its magnitude and giving it the sign. -/
theorem ofInt_neg_natCast (positive : 0 < number) :
    Binary.ofInt .double (-(number : Int)) = (Binary.ofInt .double number).negate := by
  have negative : decide (-(number : Int) < 0) = true := by simpa using positive
  have nonneg : decide ((number : Int) < 0) = false := by simp
  rw [Binary.ofInt, Binary.ofInt, negative, nonneg, Int.natAbs_neg, Int.natAbs_natCast, ofRatio,
    ofRatio]
  split <;> rfl

/-- A decimal that denotes an integer becomes what the integer is rounded to. -/
theorem toDouble_of_integral {decimal : Decimal} {number : Int}
    (integral : decimal.mantissa = number * 10 ^ decimal.scale) :
    decimal.toDouble = Binary.ofInt .double number := by
  by_cases places : decimal.scale = 0
  · rw [toDouble, if_pos places, integral, places, pow_zero, mul_one]
  · have power : 0 < 10 ^ decimal.scale := Nat.pow_pos (by decide)
    have size : decimal.mantissa.natAbs = number.natAbs * 10 ^ decimal.scale := by
      rw [integral, Int.natAbs_mul, Int.natAbs_pow]
      rfl
    have magnitude := magnitudeToDouble_of_integral decimal.mantissa_bound decimal.scale_bound
      (by rw [size, Nat.mul_mod_left])
    rw [size, Nat.mul_div_cancel _ power] at magnitude
    rw [toDouble, if_neg places, size]
    dsimp only
    rw [magnitude]
    have sign : decimal.mantissa < 0 ↔ number < 0 := by
      have unit : (0 : Int) < 10 ^ decimal.scale := by positivity
      rw [integral]
      exact ⟨fun below => neg_of_mul_neg_left below unit.le,
        fun below => mul_neg_of_neg_of_pos below unit⟩
    rw [if_congr sign rfl rfl]
    rcases Int.lt_or_le number 0 with negative | positive
    · have opposite : -(number.natAbs : Int) = number := by omega
      rw [if_pos negative, ← ofInt_neg_natCast (by omega), opposite]
    · rw [if_neg (by omega), Int.natAbs_of_nonneg positive]

/-- Any other decimal goes through the whole chain. -/
theorem exists_toDouble {decimal : Decimal} (places : decimal.scale ≠ 0) :
    ∃ code, decimal.toDouble = .finite (decide (decimal.mantissa < 0)) code ∧
      DoubleRun decimal.mantissa.natAbs decimal.scale code := by
  obtain ⟨code, same, run⟩ := exists_doubleRun decimal.mantissa_bound decimal.scale_bound
  refine ⟨code, ?_, run⟩
  rw [toDouble, if_neg places]
  dsimp only
  rw [same]
  by_cases negative : decimal.mantissa < 0
  · simp [negative, negate]
  · simp [negative]

/-- An integer is below the bound of mantissas if a decimal denotes it. -/
theorem natAbs_lt_of_integral {decimal : Decimal} {number : Int}
    (integral : decimal.mantissa = number * 10 ^ decimal.scale) :
    number.natAbs < mantissaBound := by
  refine Nat.lt_of_le_of_lt ?_ decimal.mantissa_bound
  rw [integral, Int.natAbs_mul]
  exact Nat.le_mul_of_pos_right _ (Int.natAbs_pos.mpr (by positivity))

theorem rational_of_integral {decimal : Decimal} {number : Int}
    (integral : decimal.mantissa = number * 10 ^ decimal.scale) : decimal.rational = number := by
  rw [rational, integral]
  push_cast
  rw [mul_div_cancel_right₀ _ (by positivity)]

/-- The decimals whose conversion does not depend on how their digits are arranged: integers,
and those of at most 53 bits and 22 places. -/
structure Short (decimal : Decimal) : Prop where
  bits : decimal.mantissa.natAbs < 2 ^ 53
  places : decimal.scale ≤ 22

/-- A decimal that is an integer or short is the same number in 64 bits exactly when they
have it. -/
theorem rational?_toDouble_iff {decimal : Decimal}
    (plain : decimal.isIntegral = true ∨ decimal.Short) :
    decimal.toDouble.rational? = some decimal.rational ↔
      BinaryFormat.double.Has decimal.rational := by
  refine ⟨fun exact => ⟨_, exact⟩, fun has => ?_⟩
  by_cases integral : decimal.isIntegral = true
  · obtain ⟨number, whole⟩ := isIntegral_iff.mp integral
    rw [rational_of_integral whole] at has ⊢
    rw [toDouble_of_integral whole, rational?_ofInt_iff]
    exact has
  · have short := plain.resolve_left integral
    have places : decimal.scale ≠ 0 := by
      intro none
      exact integral (isIntegral_iff.mpr ⟨decimal.mantissa, by rw [none, pow_zero, mul_one]⟩)
    obtain ⟨code, same, run⟩ := exists_toDouble places
    rw [rational_eq_signedBy, has_signedBy_iff] at has
    have rounds := run.rounds_of_short short.bits short.places (.inl has)
    rw [same, rational_eq_signedBy, rational?, rounds.same has]

/-- Without the bound on the digits a number of the format may be lost: a half with 22 places
is rounded on the way. -/
example : (⟨4975000000000000000000000, 22, by decide, by decide⟩ : Decimal).toDouble.rational? ≠
    some (995 / 2) := by decide +kernel

end Decimal

end RecordMapping
