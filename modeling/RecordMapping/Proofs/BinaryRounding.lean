/-
Module: RecordMapping.Proofs.BinaryRounding
Purpose: The numbers that floating-point formats have, and how far rounding goes.
Main exports: Binary.rational?, BinaryFormat.Has, Binary.rational?_ofRatio_iff,
  Binary.Rounds, Binary.ofRatio_of_normal, BinaryFormat.has_intCast_iff
-/
import Mathlib.Algebra.Order.Field.Rat
import Mathlib.Tactic.FieldSimp
import Mathlib.Tactic.Linarith
import Mathlib.Tactic.NormNum
import Mathlib.Tactic.Positivity
import Mathlib.Tactic.Ring
import RecordMapping.Proofs.OwnContents

namespace RecordMapping

/-!
A finite floating-point number is a rational number.  A quotient is rounded to a significand
times a power of two, off by at most one half of that power, and it is not changed at all if
the format has it.  Everything that is said of conversions later on follows from these two
facts.
-/

/-! ### Rounding to whole numbers -/

theorem le_roundHalfEven (numerator denominator : Nat) :
    numerator / denominator ≤ roundHalfEven numerator denominator := by
  simp only [roundHalfEven]
  split
  · exact Nat.le_refl _
  · split <;> omega

theorem roundHalfEven_le (numerator denominator : Nat) :
    roundHalfEven numerator denominator ≤ numerator / denominator + 1 := by
  simp only [roundHalfEven]
  split
  · omega
  · split <;> omega

/-- The nearest whole number is at most a half away. -/
theorem roundHalfEven_half (numerator : Nat) {denominator : Nat} (positive : 0 < denominator) :
    2 * numerator ≤ 2 * (roundHalfEven numerator denominator * denominator) + denominator ∧
      2 * (roundHalfEven numerator denominator * denominator) ≤ 2 * numerator + denominator := by
  have split := Nat.div_add_mod' numerator denominator
  have small := Nat.mod_lt numerator positive
  generalize quotient_eq : numerator / denominator = quotient at split
  generalize remainder_eq : numerator % denominator = remainder at split small
  simp only [roundHalfEven, quotient_eq, remainder_eq]
  have next : (quotient + 1) * denominator = quotient * denominator + denominator := by ring
  split
  · omega
  · split
    · omega
    · have parity := Nat.mod_two_eq_zero_or_one quotient
      rcases parity with even | odd
      · rw [even, Nat.add_zero]
        omega
      · rw [odd]
        omega

/-- A common factor does not change what a quotient is rounded to. -/
theorem roundHalfEven_mul_right (numerator denominator : Nat) {factor : Nat}
    (positive : 0 < factor) :
    roundHalfEven (numerator * factor) (denominator * factor) =
      roundHalfEven numerator denominator := by
  have twice : 2 * (numerator % denominator * factor) =
      2 * (numerator % denominator) * factor := (Nat.mul_assoc _ _ _).symm
  simp only [roundHalfEven, Nat.mul_div_mul_right _ _ positive, Nat.mul_mod_mul_right, twice,
    Nat.mul_lt_mul_right positive]

namespace Binary

variable {format : BinaryFormat}

/-! ### Codes and their magnitudes -/

theorem significand_lt (format : BinaryFormat) (code : Nat) :
    significand format code < 2 ^ (format.fractionBits + 1) := by
  have fraction := Nat.mod_lt code (Nat.two_pow_pos format.fractionBits)
  simp only [significand, Nat.pow_eq, Nat.pow_succ]
  split <;> omega

/-- What is doubled has a leading bit. -/
theorem le_significand (format : BinaryFormat) {code : Nat} (doubled : 0 < doublings format code) :
    2 ^ format.fractionBits ≤ significand format code := by
  have positive := Nat.two_pow_pos format.fractionBits
  simp only [significand, Nat.pow_eq]
  split
  · rename_i small
    simp only [doublings, Nat.pow_eq, Nat.div_eq_of_lt small] at doubled
    omega
  · exact Nat.le_add_right _ _

/-- The code of a significand under a number of doublings: a significand that reaches the
next power of two is carried into the doublings. -/
theorem units_compose {doublings significand : Nat}
    (bounded : significand ≤ 2 ^ (format.fractionBits + 1))
    (normal : doublings = 0 ∨ 2 ^ format.fractionBits ≤ significand) :
    units format (doublings * 2 ^ format.fractionBits + significand) =
      significand * 2 ^ doublings := by
  have positive := Nat.two_pow_pos format.fractionBits
  simp only [units, Binary.significand, Binary.doublings, Nat.pow_eq]
  generalize two_pow : 2 ^ format.fractionBits = unit at *
  rw [Nat.pow_succ, two_pow] at bounded
  by_cases small : significand < unit
  · obtain rfl : doublings = 0 := by omega
    simp [small, Nat.div_eq_of_lt small]
  · have above : ¬ doublings * unit + significand < unit := by
      have := Nat.zero_le (doublings * unit)
      omega
    rw [if_neg above]
    -- a significand that was rounded up to the next power of two is one more doubling
    rcases Nat.lt_or_eq_of_le bounded with within | carried
    · have quotient : (doublings * unit + significand) / unit = doublings + 1 := by
        apply Nat.div_eq_of_lt_le
        · rw [Nat.add_mul]
          omega
        · rw [Nat.add_mul, Nat.add_mul]
          omega
      have remainder : (doublings * unit + significand) % unit = significand - unit := by
        have whole := Nat.div_add_mod' (doublings * unit + significand) unit
        rw [quotient, Nat.add_mul] at whole
        omega
      rw [quotient, remainder, Nat.add_sub_cancel]
      congr 1
      omega
    · have sum : doublings * unit + significand = (doublings + 2) * unit := by
        rw [carried]
        ring
      rw [sum, Nat.mul_div_cancel _ positive, Nat.mul_mod_left, carried,
        Nat.add_sub_assoc (by decide), Nat.pow_add]
      ring

/-- The nearest code is composed of a significand and as many doublings as the quotient has
bits too many. -/
theorem units_nearestCode (format : BinaryFormat) (numerator : Nat) {denominator : Nat}
    (positive : 0 < denominator) :
    ∃ doublings significand,
      significand = roundHalfEven numerator (denominator * 2 ^ doublings) ∧
      nearestCode format numerator denominator =
        doublings * 2 ^ format.fractionBits + significand ∧
      significand ≤ 2 ^ (format.fractionBits + 1) ∧
      (doublings = 0 ∨ denominator * 2 ^ (doublings + format.fractionBits) ≤ numerator ∧
        2 ^ format.fractionBits ≤ significand) ∧
      numerator < denominator * 2 ^ (doublings + format.fractionBits + 1) := by
  have scale : ∀ count, 0 < denominator * 2 ^ count := fun count =>
    Nat.mul_pos positive (Nat.two_pow_pos count)
  obtain ⟨count, count_eq⟩ : ∃ count,
      count = Nat.log2 (numerator / denominator) + 1 - (format.fractionBits + 1) := ⟨_, rfl⟩
  have upper : numerator < denominator * 2 ^ (count + format.fractionBits + 1) := by
    have bits : numerator / denominator < 2 ^ (count + format.fractionBits + 1) :=
      Nat.lt_of_lt_of_le Nat.lt_log2_self
        (Nat.pow_le_pow_right (by decide) (by omega))
    rw [Nat.mul_comm]
    exact (Nat.div_lt_iff_lt_mul positive).mp bits
  have lower : count = 0 ∨ denominator * 2 ^ (count + format.fractionBits) ≤ numerator := by
    rcases Nat.eq_zero_or_pos count with none | some
    · exact .inl none
    · have filled : numerator / denominator ≠ 0 := by
        intro empty
        rw [empty] at count_eq
        simp at count_eq
        omega
      have bits : 2 ^ (count + format.fractionBits) ≤ numerator / denominator := by
        have exponent : count + format.fractionBits = Nat.log2 (numerator / denominator) := by
          omega
        rw [exponent]
        exact Nat.log2_self_le filled
      refine .inr ?_
      rw [Nat.mul_comm]
      exact (Nat.le_div_iff_mul_le positive).mp bits
  refine ⟨count, _, rfl, ?_, ?_, lower.imp_right fun reached => ⟨reached, ?_⟩, upper⟩
  · simp only [nearestCode, Nat.pow_eq, ← count_eq]
  · have quotient : numerator / (denominator * 2 ^ count) < 2 ^ (format.fractionBits + 1) := by
      rw [Nat.div_lt_iff_lt_mul (scale count), Nat.mul_comm, Nat.mul_assoc, ← Nat.pow_add,
        ← Nat.add_assoc]
      exact upper
    exact Nat.le_trans (roundHalfEven_le _ _) quotient
  · refine Nat.le_trans ?_ (le_roundHalfEven _ _)
    rw [Nat.le_div_iff_mul_le (scale count), Nat.mul_comm, Nat.mul_assoc, ← Nat.pow_add]
    exact reached

/-- A quotient with a normal significand is off from its nearest code by at most one unit of
the bit behind that significand. -/
theorem units_nearestCode_near (format : BinaryFormat) {numerator denominator : Nat}
    (positive : 0 < denominator)
    (normal : numerator = 0 ∨ denominator * 2 ^ format.fractionBits ≤ numerator) {product : Nat}
    (whole : product = units format (nearestCode format numerator denominator) * denominator) :
    2 ^ (format.fractionBits + 1) * numerator ≤
        2 ^ (format.fractionBits + 1) * product + numerator ∧
      2 ^ (format.fractionBits + 1) * product ≤
        2 ^ (format.fractionBits + 1) * numerator + numerator := by
  obtain ⟨doublings, significand, rounded, composed, bounded, lower, _⟩ :=
    units_nearestCode format numerator positive
  have product_eq : product = significand * (denominator * 2 ^ doublings) := by
    rw [whole, composed, units_compose bounded (lower.imp_right fun reached => reached.2)]
    ring
  have half := roundHalfEven_half numerator
    (Nat.mul_pos positive (Nat.two_pow_pos doublings))
  rw [← rounded, ← product_eq] at half
  rcases normal with zero | normal
  · rcases lower with none | ⟨reached, _⟩
    · rw [none, Nat.pow_zero, Nat.mul_one] at half product_eq
      have nothing : significand = 0 := by
        by_contra some
        have := Nat.le_mul_of_pos_left denominator (Nat.pos_of_ne_zero some)
        omega
      rw [product_eq, nothing, zero]
      simp
    · have := Nat.mul_pos positive (Nat.two_pow_pos (doublings + format.fractionBits))
      omega
  · have spacing : denominator * 2 ^ doublings * 2 ^ format.fractionBits ≤ numerator := by
      rcases lower with none | ⟨reached, _⟩
      · rw [none, Nat.pow_zero, Nat.mul_one]
        exact normal
      · rw [Nat.mul_assoc, ← Nat.pow_add]
        exact reached
    have above := Nat.mul_le_mul_left (2 ^ format.fractionBits) half.1
    have below := Nat.mul_le_mul_left (2 ^ format.fractionBits) half.2
    rw [Nat.mul_add] at above below
    rw [Nat.mul_comm (denominator * 2 ^ doublings)] at spacing
    rw [Nat.pow_succ]
    constructor
    · linarith
    · linarith

/-! ### Numbers -/

/-- The magnitude of a code. -/
def magnitude (format : BinaryFormat) (code : Nat) : ℚ :=
  units format code / 2 ^ format.depth

/-- A magnitude with a sign. -/
def signedBy (negative : Bool) (magnitude : ℚ) : ℚ :=
  if negative then -magnitude else magnitude

/-- The rational number that a finite number is. -/
def rational? : Binary format → Option ℚ
  | .finite negative code => some (signedBy negative (magnitude format code))
  | .nan | .infinite _ => none

end Binary

namespace BinaryFormat

/-- The numbers of a format. -/
def Has (format : BinaryFormat) (number : ℚ) : Prop :=
  ∃ content : Binary format, content.rational? = some number

/-- The power of two below which all numbers are rounded to finite ones. -/
def reach (format : BinaryFormat) : Nat := 2 ^ (format.exponentBits - 1) - 1

theorem depth_eq (format : BinaryFormat) :
    format.depth = format.reach - 1 + format.fractionBits := by
  cases format <;> rfl

/-- Zero, and the numbers whose significands are normal and not out of reach. -/
def Normal (format : BinaryFormat) (number : ℚ) : Prop :=
  (number = 0 ∨ 1 / 2 ^ (format.reach - 1) ≤ number) ∧ number < 2 ^ format.reach

end BinaryFormat

namespace Binary

variable {format : BinaryFormat}

theorem magnitude_nonneg (format : BinaryFormat) (code : Nat) : 0 ≤ magnitude format code := by
  unfold magnitude
  positivity

theorem abs_signedBy {negative : Bool} {number : ℚ} (nonneg : 0 ≤ number) :
    |signedBy negative number| = number := by
  cases negative
  · exact abs_of_nonneg nonneg
  · simpa [signedBy] using nonneg

theorem signedBy_inj {negative : Bool} {one two : ℚ} :
    signedBy negative one = signedBy negative two ↔ one = two := by
  cases negative <;> simp [signedBy]

/-- A code is nearest to a quotient that is its magnitude. -/
theorem nearestCode_of_magnitude {numerator denominator code : Nat} (positive : 0 < denominator)
    (same : magnitude format code = numerator / denominator) :
    nearestCode format (numerator * Nat.pow 2 format.depth) denominator = code := by
  have scale : (0 : ℚ) < 2 ^ format.depth := by positivity
  have bottom : (0 : ℚ) < denominator := by exact_mod_cast positive
  have product : numerator * Nat.pow 2 format.depth = units format code * denominator := by
    rw [magnitude, div_eq_div_iff scale.ne' bottom.ne'] at same
    rw [Nat.pow_eq]
    exact_mod_cast same.symm
  rw [product, nearestCode_units format code positive]

/-- A quotient that the format has is not changed by rounding. -/
theorem ofRatio_of_has {numerator denominator : Nat} (positive : 0 < denominator)
    (has : format.Has (numerator / denominator)) (negative : Bool) :
    ∃ code, ofRatio format negative numerator denominator = .finite negative code ∧
      magnitude format code = numerator / denominator := by
  obtain ⟨content, held⟩ := has
  cases content with
  | nan => cases held
  | infinite _ => cases held
  | finite sign code =>
      have nonneg : (0 : ℚ) ≤ numerator / denominator := by positivity
      have same : magnitude format code = numerator / denominator := by
        have sized := congrArg abs (Option.some.inj held)
        rwa [abs_signedBy (magnitude_nonneg format code), abs_of_nonneg nonneg] at sized
      have nearest := nearestCode_of_magnitude positive same
      exact ⟨code, by simp only [ofRatio, nearest, code.isLt, dif_pos], same⟩

theorem has_signedBy_iff {negative : Bool} {number : ℚ} :
    format.Has (signedBy negative number) ↔ format.Has number := by
  have flip : ∀ {number : ℚ}, format.Has number → format.Has (-number) := by
    rintro number ⟨content, held⟩
    cases content with
    | nan => cases held
    | infinite _ => cases held
    | finite sign code =>
        refine ⟨.finite (!sign) code, ?_⟩
        rw [rational?, ← Option.some.inj held]
        cases sign <;> simp [signedBy]
  cases negative
  · exact Iff.rfl
  · exact ⟨fun has => by simpa [signedBy] using flip has, fun has => flip has⟩

/-- Rounding gives the quotient itself exactly when the format has it. -/
theorem rational?_ofRatio_iff (format : BinaryFormat) (negative : Bool) (numerator : Nat)
    {denominator : Nat} (positive : 0 < denominator) :
    (ofRatio format negative numerator denominator).rational? =
        some (signedBy negative (numerator / denominator)) ↔
      format.Has (signedBy negative (numerator / denominator)) := by
  constructor
  · exact fun exact => ⟨_, exact⟩
  · intro has
    obtain ⟨code, rounded, same⟩ := ofRatio_of_has positive (has_signedBy_iff.mp has) negative
    rw [rounded, rational?, same]

/-! ### The error of rounding -/

/-- A code that a number is rounded to: off by at most one unit of the bit behind the
significand, and not at all if the format has the number. -/
structure Rounds (format : BinaryFormat) (number : ℚ) (code : Nat) : Prop where
  near : |magnitude format code - number| * 2 ^ (format.fractionBits + 1) ≤ number
  same : format.Has number → magnitude format code = number

/-- Quotients that are not out of reach have finite nearest codes. -/
theorem nearestCode_lt_finiteCodes (format : BinaryFormat) (numerator : Nat)
    {denominator : Nat} (positive : 0 < denominator)
    (within : numerator < denominator * 2 ^ format.reach) :
    nearestCode format (numerator * Nat.pow 2 format.depth) denominator < format.finiteCodes := by
  obtain ⟨doublings, significand, _, composed, bounded, lower, _⟩ :=
    units_nearestCode format (numerator * Nat.pow 2 format.depth) positive
  -- the reach of a format is far below its last doubling, so a carry does no harm
  have few : doublings + 2 < 2 ^ format.exponentBits - 1 := by
    rcases lower with none | ⟨reached, _⟩
    · rw [none]
      cases format <;> decide
    · have below : denominator * 2 ^ (doublings + format.fractionBits) <
          denominator * 2 ^ (format.reach + format.depth) := by
        refine Nat.lt_of_le_of_lt reached ?_
        rw [Nat.pow_eq, Nat.pow_add, ← Nat.mul_assoc]
        exact Nat.mul_lt_mul_of_pos_right within (Nat.two_pow_pos _)
      have exponents := (Nat.pow_lt_pow_iff_right (by decide : 1 < 2)).mp
        (Nat.lt_of_mul_lt_mul_left below)
      rw [format.depth_eq] at exponents
      cases format <;> simp [BinaryFormat.reach, BinaryFormat.exponentBits] at exponents ⊢ <;> omega
  have code : doublings * 2 ^ format.fractionBits + significand ≤
      (doublings + 2) * 2 ^ format.fractionBits := by
    rw [Nat.pow_succ] at bounded
    rw [Nat.add_mul]
    omega
  rw [composed, BinaryFormat.finiteCodes]
  exact Nat.lt_of_le_of_lt code (Nat.mul_lt_mul_of_pos_right few (Nat.two_pow_pos _))

/-- A normal quotient is rounded to a finite number close to it. -/
theorem ofRatio_of_normal (format : BinaryFormat) (numerator : Nat) {denominator : Nat}
    (positive : 0 < denominator) (normal : format.Normal (numerator / denominator))
    (negative : Bool) :
    ∃ code, ofRatio format negative numerator denominator = .finite negative code ∧
      Rounds format (numerator / denominator) code := by
  have bottom : (0 : ℚ) < denominator := by exact_mod_cast positive
  have within : numerator < denominator * 2 ^ format.reach := by
    have below := normal.2
    rw [div_lt_iff₀ bottom, mul_comm] at below
    exact_mod_cast below
  have bounded := nearestCode_lt_finiteCodes format numerator positive within
  refine ⟨⟨_, bounded⟩, dif_pos bounded, ?_, fun has => ?_⟩
  · have scale : (0 : ℚ) < 2 ^ format.depth := by positivity
    have significant : numerator * Nat.pow 2 format.depth = 0 ∨
        denominator * 2 ^ format.fractionBits ≤ numerator * Nat.pow 2 format.depth := by
      rcases normal.1 with zero | reached
      · rw [div_eq_zero_iff, or_iff_left bottom.ne'] at zero
        exact .inl (by rw [Nat.cast_eq_zero.mp zero, Nat.zero_mul])
      · rw [div_le_div_iff₀ (by positivity) bottom, one_mul] at reached
        refine .inr ?_
        rw [format.depth_eq, Nat.pow_eq, Nat.pow_add, ← Nat.mul_assoc]
        exact Nat.mul_le_mul_right _ (by exact_mod_cast reached)
    obtain ⟨above, below⟩ := units_nearestCode_near format positive significant rfl
    have high := (Nat.cast_le (α := ℚ)).mpr above
    have low := (Nat.cast_le (α := ℚ)).mpr below
    push_cast [Nat.pow_eq] at high low
    have common : (0 : ℚ) < 2 ^ format.depth * denominator := mul_pos scale bottom
    have left : magnitude format (nearestCode format (numerator * Nat.pow 2 format.depth)
        denominator) * (2 ^ format.depth * denominator) =
          units format (nearestCode format (numerator * 2 ^ format.depth) denominator) *
            denominator := by
      rw [magnitude, Nat.pow_eq]
      field_simp
    have right : (numerator / denominator : ℚ) * (2 ^ format.depth * denominator) =
        numerator * 2 ^ format.depth := by
      field_simp
    rw [← left, ← right] at high low
    rw [← abs_of_pos (by positivity : (0 : ℚ) < 2 ^ (format.fractionBits + 1)), ← abs_mul, abs_le]
    constructor
    · refine le_of_mul_le_mul_right ?_ common
      linarith
    · refine le_of_mul_le_mul_right ?_ common
      linarith
  · obtain ⟨code, rounded, same⟩ := ofRatio_of_has positive has negative
    rw [ofRatio, dif_pos bounded] at rounded
    cases rounded
    exact same

end Binary

namespace BinaryFormat

open Binary

variable {format : BinaryFormat}

/-! ### Which numbers a format has -/

/-- A format has each significand of its width under any number of doublings within reach. -/
theorem has_of_significand (format : BinaryFormat) {significand : Nat} (doublings : Nat)
    (bounded : significand < 2 ^ (format.fractionBits + 1))
    (within : significand * 2 ^ doublings < 2 ^ (format.depth + format.reach)) :
    format.Has ((significand * 2 ^ doublings : Nat) / 2 ^ format.depth) := by
  have unit := Nat.two_pow_pos format.depth
  obtain ⟨count, rounded, exact, composed, below, lower, _⟩ := units_nearestCode format
    (significand * 2 ^ doublings * 2 ^ format.depth) unit
  have finite := nearestCode_lt_finiteCodes format (significand * 2 ^ doublings) unit
    (by rwa [← Nat.pow_add])
  -- the count of doublings that the code has is no more than the number was given
  have few : count ≤ doublings := by
    rcases lower with none | ⟨reached, _⟩
    · omega
    · have strict : 2 ^ (count + format.fractionBits) <
          2 ^ (doublings + (format.fractionBits + 1)) := by
        rw [Nat.mul_comm] at reached
        refine Nat.lt_of_le_of_lt (Nat.le_of_mul_le_mul_right reached unit) ?_
        rw [Nat.pow_add 2 doublings, Nat.mul_comm]
        exact Nat.mul_lt_mul_of_pos_left bounded (Nat.two_pow_pos _)
      have := (Nat.pow_lt_pow_iff_right (by decide : 1 < 2)).mp strict
      omega
  have divides : significand * 2 ^ doublings * 2 ^ format.depth =
      significand * 2 ^ (doublings - count) * (2 ^ format.depth * 2 ^ count) := by
    rw [← Nat.sub_add_cancel few, Nat.pow_add, Nat.add_sub_cancel]
    ring
  have units_eq : units format (nearestCode format
      (significand * 2 ^ doublings * Nat.pow 2 format.depth) (2 ^ format.depth)) =
        significand * 2 ^ doublings := by
    rw [Nat.pow_eq, composed, units_compose below (lower.imp_right fun reached => reached.2), exact,
      divides, roundHalfEven_mul _ (Nat.mul_pos unit (Nat.two_pow_pos count)), Nat.mul_assoc,
      ← Nat.pow_add, Nat.sub_add_cancel few]
  refine ⟨.finite false ⟨_, finite⟩, ?_⟩
  rw [rational?, magnitude, units_eq]
  rfl

/-- A number of a format is a significand of its width under some doublings. -/
theorem Has.exists_significand {number : ℚ} (has : format.Has number) :
    ∃ negative significand doublings, significand < 2 ^ (format.fractionBits + 1) ∧
      doublings < 2 ^ format.exponentBits ∧
        number = signedBy negative ((significand * 2 ^ doublings : Nat) / 2 ^ format.depth) := by
  obtain ⟨content, held⟩ := has
  cases content with
  | nan => cases held
  | infinite _ => cases held
  | finite negative code =>
      refine ⟨negative, significand format code, doublings format code, significand_lt _ _, ?_,
        (Option.some.inj held).symm⟩
      have bounded : (code : Nat) < 2 ^ format.exponentBits * 2 ^ format.fractionBits := by
        refine Nat.lt_of_lt_of_le code.isLt ?_
        exact Nat.mul_le_mul_right _ (Nat.sub_le _ _)
      rw [← Nat.div_lt_iff_lt_mul (Nat.two_pow_pos _)] at bounded
      exact Nat.lt_of_le_of_lt (Nat.sub_le _ _) bounded

/-- A format has exactly the integers within reach that have no more significant bits than
its significands. -/
theorem has_intCast_iff {number : Int} (within : number.natAbs < 2 ^ format.reach) :
    format.Has number ↔ ∃ significand doublings, number.natAbs = significand * 2 ^ doublings ∧
      significand < 2 ^ (format.fractionBits + 1) := by
  have unit : (0 : ℚ) < 2 ^ format.depth := by positivity
  have sized : signedBy (decide (number < 0)) (number.natAbs : ℚ) = number := by
    rcases Int.lt_or_le number 0 with negative | positive
    · rw [signedBy, if_pos (by simpa using negative), Nat.cast_natAbs, abs_of_neg negative]
      push_cast
      ring
    · rw [signedBy, if_neg (by simpa using positive), Nat.cast_natAbs, abs_of_nonneg positive]
  rw [← sized, has_signedBy_iff]
  constructor
  · intro has
    obtain ⟨negative, significand, doublings, bounded, _, same⟩ := has.exists_significand
    have product : number.natAbs * 2 ^ format.depth = significand * 2 ^ doublings := by
      have absolute := congrArg abs same
      rw [abs_signedBy (by positivity), Nat.abs_cast, eq_div_iff unit.ne'] at absolute
      exact_mod_cast absolute
    rcases Nat.le_total format.depth doublings with deep | shallow
    · refine ⟨significand, doublings - format.depth, ?_, bounded⟩
      rw [← Nat.sub_add_cancel deep, Nat.pow_add, ← Nat.mul_assoc] at product
      exact Nat.eq_of_mul_eq_mul_right (Nat.two_pow_pos _) product
    · refine ⟨number.natAbs, 0, by simp, ?_⟩
      rw [← Nat.sub_add_cancel shallow, Nat.pow_add, ← Nat.mul_assoc] at product
      have whole := Nat.eq_of_mul_eq_mul_right (Nat.two_pow_pos _) product
      exact Nat.lt_of_le_of_lt (Nat.le_mul_of_pos_right _ (Nat.two_pow_pos _)) (whole ▸ bounded)
  · rintro ⟨significand, doublings, whole, bounded⟩
    have has := has_of_significand format (doublings + format.depth)
      bounded (by
        rw [Nat.pow_add, ← Nat.mul_assoc, ← whole, Nat.mul_comm, Nat.pow_add]
        exact Nat.mul_lt_mul_of_pos_left within (Nat.two_pow_pos _))
    rw [Nat.pow_add, ← Nat.mul_assoc, ← whole] at has
    push_cast at has
    rwa [mul_div_assoc, div_self unit.ne', mul_one] at has

/-- The numbers of the short format are numbers of the long one. -/
theorem Has.widen {number : ℚ} (has : BinaryFormat.single.Has number) :
    BinaryFormat.double.Has number := by
  obtain ⟨negative, significand, doublings, bounded, few, same⟩ := has.exists_significand
  obtain ⟨gap, shallow, deeper⟩ : ∃ gap, gap ≤ 925 ∧
      BinaryFormat.double.depth = BinaryFormat.single.depth + gap := ⟨925, le_refl _, rfl⟩
  have wide := has_of_significand .double (doublings + gap)
    (Nat.lt_trans bounded (by decide)) (by
      refine Nat.lt_of_lt_of_le (Nat.mul_lt_mul_of_pos_right bounded (Nat.two_pow_pos _)) ?_
      rw [← Nat.pow_add]
      refine Nat.pow_le_pow_right (by decide) ?_
      simp [fractionBits, exponentBits, depth, reach] at few ⊢
      omega)
  rw [same, has_signedBy_iff]
  convert wide using 1
  rw [deeper, Nat.pow_add, ← Nat.mul_assoc, pow_add]
  push_cast
  rw [mul_div_mul_right _ _ (by positivity)]

/-- The fraction of a number of a format is a number of the format. -/
theorem Has.fraction {numerator denominator : Nat} (positive : 0 < denominator)
    (has : format.Has (numerator / denominator)) :
    format.Has ((numerator % denominator : Nat) / denominator) := by
  have unit := Nat.two_pow_pos format.depth
  have scale : (0 : ℚ) < 2 ^ format.depth := by positivity
  have bottom : (0 : ℚ) < denominator := by exact_mod_cast positive
  obtain ⟨negative, significand, doublings, bounded, few, same⟩ := has.exists_significand
  have product : numerator * 2 ^ format.depth = denominator * (significand * 2 ^ doublings) := by
    have absolute := congrArg abs same
    rw [abs_signedBy (by positivity), abs_of_nonneg (by positivity),
      div_eq_div_iff bottom.ne' scale.ne'] at absolute
    rw [Nat.mul_comm denominator]
    exact_mod_cast absolute
  have remainder : (numerator % denominator) * 2 ^ format.depth =
      denominator * (significand * 2 ^ doublings % 2 ^ format.depth) := by
    rw [← Nat.mul_mod_mul_right, product, Nat.mul_mod_mul_left]
  have fraction : ((numerator % denominator : Nat) : ℚ) / denominator =
      (significand * 2 ^ doublings % 2 ^ format.depth : Nat) / 2 ^ format.depth := by
    rw [div_eq_div_iff bottom.ne' scale.ne', mul_comm _ (denominator : ℚ)]
    exact_mod_cast remainder
  rw [fraction]
  rcases Nat.le_total format.depth doublings with deep | shallow
  · rw [← Nat.sub_add_cancel deep, Nat.pow_add, ← Nat.mul_assoc, Nat.mul_mod_left]
    exact ⟨zero format false, by
      simp [zero, rational?, magnitude, units, Binary.significand, signedBy]⟩
  · have smaller : significand % 2 ^ (format.depth - doublings) ≤ significand := Nat.mod_le _ _
    have split : significand * 2 ^ doublings % 2 ^ format.depth =
        significand % 2 ^ (format.depth - doublings) * 2 ^ doublings := by
      rw [← Nat.mul_mod_mul_right, ← Nat.pow_add, Nat.sub_add_cancel shallow]
    rw [split]
    refine has_of_significand format doublings (Nat.lt_of_le_of_lt smaller bounded) ?_
    rw [← split]
    exact Nat.lt_of_lt_of_le (Nat.mod_lt _ unit)
      (Nat.pow_le_pow_right (by decide) (Nat.le_add_right _ _))

end BinaryFormat

end RecordMapping
