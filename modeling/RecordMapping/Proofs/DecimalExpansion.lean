/-
Module: RecordMapping.Proofs.DecimalExpansion
Purpose: Which floating-point numbers have a decimal, and which have an exact one.
Main exports: Decimal.Expansion.value, Decimal.ofBinary?_eq_none_iff,
  Decimal.rational_ofBinary?_iff
-/
import Mathlib.Algebra.Order.Ring.Pow
import Mathlib.Data.Nat.Factorization.Basic
import RecordMapping.Proofs.DecimalRounding

namespace RecordMapping

namespace Decimal

/-!
The expansion of a binary number in base ten is exact until the mantissa is full; what is
done to it afterwards only ever loses places.  So an exact result has one of two shapes, an
integer or few enough digits, and numbers of these shapes pass through all steps unchanged.
-/

namespace Expansion

/-- The rational number that an expansion is. -/
def value (expansion : Expansion) : ℚ := expansion.mantissa * 10 ^ expansion.exponent

/-- An expansion of at most 96 bits without a power of ten behind it. -/
structure Within (expansion : Expansion) : Prop where
  bounded : expansion.mantissa < mantissaBound
  placed : expansion.exponent ≤ 0

variable {mantissa count fuel bound : Nat} {exponent : Int} {expansion : Expansion}

/-! ### Division by two -/

theorem halves_add (one two : Nat) (expansion : Expansion) :
    halves (one + two) expansion = halves two (halves one expansion) := by
  induction one generalizing expansion with
  | zero => rw [Nat.zero_add, halves]
  | succ one ih => rw [Nat.succ_add, halves, halves, ih]

/-- Factors of two are taken out first. -/
theorem halves_mul_two_pow :
    halves count ⟨mantissa * 2 ^ count, exponent⟩ = ⟨mantissa, exponent + count⟩ := by
  induction count generalizing exponent with
  | zero => simp [halves]
  | succ count ih =>
      have even : mantissa * 2 ^ (count + 1) = mantissa * 2 ^ count * 2 := by
        rw [Nat.pow_succ, Nat.mul_assoc]
      rw [halves, halve, even, if_pos (Nat.mul_mod_left _ _), Nat.mul_div_cancel _ (by decide), ih]
      congr 1
      push_cast
      omega

/-- Without a factor of two the mantissa is multiplied by five, as long as there is room. -/
theorem halves_of_odd (odd : mantissa % 2 = 1) (room : mantissa * 5 ^ count < mantissaBound) :
    halves count ⟨mantissa, exponent⟩ = ⟨mantissa * 5 ^ count, exponent⟩ := by
  induction count generalizing mantissa with
  | zero => simp [halves]
  | succ count ih =>
      have next : mantissa * 5 * 5 ^ count = mantissa * 5 ^ (count + 1) := by
        rw [Nat.pow_succ, Nat.mul_assoc, Nat.mul_comm 5]
      have one : mantissa * 5 < mantissaBound := by
        refine Nat.lt_of_le_of_lt ?_ room
        rw [← next]
        exact Nat.le_mul_of_pos_right _ (Nat.pow_pos (by decide))
      have stays : mantissa * 5 % 2 = 1 := by omega
      rw [halves, halve, if_neg (by simp [odd]), if_pos one, ih stays (by rwa [next]), next]

theorem halve_bounded (bounded : expansion.mantissa < mantissaBound) :
    expansion.halve.mantissa < mantissaBound := by
  unfold halve
  split
  · exact Nat.lt_of_le_of_lt (Nat.div_le_self _ _) bounded
  · split
    · assumption
    · exact Nat.lt_of_le_of_lt (Nat.div_le_self _ _) bounded

theorem halve_exponent (expansion : Expansion) :
    expansion.exponent ≤ expansion.halve.exponent ∧
      expansion.halve.exponent ≤ expansion.exponent + 1 := by
  unfold halve
  split
  · exact ⟨by simp, by simp⟩
  · split
    · exact ⟨by simp, by simp⟩
    · exact ⟨by simp, by simp⟩

theorem halves_bounded (bounded : expansion.mantissa < mantissaBound) :
    (halves count expansion).mantissa < mantissaBound := by
  induction count generalizing expansion with
  | zero => exact bounded
  | succ count ih => exact ih (halve_bounded bounded)

theorem halves_exponent (count : Nat) (expansion : Expansion) :
    expansion.exponent ≤ (halves count expansion).exponent ∧
      (halves count expansion).exponent ≤ expansion.exponent + count := by
  induction count generalizing expansion with
  | zero => simp [halves]
  | succ count ih =>
      obtain ⟨least, most⟩ := halve_exponent expansion
      obtain ⟨low, high⟩ := ih expansion.halve
      rw [halves]
      push_cast
      exact ⟨by omega, by omega⟩

/-! ### Multiplication by two -/

/-- As many doublings as the exponent says leave no exponent, or no room. -/
theorem doubles_eq (bounded : mantissa < mantissaBound) :
    doubles count ⟨mantissa, count⟩ =
      if mantissa * 2 ^ count < mantissaBound then some ⟨mantissa * 2 ^ count, 0⟩ else none := by
  induction count generalizing mantissa with
  | zero => simp [doubles, bounded]
  | succ count ih =>
      have even : mantissaBound = mantissaBound / 2 * 2 := by decide
      have next : mantissa * 2 * 2 ^ count = mantissa * 2 ^ (count + 1) := by
        rw [Nat.pow_succ, Nat.mul_assoc, Nat.mul_comm 2]
      have fallen : ((count + 1 : Nat) : Int) - 1 = count := by omega
      rw [doubles]
      by_cases room : mantissa < mantissaBound / 2
      · have doubled : mantissa * 2 < mantissaBound := by omega
        rw [if_pos room, fallen, ih doubled, next]
      · -- the top bit is taken, and dividing by five would not make up for what is left
        have full : ¬ mantissa * 2 ^ (count + 1) < mantissaBound := by
          have := Nat.le_mul_of_pos_right (mantissa * 2) (Nat.two_pow_pos count)
          rw [next] at this
          omega
        rw [if_neg room, if_pos (by push_cast; omega), if_neg full]

/-! ### Rounding places away -/

theorem tenthRounded_le (mantissa : Nat) : tenthRounded mantissa ≤ mantissa := by
  unfold tenthRounded
  split <;> omega

theorem lowered_eq_self (placed : -(maxScale : Int) ≤ expansion.exponent) :
    lowered fuel expansion = expansion := by
  cases fuel with
  | zero => rfl
  | succ fuel => rw [lowered, if_pos placed]

/-- With enough steps an expansion is brought up to the last place. -/
theorem lowered_within (fuel : Nat) (within : expansion.Within)
    (enough : -(maxScale : Int) ≤ expansion.exponent + fuel) :
    (lowered fuel expansion).Within ∧
      -(maxScale : Int) ≤ (lowered fuel expansion).exponent := by
  induction fuel generalizing expansion with
  | zero => exact ⟨within, by simpa [lowered] using enough⟩
  | succ fuel ih =>
      rw [lowered]
      split
      · rename_i placed
        exact ⟨within, placed⟩
      · rename_i below
        split
        · exact ⟨⟨by decide, Int.le_refl _⟩, by decide⟩
        · refine ih ⟨Nat.lt_of_le_of_lt (tenthRounded_le _) within.bounded, ?_⟩ ?_
          · have : (0 : Int) ≤ maxScale := by decide
            dsimp only
            omega
          · push_cast at enough
            dsimp only
            omega

theorem shortened_eq_self (few : expansion.exponent = 0 ∨ expansion.mantissa < bound) :
    shortened bound fuel expansion = expansion := by
  cases fuel with
  | zero => rfl
  | succ fuel => rw [shortened, if_neg (by omega)]

theorem shortened_within (bound fuel : Nat) (within : expansion.Within) :
    (shortened bound fuel expansion).Within ∧
      expansion.exponent ≤ (shortened bound fuel expansion).exponent := by
  induction fuel generalizing expansion with
  | zero => exact ⟨within, Int.le_refl _⟩
  | succ fuel ih =>
      rw [shortened]
      split
      · rename_i long
        have next : Within ⟨tenthRounded expansion.mantissa, expansion.exponent + 1⟩ :=
          ⟨Nat.lt_of_le_of_lt (tenthRounded_le _) within.bounded, by dsimp only; omega⟩
        obtain ⟨held, above⟩ := ih next
        exact ⟨held, by dsimp only at above; omega⟩
      · exact ⟨within, Int.le_refl _⟩

/-- With enough steps an expansion becomes an integer or few enough digits. -/
theorem shortened_few (bound fuel : Nat) (within : expansion.Within)
    (enough : 0 ≤ expansion.exponent + fuel) :
    (shortened bound fuel expansion).exponent = 0 ∨
      (shortened bound fuel expansion).mantissa < bound := by
  induction fuel generalizing expansion with
  | zero =>
      have := within.placed
      exact .inl (by simp [shortened] at enough ⊢; omega)
  | succ fuel ih =>
      rw [shortened]
      split
      · rename_i long
        refine ih ⟨Nat.lt_of_le_of_lt (tenthRounded_le _) within.bounded, ?_⟩ ?_
        · dsimp only
          omega
        · push_cast at enough
          dsimp only
          omega
      · rename_i few
        have := within.placed
        omega

/-! ### Dropping zeros -/

/-- Dropping zeros changes no number. -/
theorem value_stripped : (stripped fuel expansion).value = expansion.value := by
  induction fuel generalizing expansion with
  | zero => rfl
  | succ fuel ih =>
      rw [stripped]
      split
      · rename_i zeros
        rw [ih, value, value]
        have whole : ((expansion.mantissa / 10 : Nat) : ℚ) * 10 = expansion.mantissa := by
          exact_mod_cast Nat.div_mul_cancel (Nat.dvd_of_mod_eq_zero zeros.2)
        rw [zpow_add_one₀ (by norm_num), mul_comm (_ ^ _) (10 : ℚ), ← mul_assoc, whole]
      · rfl

theorem stripped_within (fuel : Nat) (within : expansion.Within) :
    (stripped fuel expansion).Within ∧
      expansion.exponent ≤ (stripped fuel expansion).exponent ∧
      (stripped fuel expansion).mantissa ≤ expansion.mantissa := by
  induction fuel generalizing expansion with
  | zero => exact ⟨within, Int.le_refl _, Nat.le_refl _⟩
  | succ fuel ih =>
      rw [stripped]
      split
      · rename_i zeros
        have smaller := Nat.div_le_self expansion.mantissa 10
        have next : Within ⟨expansion.mantissa / 10, expansion.exponent + 1⟩ :=
          ⟨Nat.lt_of_le_of_lt smaller within.bounded, by dsimp only; omega⟩
        obtain ⟨held, above, below⟩ := ih next
        dsimp only at above below
        exact ⟨held, by omega, by omega⟩
      · exact ⟨within, Int.le_refl _, Nat.le_refl _⟩

/-! ### All of it -/

/-- What is done to an expansion without positive exponent. -/
def rounded (bound : Nat) (expansion : Expansion) : Expansion :=
  let lowered := expansion.lowered expansion.exponent.natAbs
  let shortened := lowered.shortened bound lowered.exponent.natAbs
  shortened.stripped shortened.exponent.natAbs

/-- The result has the parts of a decimal, and is an integer or has few digits. -/
theorem rounded_shape (bound : Nat) (within : expansion.Within) :
    (rounded bound expansion).Within ∧ -(maxScale : Int) ≤ (rounded bound expansion).exponent ∧
      ((rounded bound expansion).exponent = 0 ∨ (rounded bound expansion).mantissa < bound) := by
  have placed := within.placed
  have scale : (0 : Int) ≤ maxScale := by decide
  obtain ⟨low, least⟩ := lowered_within expansion.exponent.natAbs within (by omega)
  have lowPlaced := low.placed
  obtain ⟨short, above⟩ := shortened_within bound
    (expansion.lowered expansion.exponent.natAbs).exponent.natAbs low
  have few := shortened_few bound
    (expansion.lowered expansion.exponent.natAbs).exponent.natAbs low (by omega)
  have shortPlaced := short.placed
  obtain ⟨held, higher, smaller⟩ := stripped_within (shortened bound _ _).exponent.natAbs short
  refine ⟨held, Int.le_trans least (Int.le_trans above higher), ?_⟩
  rcases few with integral | few
  · have := held.placed
    exact .inl (by unfold rounded; dsimp only; omega)
  · exact .inr (Nat.lt_of_le_of_lt smaller few)

/-- An integer, or few digits in few places, is only stripped of zeros. -/
theorem value_rounded (placed : -(maxScale : Int) ≤ expansion.exponent)
    (few : expansion.exponent = 0 ∨ expansion.mantissa < bound) :
    (rounded bound expansion).value = expansion.value := by
  unfold rounded
  dsimp only
  rw [lowered_eq_self placed, shortened_eq_self few, value_stripped]

end Expansion

open Binary

variable {format : BinaryFormat} {negative : Bool} {code : Nat}

/-! ### Floating-point numbers as decimals -/

/-- A decimal with the digits of an expansion and as many places as its exponent asks for. -/
structure Spells (decimal : Decimal) (negative : Bool) (expansion : Expansion) : Prop where
  digits : decimal.mantissa = if negative then -(expansion.mantissa : Int) else expansion.mantissa
  places : (decimal.scale : Int) = -expansion.exponent

variable {decimal : Decimal} {expansion : Expansion}

theorem Spells.natAbs (spells : decimal.Spells negative expansion) :
    decimal.mantissa.natAbs = expansion.mantissa := by
  rw [spells.digits]
  split <;> simp

theorem Spells.rational (spells : decimal.Spells negative expansion) :
    decimal.rational = signedBy negative expansion.value := by
  have power : (10 : ℚ) ^ expansion.exponent = 1 / 10 ^ decimal.scale := by
    rw [← Int.neg_neg expansion.exponent, ← spells.places, zpow_neg, zpow_natCast, one_div]
  rw [Decimal.rational, spells.digits, Expansion.value, power, signedBy]
  split <;> push_cast <;> ring

/-- Every expansion that has the parts of a decimal makes one. -/
theorem exists_make? (within : expansion.Within)
    (placed : -(maxScale : Int) ≤ expansion.exponent) (negative : Bool) :
    ∃ decimal, make? (if negative then -(expansion.mantissa : Int) else expansion.mantissa)
      (-expansion.exponent).toNat = some decimal ∧ decimal.Spells negative expansion := by
  have digits : (if negative then -(expansion.mantissa : Int) else expansion.mantissa).natAbs <
      mantissaBound := by
    have := within.bounded
    split <;> simpa
  have exponent := within.placed
  have places : (-expansion.exponent).toNat ≤ maxScale := by omega
  refine ⟨⟨_, _, digits, places⟩, dif_pos ⟨digits, places⟩, rfl, ?_⟩
  dsimp only
  omega

/-- The expansion of a number: its significand after as many halvings as it has bits behind
the point. -/
def expanded (format : BinaryFormat) (code : Nat) : Expansion :=
  Expansion.halves (format.depth - doublings format code)
    ⟨significand format code, doublings format code - format.depth⟩

theorem significand_lt_mantissaBound (format : BinaryFormat) (code : Nat) :
    significand format code < mantissaBound :=
  Nat.lt_of_lt_of_le (significand_lt format code) (by cases format <;> decide)

theorem expanded_within (shallow : doublings format code ≤ format.depth) :
    (expanded format code).Within where
  bounded := Expansion.halves_bounded (significand_lt_mantissaBound format code)
  placed := by
    refine Int.le_trans (Expansion.halves_exponent _ _).2 ?_
    dsimp only
    omega

/-- A number without doublings beyond the point always has a decimal. -/
theorem ofBinary?_of_shallow (negative : Bool) {code : Fin format.finiteCodes}
    (nonzero : (code : Nat) ≠ 0)
    (shallow : doublings format code ≤ format.depth) :
    ∃ decimal, ofBinary? (.finite negative code) = some decimal ∧
      decimal.Spells negative
        (Expansion.rounded (significandBound format) (expanded format code)) := by
  obtain ⟨within, placed, _⟩ := Expansion.rounded_shape (significandBound format)
    (expanded_within shallow)
  obtain ⟨decimal, made, spells⟩ := exists_make? within placed negative
  refine ⟨decimal, ?_, spells⟩
  have exponent : (doublings format code : Int) - format.depth ≤ 0 := by omega
  have count : (-((doublings format code : Int) - format.depth)).toNat =
      format.depth - doublings format code := by omega
  have none : (expanded format code).exponent.toNat = 0 :=
    Int.toNat_of_nonpos (expanded_within shallow).placed
  rw [ofBinary?, if_neg nonzero]
  simp only [Expansion.ofBinary, if_pos exponent, count, Option.bind_eq_bind, Option.bind_some]
  change (Expansion.raised (expanded format code).exponent.toNat _).bind _ = _
  rw [none, Expansion.raised, Option.bind_some]
  exact made

/-- A number with doublings beyond the point is an integer, and has a decimal if there is
room for it. -/
theorem ofBinary?_of_deep {code : Fin format.finiteCodes}
    (deep : format.depth < doublings format code) {number : Nat}
    (whole : number =
      significand format code * 2 ^ (doublings format code - format.depth)) :
    ofBinary? (.finite negative code) =
      make? (if negative then -(number : Int) else number) 0 := by
  have nonzero : (code : Nat) ≠ 0 := by
    intro zero
    rw [zero, doublings] at deep
    simp at deep
  have exponent : ¬ (doublings format code : Int) - format.depth ≤ 0 := by omega
  have count : ((doublings format code : Int) - format.depth).toNat =
      doublings format code - format.depth := by omega
  have depth : (doublings format code : Int) - format.depth =
      (doublings format code - format.depth : Nat) := by omega
  rw [ofBinary?, if_neg nonzero]
  simp only [Expansion.ofBinary, if_neg exponent, count, Option.bind_eq_bind]
  rw [depth, Expansion.doubles_eq (significand_lt_mantissaBound format code), ← whole]
  by_cases room : number < mantissaBound
  · rw [if_pos room, Option.bind_some]
    simp [Expansion.raised, Expansion.lowered, Expansion.shortened, Expansion.stripped]
  · have outside : ¬ (if negative then -(number : Int) else number).natAbs < mantissaBound := by
      split <;> simpa using room
    rw [if_neg room, Option.bind_none, make?, dif_neg fun bounds => outside bounds.1]

/-! ### Exact expansions -/

theorem magnitude_eq_div (shallow : doublings format code ≤ format.depth) :
    magnitude format code =
      significand format code / 2 ^ (format.depth - doublings format code) := by
  have split : (2 : ℚ) ^ format.depth =
      2 ^ (format.depth - doublings format code) * 2 ^ doublings format code := by
    rw [← pow_add, Nat.sub_add_cancel shallow]
  rw [magnitude, units, split]
  push_cast [Nat.pow_eq]
  rw [mul_div_mul_right _ _ (by positivity)]

theorem magnitude_eq_mul (deep : format.depth ≤ doublings format code) :
    magnitude format code =
      (significand format code * 2 ^ (doublings format code - format.depth) : Nat) := by
  have split : (2 : ℚ) ^ doublings format code =
      2 ^ (doublings format code - format.depth) * 2 ^ format.depth := by
    rw [← pow_add, Nat.sub_add_cancel deep]
  rw [magnitude, units]
  push_cast [Nat.pow_eq]
  rw [split, ← mul_assoc, mul_div_cancel_right₀ _ (by positivity)]

/-- The expansion of an integer is the integer. -/
theorem expanded_of_whole (shallow : doublings format code ≤ format.depth) {whole : Nat}
    (same : magnitude format code = whole) : expanded format code = ⟨whole, 0⟩ := by
  rw [magnitude_eq_div shallow, div_eq_iff (by positivity)] at same
  have product : significand format code =
      whole * 2 ^ (format.depth - doublings format code) := by exact_mod_cast same
  rw [expanded, product, Expansion.halves_mul_two_pow]
  congr 1
  omega

/-- The expansion of an odd number of fractions of a power of two is that number times the
same power of five, if there is room for it. -/
theorem expanded_of_odd (shallow : doublings format code ≤ format.depth) {twos odd power : Nat}
    (oddness : Odd odd) (split : significand format code = 2 ^ twos * odd)
    (count : format.depth - doublings format code = twos + power)
    (room : odd * 5 ^ power < mantissaBound) :
    expanded format code = ⟨odd * 5 ^ power, -(power : Int)⟩ := by
  rw [expanded, count, Expansion.halves_add, split, Nat.mul_comm, Expansion.halves_mul_two_pow,
    Expansion.halves_of_odd (Nat.odd_iff.mp oddness) room]
  congr 1
  omega

/-- An odd number over a power of two has no digits fewer than those of its product with the
same power of five. -/
theorem digits_of_odd {odd power digits places : Nat} (oddness : ¬ 2 ∣ odd)
    (same : odd * 10 ^ places = digits * 2 ^ power) :
    power ≤ places ∧ odd * 5 ^ power ≤ digits := by
  have coprime : Nat.Coprime (2 ^ power) (odd * 5 ^ places) := by
    refine Nat.Coprime.pow_left _ ((Nat.Prime.coprime_iff_not_dvd Nat.prime_two).mpr ?_)
    intro divides
    rcases (Nat.Prime.dvd_mul Nat.prime_two).mp divides with even | even
    · exact oddness even
    · exact absurd (Nat.prime_two.dvd_of_dvd_pow even) (by decide)
  have ten : 10 ^ places = 5 ^ places * 2 ^ places := by rw [← Nat.mul_pow]
  rw [ten, ← Nat.mul_assoc] at same
  have few : power ≤ places := by
    refine (Nat.pow_dvd_pow_iff_le_right (by decide : 1 < 2)).mp ?_
    exact coprime.dvd_of_dvd_mul_left ⟨digits, by rw [same, Nat.mul_comm]⟩
  refine ⟨few, ?_⟩
  have rest : odd * 5 ^ places * 2 ^ (places - power) = digits := by
    refine Nat.eq_of_mul_eq_mul_right (Nat.two_pow_pos power) ?_
    rw [Nat.mul_assoc, ← Nat.pow_add, Nat.sub_add_cancel few, same]
  rw [← rest, Nat.mul_assoc]
  refine Nat.mul_le_mul_left _ (Nat.le_trans ?_ (Nat.le_mul_of_pos_right _ (Nat.two_pow_pos _)))
  exact Nat.pow_le_pow_right (by decide) few

/-- A number with few digits is expanded to it, in no more digits and no more places. -/
theorem expanded_of_digits (nonzero : code ≠ 0)
    (shallow : doublings format code ≤ format.depth) {digits places : Nat}
    (bounded : digits < mantissaBound) (same : magnitude format code = digits / 10 ^ places) :
    (expanded format code).value = magnitude format code ∧
      ((expanded format code).exponent = 0 ∨ (expanded format code).mantissa ≤ digits ∧
        -(places : Int) ≤ (expanded format code).exponent) := by
  have filled : significand format code ≠ 0 := by
    intro empty
    have zero : magnitude format code = 0 := by rw [magnitude, units, empty]; simp
    exact nonzero (magnitude_eq_zero_iff.mp zero)
  obtain ⟨twos, odd, oddness, split⟩ := Nat.exists_eq_two_pow_mul_odd filled
  rcases (Nat.lt_or_ge twos (format.depth - doublings format code)).symm with
    integral | fractional
  · have whole : magnitude format code =
        (odd * 2 ^ (twos - (format.depth - doublings format code)) : Nat) := by
      rw [magnitude_eq_div shallow, div_eq_iff (by positivity), split]
      have : 2 ^ twos * odd = odd * 2 ^ (twos - (format.depth - doublings format code)) *
          2 ^ (format.depth - doublings format code) := by
        rw [Nat.mul_assoc, ← Nat.pow_add, Nat.sub_add_cancel integral, Nat.mul_comm]
      exact_mod_cast this
    rw [expanded_of_whole shallow whole, Expansion.value, whole]
    exact ⟨by simp, .inl rfl⟩
  · obtain ⟨power, power_eq⟩ : ∃ power, format.depth - doublings format code = twos + power :=
      ⟨_, (Nat.add_sub_of_le fractional.le).symm⟩
    have number : magnitude format code = odd / 2 ^ power := by
      rw [magnitude_eq_div shallow, power_eq, split, pow_add]
      push_cast
      rw [mul_div_mul_left _ _ (by positivity)]
    have product : odd * 10 ^ places = digits * 2 ^ power := by
      rw [number, div_eq_div_iff (by positivity) (by positivity)] at same
      exact_mod_cast same
    obtain ⟨few, least⟩ := digits_of_odd oddness.not_two_dvd_nat product
    rw [expanded_of_odd shallow oddness split power_eq (Nat.lt_of_le_of_lt least bounded),
      Expansion.value, number]
    refine ⟨?_, .inr ⟨least, by dsimp only; omega⟩⟩
    have ten : (10 : ℚ) ^ power = 5 ^ power * 2 ^ power := by rw [← mul_pow]; norm_num
    dsimp only
    rw [zpow_neg, zpow_natCast, ten]
    push_cast
    field_simp

theorem significandBound_le (format : BinaryFormat) : significandBound format ≤ mantissaBound := by
  cases format <;> decide

/-! ### Which decimals exist, and which are exact -/

theorem make?_eq_none_iff {mantissa : Int} :
    make? mantissa 0 = none ↔ mantissaBound ≤ mantissa.natAbs := by
  rw [make?]
  split
  · rename_i bounds
    simpa using bounds.1
  · rename_i outside
    have full : ¬ mantissa.natAbs < mantissaBound := fun room => outside ⟨room, Nat.zero_le _⟩
    simpa using full

/-- A finite number has a decimal exactly when it is below the bound of mantissas. -/
theorem ofBinary?_eq_none_iff {code : Fin format.finiteCodes} :
    ofBinary? (.finite negative code) = none ↔ (mantissaBound : ℚ) ≤ magnitude format code := by
  by_cases zero : (code : Nat) = 0
  · have made : ofBinary? (.finite negative code) = some Decimal.zero := by
      rw [ofBinary?, if_pos zero]
      rfl
    rw [made, magnitude_eq_zero_iff.mpr zero]
    simp [mantissaBound]
  · rcases Nat.lt_or_ge format.depth (doublings format code) with deep | shallow
    · rw [ofBinary?_of_deep deep rfl, magnitude_eq_mul deep.le, Nat.cast_le]
      generalize significand format code * 2 ^ (doublings format code - format.depth) = whole
      have size : (if negative then -(whole : Int) else whole).natAbs = whole := by
        split <;> simp
      rw [make?_eq_none_iff, size]
    · obtain ⟨decimal, made, _⟩ := ofBinary?_of_shallow negative zero shallow
      rw [made, magnitude_eq_div shallow]
      have small := significand_lt_mantissaBound format code
      have below : (significand format code : ℚ) /
          2 ^ (format.depth - doublings format code) < mantissaBound := by
        refine lt_of_le_of_lt (div_le_self (by positivity) (one_le_pow₀ (by norm_num))) ?_
        exact_mod_cast small
      simpa using below

/-- The decimal of a number has no places, or fewer digits than the bound of the format. -/
theorem ofBinary?_shape {code : Fin format.finiteCodes}
    (made : ofBinary? (.finite negative code) = some decimal) :
    decimal.scale = 0 ∨ decimal.mantissa.natAbs < significandBound format := by
  by_cases zero : (code : Nat) = 0
  · rw [ofBinary?, if_pos zero] at made
    obtain rfl : Decimal.zero = decimal := Option.some.inj made
    exact .inl rfl
  rcases Nat.lt_or_ge format.depth (doublings format code) with deep | shallow
  · rw [ofBinary?_of_deep deep rfl, make?_eq_some_iff] at made
    exact .inl made.2
  · obtain ⟨found, foundIs, spells⟩ := ofBinary?_of_shallow negative zero shallow
    obtain rfl : decimal = found := Option.some.inj (made.symm.trans foundIs)
    obtain ⟨_, _, few⟩ := Expansion.rounded_shape (significandBound format)
      (expanded_within shallow)
    rw [spells.natAbs]
    have places := spells.places
    exact few.imp_left fun integral => by omega

/-- The decimal of a number is that number exactly when it is an integer or has few enough
digits. -/
theorem rational_ofBinary?_iff {code : Fin format.finiteCodes}
    (made : ofBinary? (.finite negative code) = some decimal) :
    decimal.rational = signedBy negative (magnitude format code) ↔
      (∃ whole : Nat, magnitude format code = whole) ∨
        ∃ digits places : Nat, digits < significandBound format ∧ places ≤ maxScale ∧
          magnitude format code = digits / 10 ^ places := by
  constructor
  · intro exact
    have size : magnitude format code = decimal.mantissa.natAbs / 10 ^ decimal.scale := by
      rw [← abs_rational, exact, abs_signedBy (magnitude_nonneg _ _)]
    rcases ofBinary?_shape made with integral | few
    · exact .inl ⟨_, by rw [size, integral, pow_zero, div_one]⟩
    · exact .inr ⟨_, _, few, decimal.scale_bound, size⟩
  intro spelled
  by_cases zero : (code : Nat) = 0
  · have nothing : magnitude format code = 0 := magnitude_eq_zero_iff.mpr zero
    rw [ofBinary?, if_pos zero] at made
    obtain rfl : Decimal.zero = decimal := Option.some.inj made
    rw [nothing]
    cases negative <;> simp [Decimal.zero, Decimal.rational, signedBy]
  rcases Nat.lt_or_ge format.depth (doublings format code) with deep | shallow
  · have whole := magnitude_eq_mul deep.le
    rw [ofBinary?_of_deep deep rfl, make?_eq_some_iff] at made
    rw [whole, Decimal.rational, made.1, made.2, signedBy]
    split <;> simp
  · obtain ⟨found, foundIs, spells⟩ := ofBinary?_of_shallow negative zero shallow
    obtain rfl : decimal = found := Option.some.inj (made.symm.trans foundIs)
    have placed : -(maxScale : Int) ≤ 0 := by decide
    rw [spells.rational, signedBy_inj]
    rcases spelled with ⟨whole, same⟩ | ⟨digits, places, few, small, same⟩
    · have expansion := expanded_of_whole shallow same
      rw [Expansion.value_rounded (by rw [expansion]; exact placed) (.inl (by rw [expansion])),
        expansion, same, Expansion.value, zpow_zero, mul_one]
    · obtain ⟨value, shape⟩ := expanded_of_digits zero shallow
        (Nat.lt_of_lt_of_le few (significandBound_le format)) same
      rw [Expansion.value_rounded ?_ (shape.imp_right fun short => short.1.trans_lt few), value]
      rcases shape with integral | ⟨_, least⟩
      · rw [integral]
        exact placed
      · omega

end Decimal

end RecordMapping
