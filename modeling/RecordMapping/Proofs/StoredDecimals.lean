/-
Module: RecordMapping.Proofs.StoredDecimals
Purpose: Which decimals come back unchanged after SQLite has stored them.
Main exports: Decimal.readBack?, Decimal.Kept, Decimal.StorageOutcome,
  Decimal.storage_outcome
-/
import RecordMapping.Proofs.DecimalRecovery
import RecordMapping.Sqlite.Binding
import RecordMapping.Value.Conversion

namespace RecordMapping

/-!
SQLite has no decimals, so a decimal is bound as the floating-point number of 64 bits that it
becomes, and the number that is read is expanded to a decimal again.  For an integer the
second half is exact and the first one decides; for all others the first half is off by less
than what the second rounds away, as long as the digits leave room for it.
-/

namespace Decimal

open Binary Sqlite

/-- A decimal that was bound to a parameter and read from the cell as a decimal again;
nothing if either of it fails. -/
def readBack? (decimal : Decimal) : Option Decimal :=
  match Datum.ofValue (.decimal (some decimal)) with
  | .ok datum => datum.toValue.toDecimal.toOption
  | .error _ => none

/-- A decimal comes back as the same number. -/
def Kept (decimal : Decimal) : Prop :=
  ∃ back, decimal.readBack? = some back ∧ decimal.sameNumber back = true

variable {decimal back : Decimal} {negative : Bool} {number scale : Nat}

/-- A decimal is held as its floating-point number. -/
theorem ofValue_decimal (decimal : Decimal) :
    Datum.ofValue (.decimal (some decimal)) = .ok (.ofReal decimal.toDouble) := rfl

/-- What is read is the decimal of the stored number. -/
theorem readBack?_eq {code : Fin BinaryFormat.double.finiteCodes}
    (stored : decimal.toDouble = .finite negative code) :
    decimal.readBack? = ofBinary? (.finite negative code : Binary64) := by
  rw [readBack?, ofValue_decimal, stored]
  simp only [Datum.ofReal, Datum.toValue, Value.toDecimal]
  cases ofBinary? (.finite negative code : Binary64) with
  | none => rfl
  | some back => rfl

/-! ### Integers -/

/-- An integer within the mantissas becomes a finite number near to it. -/
theorem exists_ofInt {number : Int} (bounded : number.natAbs < mantissaBound) :
    ∃ code, Binary.ofInt .double number = .finite (decide (number < 0)) code ∧
      Rounds .double number.natAbs code :=
  ofInt_of_normal ((ranges_of_le bounded (Nat.le_refl _)).normal (by norm_num) (by norm_num))

/-- The numbers of 64 bits from the fifty-second power of two on are integers. -/
theorem exists_whole {code : Nat} (great : 2 ^ 52 ≤ magnitude .double code) :
    ∃ whole : Nat, magnitude .double code = whole := by
  rcases Nat.lt_or_ge (doublings .double code) (BinaryFormat.depth .double) with shallow | deep
  · exfalso
    rw [magnitude_eq_div shallow.le, le_div_iff₀ (by positivity)] at great
    have small := significand_lt .double code
    have grown : 2 ^ 53 ≤ 2 ^ 52 * 2 ^ (BinaryFormat.depth .double - doublings .double code) := by
      rw [← Nat.pow_add]
      exact Nat.pow_le_pow_right (by decide) (by omega)
    have reached : 2 ^ 52 * 2 ^ (BinaryFormat.depth .double - doublings .double code) ≤
        significand .double code := by exact_mod_cast great
    simp only [BinaryFormat.fractionBits] at small
    omega
  · exact ⟨_, magnitude_eq_mul deep⟩

/-- What an integer is rounded to is an integer. -/
theorem exists_whole_of_rounds {code : Nat} (rounds : Rounds .double (number : ℚ) code) :
    ∃ whole : Nat, magnitude .double code = whole := by
  rcases Nat.lt_or_ge number (2 ^ 53) with small | great
  · exact ⟨number, magnitude_of_small rounds small⟩
  · refine exists_whole (le_trans ?_ rounds.bounds.1)
    have reached : (9007199254740992 : ℚ) ≤ number := by exact_mod_cast great
    norm_num
    linarith

/-- Between half of the bound of mantissas and the bound, the last 43 bits are rounded. -/
theorem magnitude_of_wide {code : Fin BinaryFormat.double.finiteCodes}
    (stored : ofRatio .double negative number 1 = .finite negative code)
    (least : 2 ^ 95 ≤ number) (most : number < 2 ^ 96) :
    magnitude .double code = (roundHalfEven number (2 ^ 43) * 2 ^ 43 : Nat) := by
  have nearest : (code : Nat) =
      nearestCode .double (number * Nat.pow 2 (BinaryFormat.depth .double)) 1 := by
    rw [ofRatio] at stored
    split at stored
    · exact congrArg Fin.val (Binary.finite.inj stored).2.symm
    · cases stored
  rw [magnitude, nearest, Nat.pow_eq]
  generalize BinaryFormat.depth .double = depth
  obtain ⟨doublings, significand, rounded, composed, below, lower, upper⟩ :=
    units_nearestCode .double (number * 2 ^ depth) Nat.one_pos
  rw [Nat.one_mul] at lower upper rounded
  -- both bounds together leave a single number of doublings
  have count : doublings = 43 + depth := by
    have high : 2 ^ (95 + depth) < 2 ^ (doublings + BinaryFormat.double.fractionBits + 1) := by
      refine Nat.lt_of_le_of_lt ?_ upper
      rw [Nat.pow_add]
      exact Nat.mul_le_mul_right _ least
    have reached := (Nat.pow_lt_pow_iff_right (by decide : 1 < 2)).mp high
    simp only [BinaryFormat.fractionBits] at reached lower
    obtain ⟨full, _⟩ := lower.resolve_left (by omega)
    have low : 2 ^ (doublings + 52) < 2 ^ (96 + depth) := by
      refine Nat.lt_of_le_of_lt full ?_
      rw [Nat.pow_add 2 96]
      exact Nat.mul_lt_mul_of_pos_right most (Nat.two_pow_pos _)
    have := (Nat.pow_lt_pow_iff_right (by decide : 1 < 2)).mp low
    omega
  rw [count, Nat.pow_add, roundHalfEven_mul_right _ _ (Nat.two_pow_pos _)] at rounded
  rw [composed, units_compose below (lower.imp_right fun reached => reached.2), rounded, count,
    Nat.pow_add, ← Nat.mul_assoc]
  push_cast
  rw [mul_div_cancel_right₀ _ (by positivity)]

/-- The integers from half a unit of the last bit below the bound of mantissas on are rounded
up to it. -/
theorem bound_le_magnitude_iff {code : Fin BinaryFormat.double.finiteCodes}
    (stored : ofRatio .double negative number 1 = .finite negative code)
    (rounds : Rounds .double (number : ℚ) code) (bounded : number < mantissaBound) :
    (mantissaBound : ℚ) ≤ magnitude .double code ↔ 2 ^ 96 - 2 ^ 42 ≤ number := by
  rcases Nat.lt_or_ge number (2 ^ 95) with small | great
  · refine iff_of_false (not_le.mpr ?_) (by omega)
    have twice : ((2 * number : Nat) : ℚ) < mantissaBound := by
      exact_mod_cast (by omega : 2 * number < 2 ^ 96)
    push_cast at twice
    exact lt_of_le_of_lt rounds.bounds.2 twice
  · rw [magnitude_of_wide stored great bounded, Nat.cast_le]
    simp only [roundHalfEven, mantissaBound] at bounded ⊢
    split
    · omega
    · split
      · omega
      · omega

/-- An integer is too great to be read exactly if it is rounded up to the bound. -/
theorem ofBinary?_ofInt_eq_none_iff {number : Int} (bounded : number.natAbs < mantissaBound) :
    ofBinary? (Binary.ofInt .double number) = none ↔ 2 ^ 96 - 2 ^ 42 ≤ number.natAbs := by
  obtain ⟨code, stored, rounds⟩ := exists_ofInt bounded
  rw [stored, ofBinary?_eq_none_iff]
  exact bound_le_magnitude_iff stored rounds bounded

/-- An integer comes back exactly when it has no more than 53 significant bits. -/
theorem kept_iff_of_integral {number : Int}
    (integral : decimal.mantissa = number * 10 ^ decimal.scale) :
    decimal.Kept ↔ ∃ significand doublings,
      number.natAbs = significand * 2 ^ doublings ∧ significand < 2 ^ 53 := by
  have bounded := natAbs_lt_of_integral integral
  obtain ⟨code, stored, rounds⟩ := exists_ofInt bounded
  have read := readBack?_eq ((toDouble_of_integral integral).trans stored)
  obtain ⟨whole, wholeIs⟩ := exists_whole_of_rounds rounds
  have within : number.natAbs < 2 ^ BinaryFormat.double.reach := Nat.lt_of_lt_of_le bounded
    (Nat.pow_le_pow_right (by decide : 0 < 2) (by decide : 96 ≤ BinaryFormat.double.reach))
  -- whatever is read is the stored number itself, so only the rounding decides
  have backIs {back : Decimal} (made : decimal.readBack? = some back) :
      back.rational = signedBy (decide (number < 0)) (magnitude .double code) :=
    (rational_ofBinary?_iff (read.symm.trans made)).mpr (.inl ⟨whole, wholeIs⟩)
  have numberIs : decimal.rational = signedBy (decide (number < 0)) (number.natAbs : ℚ) := by
    rw [rational_of_integral integral, signedBy_natAbs]
  have exact_iff : magnitude .double code = number.natAbs ↔
      BinaryFormat.double.Has number := by
    rw [← signedBy_natAbs number, has_signedBy_iff]
    exact ⟨fun same => ⟨.finite false code, by simp [Binary.rational?, signedBy, same]⟩,
      rounds.same⟩
  refine Iff.trans ?_ (BinaryFormat.has_intCast_iff within)
  rw [← exact_iff]
  constructor
  · rintro ⟨back, made, same⟩
    rw [sameNumber_iff, numberIs, backIs made, signedBy_inj] at same
    exact same.symm
  · intro same
    have some : decimal.readBack? ≠ none := by
      rw [read, Ne, ofBinary?_eq_none_iff, same, not_le]
      exact_mod_cast bounded
    obtain ⟨back, made⟩ := Option.ne_none_iff_exists'.mp some
    refine ⟨back, made, ?_⟩
    rw [sameNumber_iff, numberIs, backIs made, same]

/-! ### Fractions -/

/-- A decimal with places can always be read again. -/
theorem exists_readBack (places : decimal.scale ≠ 0) : ∃ back, decimal.readBack? = some back := by
  obtain ⟨code, stored, run⟩ := exists_toDouble places
  refine Option.ne_none_iff_exists'.mp ?_
  rw [readBack?_eq stored, Ne, ofBinary?_eq_none_iff, not_le]
  exact run.lt_bound decimal.mantissa_bound decimal.scale_bound places

/-- What is read has no places or less than 52 bits. -/
theorem shape_of_readBack {decimal back : Decimal} (places : decimal.scale ≠ 0)
    (made : decimal.readBack? = some back) :
    back.scale = 0 ∨ back.mantissa.natAbs < 2 ^ 52 := by
  obtain ⟨code, stored, _⟩ := exists_toDouble places
  exact ofBinary?_shape ((readBack?_eq stored).symm.trans made)

/-- Numbers below the fifty-third power of two have no doublings beyond the point. -/
theorem shallow_of_lt {code : Nat} (small : magnitude .double code < 2 ^ 53) :
    doublings .double code ≤ BinaryFormat.depth .double := by
  by_contra deep
  rw [not_le] at deep
  have filled : 2 ^ 52 ≤ significand .double code :=
    le_significand .double (Nat.zero_lt_of_lt deep)
  have doubled : 2 ^ 1 ≤ 2 ^ (doublings .double code - BinaryFormat.depth .double) :=
    Nat.pow_le_pow_right (by decide) (by omega)
  rw [magnitude_eq_mul deep.le] at small
  have below : significand .double code *
      2 ^ (doublings .double code - BinaryFormat.depth .double) < 2 ^ 53 := by
    exact_mod_cast small
  have := Nat.mul_le_mul filled doubled
  omega

/-- A decimal of at most fifteen digits and 22 places comes back if its digits, lengthened by
zeros while they have less than 52 bits, stay below 4 · 10¹⁵. -/
theorem kept_of_short (places : decimal.scale ≠ 0) (short : decimal.mantissa.natAbs ≤ 10 ^ 15)
    (few : decimal.scale ≤ 22) {zeros : Nat}
    (fits : decimal.mantissa.natAbs * 10 ^ zeros ≤ 4 * 10 ^ 15)
    (full : 2 ^ 52 ≤ decimal.mantissa.natAbs * 10 ^ (zeros + 1)) : decimal.Kept := by
  obtain ⟨code, stored, run⟩ := exists_toDouble places
  have rounds := run.rounds_of_short (Nat.lt_of_le_of_lt short (by decide)) few (.inr short)
  have some : 0 < decimal.mantissa.natAbs := by
    by_contra none
    have zero : decimal.mantissa.natAbs = 0 := by omega
    rw [zero] at full
    simp at full
  push_cast at rounds
  have bound : (decimal.mantissa.natAbs : ℚ) / 10 ^ decimal.scale ≤ 10 ^ 15 := by
    refine le_trans (div_le_self (by positivity) (one_le_pow₀ (by norm_num))) ?_
    exact_mod_cast short
  have shallow : doublings .double code ≤ BinaryFormat.depth .double := by
    refine shallow_of_lt (lt_of_le_of_lt rounds.bounds.2 ?_)
    norm_num at bound ⊢
    linarith
  have nonzero : (code : Nat) ≠ 0 := by
    intro zero
    have positive : (0 : ℚ) < decimal.mantissa.natAbs / 10 ^ decimal.scale := by positivity
    exact positive.ne' (rounds.eq_zero (magnitude_eq_zero_iff.mpr zero))
  obtain ⟨back, made, spells⟩ := ofBinary?_of_shallow (decide (decimal.mantissa < 0))
    nonzero shallow
  refine ⟨back, (readBack?_eq stored).trans made, ?_⟩
  have recovered := Expansion.value_rounded_of_near (expanded_within shallow)
    (near_expanded rounds shallow) short few fits full
  rw [sameNumber_iff, spells.rational, rational_eq_signedBy]
  push_cast
  rw [← recovered]
  rfl

/-- A price of four digits comes back. -/
example : (⟨1999, 2, by decide, by decide⟩ : Decimal).Kept :=
  kept_of_short (by decide) (by decide) (by decide) (by decide : 1999 * 10 ^ 12 ≤ 4 * 10 ^ 15)
    (by decide)

/-! ### Outcome -/

/-- What becomes of a decimal in a database. -/
structure StorageOutcome (decimal : Decimal) : Prop where
  /-- Binding never fails. -/
  bound : ∃ number, Datum.ofValue (.decimal (some decimal)) = .ok (.real number)
  /-- An integer cannot be read if it is rounded up to the bound of mantissas, and comes back
  exactly if it has no more than 53 significant bits. -/
  integral (number : Int) (whole : decimal.mantissa = number * 10 ^ decimal.scale) :
    (decimal.readBack? = none ↔ 2 ^ 96 - 2 ^ 42 ≤ number.natAbs) ∧
      (decimal.Kept ↔ ∃ significand doublings,
        number.natAbs = significand * 2 ^ doublings ∧ significand < 2 ^ 53)
  /-- Any other decimal can be read. -/
  fractional (fraction : decimal.isIntegral = false) : ∃ back, decimal.readBack? = some back
  /-- It only comes back if it can be written with less than 52 bits. -/
  few (fraction : decimal.isIntegral = false) (kept : decimal.Kept) :
    ∃ other : Decimal, decimal.sameNumber other = true ∧ other.mantissa.natAbs < 2 ^ 52
  /-- It comes back if it is short, and stays below 4 · 10¹⁵ when its digits are lengthened by
  zeros while they have less than 52 bits. -/
  short (digits : decimal.mantissa.natAbs ≤ 10 ^ 15) (places : decimal.scale ≤ 22) (zeros : Nat)
    (fits : decimal.mantissa.natAbs * 10 ^ zeros ≤ 4 * 10 ^ 15)
    (full : 2 ^ 52 ≤ decimal.mantissa.natAbs * 10 ^ (zeros + 1)) : decimal.Kept

theorem exists_toDouble_finite (decimal : Decimal) :
    ∃ negative code, decimal.toDouble = .finite negative code := by
  by_cases none : decimal.scale = 0
  · obtain ⟨code, stored, _⟩ := exists_ofInt decimal.mantissa_bound
    exact ⟨_, code, by rw [toDouble, if_pos none, stored]⟩
  · obtain ⟨code, stored, _⟩ := exists_toDouble none
    exact ⟨_, code, stored⟩

theorem scale_ne_zero (fraction : decimal.isIntegral = false) : decimal.scale ≠ 0 := by
  intro none
  have integral : decimal.isIntegral = true :=
    isIntegral_iff.mpr ⟨decimal.mantissa, by rw [none, pow_zero, mul_one]⟩
  rw [fraction] at integral
  cases integral

/-- The decimals that come back from a database, and those that do not. -/
theorem storage_outcome (decimal : Decimal) : decimal.StorageOutcome where
  bound := by
    obtain ⟨negative, code, stored⟩ := exists_toDouble_finite decimal
    exact ⟨.finite negative code, by rw [ofValue_decimal, stored]; rfl⟩
  integral := by
    intro number whole
    have bounded := natAbs_lt_of_integral whole
    obtain ⟨code, stored, _⟩ := exists_ofInt bounded
    refine ⟨?_, kept_iff_of_integral whole⟩
    rw [readBack?_eq ((toDouble_of_integral whole).trans stored), ← stored]
    exact ofBinary?_ofInt_eq_none_iff bounded
  fractional := fun fraction => exists_readBack (scale_ne_zero fraction)
  few := by
    rintro fraction ⟨back, made, same⟩
    refine ⟨back, same, (shape_of_readBack (scale_ne_zero fraction) made).resolve_left ?_⟩
    intro none
    have integral : decimal.isIntegral = true := by
      rw [isIntegral_iff]
      refine ⟨back.mantissa, ?_⟩
      rw [sameNumber, beq_iff_eq, none] at same
      simpa using same
    rw [fraction] at integral
    cases integral
  short := by
    intro digits places zeros fits full
    by_cases integral : decimal.isIntegral = true
    · obtain ⟨number, whole⟩ := isIntegral_iff.mp integral
      refine (kept_iff_of_integral whole).mpr ⟨number.natAbs, 0, by simp, ?_⟩
      have smaller : number.natAbs ≤ decimal.mantissa.natAbs := by
        rw [whole, Int.natAbs_mul]
        exact Nat.le_mul_of_pos_right _ (Int.natAbs_pos.mpr (by positivity))
      exact Nat.lt_of_le_of_lt (Nat.le_trans smaller digits) (by decide)
    · exact kept_of_short (scale_ne_zero (by simpa using integral)) digits places fits full

/-- An integer of 54 bits comes back as its neighbour, and a fraction of seven digits with a
trillionth more, so what storage changes it does not always refuse. -/
theorem changed_by_storage :
    (⟨9007199254740993, 0, by decide, by decide⟩ : Decimal).readBack? =
        some ⟨9007199254740992, 0, by decide, by decide⟩ ∧
      (⟨4096029, 3, by decide, by decide⟩ : Decimal).readBack? =
        some ⟨4096029000000001, 12, by decide, by decide⟩ ∧
      ¬ ∀ decimal : Decimal, decimal.readBack? = none ∨ decimal.Kept := by
  have read : (⟨9007199254740993, 0, by decide, by decide⟩ : Decimal).readBack? =
      some ⟨9007199254740992, 0, by decide, by decide⟩ := by decide +kernel
  refine ⟨read, by decide +kernel, fun always => ?_⟩
  rcases always ⟨9007199254740993, 0, by decide, by decide⟩ with refused | ⟨back, made, same⟩
  · cases read.symm.trans refused
  · obtain rfl := Option.some.inj (read.symm.trans made)
    exact absurd same (by decide)

end Decimal

end RecordMapping
