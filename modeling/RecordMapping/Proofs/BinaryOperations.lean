/-
Module: RecordMapping.Proofs.BinaryOperations
Purpose: Operations on floating-point numbers, each as one rounding of the exact result.
Main exports: Binary.rational?_ofInt_iff, Binary.rational?_convert_iff, Binary.add_of_normal,
  Binary.multiply_of_normal, Binary.divide_of_normal, Binary.round_of_normal, Binary.Ranges
-/
import RecordMapping.Proofs.BinaryRounding

namespace RecordMapping

/-!
Each operation rounds once, so what it gives is described by the exact result and the error
of one rounding.  That the exact result is within reach follows from its order of magnitude,
which is carried along from one operation to the next.
-/

namespace Binary

variable {format : BinaryFormat}

/-! ### Integers and other formats -/

theorem signedBy_natAbs (number : Int) :
    signedBy (decide (number < 0)) (number.natAbs : ℚ) = number := by
  rcases Int.lt_or_le number 0 with negative | positive
  · rw [signedBy, if_pos (by simpa using negative), Nat.cast_natAbs, abs_of_neg negative]
    push_cast
    ring
  · rw [signedBy, if_neg (by simpa using positive), Nat.cast_natAbs, abs_of_nonneg positive]

/-- Rounding gives an integer itself exactly when the format has it. -/
theorem rational?_ofInt_iff {number : Int} :
    (ofInt format number).rational? = some (number : ℚ) ↔ format.Has number := by
  have found := rational?_ofRatio_iff format (decide (number < 0)) number.natAbs Nat.one_pos
  rwa [Nat.cast_one, div_one, signedBy_natAbs] at found

/-- A number is the same in another format exactly when that format has it. -/
theorem rational?_convert_iff {target : BinaryFormat} {content : Binary format} {number : ℚ}
    (held : content.rational? = some number) :
    (content.convert target).rational? = some number ↔ target.Has number := by
  cases content with
  | nan => cases held
  | infinite _ => cases held
  | finite negative code =>
      have found := rational?_ofRatio_iff target negative (units format code)
        (Nat.two_pow_pos format.depth)
      rw [← Option.some.inj held]
      simpa [convert, magnitude] using found

/-! ### Operations on magnitudes -/

theorem magnitude_eq_zero_iff {code : Nat} : magnitude format code = 0 ↔ code = 0 := by
  have scale : (0 : ℚ) < 2 ^ format.depth := by positivity
  rw [magnitude, div_eq_zero_iff, or_iff_left scale.ne', Nat.cast_eq_zero, units, Nat.pow_eq,
    Nat.mul_eq_zero, or_iff_left (Nat.ne_of_gt (Nat.two_pow_pos _)), significand]
  split
  · rfl
  · rename_i normal
    have := Nat.two_pow_pos format.fractionBits
    simp only [Nat.pow_eq] at normal ⊢
    omega

theorem ofInt_of_normal {number : Int} (normal : format.Normal number.natAbs) :
    ∃ code, ofInt format number = .finite (decide (number < 0)) code ∧
      Rounds format number.natAbs code := by
  have found := ofRatio_of_normal format number.natAbs Nat.one_pos (by simpa using normal)
    (decide (number < 0))
  simpa [ofInt] using found

theorem ofInt_natCast_of_normal {number : Nat} (normal : format.Normal number) :
    ∃ code, ofInt format number = .finite false code ∧ Rounds format number code := by
  have sign : decide ((number : Int) < 0) = false := by simp
  have found : ∃ code, ofInt format (number : Int) = .finite (decide ((number : Int) < 0)) code ∧
      Rounds format (number : Int).natAbs code := ofInt_of_normal (by simpa using normal)
  rwa [sign, Int.natAbs_natCast] at found

theorem add_of_normal {one two : Fin format.finiteCodes}
    (normal : format.Normal (magnitude format one + magnitude format two)) :
    ∃ code, (finite false one).add (.finite false two) = .finite false code ∧
      Rounds format (magnitude format one + magnitude format two) code := by
  have sum : ((units format one + units format two : Nat) : ℚ) / (2 ^ format.depth : Nat) =
      magnitude format one + magnitude format two := by
    rw [magnitude, magnitude, ← add_div]
    push_cast
    rfl
  have found := ofRatio_of_normal format (units format one + units format two)
    (Nat.two_pow_pos format.depth)
    (by rwa [sum]) false
  rw [sum] at found
  have positive : ¬ ((units format one : Int) + units format two < 0) := by omega
  have size : ((units format one : Int) + units format two).natAbs =
      units format one + units format two := by omega
  simpa [add, positive, size] using found

theorem multiply_of_normal {one two : Fin format.finiteCodes}
    (normal : format.Normal (magnitude format one * magnitude format two)) :
    ∃ code, (finite false one).multiply (.finite false two) = .finite false code ∧
      Rounds format (magnitude format one * magnitude format two) code := by
  have product : ((units format one * units format two : Nat) : ℚ) /
      (2 ^ format.depth * 2 ^ format.depth : Nat) =
        magnitude format one * magnitude format two := by
    rw [magnitude, magnitude, div_mul_div_comm]
    push_cast
    rfl
  have found := ofRatio_of_normal format (units format one * units format two)
    (Nat.mul_pos (Nat.two_pow_pos format.depth) (Nat.two_pow_pos format.depth))
    (by rwa [product]) false
  rw [product] at found
  simpa [multiply] using found

theorem divide_of_normal {one two : Fin format.finiteCodes} (divisor : (two : Nat) ≠ 0)
    (normal : format.Normal (magnitude format one / magnitude format two)) :
    ∃ code, (finite false one).divide (.finite false two) = .finite false code ∧
      Rounds format (magnitude format one / magnitude format two) code := by
  have scale : (2 ^ format.depth : ℚ) ≠ 0 := by positivity
  have quotient : (units format one : ℚ) / units format two =
      magnitude format one / magnitude format two := by
    rw [magnitude, magnitude, div_div_div_cancel_right₀ scale]
  have positive : 0 < units format two := by
    rcases Nat.eq_zero_or_pos (units format two) with zero | positive
    · exact absurd (magnitude_eq_zero_iff.mp (by rw [magnitude, zero]; simp)) divisor
    · exact positive
  have found := ofRatio_of_normal format (units format one) positive
    (by rwa [quotient]) false
  rw [quotient] at found
  simpa [divide, divisor] using found

/-- A magnitude is rounded to a whole number at most a half away. -/
theorem round_of_normal {code : Fin format.finiteCodes}
    (normal : ∀ whole : Nat, |magnitude format code - whole| ≤ 1 / 2 → format.Normal whole) :
    ∃ (whole : Nat) (rounded : Fin format.finiteCodes),
      |magnitude format code - whole| ≤ 1 / 2 ∧
        (finite false code).round = .finite false rounded ∧ Rounds format whole rounded := by
  have unit := Nat.two_pow_pos format.depth
  have scale : (0 : ℚ) < 2 ^ format.depth := by positivity
  obtain ⟨whole, whole_eq⟩ : ∃ whole,
      whole = (2 * units format code + 2 ^ format.depth) / (2 * 2 ^ format.depth) := ⟨_, rfl⟩
  have split := Nat.div_add_mod' (2 * units format code + 2 ^ format.depth) (2 * 2 ^ format.depth)
  have small := Nat.mod_lt (2 * units format code + 2 ^ format.depth)
    (Nat.mul_pos (by decide : 0 < 2) unit)
  rw [← whole_eq] at split
  generalize (2 * units format code + 2 ^ format.depth) % (2 * 2 ^ format.depth) = rest
    at split small
  have above : 2 * units format code ≤ 2 * (whole * 2 ^ format.depth) + 2 ^ format.depth := by
    linarith
  have below : 2 * (whole * 2 ^ format.depth) ≤ 2 * units format code + 2 ^ format.depth := by
    have := Nat.zero_le rest
    linarith
  have near : |magnitude format code - whole| ≤ 1 / 2 := by
    have high := (Nat.cast_le (α := ℚ)).mpr above
    have low := (Nat.cast_le (α := ℚ)).mpr below
    push_cast at high low
    have left : magnitude format code * 2 ^ format.depth = units format code := by
      rw [magnitude, div_mul_cancel₀ _ scale.ne']
    rw [abs_le]
    constructor
    · refine le_of_mul_le_mul_right ?_ scale
      linarith
    · refine le_of_mul_le_mul_right ?_ scale
      linarith
  have found := ofRatio_of_normal format whole Nat.one_pos
    (by simpa using normal whole near) false
  obtain ⟨rounded, same, rounds⟩ := found
  refine ⟨whole, rounded, near, ?_, by simpa using rounds⟩
  rw [← same, whole_eq]
  rfl

/-! ### Orders of magnitude -/

/-- A number that is zero or between two bounds. -/
structure Ranges (low high number : ℚ) : Prop where
  nonneg : 0 ≤ number
  low : number = 0 ∨ low ≤ number
  high : number ≤ high

theorem ranges_natCast {number : Nat} {high : ℚ} (bounded : (number : ℚ) ≤ high) :
    Ranges 1 high number where
  nonneg := Nat.cast_nonneg number
  low := by
    rcases Nat.eq_zero_or_pos number with zero | positive
    · exact .inl (by exact_mod_cast zero)
    · exact .inr (by exact_mod_cast positive)
  high := bounded

variable {low high number : ℚ} {code : Nat}

theorem Rounds.nonneg (rounds : Rounds .double number code) : 0 ≤ number :=
  le_trans (by positivity) rounds.near

/-- A rounded number is at most twice and at least half the number. -/
theorem Rounds.bounds (rounds : Rounds .double number code) :
    number / 2 ≤ magnitude .double code ∧ magnitude .double code ≤ 2 * number := by
  have nonneg := rounds.nonneg
  have near := rounds.near
  have bits : (2 : ℚ) ^ (BinaryFormat.double.fractionBits + 1) = 9007199254740992 := by
    norm_num [BinaryFormat.fractionBits]
  rw [bits] at near
  have close : |magnitude .double code - number| ≤ number / 2 := by
    have := abs_nonneg (magnitude .double code - number)
    linarith
  obtain ⟨below, above⟩ := abs_le.mp close
  exact ⟨by linarith, by linarith⟩

theorem Rounds.near_mul (rounds : Rounds .double number code) {factor : ℚ} (positive : 0 < factor) :
    |magnitude .double code * factor - number * factor| * 2 ^ 53 ≤ number * factor := by
  rw [← sub_mul, abs_mul, abs_of_pos positive, mul_right_comm]
  exact mul_le_mul_of_nonneg_right rounds.near positive.le

/-- Only zero is rounded to zero. -/
theorem Rounds.eq_zero (rounds : Rounds .double number code)
    (zero : magnitude .double code = 0) : number = 0 := by
  have nonneg := rounds.nonneg
  have below := rounds.bounds.1
  linarith

/-- Rounding adds less than a thousandth. -/
theorem Rounds.le (rounds : Rounds .double number code) :
    magnitude .double code ≤ number * (1001 / 1000) := by
  have nonneg := rounds.nonneg
  have near := rounds.near
  have bits : (2 : ℚ) ^ (BinaryFormat.double.fractionBits + 1) = 2 ^ 53 := rfl
  rw [bits, ← le_div_iff₀ (by norm_num), abs_le] at near
  norm_num at near
  linarith [near.2]

theorem Ranges.rounds (ranges : Ranges low high number) (rounds : Rounds .double number code) :
    Ranges (low / 2) (2 * high) (magnitude .double code) where
  nonneg := magnitude_nonneg _ _
  low := by
    obtain ⟨below, above⟩ := rounds.bounds
    rcases ranges.low with zero | reached
    · have := magnitude_nonneg .double code
      exact .inl (by linarith)
    · exact .inr (by linarith)
  high := by
    have := rounds.bounds.2
    have := ranges.high
    linarith

theorem Ranges.div {divisor most : ℚ} (ranges : Ranges low high number)
    (least : 1 / 2 ≤ divisor) (greatest : divisor ≤ most) :
    Ranges (low / most) (2 * high) (number / divisor) where
  nonneg := div_nonneg ranges.nonneg (by linarith)
  low := by
    rcases ranges.low with zero | reached
    · exact .inl (by rw [zero, zero_div])
    · exact .inr (div_le_div₀ ranges.nonneg reached (by linarith) greatest)
  high := by
    rw [div_le_iff₀ (by linarith)]
    have := ranges.high
    have := ranges.nonneg
    nlinarith

theorem Ranges.mul {factor most : ℚ} (ranges : Ranges low high number)
    (least : 1 / 2 ≤ factor) (greatest : factor ≤ most) :
    Ranges (low / 2) (high * most) (number * factor) where
  nonneg := mul_nonneg ranges.nonneg (by linarith)
  low := by
    have := ranges.nonneg
    rcases ranges.low with zero | reached
    · exact .inl (by rw [zero, zero_mul])
    · exact .inr (by nlinarith)
  high := mul_le_mul ranges.high greatest (by linarith) (le_trans ranges.nonneg ranges.high)

theorem Ranges.normal (ranges : Ranges low high number) (small : 1 / 10 ^ 40 ≤ low)
    (great : high ≤ 10 ^ 100) : BinaryFormat.double.Normal number where
  left := by
    refine ranges.low.imp_right fun reached => le_trans ?_ (le_trans small reached)
    refine one_div_le_one_div_of_le (by positivity) ?_
    calc (10 : ℚ) ^ 40 ≤ 2 ^ 200 := by norm_num
      _ ≤ 2 ^ (BinaryFormat.double.reach - 1) :=
          pow_le_pow_right₀ (by norm_num) (by decide)
  right := by
    refine lt_of_le_of_lt (le_trans ranges.high great) ?_
    calc (10 : ℚ) ^ 100 < (2 ^ 4) ^ 100 := pow_lt_pow_left₀ (by norm_num) (by norm_num) (by decide)
      _ = 2 ^ 400 := by rw [← pow_mul]
      _ ≤ 2 ^ BinaryFormat.double.reach := pow_le_pow_right₀ (by norm_num) (by decide)

end Binary

end RecordMapping
