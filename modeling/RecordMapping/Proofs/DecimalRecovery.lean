/-
Module: RecordMapping.Proofs.DecimalRecovery
Purpose: Short decimals come back from the floating-point number nearest to them.
Main exports: Decimal.expanded_near, Decimal.Expansion.exists_settled,
  Decimal.Expansion.value_rounded_of_near
-/
import Mathlib.Algebra.Order.Field.Power
import Mathlib.Logic.Function.Iterate
import RecordMapping.Proofs.DecimalExpansion

namespace RecordMapping

namespace Decimal

/-!
A number that is very near to a short decimal is expanded to many digits, which are rounded
away one by one.  Each of these roundings is off by a half at most, all of them together by
less than five ninths; so once the place is reached where the digits of the decimal end, what
is left is the decimal itself, unless it is so long there that the error of the number in
front of the expansion has grown to four ninths of a unit.
-/

namespace Expansion

variable {mantissa count fuel bound : Nat} {exponent : Int} {expansion : Expansion}

/-! ### The loss of an expansion -/

/-- One division by two loses at most a unit of a full mantissa. -/
theorem value_halve_near (expansion : Expansion) :
    expansion.halve.value ≤ 5 * expansion.value ∧
      5 * expansion.value * (1 - 5 / mantissaBound) ≤ expansion.halve.value := by
  have unit : (0 : ℚ) < 10 ^ expansion.exponent := by positivity
  have next : (10 : ℚ) ^ (expansion.exponent + 1) = 10 * 10 ^ expansion.exponent := by
    rw [zpow_add_one₀ (by norm_num), mul_comm]
  have nonneg : 0 ≤ expansion.value := by
    unfold value
    positivity
  have size : (mantissaBound : ℚ) = 2 ^ 96 := by norm_num [mantissaBound]
  have shrink : 5 * expansion.value * (1 - 5 / mantissaBound) ≤ 5 * expansion.value := by
    rw [size]
    linarith
  have halved (half : Nat) (same : 2 * half = expansion.mantissa) :
      (half : ℚ) * 10 ^ (expansion.exponent + 1) = 5 * expansion.value := by
    rw [value, next, ← same]
    push_cast
    ring
  unfold halve
  split
  · rename_i even
    rw [value, halved _ (by dsimp only; omega)]
    exact ⟨le_rfl, shrink⟩
  · rename_i odd
    split
    · have same : ((expansion.mantissa * 5 : Nat) : ℚ) * 10 ^ expansion.exponent =
          5 * expansion.value := by
        rw [value]
        push_cast
        ring
      rw [value, same]
      exact ⟨le_rfl, shrink⟩
    · -- a bit is dropped, but only of a mantissa that is full
      rename_i full
      have split : ((expansion.mantissa / 2 : Nat) : ℚ) * 2 + 1 = expansion.mantissa := by
        exact_mod_cast (by omega : expansion.mantissa / 2 * 2 + 1 = expansion.mantissa)
      have great : (mantissaBound : ℚ) ≤ expansion.mantissa * 5 := by
        exact_mod_cast Nat.not_lt.mp full
      have lost : ((expansion.mantissa / 2 : Nat) : ℚ) * 10 ^ (expansion.exponent + 1) =
          5 * expansion.value - 5 * 10 ^ expansion.exponent := by
        rw [value, next, ← split]
        ring
      have share : 5 * 10 ^ expansion.exponent ≤
          5 * expansion.value * (5 / (mantissaBound : ℚ)) := by
        have positive : (0 : ℚ) < mantissaBound := by rw [size]; norm_num
        rw [mul_div_assoc', le_div_iff₀ positive, value]
        nlinarith
      rw [value, lost]
      constructor
      · linarith
      · linarith

theorem value_nonneg (expansion : Expansion) : 0 ≤ expansion.value := by
  unfold value
  positivity

/-- The losses of all divisions add up. -/
theorem value_halves_near (count : Nat) (expansion : Expansion) :
    (halves count expansion).value ≤ 5 ^ count * expansion.value ∧
      5 ^ count * expansion.value * (1 - count * (5 / mantissaBound)) ≤
        (halves count expansion).value := by
  induction count with
  | zero => simp [halves]
  | succ count ih =>
      -- the last division is split off: its share of the loss is a factor that is not negative
      have last : halves (count + 1) expansion = (halves count expansion).halve :=
        halves_add count 1 expansion
      obtain ⟨most, least⟩ := value_halve_near (halves count expansion)
      obtain ⟨high, low⟩ := ih
      have whole : 0 ≤ 5 ^ count * expansion.value :=
        mul_nonneg (by positivity) expansion.value_nonneg
      have share : (0 : ℚ) ≤ 5 / mantissaBound := by positivity
      have rest : (0 : ℚ) ≤ 1 - 5 / mantissaBound := by norm_num [mantissaBound]
      rw [last, pow_succ]
      generalize (5 : ℚ) / mantissaBound = part at *
      generalize (halves count expansion).value = before at *
      constructor
      · linarith
      · have scaled := mul_le_mul_of_nonneg_right low rest
        have twice : 0 ≤ 5 ^ count * expansion.value * (count * part * part) := by positivity
        push_cast
        linarith

/-! ### The error of rounding places away -/

/-- As many places rounded away as given, each half up. -/
def tenths (steps mantissa : Nat) : Nat := tenthRounded^[steps] mantissa

theorem tenths_succ (steps mantissa : Nat) :
    tenths (steps + 1) mantissa = tenthRounded (tenths steps mantissa) :=
  Function.iterate_succ_apply' _ _ _

theorem tenths_tenthRounded (steps mantissa : Nat) :
    tenths steps (tenthRounded mantissa) = tenths (steps + 1) mantissa :=
  (Function.iterate_succ_apply _ _ _).symm

theorem tenthRounded_near (mantissa : Nat) :
    (mantissa : ℚ) / 10 - 4 / 10 ≤ tenthRounded mantissa ∧
      (tenthRounded mantissa : ℚ) ≤ mantissa / 10 + 5 / 10 := by
  have bounds : mantissa ≤ tenthRounded mantissa * 10 + 4 ∧
      tenthRounded mantissa * 10 ≤ mantissa + 5 := by
    unfold tenthRounded
    split
    · omega
    · omega
  have low : (mantissa : ℚ) ≤ tenthRounded mantissa * 10 + 4 := by exact_mod_cast bounds.1
  have high : (tenthRounded mantissa : ℚ) * 10 ≤ mantissa + 5 := by exact_mod_cast bounds.2
  constructor
  · linarith
  · linarith

/-- Rounding places away one by one stays within five ninths of a unit. -/
theorem tenths_near (steps mantissa : Nat) :
    (mantissa : ℚ) / 10 ^ steps - 4 / 9 ≤ tenths steps mantissa ∧
      (tenths steps mantissa : ℚ) ≤ mantissa / 10 ^ steps + 5 / 9 := by
  induction steps with
  | zero =>
      rw [tenths, Function.iterate_zero_apply, pow_zero, div_one]
      constructor
      · linarith
      · linarith
  | succ steps ih =>
      obtain ⟨low, high⟩ := tenthRounded_near (tenths steps mantissa)
      rw [tenths_succ, pow_succ, ← div_div]
      constructor
      · linarith [ih.1]
      · linarith [ih.2]

/-! ### How many places are rounded away -/

/-- The expansion after a number of its places have been rounded away. -/
def cut (expansion : Expansion) (steps : Nat) : Expansion :=
  ⟨tenths steps expansion.mantissa, expansion.exponent + steps⟩

theorem cut_cut (expansion : Expansion) (one two : Nat) :
    (expansion.cut one).cut two = expansion.cut (one + two) := by
  simp only [cut, tenths, Nat.add_comm one, Function.iterate_add_apply]
  congr 1
  push_cast
  omega

theorem cut_one (expansion : Expansion) :
    expansion.cut 1 = ⟨tenthRounded expansion.mantissa, expansion.exponent + 1⟩ := rfl

/-- An expansion that does not vanish is brought up to the last place by rounding. -/
theorem lowered_eq_cut (fuel : Nat)
    (kept : ∀ steps : Nat, expansion.exponent + steps < -(maxScale : Int) →
      10 ≤ tenths steps expansion.mantissa)
    (enough : -(maxScale : Int) ≤ expansion.exponent + fuel) :
    ∃ steps : Nat, lowered fuel expansion = expansion.cut steps ∧
      (steps = 0 ∧ -(maxScale : Int) ≤ expansion.exponent ∨
        expansion.exponent + steps = -(maxScale : Int)) := by
  induction fuel generalizing expansion with
  | zero => exact ⟨0, by simp [lowered, cut, tenths], .inl ⟨rfl, by simpa using enough⟩⟩
  | succ fuel ih =>
      rw [lowered]
      split
      · rename_i placed
        exact ⟨0, by simp [cut, tenths], .inl ⟨rfl, placed⟩⟩
      · rename_i below
        have long : 10 ≤ expansion.mantissa := kept 0 (by simpa using below)
        rw [if_neg (by omega), ← cut_one]
        have left : ∀ steps : Nat, (expansion.cut 1).exponent + steps < -(maxScale : Int) →
            10 ≤ tenths steps (expansion.cut 1).mantissa := by
          intro steps under
          have found := kept (1 + steps) (by simp only [cut] at under; push_cast at under ⊢; omega)
          rwa [Nat.add_comm, ← tenths_tenthRounded] at found
        have fuelled : -(maxScale : Int) ≤ (expansion.cut 1).exponent + fuel := by
          simp only [cut]
          push_cast at enough ⊢
          omega
        obtain ⟨steps, same, reached⟩ := ih left fuelled
        refine ⟨1 + steps, by rw [same, cut_cut], .inr ?_⟩
        simp only [cut] at reached
        push_cast at reached ⊢
        omega

/-- Places are rounded away as long as there are too many digits. -/
theorem shortened_eq_cut (bound fuel : Nat) (expansion : Expansion) :
    ∃ steps : Nat, shortened bound fuel expansion = expansion.cut steps ∧
      (steps = 0 ∨ bound ≤ tenths (steps - 1) expansion.mantissa) := by
  induction fuel generalizing expansion with
  | zero => exact ⟨0, by simp [shortened, cut, tenths], .inl rfl⟩
  | succ fuel ih =>
      rw [shortened]
      split
      · rename_i long
        obtain ⟨steps, same, reached⟩ := ih (expansion.cut 1)
        rw [← cut_one]
        refine ⟨1 + steps, by rw [same, cut_cut], .inr ?_⟩
        cases steps with
        | zero => exact long.2
        | succ steps =>
            have found := reached.resolve_left (Nat.succ_ne_zero steps)
            rw [cut_one] at found
            simp only [Nat.add_sub_cancel, tenths_tenthRounded] at found
            rwa [Nat.add_sub_cancel_left]
      · exact ⟨0, by simp [cut, tenths], .inl rfl⟩

/-- An expansion is settled after a number of steps if no more have to be made, and the last
one had to. -/
structure Settled (bound : Nat) (expansion : Expansion) (steps : Nat) : Prop where
  value : (rounded bound expansion).value = (expansion.cut steps).value
  placed : (expansion.cut steps).exponent ≤ 0
  least : -(maxScale : Int) ≤ (expansion.cut steps).exponent
  few : (expansion.cut steps).exponent = 0 ∨ tenths steps expansion.mantissa < bound
  needed : steps = 0 ∨ (expansion.cut steps).exponent = -(maxScale : Int) ∨
    bound ≤ tenths (steps - 1) expansion.mantissa

/-- An expansion that does not vanish on the way is settled after some steps. -/
theorem exists_settled (bound : Nat) (within : expansion.Within)
    (kept : ∀ steps : Nat, expansion.exponent + steps < -(maxScale : Int) →
      10 ≤ tenths steps expansion.mantissa) : ∃ steps, Settled bound expansion steps := by
  have scale : (0 : Int) ≤ maxScale := by decide
  obtain ⟨low, least⟩ := lowered_within expansion.exponent.natAbs within (by omega)
  obtain ⟨front, lowered_eq, reached⟩ := lowered_eq_cut expansion.exponent.natAbs kept
    (by omega)
  rw [lowered_eq] at low least
  have lowPlaced := low.placed
  obtain ⟨short, above⟩ := shortened_within bound (expansion.cut front).exponent.natAbs low
  have few := shortened_few bound (expansion.cut front).exponent.natAbs low (by omega)
  obtain ⟨back, shortened_eq, long⟩ := shortened_eq_cut bound
    (expansion.cut front).exponent.natAbs (expansion.cut front)
  rw [shortened_eq, cut_cut] at short above few
  refine ⟨front + back, ?_, short.placed, least.trans above, few, ?_⟩
  · rw [rounded, lowered_eq, value_stripped, shortened_eq, cut_cut]
  · cases back with
    | zero =>
        rcases reached with ⟨rfl, _⟩ | reached
        · exact .inl rfl
        · exact .inr (.inl (by simpa [cut] using reached))
    | succ back =>
        have found := long.resolve_left (Nat.succ_ne_zero back)
        have shift : tenths back (expansion.cut front).mantissa =
            tenths (front + back) expansion.mantissa :=
          congrArg Expansion.mantissa (cut_cut expansion front back)
        rw [Nat.add_sub_cancel, shift] at found
        exact .inr (.inr found)

/-- What is left after some steps is within five ninths of a unit. -/
theorem cut_near (expansion : Expansion) {steps places : Nat}
    (placed : (places : Int) = -(expansion.cut steps).exponent) :
    expansion.value * 10 ^ places - 4 / 9 ≤ tenths steps expansion.mantissa ∧
      (tenths steps expansion.mantissa : ℚ) ≤ expansion.value * 10 ^ places + 5 / 9 := by
  have shift : expansion.value * 10 ^ places = expansion.mantissa / 10 ^ steps := by
    have exponent : expansion.exponent + (places : Int) = -(steps : Int) := by
      simp only [cut] at placed
      omega
    rw [value, mul_assoc, ← zpow_natCast, ← zpow_add₀ (by norm_num), exponent, zpow_neg,
      zpow_natCast, div_eq_mul_inv]
  rw [shift]
  exact tenths_near steps expansion.mantissa

theorem value_cut (expansion : Expansion) {steps places : Nat}
    (placed : (places : Int) = -(expansion.cut steps).exponent) :
    (expansion.cut steps).value = tenths steps expansion.mantissa / 10 ^ places := by
  have exponent : (expansion.cut steps).exponent = -(places : Int) := by omega
  rw [value, exponent, zpow_neg, zpow_natCast, div_eq_mul_inv]
  rfl

/-! ### Short decimals -/

/-- Near to a decimal: off by the rounding to 53 bits, and by the loss of an expansion. -/
structure Near (expansion : Expansion) (number : ℚ) : Prop where
  least : number * (1 - 11 / 10 / 2 ^ 53) ≤ expansion.value
  most : expansion.value ≤ number * (1 + 1 / 2 ^ 53)

variable {number scale steps places : Nat}

/-- Where the digits of a decimal end, at most 4 · 10¹⁵ of them are left as they are. -/
theorem tenths_eq_of_near (near : expansion.Near (number / 10 ^ scale))
    (placed : (places : Int) = -(expansion.cut steps).exponent) {digits : Nat}
    (same : (digits : ℚ) = number / 10 ^ scale * 10 ^ places) (short : digits ≤ 4 * 10 ^ 15) :
    tenths steps expansion.mantissa = digits := by
  obtain ⟨low, high⟩ := expansion.cut_near placed
  have unit : (0 : ℚ) < 10 ^ places := by positivity
  have least := mul_le_mul_of_nonneg_right near.least unit.le
  have most := mul_le_mul_of_nonneg_right near.most unit.le
  rw [mul_right_comm, ← same] at least most
  have small : (digits : ℚ) ≤ 4000000000000000 := by exact_mod_cast short
  norm_num at least most
  exact eq_of_lt_add_one (by linarith) (by linarith)

/-- Behind the place where the digits of a decimal end, a further zero is one too many. -/
theorem le_tenths_of_near (near : expansion.Near (number / 10 ^ scale))
    (placed : (places : Int) = -(expansion.cut steps).exponent) {digits : Nat}
    (same : (digits : ℚ) = number / 10 ^ scale * 10 ^ places) (long : 2 ^ 52 + 4 ≤ digits) :
    2 ^ 52 ≤ tenths steps expansion.mantissa := by
  obtain ⟨low, _⟩ := expansion.cut_near placed
  have unit : (0 : ℚ) < 10 ^ places := by positivity
  have least := mul_le_mul_of_nonneg_right near.least unit.le
  rw [mul_right_comm, ← same] at least
  have great : (4503599627370500 : ℚ) ≤ digits := by exact_mod_cast long
  norm_num at least
  have reached : (4503599627370496 : ℚ) ≤ tenths steps expansion.mantissa := by linarith
  exact_mod_cast reached

/-- An expansion near to a decimal does not vanish on the way to the last place. -/
theorem kept_of_near (near : expansion.Near (number / 10 ^ scale)) (some : 0 < number)
    (few : scale ≤ 22) (steps : Nat) (under : expansion.exponent + steps < -(maxScale : Int)) :
    10 ≤ tenths steps expansion.mantissa := by
  obtain ⟨places, placed⟩ : ∃ places : Nat, (places : Int) = -(expansion.cut steps).exponent := by
    refine ⟨(-(expansion.cut steps).exponent).toNat, Int.toNat_of_nonneg ?_⟩
    simp only [cut]
    omega
  obtain ⟨low, _⟩ := expansion.cut_near placed
  have deep : 22 + 7 ≤ places := by
    simp only [cut, maxScale] at placed under
    omega
  have filled : (10 : ℚ) ^ 7 ≤ number / 10 ^ scale * 10 ^ places := by
    have one : (1 : ℚ) ≤ number := by exact_mod_cast some
    rw [div_mul_eq_mul_div, le_div_iff₀ (by positivity), ← pow_add]
    calc (10 : ℚ) ^ (7 + scale) ≤ 10 ^ places := pow_le_pow_right₀ (by norm_num) (by omega)
      _ ≤ number * 10 ^ places := le_mul_of_one_le_left (by positivity) one
  have unit : (0 : ℚ) < 10 ^ places := by positivity
  have least := mul_le_mul_of_nonneg_right near.least unit.le
  rw [mul_right_comm] at least
  norm_num at least filled
  have reached : (10 : ℚ) ≤ tenths steps expansion.mantissa := by linarith
  exact_mod_cast reached

/-- Fewer places than the decimal has are only reached without a step. -/
theorem steps_eq_zero_of_near (near : expansion.Near (number / 10 ^ scale))
    (short : number ≤ 10 ^ 15) (few : scale ≤ 22) (settled : Settled (2 ^ 52) expansion steps)
    (placed : (places : Int) = -(expansion.cut steps).exponent) (fewer : places < scale) :
    steps = 0 := by
  rcases settled.needed with none | last | long
  · exact none
  · rw [last] at placed
    simp only [maxScale] at placed
    omega
  · cases steps with
    | zero => rfl
    | succ steps =>
        have before : ((places + 1 : Nat) : Int) = -(expansion.cut steps).exponent := by
          simp only [cut] at placed ⊢
          push_cast at placed ⊢
          omega
        obtain ⟨_, high⟩ := expansion.cut_near before
        have shrunk : (number : ℚ) / 10 ^ scale * 10 ^ (places + 1) ≤ 10 ^ 15 := by
          have small : (number : ℚ) ≤ 10 ^ 15 := by exact_mod_cast short
          rw [div_mul_eq_mul_div, div_le_iff₀ (by positivity)]
          exact mul_le_mul small (pow_le_pow_right₀ (by norm_num) fewer) (by positivity)
            (by positivity)
        have unit : (0 : ℚ) < 10 ^ (places + 1) := by positivity
        have most := mul_le_mul_of_nonneg_right near.most unit.le
        rw [mul_right_comm] at most
        rw [Nat.add_sub_cancel] at long
        have great : (4503599627370496 : ℚ) ≤ tenths steps expansion.mantissa := by
          exact_mod_cast long
        norm_num at most shrunk
        linarith

/-- Without a step, an expansion near to a decimal of few digits is the decimal. -/
theorem value_eq_of_near (near : expansion.Near (number / 10 ^ scale))
    (short : number ≤ 10 ^ 15) (placed : (places : Int) = -expansion.exponent)
    (fewer : places ≤ scale) : expansion.value = number / 10 ^ scale := by
  have unit : (0 : ℚ) < 10 ^ scale := by positivity
  have whole : expansion.value * 10 ^ scale =
      (expansion.mantissa * 10 ^ (scale - places) : Nat) := by
    have exponent : expansion.exponent = -(places : Int) := by omega
    have split : (10 : ℚ) ^ scale = 10 ^ (scale - places) * 10 ^ places := by
      rw [← pow_add, Nat.sub_add_cancel fewer]
    rw [value, exponent, zpow_neg, zpow_natCast, split]
    push_cast
    field_simp
  have least := mul_le_mul_of_nonneg_right near.least unit.le
  have most := mul_le_mul_of_nonneg_right near.most unit.le
  rw [mul_right_comm, div_mul_cancel₀ _ unit.ne', whole] at least most
  have small : (number : ℚ) ≤ 1000000000000000 := by exact_mod_cast short
  generalize expansion.mantissa * 10 ^ (scale - places) = digits at whole least most
  norm_num at least most
  obtain rfl : digits = number := eq_of_lt_add_one (by linarith) (by linarith)
  rw [eq_div_iff unit.ne', whole]

/-- A decimal is recovered from an expansion near to it if, lengthened by zeros while it has
less than 52 bits, it stays below 4 · 10¹⁵. -/
theorem value_rounded_of_near (within : expansion.Within)
    (near : expansion.Near (number / 10 ^ scale)) (short : number ≤ 10 ^ 15) (few : scale ≤ 22)
    {zeros : Nat} (fits : number * 10 ^ zeros ≤ 4 * 10 ^ 15)
    (full : 2 ^ 52 ≤ number * 10 ^ (zeros + 1)) :
    (rounded (2 ^ 52) expansion).value = number / 10 ^ scale := by
  have some : 0 < number := by
    by_contra none
    obtain rfl : number = 0 := by omega
    simp at full
  obtain ⟨steps, settled⟩ := exists_settled (2 ^ 52) within (kept_of_near near some few)
  obtain ⟨places, placed⟩ : ∃ places : Nat, (places : Int) = -(expansion.cut steps).exponent := by
    have := settled.placed
    exact ⟨(-(expansion.cut steps).exponent).toNat, by omega⟩
  rw [settled.value]
  rcases Nat.lt_or_ge places scale with fewer | enough
  · -- the expansion ended in front of the last place of the decimal, so nothing was rounded
    have none := steps_eq_zero_of_near near short few settled placed fewer
    have start : expansion.cut 0 = expansion := by simp [cut, tenths]
    rw [none, start] at placed
    rw [none, start]
    exact value_eq_of_near near short placed fewer.le
  · obtain ⟨more, rfl⟩ := Nat.exists_eq_add_of_le enough
    have shift (digits : Nat) (same : digits = number * 10 ^ more) :
        (digits : ℚ) = number / 10 ^ scale * 10 ^ (scale + more) := by
      rw [same, pow_add]
      push_cast
      field_simp
    rcases Nat.lt_or_ge zeros more with beyond | inside
    · -- one zero more than there is room for: the steps would have gone on
      exfalso
      have long : 2 ^ 52 + 4 ≤ number * 10 ^ more := by
        obtain ⟨rest, rfl⟩ := Nat.exists_eq_add_of_lt beyond
        have grown : number * 10 ^ (zeros + 1) ≤ number * 10 ^ (zeros + rest + 1) :=
          Nat.mul_le_mul_left _ (Nat.pow_le_pow_right (by decide) (by omega))
        have tens : number * 10 ^ (zeros + rest + 1) = number * 10 ^ (zeros + rest) * 10 := by
          rw [Nat.pow_succ, Nat.mul_assoc]
        omega
      have great := le_tenths_of_near near placed (shift _ rfl) long
      rcases settled.few with none | small
      · omega
      · omega
    · have least : number * 10 ^ more ≤ 4 * 10 ^ 15 :=
        Nat.le_trans (Nat.mul_le_mul_left _ (Nat.pow_le_pow_right (by decide) inside)) fits
      rw [value_cut _ placed, tenths_eq_of_near near placed (shift _ rfl) least, shift _ rfl,
        mul_div_cancel_right₀ _ (by positivity)]

end Expansion

open Binary

/-- An expansion loses next to nothing of a number. -/
theorem expanded_near {format : BinaryFormat} {code : Nat}
    (shallow : doublings format code ≤ format.depth) :
    (expanded format code).value ≤ magnitude format code ∧
      magnitude format code * (1 - 1 / 2 ^ 80) ≤ (expanded format code).value := by
  obtain ⟨count, count_eq⟩ : ∃ count, count = format.depth - doublings format code := ⟨_, rfl⟩
  have exponent : (doublings format code : Int) - format.depth = -(count : Int) := by omega
  have ten : (10 : ℚ) ^ count = 5 ^ count * 2 ^ count := by rw [← mul_pow]; norm_num
  have start : 5 ^ count *
      (⟨significand format code, doublings format code - format.depth⟩ : Expansion).value =
        magnitude format code := by
    rw [magnitude_eq_div shallow, ← count_eq, Expansion.value, exponent, zpow_neg, zpow_natCast,
      ten]
    field_simp
  obtain ⟨most, least⟩ := Expansion.value_halves_near count
    ⟨significand format code, doublings format code - format.depth⟩
  rw [start] at most least
  rw [expanded, ← count_eq]
  refine ⟨most, le_trans (mul_le_mul_of_nonneg_left ?_ (magnitude_nonneg _ _)) least⟩
  have few : count ≤ 1074 := by
    have depth : format.depth ≤ 1074 := by cases format <;> decide
    omega
  have bound : (count : ℚ) ≤ 1074 := by exact_mod_cast few
  norm_num [mantissaBound]
  linarith

/-- The expansion of what a number is rounded to is near to the number. -/
theorem near_expanded {number : ℚ} {code : Nat} (rounds : Rounds .double number code)
    (shallow : doublings .double code ≤ BinaryFormat.depth .double) :
    (expanded .double code).Near number := by
  obtain ⟨most, least⟩ := expanded_near shallow
  have nonneg := rounds.nonneg
  have near := rounds.near
  have bits : (2 : ℚ) ^ (BinaryFormat.double.fractionBits + 1) = 2 ^ 53 := rfl
  rw [bits, ← le_div_iff₀ (by norm_num), abs_le] at near
  obtain ⟨_, _⟩ := near
  norm_num at *
  constructor
  · norm_num
    linarith
  · norm_num
    linarith

end Decimal

end RecordMapping
