import Mathlib.Algebra.Order.Ring.Pow
import Mathlib.Data.Int.Log
import Mathlib.Data.Rat.Floor
import Mathlib.Tactic.Linarith
import Mathlib.Tactic.Positivity
import Mathlib.Tactic.Ring

/-! Rounding: binary numbers of a fixed precision, and what a chain of roundings can do
to a number that is not negative. -/

namespace OrderProcessing.Library

section Near

variable {Number : Type*} [Field Number] [LinearOrder Number]
variable {unit first second third fourth : Number} {steps more : ℕ}

/-- Each of two numbers is at least the other after as many losses of a share. -/
structure Near (unit : Number) (steps : ℕ) (first second : Number) : Prop where
  below : first * (1 - unit) ^ steps ≤ second
  above : second * (1 - unit) ^ steps ≤ first

namespace Near

theorem refl : Near unit 0 first first := ⟨by simp, by simp⟩

theorem zero : Near unit steps 0 0 := ⟨by simp, by simp⟩

theorem symm (near : Near unit steps first second) : Near unit steps second first := ⟨near.above, near.below⟩

variable [IsStrictOrderedRing Number]

theorem trans (small : unit ≤ 1) (near : Near unit steps first second) (next : Near unit more second third) :
    Near unit (steps + more) first third := by
  have loss (count : ℕ) : 0 ≤ (1 - unit) ^ count := pow_nonneg (sub_nonneg.mpr small) count
  constructor
  · calc first * (1 - unit) ^ (steps + more) = first * (1 - unit) ^ steps * (1 - unit) ^ more := by ring
      _ ≤ second * (1 - unit) ^ more := mul_le_mul_of_nonneg_right near.below (loss more)
      _ ≤ third := next.below
  · calc third * (1 - unit) ^ (steps + more) = third * (1 - unit) ^ more * (1 - unit) ^ steps := by ring
      _ ≤ second * (1 - unit) ^ steps := mul_le_mul_of_nonneg_right next.above (loss steps)
      _ ≤ first := near.above

theorem mono (positive : 0 ≤ unit) (small : unit ≤ 1) (left : 0 ≤ first) (right : 0 ≤ second)
    (fewer : steps ≤ more) (near : Near unit steps first second) : Near unit more first second := by
  have loss : (1 - unit) ^ more ≤ (1 - unit) ^ steps :=
    pow_le_pow_of_le_one (sub_nonneg.mpr small) (sub_le_self 1 positive) fewer
  exact ⟨(mul_le_mul_of_nonneg_left loss left).trans near.below, (mul_le_mul_of_nonneg_left loss right).trans near.above⟩

theorem add (near : Near unit steps first second) (other : Near unit steps third fourth) :
    Near unit steps (first + third) (second + fourth) := by
  constructor
  · rw [add_mul]
    exact add_le_add near.below other.below
  · rw [add_mul]
    exact add_le_add near.above other.above

theorem mul (small : unit ≤ 1) (left : 0 ≤ first) (right : 0 ≤ second) (near : Near unit steps first second)
    (other : Near unit more third fourth) (after : 0 ≤ third) (last : 0 ≤ fourth) :
    Near unit (steps + more) (first * third) (second * fourth) := by
  have loss : 0 ≤ (1 - unit) ^ more := pow_nonneg (sub_nonneg.mpr small) more
  constructor
  · calc first * third * (1 - unit) ^ (steps + more) = first * (1 - unit) ^ steps * (third * (1 - unit) ^ more) := by ring
      _ ≤ second * fourth := mul_le_mul near.below other.below (mul_nonneg after loss) right
  · calc second * fourth * (1 - unit) ^ (steps + more) =
          second * (1 - unit) ^ steps * (fourth * (1 - unit) ^ more) := by ring
      _ ≤ first * third := mul_le_mul near.above other.above (mul_nonneg last loss) left

/-- One rounding with a relative error. -/
theorem of_error (small : unit ≤ 1) (left : 0 ≤ first)
    (error : |second - first| ≤ first * unit) : Near unit 1 first second := by
  obtain ⟨below, above⟩ := abs_le.mp error
  refine ⟨by rw [pow_one]; linarith, ?_⟩
  calc second * (1 - unit) ^ 1 ≤ (first + first * unit) * (1 - unit) := by
        rw [pow_one]
        exact mul_le_mul_of_nonneg_right (by linarith) (sub_nonneg.mpr small)
    _ = first - first * unit ^ 2 := by ring
    _ ≤ first := sub_le_self _ (mul_nonneg left (sq_nonneg unit))

/-- The losses add up to no more than their number. -/
theorem bound (small : unit ≤ 1) (left : 0 ≤ first) (near : Near unit steps first second) :
    first * (1 - steps * unit) ≤ second := by
  have bernoulli : 1 - steps * unit ≤ (1 - unit) ^ steps := by
    have := one_add_mul_le_pow (by linarith : -2 ≤ -unit) steps
    rwa [mul_neg, ← sub_eq_add_neg, ← sub_eq_add_neg] at this
  exact (mul_le_mul_of_nonneg_left bernoulli left).trans near.below

end Near

end Near

section Nearest

/-- The nearest integer, and the even one of two. -/
def halfEven (value : ℚ) : ℤ :=
  if value - ⌊value⌋ < 1 / 2 then ⌊value⌋
  else if 1 / 2 < value - ⌊value⌋ then ⌊value⌋ + 1
  else if ⌊value⌋ % 2 = 0 then ⌊value⌋
  else ⌊value⌋ + 1

/-- The nearest integer, and of two the one further from zero. -/
def halfAway (value : ℚ) : ℤ := if 0 ≤ value then ⌊value + 1 / 2⌋ else -⌊-value + 1 / 2⌋

theorem halfEven_error (value : ℚ) : |(halfEven value : ℚ) - value| ≤ 1 / 2 := by
  have low := Int.floor_le value
  have high := Int.lt_floor_add_one value
  unfold halfEven
  rw [abs_le]
  split
  · exact ⟨by linarith, by linarith⟩
  split
  · push_cast
    exact ⟨by linarith, by linarith⟩
  split
  · exact ⟨by linarith, by linarith⟩
  · push_cast
    exact ⟨by linarith, by linarith⟩

theorem halfAway_eq {value : ℚ} {whole : ℤ} (close : |value - whole| < 1 / 2) : halfAway value = whole := by
  obtain ⟨below, above⟩ := abs_lt.mp close
  unfold halfAway
  split
  · rw [Int.floor_eq_iff]
    exact ⟨by linarith, by linarith⟩
  · rw [neg_eq_iff_eq_neg, Int.floor_eq_iff]
    push_cast
    exact ⟨by linarith, by linarith⟩

theorem le_halfAway {value : ℚ} {whole : ℤ} (positive : 0 ≤ value) (above : (whole : ℚ) - 1 / 2 ≤ value) :
    whole ≤ halfAway value := by
  rw [halfAway, if_pos positive, Int.le_floor]
  linarith

/-- Binary numbers with as many digits, the last of them not below a power of two. -/
structure Format where
  precision : ℕ
  least : ℤ

namespace Format

variable (format : Format) {value : ℚ}

/-- The place of the last digit. -/
def exponent (value : ℚ) : ℤ := max (Int.log 2 |value| + 1 - format.precision) format.least

def nearest (value : ℚ) : ℚ := halfEven (value / 2 ^ format.exponent value) * 2 ^ format.exponent value

/-- The share of a number that a rounding can change. -/
def unit : ℚ := 2 ^ (-(format.precision : ℤ))

/-- The least number that has all digits. -/
def normal : ℚ := 2 ^ (format.least + format.precision - 1)

theorem unit_pos : 0 < format.unit := zpow_pos (by norm_num) _

theorem unit_le_one : format.unit ≤ 1 := zpow_le_one_of_nonpos₀ (by norm_num) (by simp)

@[simp] theorem nearest_zero : format.nearest 0 = 0 := by simp [nearest, halfEven]

theorem nearest_error (value : ℚ) : |format.nearest value - value| ≤ 2 ^ format.exponent value / 2 := by
  have scale : (0 : ℚ) < 2 ^ format.exponent value := zpow_pos (by norm_num) _
  have parted : format.nearest value - value =
      (halfEven (value / 2 ^ format.exponent value) - value / 2 ^ format.exponent value) *
        2 ^ format.exponent value := by
    rw [sub_mul, div_mul_cancel₀ _ scale.ne']
    rfl
  rw [parted, abs_mul, abs_of_pos scale]
  calc _ ≤ 1 / 2 * 2 ^ format.exponent value := mul_le_mul_of_nonneg_right (halfEven_error _) scale.le
    _ = _ := by ring

/-- The last digit of a number counts a share of the number, or it is the least there is. -/
theorem place_le (nonzero : value ≠ 0) :
    (2 : ℚ) ^ format.exponent value ≤ max (2 * (|value| * format.unit)) (2 ^ format.least) := by
  have first := Int.zpow_log_le_self (R := ℚ) (b := 2) (by norm_num) (abs_pos.mpr nonzero)
  have digits : (2 : ℚ) ^ (Int.log 2 |value| + 1 - format.precision) ≤ 2 * (|value| * format.unit) := by
    calc (2 : ℚ) ^ (Int.log 2 |value| + 1 - format.precision) = 2 * (2 ^ Int.log 2 |value| * format.unit) := by
          rw [sub_eq_add_neg, zpow_add₀ (by norm_num), zpow_add₀ (by norm_num), unit]
          ring
      _ ≤ 2 * (|value| * format.unit) := by
          have := mul_le_mul_of_nonneg_right first format.unit_pos.le
          push_cast at this
          linarith
  rcases max_choice (Int.log 2 |value| + 1 - format.precision) format.least with lead | lead
  · rw [exponent, lead]
    exact digits.trans (le_max_left _ _)
  · rw [exponent, lead]
    exact le_max_right _ _

/-- A rounding changes a number by a share of it and half the least digit at most. -/
theorem nearest_mixed (value : ℚ) :
    |format.nearest value - value| ≤ |value| * format.unit + 2 ^ format.least / 2 := by
  have least : (0 : ℚ) < 2 ^ format.least := zpow_pos (by norm_num) _
  have share := mul_nonneg (abs_nonneg value) format.unit_pos.le
  by_cases nonzero : value = 0
  · subst nonzero
    simp only [nearest_zero, sub_zero, abs_zero, zero_mul, zero_add]
    linarith
  · have error := format.nearest_error value
    have place := format.place_le nonzero
    rcases le_max_iff.mp place with small | small <;> linarith

/-- A number with all digits changes by a share of itself only. -/
theorem nearest_share (large : format.normal ≤ |value|) :
    |format.nearest value - value| ≤ |value| * format.unit := by
  have least : (2 : ℚ) ^ format.least = 2 * (format.normal * format.unit) := by
    rw [normal, unit, ← zpow_add₀ (by norm_num), ← zpow_one_add₀ (by norm_num)]
    congr 1
    omega
  have full := mul_le_mul_of_nonneg_right large format.unit_pos.le
  have nonzero : value ≠ 0 := by
    rintro rfl
    have positive : 0 < format.normal := zpow_pos (by norm_num) _
    rw [abs_zero] at large
    linarith
  have error := format.nearest_error value
  have place := format.place_le nonzero
  rw [max_eq_left (by linarith)] at place
  linarith

theorem nearest_near (positive : 0 ≤ value) (large : value = 0 ∨ format.normal ≤ value) :
    Near format.unit 1 value (format.nearest value) := by
  refine .of_error format.unit_le_one positive ?_
  rcases large with rfl | large
  · simp
  · have share := format.nearest_share (large.trans (le_abs_self value))
    rwa [abs_of_nonneg positive] at share

end Format

end Nearest

end OrderProcessing.Library
