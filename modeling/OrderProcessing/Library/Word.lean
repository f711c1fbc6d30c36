import Mathlib.Algebra.Order.Ring.Int
import Mathlib.Tactic.Linarith

/-! Signed machine words as integers. Arithmetic on words is that of the integers,
wrapped to the width of the word. -/

namespace OrderProcessing.Library

variable {width count : Nat} {value : Int}

/-- The low bits of an integer, read as a signed number. -/
def wrap (width : Nat) (value : Int) : Int := value.bmod (2 ^ width)

/-- The integer is within the range of a word. -/
def IsWord (width : Nat) (value : Int) : Prop := -2 ^ width ≤ value * 2 ∧ value * 2 < 2 ^ width

instance : Decidable (IsWord width value) := inferInstanceAs (Decidable (_ ∧ _))

theorem wrap_word (word : IsWord width value) : wrap width value = value :=
  Int.bmod_eq_of_le_mul_two (by exact_mod_cast word.1) (by exact_mod_cast word.2)

/-- A shift to the left. No bit is left after as many places as the word has. -/
def shiftLeft (width : Nat) (value : Int) (count : Nat) : Int :=
  if count < width then wrap width (value * 2 ^ count) else 0

theorem shiftLeft_word (positive : 0 < value) (word : IsWord width (value * 2 ^ count)) :
    shiftLeft width value count = value * 2 ^ count := by
  unfold shiftLeft
  split
  · exact wrap_word word
  · rename_i beyond
    have power : (2 : Int) ^ width ≤ 2 ^ count := pow_le_pow_right₀ (by norm_num) (by omega)
    have least : (2 : Int) ^ count ≤ value * 2 ^ count := le_mul_of_one_le_left (by positivity) positive
    have room := word.2
    have some : (0 : Int) < 2 ^ width := by positivity
    omega

/-- The low places are empty after a shift, also when it drops bits. -/
theorem shiftLeft_dvd : 2 ^ count ∣ shiftLeft width value count := by
  unfold shiftLeft
  split
  · rename_i within
    have places : (2 : Int) ^ count ∣ ((2 ^ width : Nat) : Int) := by
      push_cast
      exact pow_dvd_pow 2 (by omega)
    rw [wrap, Int.bmod_eq_self_sub_mul_bdiv]
    exact Int.dvd_sub (Int.dvd_mul_left _ _) (places.trans (Int.dvd_mul_right _ _))
  · exact Int.dvd_zero _

end OrderProcessing.Library
