import OrderProcessing.Library.Word
import OrderProcessing.Services.Charge

/-! The delay between two attempts of the fulfiller, in 64-bit nanoseconds: twice
as long after every attempt, capped, with jitter. The guard against overflow sees
no more of the shifted value than its sign. -/

namespace OrderProcessing.Fulfiller

open Library

/-- The settings that `backoff` reads. -/
structure BackoffConfig where
  baseBackoff : Int
  maxBackoff : Int
  deriving DecidableEq, Repr

/-- The cap, which also takes the place of a shifted value that is not positive. -/
def BackoffConfig.capped (settings : BackoffConfig) (shifted : Int) : Int :=
  if shifted ≤ 0 ∨ settings.maxBackoff < shifted then settings.maxBackoff else shifted

/-- `rand.Int63n`: a number below the bound, of which the draw picks one. It panics
if there is none. -/
def int63n (bound : Int) (draw : Nat) : Option Int :=
  if bound ≤ 0 then none else some (draw % bound)

/-- No delay at all is a panic, of the shift or of `Int63n`. -/
def backoff (settings : BackoffConfig) (attempt : Int) (draw : Nat) : Option Int :=
  let count := wrap 64 (attempt - 1)
  if count < 0 then none
  else
    let delay := settings.capped (shiftLeft 64 settings.baseBackoff count.toNat)
    let half := delay.tdiv 2
    if half ≤ 0 then some delay
    else (int63n (wrap 64 (half + 1)) draw).map fun jitter => wrap 64 (half + jitter)

/-- The delay before the jitter as it is documented, in integers without bounds. -/
def BackoffConfig.documented (settings : BackoffConfig) (attempt : Int) : Int :=
  min (settings.baseBackoff * 2 ^ (attempt - 1).toNat) settings.maxBackoff

/-- Both settings are positive durations. -/
structure BackoffConfig.Positive (settings : BackoffConfig) : Prop where
  base : 0 < settings.baseBackoff
  baseWord : IsWord 64 settings.baseBackoff
  cap : 0 < settings.maxBackoff
  capWord : IsWord 64 settings.maxBackoff

/-- From half of the delay up to all of it. -/
def jittered (delay : Int) (draw : Nat) : Int :=
  if delay / 2 = 0 then delay else delay / 2 + draw % (delay / 2 + 1)

theorem jittered_bounds (positive : 0 < delay) (draw : Nat) :
    delay / 2 ≤ jittered delay draw ∧ jittered delay draw ≤ delay := by
  unfold jittered
  split
  · omega
  · have low := Int.emod_nonneg draw (b := delay / 2 + 1) (by omega)
    have high := Int.emod_lt_of_pos draw (b := delay / 2 + 1) (by omega)
    omega

variable {settings : BackoffConfig} {attempt : Int}

theorem BackoffConfig.capped_bounds (cap : 0 < settings.maxBackoff) (shifted : Int) :
    0 < settings.capped shifted ∧ settings.capped shifted ≤ settings.maxBackoff := by
  unfold capped
  split <;> omega

/-- A delay within the cap is halved and jittered without overflow. -/
theorem backoff_jittered (valid : settings.Positive) (count : 0 ≤ wrap 64 (attempt - 1)) (draw : Nat) :
    backoff settings attempt draw =
      some (jittered (settings.capped (shiftLeft 64 settings.baseBackoff (wrap 64 (attempt - 1)).toNat)) draw) := by
  simp only [backoff, if_neg (not_lt.mpr count)]
  obtain ⟨positive, small⟩ := BackoffConfig.capped_bounds valid.cap
    (shiftLeft 64 settings.baseBackoff (wrap 64 (attempt - 1)).toNat)
  generalize settings.capped _ = delay at positive small
  have room := valid.capWord.2
  have half : delay.tdiv 2 = delay / 2 := Int.tdiv_eq_ediv_of_nonneg (by omega)
  rw [half, jittered]
  by_cases none : delay / 2 = 0
  · simp [none]
  · have low := Int.emod_nonneg draw (b := delay / 2 + 1) (by omega)
    have high := Int.emod_lt_of_pos draw (b := delay / 2 + 1) (by omega)
    have bound : wrap 64 (delay / 2 + 1) = delay / 2 + 1 := wrap_word ⟨by omega, by omega⟩
    have sum : wrap 64 (delay / 2 + draw % (delay / 2 + 1)) = delay / 2 + draw % (delay / 2 + 1) :=
      wrap_word ⟨by omega, by omega⟩
    rw [if_neg (by omega), if_neg none, bound, int63n, if_neg (by omega), Option.map_some, sum]

/-- The panic that the retry loop has to expect is the only one. -/
theorem backoff_panics (valid : settings.Positive) (word : IsWord 64 attempt) (draw : Nat) :
    backoff settings attempt draw = none ↔ backoffPanics attempt := by
  have count : wrap 64 (attempt - 1) < 0 ↔ backoffPanics attempt := by
    unfold IsWord at word
    simp only [backoffPanics, minInt]
    by_cases least : attempt = -9223372036854775808
    · subst least
      decide
    · rw [wrap_word ⟨by omega, by omega⟩]
      simp [least]
  rw [← count]
  by_cases negative : wrap 64 (attempt - 1) < 0
  · simp [backoff, negative]
  · simp [backoff_jittered valid (not_lt.mp negative), negative]

/-- The word that the shift leaves once it drops bits is even. -/
theorem shifted_even (valid : settings.Positive) {count : Nat}
    (overflow : 2 ^ 63 ≤ settings.baseBackoff * 2 ^ count) :
    2 ∣ shiftLeft 64 settings.baseBackoff count := by
  have shifts : count ≠ 0 := by
    rintro rfl
    have room := valid.baseWord.2
    omega
  exact (dvd_pow_self 2 shifts).trans shiftLeft_dvd

/-- The delay never panics. It is within its documented window for every draw iff the
shift drops no bits, or the word it leaves is not positive, or half of that word is
at least half of the cap. -/
theorem backoff_window_iff (valid : settings.Positive) (first : 1 ≤ attempt) (word : IsWord 64 attempt) :
    (∀ draw, (backoff settings attempt draw).isSome) ∧
    ((∀ draw delay, backoff settings attempt draw = some delay →
        settings.documented attempt / 2 ≤ delay ∧ delay ≤ settings.documented attempt) ↔
      settings.baseBackoff * 2 ^ (attempt - 1).toNat < 2 ^ 63 ∨
      shiftLeft 64 settings.baseBackoff (attempt - 1).toNat ≤ 0 ∨
      settings.maxBackoff / 2 ≤ shiftLeft 64 settings.baseBackoff (attempt - 1).toNat / 2) := by
  have count : wrap 64 (attempt - 1) = attempt - 1 := by
    unfold IsWord at word
    exact wrap_word ⟨by omega, by omega⟩
  have eq (draw : Nat) := backoff_jittered valid (count ▸ (by omega : 0 ≤ attempt - 1)) draw
  simp only [count] at eq
  refine ⟨fun draw => by simp [eq], ?_⟩
  simp only [eq, Option.some.injEq, forall_eq', BackoffConfig.documented]
  have cap := valid.cap
  have room := valid.capWord.2
  by_cases fits : settings.baseBackoff * 2 ^ (attempt - 1).toNat < 2 ^ 63
  · have positive : 0 < settings.baseBackoff * 2 ^ (attempt - 1).toNat := Int.mul_pos valid.base (by positivity)
    simp only [fits, true_or, iff_true]
    rw [shiftLeft_word valid.base ⟨by omega, by omega⟩]
    have same : settings.capped (settings.baseBackoff * 2 ^ (attempt - 1).toNat) =
        min (settings.baseBackoff * 2 ^ (attempt - 1).toNat) settings.maxBackoff := by
      unfold BackoffConfig.capped
      split <;> omega
    rw [same]
    exact jittered_bounds (by omega)
  · have even := shifted_even valid (not_lt.mp fits)
    rw [min_eq_right (by omega)]
    simp only [fits, false_or]
    generalize shiftLeft 64 settings.baseBackoff (attempt - 1).toNat = shifted at even
    constructor
    · intro window
      by_contra low
      obtain ⟨lower, _⟩ := window 0
      have kept : settings.capped shifted = shifted := by
        unfold BackoffConfig.capped
        rw [if_neg (by omega)]
      rw [kept, jittered, if_neg (by omega)] at lower
      simp only [Nat.cast_zero, Int.zero_emod, add_zero] at lower
      omega
    · intro fine draw
      obtain ⟨positive, small⟩ := BackoffConfig.capped_bounds cap shifted
      obtain ⟨lower, upper⟩ := jittered_bounds positive draw
      have half : settings.maxBackoff / 2 ≤ settings.capped shifted / 2 := by
        unfold BackoffConfig.capped
        split <;> omega
      omega

/-- The defaults: 200 milliseconds, and at most five seconds. -/
def defaultBackoff : BackoffConfig := ⟨200000000, 5000000000⟩

theorem backoff_window_third_attempt : (∀ draw, (backoff defaultBackoff 3 draw).isSome) ∧
    ((∀ draw delay, backoff defaultBackoff 3 draw = some delay →
        defaultBackoff.documented 3 / 2 ≤ delay ∧ delay ≤ defaultBackoff.documented 3) ↔
      defaultBackoff.baseBackoff * 2 ^ (3 - 1 : Int).toNat < 2 ^ 63 ∨
      shiftLeft 64 defaultBackoff.baseBackoff (3 - 1 : Int).toNat ≤ 0 ∨
      defaultBackoff.maxBackoff / 2 ≤ shiftLeft 64 defaultBackoff.baseBackoff (3 - 1 : Int).toNat / 2) :=
  backoff_window_iff ⟨by decide, by decide, by decide, by decide⟩ (by decide) (by decide)

/-- With a base just above two seconds, the delay after attempt 34 should be at the
cap of a minute. The shift leaves eight seconds and a half, of which the delay may
be half. -/
theorem backoff_collapses : backoff ⟨2147483649, 60000000000⟩ 34 0 = some 4294967296 ∧
    BackoffConfig.documented ⟨2147483649, 60000000000⟩ 34 / 2 = 30000000000 := by
  decide

/-- Settings whose product is a word keep every attempt within the window. -/
theorem small_product_windowed (valid : settings.Positive)
    (small : settings.baseBackoff * settings.maxBackoff < 2 ^ 63) (count : Nat) :
    settings.baseBackoff * 2 ^ count < 2 ^ 63 ∨ shiftLeft 64 settings.baseBackoff count ≤ 0 ∨
      settings.maxBackoff / 2 ≤ shiftLeft 64 settings.baseBackoff count / 2 := by
  by_contra trapped
  simp only [not_or, not_lt, not_le] at trapped
  obtain ⟨overflow, positive, within⟩ := trapped
  have least : 2 ^ count ≤ shiftLeft 64 settings.baseBackoff count := Int.le_of_dvd positive shiftLeft_dvd
  have product : settings.baseBackoff * 2 ^ count ≤ settings.baseBackoff * settings.maxBackoff :=
    Int.mul_le_mul_of_nonneg_left (by omega) valid.base.le
  omega

end OrderProcessing.Fulfiller
