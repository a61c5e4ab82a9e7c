import Mathlib.Data.Int.Log
import Mathlib.Data.Rat.Floor
import Mathlib.Algebra.Order.Field.Power
import Mathlib.Tactic.Linarith
import Mathlib.Tactic.NormNum
import Mathlib.Tactic.Ring
import Mathlib.Tactic.Positivity
import Mathlib.Tactic.FieldSimp
import RemoteUnlock.Python.Decimal

/-!
# Binary64 numbers and their shortest decimals

A finite number is a sign and a canonical magnitude `mantissa * 2 ^ exponent`.
`Magnitude.ofRat` rounds to nearest, ties to even, and `Magnitude.shortest`
picks the decimal a printer writes: the fewest digits that round back, and among
those the closest.  That a decimal which rounds back exists is the one numeric
fact needed (`exists_digitsAt`): enough digits write the number exactly.
-/

namespace RemoteUnlock.Python

/-- A nonnegative finite binary64 number in canonical form. -/
structure Magnitude where
  mantissa : ℕ
  exponent : ℤ
  canonical : mantissa < 2 ^ 53 ∧ -1074 ≤ exponent ∧ exponent ≤ 971 ∧
    (2 ^ 52 ≤ mantissa ∨ exponent = -1074)
  deriving DecidableEq

namespace Magnitude

def value (magnitude : Magnitude) : ℚ :=
  magnitude.mantissa * (2 : ℚ) ^ magnitude.exponent

/-- Round to the nearest natural number, ties to even. -/
def roundHalfEven (quotient : ℚ) : ℕ :=
  let lower := ⌊quotient⌋₊
  if quotient - lower < 1 / 2 then lower
  else if 1 / 2 < quotient - lower then lower + 1
  else if lower % 2 = 0 then lower
  else lower + 1

@[simp]
theorem roundHalfEven_natCast (number : ℕ) : roundHalfEven (number : ℚ) = number := by
  simp [roundHalfEven]

/-- The exponent a value is rounded at: 53 significant bits, gradual underflow. -/
def roundExponent (value : ℚ) : ℤ :=
  if value = 0 then -1074 else max (-1074) (Int.log 2 value - 52)

def pack (mantissa : ℕ) (exponent : ℤ) : Option Magnitude :=
  if canonical : mantissa < 2 ^ 53 ∧ -1074 ≤ exponent ∧ exponent ≤ 971 ∧
      (2 ^ 52 ≤ mantissa ∨ exponent = -1074) then
    some ⟨mantissa, exponent, canonical⟩
  else none

/-- Round a nonnegative value; nothing is returned where it overflows. -/
def ofRat (value : ℚ) : Option Magnitude :=
  let exponent := roundExponent value
  let mantissa := roundHalfEven (value / (2 : ℚ) ^ exponent)
  if mantissa = 2 ^ 53 then pack (2 ^ 52) (exponent + 1) else pack mantissa exponent

theorem value_pos {magnitude : Magnitude} (positive : 0 < magnitude.mantissa) :
    0 < magnitude.value := by
  unfold value
  have mantissaPositive : (0 : ℚ) < magnitude.mantissa := by exact_mod_cast positive
  positivity

theorem roundExponent_value (magnitude : Magnitude) :
    roundExponent magnitude.value = magnitude.exponent := by
  rcases magnitude with ⟨mantissa, exponent, small, lowest, highest, normal⟩
  rcases Nat.eq_zero_or_pos mantissa with zero | positive
  · subst zero
    have subnormal : exponent = -1074 := by
      rcases normal with large | subnormal
      · simp at large
      · exact subnormal
    simp [roundExponent, value, subnormal]
  · have valuePositive : 0 < value ⟨mantissa, exponent, small, lowest, highest, normal⟩ :=
      value_pos positive
    simp only [roundExponent, valuePositive.ne', if_false]
    have scale : (0 : ℚ) < (2 : ℚ) ^ exponent := by positivity
    have below : Int.log 2 ((mantissa : ℚ) * (2 : ℚ) ^ exponent) < exponent + 53 := by
      apply (Int.lt_zpow_iff_log_lt (by decide) valuePositive).mp
      have bound : (mantissa : ℚ) < (2 : ℚ) ^ (53 : ℤ) := by exact_mod_cast small
      calc (mantissa : ℚ) * (2 : ℚ) ^ exponent
          < (2 : ℚ) ^ (53 : ℤ) * (2 : ℚ) ^ exponent := mul_lt_mul_of_pos_right bound scale
        _ = ((2 : ℕ) : ℚ) ^ (exponent + 53) := by
            rw [add_comm, zpow_add₀ (by norm_num)]
            norm_num
    simp only [value]
    rcases normal with large | subnormal
    · have above : exponent + 52 ≤ Int.log 2 ((mantissa : ℚ) * (2 : ℚ) ^ exponent) := by
        apply (Int.zpow_le_iff_le_log (by decide) valuePositive).mp
        have bound : (2 : ℚ) ^ (52 : ℤ) ≤ (mantissa : ℚ) := by exact_mod_cast large
        calc ((2 : ℕ) : ℚ) ^ (exponent + 52)
            = (2 : ℚ) ^ (52 : ℤ) * (2 : ℚ) ^ exponent := by
              rw [add_comm, zpow_add₀ (by norm_num)]
              norm_num
          _ ≤ (mantissa : ℚ) * (2 : ℚ) ^ exponent :=
              mul_le_mul_of_nonneg_right bound scale.le
      omega
    · omega

/-- A binary64 number rounds to itself. -/
@[simp]
theorem ofRat_value (magnitude : Magnitude) : ofRat magnitude.value = some magnitude := by
  have scale : (2 : ℚ) ^ magnitude.exponent ≠ 0 := by positivity
  have quotient : magnitude.value / (2 : ℚ) ^ magnitude.exponent = magnitude.mantissa := by
    unfold value
    field_simp
  simp only [ofRat, roundExponent_value, quotient, roundHalfEven_natCast]
  rw [if_neg magnitude.canonical.1.ne, pack, dif_pos magnitude.canonical]

/-- Whether the upper of two neighbouring decimals is the one to write. -/
def upperCloser (value lower upper : ℚ) (digits : ℕ) : Bool :=
  upper - value < value - lower || (upper - value = value - lower && digits % 2 = 1)

/-- The exponent of the last of `count + 1` significant decimal digits. -/
def digitExponent (magnitude : Magnitude) (count : ℕ) : ℤ :=
  Int.log 10 magnitude.value - count

/-- The decimal of `count + 1` digits closest to the number among those that
round back to it. -/
def digitsAt (magnitude : Magnitude) (count : ℕ) : Option (ℕ × ℤ) :=
  let exponent := magnitude.digitExponent count
  let unit := (10 : ℚ) ^ exponent
  let digits := ⌊magnitude.value / unit⌋₊
  let lower := digits * unit
  let upper := ((digits + 1 : ℕ) : ℚ) * unit
  if ofRat lower = some magnitude then
    if ofRat upper = some magnitude ∧
        upperCloser magnitude.value lower upper digits then
      some (digits + 1, exponent)
    else some (digits, exponent)
  else if ofRat upper = some magnitude then some (digits + 1, exponent)
  else none

theorem digitsAt_sound {magnitude : Magnitude} {count digits : ℕ} {exponent : ℤ}
    (found : magnitude.digitsAt count = some (digits, exponent)) :
    ofRat (digits * (10 : ℚ) ^ exponent) = some magnitude := by
  unfold digitsAt at found
  simp only at found
  split at found
  next lowerRounds =>
    split at found
    next upperRounds =>
      cases found
      exact upperRounds.1
    next =>
      cases found
      exact lowerRounds
  next =>
    split at found
    next upperRounds =>
      cases found
      exact upperRounds
    next => simp at found

/-- The number of digits that certainly suffices, less one. -/
def exactCount (magnitude : Magnitude) : ℕ :=
  (Int.log 10 magnitude.value - min 0 magnitude.exponent).toNat

theorem min_exponent_le_log {magnitude : Magnitude} (positive : 0 < magnitude.mantissa) :
    min 0 magnitude.exponent ≤ Int.log 10 magnitude.value := by
  apply (Int.zpow_le_iff_le_log (by decide) (value_pos positive)).mp
  have mantissaBound : (1 : ℚ) ≤ magnitude.mantissa := by exact_mod_cast positive
  have scale : (0 : ℚ) < (2 : ℚ) ^ magnitude.exponent := by positivity
  have atLeastScale : (2 : ℚ) ^ magnitude.exponent ≤ magnitude.value := by
    unfold value
    nlinarith
  refine le_trans ?_ atLeastScale
  rcases le_total 0 magnitude.exponent with nonnegative | negative
  · rw [min_eq_left nonnegative, zpow_zero]
    exact one_le_zpow₀ (by norm_num) nonnegative
  · rw [min_eq_right negative]
    obtain ⟨size, sizeEquality⟩ := Int.exists_eq_neg_ofNat negative
    rw [sizeEquality, zpow_neg, zpow_neg, zpow_natCast, zpow_natCast]
    apply inv_anti₀ (by positivity)
    exact pow_le_pow_left₀ (by norm_num) (by norm_num) size

/-- Scaled far enough, the number is a whole number of decimal units. -/
theorem exists_natCast_eq (magnitude : Magnitude) :
    ∃ whole : ℕ,
      magnitude.value / (10 : ℚ) ^ (min 0 magnitude.exponent) = whole := by
  rcases le_total 0 magnitude.exponent with nonnegative | negative
  · rw [min_eq_left nonnegative, zpow_zero, div_one]
    obtain ⟨size, sizeEquality⟩ := Int.eq_ofNat_of_zero_le nonnegative
    refine ⟨magnitude.mantissa * 2 ^ size, ?_⟩
    simp [value, sizeEquality]
  · rw [min_eq_right negative]
    obtain ⟨size, sizeEquality⟩ := Int.exists_eq_neg_ofNat negative
    refine ⟨magnitude.mantissa * 5 ^ size, ?_⟩
    have split10 : (10 : ℚ) ^ size = 2 ^ size * 5 ^ size := by
      rw [← mul_pow]
      norm_num
    simp only [value, sizeEquality, zpow_neg, zpow_natCast, split10, Nat.cast_mul,
      Nat.cast_pow, Nat.cast_ofNat]
    field_simp

theorem digitsAt_exactCount {magnitude : Magnitude} (positive : 0 < magnitude.mantissa) :
    (magnitude.digitsAt magnitude.exactCount).isSome := by
  rcases exists_natCast_eq magnitude with ⟨whole, wholeEquality⟩
  have exponentEquality :
      magnitude.digitExponent magnitude.exactCount = min 0 magnitude.exponent := by
    have bound := min_exponent_le_log positive
    unfold digitExponent exactCount
    omega
  have unitNonzero : (10 : ℚ) ^ (min 0 magnitude.exponent) ≠ 0 := by positivity
  have restored :
      (whole : ℚ) * (10 : ℚ) ^ (min 0 magnitude.exponent) = magnitude.value := by
    rw [← wholeEquality]
    field_simp
  simp only [digitsAt, exponentEquality, wholeEquality, Nat.floor_natCast, restored,
    ofRat_value, if_true]
  split <;> rfl

/-- The decimal of fewest digits that rounds back to the number. -/
def shortest (magnitude : Magnitude) : ℕ × ℤ :=
  ((List.range (magnitude.exactCount + 1)).findSome? magnitude.digitsAt).getD (0, 0)

theorem exists_digitsAt {magnitude : Magnitude} (positive : 0 < magnitude.mantissa) :
    ∃ count, magnitude.digitsAt count = some magnitude.shortest := by
  have found : ((List.range (magnitude.exactCount + 1)).findSome?
      magnitude.digitsAt).isSome := by
    rw [List.findSome?_isSome_iff]
    exact ⟨magnitude.exactCount, by simp, digitsAt_exactCount positive⟩
  rcases Option.isSome_iff_exists.mp found with ⟨result, resultFound⟩
  rcases List.exists_of_findSome?_eq_some resultFound with ⟨count, _, atCount⟩
  exact ⟨count, by rw [atCount, shortest, resultFound]; rfl⟩

theorem ofRat_shortest {magnitude : Magnitude} (positive : 0 < magnitude.mantissa) :
    ofRat (magnitude.shortest.1 * (10 : ℚ) ^ magnitude.shortest.2) = some magnitude := by
  rcases exists_digitsAt positive with ⟨count, found⟩
  exact digitsAt_sound found

@[simp]
theorem ofRat_zero : ofRat 0 = some ⟨0, -1074, by decide⟩ := by
  decide +kernel

theorem shortest_pos {magnitude : Magnitude} (positive : 0 < magnitude.mantissa) :
    0 < magnitude.shortest.1 := by
  rcases Nat.eq_zero_or_pos magnitude.shortest.1 with zero | digitsPositive
  · have rounds := ofRat_shortest positive
    rw [zero, Nat.cast_zero, zero_mul, ofRat_zero, Option.some.injEq] at rounds
    rw [← rounds] at positive
    exact absurd positive (Nat.lt_irrefl 0)
  · exact digitsPositive

end Magnitude

end RemoteUnlock.Python
