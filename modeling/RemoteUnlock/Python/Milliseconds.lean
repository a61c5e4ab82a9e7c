import RemoteUnlock.Python.Float64

/-!
# Milliseconds as binary64 numbers

A clock that counts milliseconds is divided by 1000 and rounded.  Up to 15 digits the
shortest decimal of the number is the quotient itself (`shortest_millis`): no shorter one
rounds to it, since the decimals of its length lie further apart than the numbers.
-/

namespace RemoteUnlock.Python

namespace Magnitude

/-- The exact quotient of a clock value by 1000. -/
def seconds (millis : ℕ) : ℚ := millis / 1000

theorem roundHalfEven_bounds (quotient : ℚ) :
    ⌊quotient⌋₊ ≤ roundHalfEven quotient ∧ roundHalfEven quotient ≤ ⌊quotient⌋₊ + 1 := by
  unfold roundHalfEven
  dsimp only
  split_ifs <;> omega

theorem abs_sub_roundHalfEven {quotient : ℚ} (nonneg : 0 ≤ quotient) :
    |quotient - roundHalfEven quotient| ≤ 1 := by
  obtain ⟨above, below⟩ := roundHalfEven_bounds quotient
  have floor := Nat.floor_le nonneg
  have next := Nat.lt_floor_add_one quotient
  have lower : (⌊quotient⌋₊ : ℚ) ≤ roundHalfEven quotient := by exact_mod_cast above
  have upper : (roundHalfEven quotient : ℚ) ≤ ⌊quotient⌋₊ + 1 := by exact_mod_cast below
  rw [abs_le]
  constructor <;> linarith

/-- What rounding makes of a value, where it does not overflow. -/
theorem ofRat_eq_some {value : ℚ} {magnitude : Magnitude}
    (rounded : ofRat value = some magnitude) :
    magnitude.value = roundHalfEven (value / (2 : ℚ) ^ roundExponent value) *
        (2 : ℚ) ^ roundExponent value ∧
      roundExponent value ≤ magnitude.exponent := by
  have packed {mantissa : ℕ} {exponent : ℤ} (found : pack mantissa exponent = some magnitude) :
      magnitude.mantissa = mantissa ∧ magnitude.exponent = exponent := by
    unfold pack at found
    split_ifs at found
    rw [← Option.some.inj found]
    exact ⟨rfl, rfl⟩
  simp only [ofRat] at rounded
  split_ifs at rounded with full
  · obtain ⟨mantissa, exponent⟩ := packed rounded
    rw [full, Magnitude.value, mantissa, exponent, zpow_add_one₀ (by norm_num)]
    constructor
    · push_cast
      ring
    · omega
  · obtain ⟨mantissa, exponent⟩ := packed rounded
    rw [Magnitude.value, mantissa, exponent]
    exact ⟨rfl, le_rfl⟩

theorem abs_sub_value {value : ℚ} {magnitude : Magnitude} (nonneg : 0 ≤ value)
    (rounded : ofRat value = some magnitude) :
    |value - magnitude.value| ≤ (2 : ℚ) ^ roundExponent value := by
  have scale : (0 : ℚ) < (2 : ℚ) ^ roundExponent value := by positivity
  have close := abs_sub_roundHalfEven (div_nonneg nonneg scale.le)
  rw [(ofRat_eq_some rounded).1]
  calc |value - roundHalfEven (value / (2 : ℚ) ^ roundExponent value) *
        (2 : ℚ) ^ roundExponent value|
      = |value / (2 : ℚ) ^ roundExponent value -
          roundHalfEven (value / (2 : ℚ) ^ roundExponent value)| *
          (2 : ℚ) ^ roundExponent value := by
        rw [← abs_of_pos scale, ← abs_mul, abs_of_pos scale, sub_mul,
          div_mul_cancel₀ _ scale.ne']
    _ ≤ 1 * (2 : ℚ) ^ roundExponent value := mul_le_mul_of_nonneg_right close scale.le
    _ = (2 : ℚ) ^ roundExponent value := one_mul _

/-- The exponent of a value between a thousandth and `2 ^ 40`. -/
theorem roundExponent_of_range {value : ℚ} (atLeast : 1 / 1000 ≤ value) (below : value < 2 ^ 40) :
    roundExponent value = Int.log 2 value - 52 ∧ roundExponent value ≤ -13 := by
  have positive : 0 < value := lt_of_lt_of_le (by norm_num) atLeast
  have high : Int.log 2 value < 40 := by
    apply (Int.lt_zpow_iff_log_lt (by decide) positive).mp
    exact_mod_cast below
  have low : -10 ≤ Int.log 2 value := by
    apply (Int.zpow_le_iff_le_log (by decide) positive).mp
    refine le_trans ?_ atLeast
    norm_num
  unfold roundExponent
  rw [if_neg positive.ne', max_eq_right (by omega)]
  omega

/-- Such a value rounds to a number. -/
theorem ofRat_isSome {value : ℚ} (atLeast : 1 / 1000 ≤ value) (below : value < 2 ^ 40) :
    ∃ magnitude, ofRat value = some magnitude := by
  have positive : 0 < value := lt_of_lt_of_le (by norm_num) atLeast
  obtain ⟨isExponent, small⟩ := roundExponent_of_range atLeast below
  have low : -10 ≤ Int.log 2 value := by
    apply (Int.zpow_le_iff_le_log (by decide) positive).mp
    refine le_trans ?_ atLeast
    norm_num
  have scale : (0 : ℚ) < (2 : ℚ) ^ roundExponent value := by positivity
  have normal : (2 : ℚ) ^ 52 ≤ value / (2 : ℚ) ^ roundExponent value := by
    rw [le_div_iff₀ scale, isExponent, ← zpow_natCast, ← zpow_add₀ (by norm_num)]
    have log := Int.zpow_log_le_self (b := 2) (by decide) positive
    simpa using log
  have bounded : value / (2 : ℚ) ^ roundExponent value < 2 ^ 53 := by
    rw [div_lt_iff₀ scale, isExponent, ← zpow_natCast, ← zpow_add₀ (by norm_num)]
    have log := Int.lt_zpow_succ_log_self (b := 2) (by decide) value
    have shifted : (53 : ℕ) + (Int.log 2 value - 52) = Int.log 2 value + 1 := by omega
    rw [shifted]
    exact_mod_cast log
  have nonneg : 0 ≤ value / (2 : ℚ) ^ roundExponent value := div_nonneg positive.le scale.le
  obtain ⟨above, atMost⟩ := roundHalfEven_bounds (value / (2 : ℚ) ^ roundExponent value)
  have floorLow : 2 ^ 52 ≤ ⌊value / (2 : ℚ) ^ roundExponent value⌋₊ := by
    apply Nat.le_floor
    exact_mod_cast normal
  have floorHigh : ⌊value / (2 : ℚ) ^ roundExponent value⌋₊ < 2 ^ 53 := by
    apply (Nat.floor_lt nonneg).mpr
    exact_mod_cast bounded
  simp only [ofRat]
  split_ifs with full
  · exact ⟨_, dif_pos (by omega)⟩
  · exact ⟨_, dif_pos (by omega)⟩

/-- A number below `2 ^ 40` has a fine scale. -/
theorem exponent_le {magnitude : Magnitude} (below : magnitude.value < 2 ^ 40) :
    magnitude.exponent ≤ -13 := by
  rcases magnitude with ⟨mantissa, exponent, _, _, _, normal⟩
  rcases normal with large | subnormal
  · by_contra coarse
    simp only [not_le] at coarse
    have scale : (2 : ℚ) ^ (-12 : ℤ) ≤ (2 : ℚ) ^ exponent :=
      zpow_le_zpow_right₀ (by norm_num) (by omega)
    have many : (2 : ℚ) ^ 52 ≤ mantissa := by exact_mod_cast large
    have product : (2 : ℚ) ^ 52 * (2 : ℚ) ^ (-12 : ℤ) ≤ mantissa * (2 : ℚ) ^ exponent :=
      mul_le_mul many scale (by positivity) (by positivity)
    rw [value] at below
    norm_num at product below
    linarith
  · simp only [subnormal]
    omega

/-- The search for the shortest decimal stops where one is found at the latest. -/
theorem exists_digitsAt_le {magnitude : Magnitude} {count : ℕ}
    (found : (magnitude.digitsAt count).isSome = true) (inRange : count ≤ magnitude.exactCount) :
    ∃ earlier ≤ count, magnitude.digitsAt earlier = some magnitude.shortest := by
  have isSome : ((List.range (count + 1)).findSome? magnitude.digitsAt).isSome = true := by
    rw [List.findSome?_isSome_iff]
    exact ⟨count, List.mem_range.mpr (Nat.lt_succ_self count), found⟩
  obtain ⟨result, first⟩ := Option.isSome_iff_exists.mp isSome
  obtain ⟨earlier, membership, atEarlier⟩ := List.exists_of_findSome?_eq_some first
  refine ⟨earlier, Nat.le_of_lt_succ (List.mem_range.mp membership), ?_⟩
  have parts : magnitude.exactCount + 1 = count + 1 + (magnitude.exactCount - count) := by omega
  rw [atEarlier, shortest, parts, List.range_add, List.findSome?_append, first]
  rfl

/-- Close to a whole number of thousandths, three digits behind the point suffice. -/
theorem digitsAt_isSome {magnitude : Magnitude} {millis count : ℕ}
    (rounded : ofRat (seconds millis) = some magnitude)
    (close : |1000 * magnitude.value - millis| < 1) (positive : 0 < millis)
    (nonneg : 0 ≤ magnitude.value) (isExponent : magnitude.digitExponent count = -3) :
    (magnitude.digitsAt count).isSome = true := by
  have unit : (10 : ℚ) ^ (-3 : ℤ) = 1 / 1000 := by norm_num
  have scaled : magnitude.value / (1 / 1000) = 1000 * magnitude.value := by ring
  have whole (digits : ℕ) (same : digits = millis) :
      ofRat (digits * (1 / 1000)) = some magnitude := by
    rw [same, ← rounded, seconds]
    congr 1
    ring
  obtain ⟨above, below⟩ := abs_lt.mp close
  simp only [digitsAt, isExponent, unit, scaled]
  by_cases reached : (millis : ℚ) ≤ 1000 * magnitude.value
  · have floor : ⌊1000 * magnitude.value⌋₊ = millis :=
      (Nat.floor_eq_iff (by positivity)).mpr ⟨reached, by linarith⟩
    rw [if_pos (whole _ floor)]
    split_ifs <;> rfl
  · have floor : ⌊1000 * magnitude.value⌋₊ = millis - 1 := by
      apply (Nat.floor_eq_iff (by positivity)).mpr
      rw [Nat.cast_sub positive, Nat.cast_one]
      constructor <;> linarith
    have upper := whole (⌊1000 * magnitude.value⌋₊ + 1) (by omega)
    simp only [upper, true_and]
    split_ifs <;> rfl

theorem least_millis : ∀ magnitude, ofRat (1 / 1000) = some magnitude →
    1 / 1000 ≤ magnitude.value := by
  have rounded : ofRat (1 / 1000) = some ⟨4611686018427388, -62, by decide⟩ := by
    decide +kernel
  intro magnitude found
  rw [rounded] at found
  rw [← Option.some.inj found, value]
  norm_num

/-- What the quotient is rounded to: a number with a fine scale, close by. -/
structure Rounds (millis : ℕ) (magnitude : Magnitude) : Prop where
  rounded : ofRat (seconds millis) = some magnitude
  close : |seconds millis - magnitude.value| < 1 / 8000
  least : 1 / 1000 ≤ magnitude.value
  scale : magnitude.exponent ≤ -13

theorem zpow_lt_of_le {exponent : ℤ} (scale : exponent ≤ -13) :
    (2 : ℚ) ^ exponent < 1 / 8000 :=
  lt_of_le_of_lt (zpow_le_zpow_right₀ (by norm_num) scale) (by norm_num)

theorem exists_rounds {millis : ℕ} (positive : 0 < millis) (small : millis < 10 ^ 15) :
    ∃ magnitude, Rounds millis magnitude := by
  have one : (1 : ℚ) ≤ millis := by exact_mod_cast positive
  have bound : (millis : ℚ) < 10 ^ 15 := by exact_mod_cast small
  have atLeast : 1 / 1000 ≤ seconds millis := by
    rw [seconds]
    linarith
  have below : seconds millis < 10 ^ 12 := by
    rw [seconds]
    linarith
  have inRange : seconds millis < 2 ^ 40 := below.trans (by norm_num)
  obtain ⟨magnitude, rounded⟩ := ofRat_isSome atLeast inRange
  have nonneg : 0 ≤ seconds millis := le_trans (by norm_num) atLeast
  have close : |seconds millis - magnitude.value| < 1 / 8000 :=
    (abs_sub_value nonneg rounded).trans_lt
      (zpow_lt_of_le (roundExponent_of_range atLeast inRange).2)
  obtain ⟨above, under⟩ := abs_lt.mp close
  refine ⟨magnitude, rounded, close, ?_, exponent_le (by linarith)⟩
  by_cases first : millis = 1
  · rw [first, seconds, Nat.cast_one] at rounded
    exact least_millis magnitude rounded
  · have two : (2 : ℚ) ≤ millis := by
      have several : 2 ≤ millis := by omega
      exact_mod_cast several
    rw [seconds] at above under
    linarith

theorem Rounds.mantissa_pos {millis : ℕ} {magnitude : Magnitude}
    (rounds : Rounds millis magnitude) : 0 < magnitude.mantissa := by
  by_contra zero
  have isZero : magnitude.value = 0 := by
    rw [value, Nat.eq_zero_of_not_pos zero, Nat.cast_zero, zero_mul]
  have least := rounds.least
  rw [isZero] at least
  norm_num at least

/-- The shortest decimal has three digits behind the point at most. -/
theorem Rounds.shortest_exponent {millis : ℕ} {magnitude : Magnitude}
    (rounds : Rounds millis magnitude) (positive : 0 < millis) : -3 ≤ magnitude.shortest.2 := by
  have least := rounds.least
  have scale := rounds.scale
  have log : -3 ≤ Int.log 10 magnitude.value := by
    apply (Int.zpow_le_iff_le_log (by decide) (by linarith)).mp
    refine le_trans ?_ least
    norm_num
  obtain ⟨count, isCount⟩ :=
    Int.eq_ofNat_of_zero_le (by omega : 0 ≤ Int.log 10 magnitude.value + 3)
  have isExponent : magnitude.digitExponent count = -3 := by
    unfold digitExponent
    omega
  have thousandths : |1000 * magnitude.value - millis| < 1 := by
    obtain ⟨above, under⟩ := abs_lt.mp rounds.close
    rw [seconds] at above under
    rw [abs_lt]
    constructor <;> linarith
  have isSome := digitsAt_isSome rounds.rounded thousandths positive (by linarith) isExponent
  obtain ⟨earlier, order, found⟩ := exists_digitsAt_le isSome (by unfold exactCount; omega)
  have exponent : magnitude.shortest.2 = magnitude.digitExponent earlier := by
    unfold digitsAt at found
    dsimp only at found
    split_ifs at found <;> exact (congrArg Prod.snd (Option.some.inj found)).symm
  unfold digitExponent at exponent isExponent
  omega

/-- The shortest decimal of a number of milliseconds, in seconds. -/
theorem Rounds.shortest {millis : ℕ} {magnitude : Magnitude} (rounds : Rounds millis magnitude)
    (positive : 0 < millis) :
    magnitude.shortest.1 * (10 : ℚ) ^ magnitude.shortest.2 = seconds millis := by
  have exponent := rounds.shortest_exponent positive
  obtain ⟨size, isSize⟩ :=
    Int.eq_ofNat_of_zero_le (by omega : 0 ≤ magnitude.shortest.2 + 3)
  have shifted : magnitude.shortest.1 * (10 : ℚ) ^ magnitude.shortest.2 =
      seconds (magnitude.shortest.1 * 10 ^ size) := by
    have split : magnitude.shortest.2 = (size : ℤ) + -3 := by omega
    rw [split, zpow_add₀ (by norm_num), zpow_natCast, seconds]
    push_cast
    ring
  -- Both decimals round to the number, which is finer than a thousandth.
  have found := ofRat_shortest rounds.mantissa_pos
  have closer := (abs_sub_value (by positivity) found).trans_lt
    (zpow_lt_of_le ((ofRat_eq_some found).2.trans rounds.scale))
  have apart : |((magnitude.shortest.1 * 10 ^ size : ℕ) : ℚ) - millis| < 1 := by
    rw [shifted] at closer
    obtain ⟨above, under⟩ := abs_lt.mp rounds.close
    obtain ⟨beyond, beneath⟩ := abs_lt.mp closer
    rw [seconds] at above under beyond beneath
    rw [abs_lt]
    constructor <;> linarith
  have integers : |((magnitude.shortest.1 * 10 ^ size : ℕ) : ℤ) - millis| < 1 := by
    exact_mod_cast apart
  have same : magnitude.shortest.1 * 10 ^ size = millis := by
    obtain ⟨beyond, beneath⟩ := abs_lt.mp integers
    omega
  rw [shifted, same]

end Magnitude

end RemoteUnlock.Python
