import RemoteUnlock.Python.JsonRoundTrip
import RemoteUnlock.Python.Milliseconds

/-!
# The numbers of JavaScript and of Python

Both languages write the same shortest digits of a binary64 number, and both read decimal
literals exactly before they round.  Within the range of a clock they place the point alike,
but JavaScript leaves it out where there is nothing behind it (`numberText_eq_iff`).
-/

namespace RemoteUnlock.MobileApp

open Python

/-- `Number::toString` of `0.d₁d₂… * 10 ^ point`. -/
def placePoint (digits : Text) (point : ℤ) : Text :=
  if digits.length ≤ point ∧ point ≤ 21 then
    digits ++ List.replicate (point.toNat - digits.length) '0'
  else if 0 < point ∧ point ≤ 21 then
    digits.take point.toNat ++ '.' :: digits.drop point.toNat
  else if -6 < point ∧ point ≤ 0 then
    '0' :: '.' :: (List.replicate (-point).toNat '0' ++ digits)
  else
    digits.take 1 ++ (if digits.length ≤ 1 then [] else '.' :: digits.drop 1) ++
      'e' :: (if point - 1 < 0 then '-' else '+') :: natText (point - 1).natAbs

/-- The digits of a number, of which the last is no zero. -/
def digits (magnitude : Magnitude) : Text :=
  PyFloat.significant (natText magnitude.shortest.1)

/-- Where the point stands in front of which digit. -/
def point (magnitude : Magnitude) : ℤ :=
  (natText magnitude.shortest.1).length + magnitude.shortest.2

/-- `${number}` of a number that is not negative; `JSON.stringify` writes the same. -/
def numberText (magnitude : Magnitude) : Text :=
  if magnitude.mantissa = 0 then ['0'] else placePoint (digits magnitude) (point magnitude)

/-- A number in JSON as JavaScript reads it, up to the comma behind it. -/
def parseNumber (text : Text) : Option Magnitude :=
  (Decimal.scan (text ++ [','])).bind fun scanned => Magnitude.ofRat scanned.1.value

/-- A number in JSON as `json.loads` reads it, up to the comma behind it. -/
def loadNumber (text : Text) : Option Json :=
  (Json.scanScalar (text ++ [','])).map Prod.fst

/-- `float(value)` of a number -/
def float : Json → Option PyFloat
  | .int value => (Magnitude.ofRat value.natAbs).map (.finite (value < 0))
  | .float value => some value
  | _ => none

/-- What a float looks like in an f-string. -/
def formatFloat : PyFloat → Text
  | .nan => ['n', 'a', 'n']
  | .infinity negative => (if negative then ['-'] else []) ++ ['i', 'n', 'f']
  | .finite negative magnitude => (PyFloat.token negative magnitude).text

/-- `Date.now() / 1000`, and a server time that is a multiple of a millisecond. -/
def clock (millis : ℕ) : Magnitude :=
  (Magnitude.ofRat (Magnitude.seconds millis)).getD ⟨0, -1074, by decide⟩

/-! ## Digits and point -/

section Clock

variable {millis : ℕ}

theorem rounds_clock (positive : 0 < millis) (small : millis < 10 ^ 15) :
    Magnitude.Rounds millis (clock millis) := by
  obtain ⟨magnitude, rounds⟩ := Magnitude.exists_rounds positive small
  rw [clock, rounds.rounded]
  exact rounds

/-- The number that the digits denote without the point. -/
theorem value_digits (positive : 0 < millis) (small : millis < 10 ^ 15) :
    (Nat.ofDigitChars 10 (digits (clock millis)) 0 : ℚ) *
        (10 : ℚ) ^ (point (clock millis) - (digits (clock millis)).length) =
      Magnitude.seconds millis :=
  (PyFloat.value_significant _ _).trans ((rounds_clock positive small).shortest positive)

theorem digits_shape (positive : 0 < millis) (small : millis < 10 ^ 15) :
    (∀ digit ∈ digits (clock millis), digit.isDigit = true) ∧
      ∃ head tail, digits (clock millis) = head :: tail ∧ head ≠ '0' :=
  PyFloat.significant_natText
    (Magnitude.shortest_pos (rounds_clock positive small).mantissa_pos)

/-- The length of a written number. -/
theorem natText_length_bounds {number : ℕ} (positive : 0 < number) :
    (10 : ℚ) ^ ((natText number).length - 1 : ℤ) ≤ number ∧
      (number : ℚ) < (10 : ℚ) ^ ((natText number).length : ℤ) := by
  have lengthPositive : 0 < (natText number).length := Nat.length_toDigits_pos
  have below : number < 10 ^ (natText number).length :=
    (Nat.length_toDigits_le_iff (by decide) lengthPositive).mp le_rfl
  constructor
  · by_cases single : (natText number).length = 1
    · rw [single]
      have one : (1 : ℚ) ≤ number := by exact_mod_cast positive
      simpa using one
    · have above : ¬ number < 10 ^ ((natText number).length - 1) := by
        rw [← Nat.length_toDigits_le_iff (by decide) (by omega)]
        unfold natText at *
        omega
      have cast : ((natText number).length - 1 : ℤ) = ((natText number).length - 1 : ℕ) := by
        omega
      rw [cast, zpow_natCast]
      exact_mod_cast not_lt.mp above
  · rw [zpow_natCast]
    exact_mod_cast below

/-- The point of a clock value stands within the range that both write without exponent. -/
theorem point_bounds (positive : 0 < millis) (small : millis < 10 ^ 15) :
    -3 < point (clock millis) ∧ point (clock millis) ≤ 12 := by
  have rounds := rounds_clock positive small
  have value := rounds.shortest positive
  obtain ⟨above, below⟩ := natText_length_bounds (Magnitude.shortest_pos rounds.mantissa_pos)
  have scale : (0 : ℚ) < (10 : ℚ) ^ (clock millis).shortest.2 := by positivity
  have one : (1 : ℚ) ≤ millis := by exact_mod_cast positive
  have bound : (millis : ℚ) < 10 ^ 15 := by exact_mod_cast small
  rw [Magnitude.seconds] at value
  constructor
  · have upper : (10 : ℚ) ^ (-3 : ℤ) < (10 : ℚ) ^ point (clock millis) := by
      rw [point, zpow_add₀ (by norm_num)]
      calc (10 : ℚ) ^ (-3 : ℤ) ≤ (clock millis).shortest.1 * 10 ^ (clock millis).shortest.2 := by
            rw [value]
            norm_num
            linarith
        _ < _ := mul_lt_mul_of_pos_right below scale
    exact (zpow_lt_zpow_iff_right₀ (by norm_num)).mp upper
  · have lower : (10 : ℚ) ^ (point (clock millis) - 1) < (10 : ℚ) ^ (12 : ℤ) := by
      have split : point (clock millis) - 1 =
          ((natText (clock millis).shortest.1).length - 1 : ℤ) + (clock millis).shortest.2 := by
        rw [point]
        ring
      rw [split, zpow_add₀ (by norm_num)]
      calc _ ≤ (clock millis).shortest.1 * (10 : ℚ) ^ (clock millis).shortest.2 :=
            mul_le_mul_of_nonneg_right above scale.le
        _ < (10 : ℚ) ^ (12 : ℤ) := by
            rw [value]
            norm_num
            linarith
    have order := (zpow_lt_zpow_iff_right₀ (by norm_num)).mp lower
    omega

/-- The digits do not end with a zero. -/
theorem not_ten_dvd_digits (positive : 0 < millis) (small : millis < 10 ^ 15) :
    ¬ 10 ∣ Nat.ofDigitChars 10 (digits (clock millis)) 0 := by
  obtain ⟨areDigits, head, tail, shape, _⟩ := digits_shape positive small
  have nonempty : digits (clock millis) ≠ [] := by
    rw [shape]
    exact List.cons_ne_nil head tail
  have isLast := List.rdropWhile_last_not (p := (· == '0'))
    (l := natText (clock millis).shortest.1) nonempty
  obtain ⟨front, last, parts⟩ : ∃ front last, digits (clock millis) = front ++ [last] :=
    ⟨_, _, (List.dropLast_append_getLast nonempty).symm⟩
  have lastDigit := Char.isDigit_iff_toNat.mp
    (areDigits last (parts ▸ List.mem_append_right _ (List.mem_singleton_self last)))
  have notZero : last ≠ '0' := by
    change ¬ ((digits (clock millis)).getLast nonempty == '0') = true at isLast
    simp only [parts, List.getLast_append_singleton, beq_iff_eq] at isLast
    exact isLast
  have notFortyEight : last.toNat ≠ '0'.toNat := mt Char.toNat_inj.mp notZero
  rw [parts, Nat.ofDigitChars_append, Nat.ofDigitChars_cons, Nat.ofDigitChars_nil]
  simp only [Char.reduceToNat] at lastDigit notFortyEight ⊢
  omega

/-- Nothing stands behind the point exactly if the seconds are whole. -/
theorem length_digits_le_iff (positive : 0 < millis) (small : millis < 10 ^ 15) :
    (digits (clock millis)).length ≤ point (clock millis) ↔ 1000 ∣ millis := by
  have value := value_digits positive small
  rw [Magnitude.seconds] at value
  constructor
  · intro whole
    obtain ⟨zeros, isZeros⟩ := Int.eq_ofNat_of_zero_le (sub_nonneg.mpr whole)
    rw [isZeros, zpow_natCast, eq_div_iff (by norm_num)] at value
    refine ⟨Nat.ofDigitChars 10 (digits (clock millis)) 0 * 10 ^ zeros, ?_⟩
    have same : ((1000 * (Nat.ofDigitChars 10 (digits (clock millis)) 0 * 10 ^ zeros) : ℕ) : ℚ) =
        millis := by
      push_cast
      linarith
    exact_mod_cast same.symm
  · rintro ⟨whole, rfl⟩
    by_contra fraction
    obtain ⟨places, isPlaces⟩ :=
      Int.eq_ofNat_of_zero_le (sub_nonneg.mpr (not_le.mp fraction).le)
    have more : 0 < places := by omega
    have negative : point (clock (1000 * whole)) - (digits (clock (1000 * whole))).length =
        -(places : ℤ) := by omega
    rw [negative, zpow_neg, zpow_natCast, ← div_eq_mul_inv, div_eq_iff (by positivity)] at value
    have same : Nat.ofDigitChars 10 (digits (clock (1000 * whole))) 0 = whole * 10 ^ places := by
      have cast : (Nat.ofDigitChars 10 (digits (clock (1000 * whole))) 0 : ℚ) =
          ((whole * 10 ^ places : ℕ) : ℚ) := by
        rw [value]
        push_cast
        ring
      exact_mod_cast cast
    apply not_ten_dvd_digits positive small
    rw [same]
    exact Dvd.dvd.mul_left (dvd_pow_self 10 more.ne') whole

/-! ## Texts -/

/-- The literal of whole seconds in JavaScript. -/
def wholeToken (magnitude : Magnitude) : Decimal :=
  ⟨false, digits magnitude ++
    List.replicate ((point magnitude).toNat - (digits magnitude).length) '0', none, none⟩

theorem token_eq (positive : 0 < millis) (small : millis < 10 ^ 15) :
    PyFloat.token false (clock millis) =
      PyFloat.placePoint false (digits (clock millis)) (point (clock millis)) :=
  if_neg (rounds_clock positive small).mantissa_pos.ne'

theorem numberText_eq (positive : 0 < millis) (small : millis < 10 ^ 15) :
    numberText (clock millis) = placePoint (digits (clock millis)) (point (clock millis)) :=
  if_neg (rounds_clock positive small).mantissa_pos.ne'

/-- With something behind the point both write the same. -/
theorem numberText_of_fraction (positive : 0 < millis) (small : millis < 10 ^ 15)
    (fraction : ¬ (digits (clock millis)).length ≤ point (clock millis)) :
    numberText (clock millis) = (PyFloat.token false (clock millis)).text := by
  obtain ⟨low, high⟩ := point_bounds positive small
  have python : -4 < point (clock millis) ∧ point (clock millis) ≤ 16 := by omega
  rw [numberText_eq positive small, token_eq positive small, placePoint, PyFloat.placePoint,
    if_neg (fun whole => fraction whole.1), if_pos python]
  by_cases ahead : 0 < point (clock millis)
  · have script : 0 < point (clock millis) ∧ point (clock millis) ≤ 21 := by omega
    have longer : ¬ (digits (clock millis)).length ≤ (point (clock millis)).toNat := by omega
    rw [if_pos script, if_neg (not_le.mpr ahead), if_neg longer]
    simp [Decimal.text, Decimal.fractionText, Decimal.exponentText]
  · have script : -6 < point (clock millis) ∧ point (clock millis) ≤ 0 := by omega
    rw [if_neg (fun both => ahead both.1), if_pos script, if_pos script.2]
    simp [Decimal.text, Decimal.fractionText, Decimal.exponentText]

/-- Whole seconds are a literal without a point in JavaScript, and `.0` follows in Python. -/
theorem numberText_of_whole (positive : 0 < millis) (small : millis < 10 ^ 15)
    (whole : (digits (clock millis)).length ≤ point (clock millis)) :
    numberText (clock millis) = (wholeToken (clock millis)).text ∧
      (PyFloat.token false (clock millis)).text =
        (wholeToken (clock millis)).text ++ ['.', '0'] := by
  obtain ⟨_, high⟩ := point_bounds positive small
  obtain ⟨_, head, tail, shape, _⟩ := digits_shape positive small
  have ahead : 0 < point (clock millis) := by
    rw [shape, List.length_cons] at whole
    omega
  have python : -4 < point (clock millis) ∧ point (clock millis) ≤ 16 := by omega
  have short : (digits (clock millis)).length ≤ (point (clock millis)).toNat := by omega
  rw [numberText_eq positive small, token_eq positive small, placePoint, PyFloat.placePoint,
    if_pos ⟨whole, by omega⟩, if_pos python, if_neg (not_le.mpr ahead), if_pos short]
  simp [Decimal.text, Decimal.fractionText, Decimal.exponentText, wholeToken]

theorem wholeToken_wellFormed (positive : 0 < millis) (small : millis < 10 ^ 15) :
    (wholeToken (clock millis)).WellFormed := by
  obtain ⟨areDigits, head, tail, shape, nonzero⟩ := digits_shape positive small
  refine ⟨?_, .inr ⟨head, tail ++ List.replicate ((point (clock millis)).toNat -
    (digits (clock millis)).length) '0', ?_, nonzero⟩, by simp [wholeToken], by simp [wholeToken]⟩
  · intro digit membership
    rcases List.mem_append.mp membership with inDigits | inZeros
    · exact areDigits digit inDigits
    · rw [List.eq_of_mem_replicate inZeros]
      rfl
  · simp [wholeToken, shape]

theorem wholeToken_value (positive : 0 < millis) (small : millis < 10 ^ 15)
    (whole : (digits (clock millis)).length ≤ point (clock millis)) :
    (Nat.ofDigitChars 10 (wholeToken (clock millis)).integer 0 : ℚ) =
      Magnitude.seconds millis := by
  obtain ⟨zeros, isZeros⟩ := Int.eq_ofNat_of_zero_le (sub_nonneg.mpr whole)
  have count : (point (clock millis)).toNat - (digits (clock millis)).length = zeros := by omega
  have value := value_digits positive small
  rw [isZeros, zpow_natCast] at value
  rw [← value, wholeToken, count, Nat.ofDigitChars_append, Nat.ofDigitChars_replicate_zero]
  push_cast
  ring

/-- The two texts are the same exactly if the seconds are not whole. -/
theorem numberText_eq_iff (positive : 0 < millis) (small : millis < 10 ^ 15) :
    numberText (clock millis) = (PyFloat.token false (clock millis)).text ↔ ¬ 1000 ∣ millis := by
  rw [← length_digits_le_iff positive small]
  constructor
  · intro same whole
    obtain ⟨script, python⟩ := numberText_of_whole positive small whole
    rw [script, python] at same
    have lengths := congrArg List.length same
    rw [List.length_append] at lengths
    simp at lengths
  · exact numberText_of_fraction positive small

/-! ## Readers -/

theorem delimited_comma : Decimal.Delimited [','] := by
  simp [Decimal.Delimited]

/-- Python reads what JavaScript writes as the same number. -/
theorem float_loadNumber (positive : 0 < millis) (small : millis < 10 ^ 15) :
    (loadNumber (numberText (clock millis))).bind float = some (.finite false (clock millis)) := by
  by_cases whole : (digits (clock millis)).length ≤ point (clock millis)
  · have scanned := Json.scanScalar_text_append (wholeToken_wellFormed positive small)
      delimited_comma
    have value := wholeToken_value positive small whole
    rw [loadNumber, (numberText_of_whole positive small whole).1, scanned]
    have isInt : Json.ofDecimal (wholeToken (clock millis)) =
        .int (Nat.ofDigitChars 10 (wholeToken (clock millis)).integer 0) := rfl
    simp only [Option.map_some, Option.bind_some, isInt, float, Int.natAbs_natCast, value]
    rw [(rounds_clock positive small).rounded]
    have nonneg : decide ((Nat.ofDigitChars 10 (wholeToken (clock millis)).integer 0 : ℤ) < 0) =
        false := decide_eq_false (not_lt.mpr (Int.natCast_nonneg _))
    rw [nonneg]
    rfl
  · have scanned := Json.scanScalar_text_append
      (PyFloat.token_wellFormed false (clock millis)) delimited_comma
    have isFloat : Json.ofDecimal (PyFloat.token false (clock millis)) =
        .float (.finite false (clock millis)) := by
      rw [Json.ofDecimal, PyFloat.ofDecimal_token, if_neg]
      rintro ⟨noFraction, noExponent⟩
      have written := PyFloat.token_isFloat false (clock millis)
      rw [noFraction, noExponent] at written
      exact absurd written (by decide)
    rw [loadNumber, numberText_of_fraction positive small whole, scanned, isFloat]
    rfl

/-- JavaScript reads what Python writes as the same number. -/
theorem parseNumber_token (millis : ℕ) :
    parseNumber (PyFloat.token false (clock millis)).text = some (clock millis) := by
  rw [parseNumber, Decimal.scan_text_append (PyFloat.token_wellFormed false _) delimited_comma]
  exact PyFloat.ofRat_token false (clock millis)

end Clock

end RemoteUnlock.MobileApp
