import Mathlib.Data.List.DropRight
import RemoteUnlock.Python.Float64

/-!
# Writing and reading floats

`PyFloat.token` writes a finite float the way `repr` does: the shortest digits,
positional between `1e-4` and `1e16` and scientific outside, always with a
fraction or an exponent so that it cannot be taken for an integer.
`PyFloat.ofDecimal` reads a token by rounding its exact value.
-/

namespace RemoteUnlock.Python

/-- A float value; there is one not-a-number. -/
inductive PyFloat where
  | nan
  | infinity (negative : Bool)
  | finite (negative : Bool) (magnitude : Magnitude)
  deriving DecidableEq

namespace PyFloat

def padTwo (digits : Text) : Text :=
  if digits.length < 2 then '0' :: digits else digits

/-- Place the decimal point of `0.d₁d₂… * 10 ^ point`. -/
def placePoint (negative : Bool) (digits : Text) (point : ℤ) : Decimal :=
  if -4 < point ∧ point ≤ 16 then
    if point ≤ 0 then
      ⟨negative, ['0'], some (List.replicate (-point).toNat '0' ++ digits), none⟩
    else if digits.length ≤ point.toNat then
      ⟨negative, digits ++ List.replicate (point.toNat - digits.length) '0',
        some ['0'], none⟩
    else
      ⟨negative, digits.take point.toNat, some (digits.drop point.toNat), none⟩
  else
    ⟨negative, digits.take 1,
      if digits.length ≤ 1 then none else some (digits.drop 1),
      some (decide (point - 1 < 0), padTwo (natText (point - 1).natAbs))⟩

def significant (digits : Text) : Text := digits.rdropWhile (· == '0')

/-- `float.__repr__` of a finite number. -/
def token (negative : Bool) (magnitude : Magnitude) : Decimal :=
  if magnitude.mantissa = 0 then ⟨negative, ['0'], some ['0'], none⟩
  else
    let (digits, exponent) := magnitude.shortest
    placePoint negative (significant (natText digits))
      ((natText digits).length + exponent)

/-- `float(token)`. -/
def ofDecimal (token : Decimal) : PyFloat :=
  match Magnitude.ofRat token.value with
  | some magnitude => .finite token.negative magnitude
  | none => .infinity token.negative

theorem placePoint_negative (negative : Bool) (digits : Text) (point : ℤ) :
    (placePoint negative digits point).negative = negative := by
  unfold placePoint
  split
  · split
    · rfl
    · split <;> rfl
  · rfl

theorem placePoint_isFloat (negative : Bool) (digits : Text) (point : ℤ) :
    (placePoint negative digits point).fraction.isSome ∨
      (placePoint negative digits point).exponent.isSome := by
  unfold placePoint
  split
  · split
    · exact .inl rfl
    · split <;> exact .inl rfl
  · exact .inr rfl

@[simp]
theorem ofDigitChars_padTwo (digits : Text) :
    Nat.ofDigitChars 10 (padTwo digits) 0 = Nat.ofDigitChars 10 digits 0 := by
  unfold padTwo
  split
  · rw [Nat.ofDigitChars_cons]
    simp
  · rfl

/-- Moving the point keeps the number. -/
theorem value_placePoint (negative : Bool) (digits : Text) (point : ℤ) :
    (placePoint negative digits point).value =
      Nat.ofDigitChars 10 digits 0 * (10 : ℚ) ^ (point - digits.length) := by
  have ten : (10 : ℚ) ≠ 0 := by norm_num
  unfold placePoint
  split
  · split
    next small =>
      have offset : ((-point).toNat : ℤ) = -point := Int.toNat_of_nonneg (by omega)
      simp only [Decimal.value, Option.getD_some, List.length_append,
        List.length_replicate, Nat.cast_add, offset]
      rw [Nat.ofDigitChars_append, Nat.ofDigitChars_append,
        Nat.ofDigitChars_replicate_zero, Nat.ofDigitChars_cons]
      simp only [Char.reduceToNat, Nat.ofDigitChars_nil, mul_zero, Nat.sub_self, add_zero]
      congr 2
      omega
    next positive =>
      split
      next short =>
        have offset : ((point.toNat - digits.length : ℕ) : ℤ) = point - digits.length := by
          omega
        simp only [Decimal.value, Option.getD_some, List.length_cons, List.length_nil]
        rw [Nat.ofDigitChars_append, Nat.ofDigitChars_append,
          Nat.ofDigitChars_replicate_zero, Nat.ofDigitChars_cons, ← offset,
          zpow_natCast]
        push_cast [Nat.ofDigitChars_nil]
        norm_num
        ring
      next long =>
        have offset : ((digits.length - point.toNat : ℕ) : ℤ) = digits.length - point := by
          omega
        simp only [Decimal.value, Option.getD_some, List.take_append_drop,
          List.length_drop, offset]
        congr 2
        omega
  · rcases Nat.lt_or_ge 1 digits.length with several | atMostOne
    · have fraction : ¬ digits.length ≤ 1 := by omega
      have offset : ((digits.length - 1 : ℕ) : ℤ) = digits.length - 1 := by omega
      simp only [Decimal.value, fraction, if_false, Option.getD_some,
        List.take_append_drop, List.length_drop, offset, ofDigitChars_padTwo,
        ofDigitChars_natText, decide_eq_true_eq]
      congr 2
      split <;> omega
    · have taken : digits.take 1 = digits := List.take_of_length_le atMostOne
      simp only [Decimal.value, atMostOne, if_true, Option.getD_none, List.append_nil,
        taken, List.length_nil, ofDigitChars_padTwo, ofDigitChars_natText,
        decide_eq_true_eq]
      cases digits with
      | nil => simp
      | cons head tail =>
          have single : tail = [] := by
            simpa using atMostOne
          subst single
          congr 2
          simp only [List.length_cons, List.length_nil]
          split <;> omega

theorem placePoint_wellFormed (negative : Bool) {digits : Text} (point : ℤ)
    (allDigits : ∀ digit ∈ digits, digit.isDigit = true)
    (shape : ∃ head tail, digits = head :: tail ∧ head ≠ '0') :
    (placePoint negative digits point).WellFormed := by
  rcases shape with ⟨head, tail, equality, nonzero⟩
  subst equality
  have zeros : ∀ count, ∀ digit ∈ List.replicate count '0', digit.isDigit = true := by
    intro count digit membership
    rw [List.eq_of_mem_replicate membership]
    decide
  unfold placePoint
  split
  · split
    · refine ⟨by simp, .inl rfl, ?_, by simp⟩
      rintro fraction ⟨⟩
      refine ⟨by simp, ?_⟩
      intro digit membership
      rcases List.mem_append.mp membership with inZeros | inDigits
      · exact zeros _ digit inZeros
      · exact allDigits digit inDigits
    next positive =>
      split
      · refine ⟨?_, .inr ⟨head, _, rfl, nonzero⟩, ?_, by simp⟩
        · intro digit membership
          rcases List.mem_append.mp membership with inDigits | inZeros
          · exact allDigits digit inDigits
          · exact zeros _ digit inZeros
        · rintro fraction ⟨⟩
          simp
      next long =>
        have within : 0 < point.toNat := by omega
        obtain ⟨before, beforeEquality⟩ := Nat.exists_eq_succ_of_ne_zero within.ne'
        refine ⟨?_, .inr ⟨head, tail.take before, ?_, nonzero⟩, ?_, by simp⟩
        · exact fun digit membership => allDigits digit (List.mem_of_mem_take membership)
        · simp [beforeEquality]
        · rintro fraction ⟨⟩
          refine ⟨?_, fun digit membership =>
            allDigits digit (List.mem_of_mem_drop membership)⟩
          rw [ne_eq, List.drop_eq_nil_iff]
          omega
  · refine ⟨?_, .inr ⟨head, [], rfl, nonzero⟩, ?_, ?_⟩
    · exact fun digit membership => allDigits digit (List.mem_of_mem_take membership)
    · intro fraction isFraction
      simp only at isFraction
      split at isFraction
      · simp at isFraction
      next several =>
        rw [Option.mem_some_iff] at isFraction
        subst isFraction
        refine ⟨?_, fun digit membership =>
          allDigits digit (List.mem_of_mem_drop membership)⟩
        rw [ne_eq, List.drop_eq_nil_iff]
        omega
    · rintro exponent ⟨⟩
      have written := natText_isDigit (point - 1).natAbs
      simp only [padTwo]
      split
      · refine ⟨by simp, ?_⟩
        intro digit membership
        rcases List.mem_cons.mp membership with zero | inDigits
        · rw [zero]
          decide
        · exact written digit inDigits
      · exact ⟨Nat.toDigits_ne_nil, written⟩

/-- Trailing zeros only move the exponent. -/
theorem significant_append (digits : Text) :
    ∃ count, digits = significant digits ++ List.replicate count '0' := by
  refine ⟨(digits.rtakeWhile (· == '0')).length, ?_⟩
  have zeros : digits.rtakeWhile (· == '0') =
      List.replicate (digits.rtakeWhile (· == '0')).length '0' := by
    apply List.eq_replicate_of_mem
    intro digit membership
    simpa using List.mem_rtakeWhile_imp membership
  rw [← zeros]
  exact List.rdropWhile_append_rtakeWhile.symm

theorem significant_natText {number : ℕ} (positive : 0 < number) :
    (∀ digit ∈ significant (natText number), digit.isDigit = true) ∧
      ∃ head tail, significant (natText number) = head :: tail ∧ head ≠ '0' := by
  rcases significant_append (natText number) with ⟨count, written⟩
  refine ⟨?_, ?_⟩
  · intro digit membership
    apply natText_isDigit number digit
    rw [written]
    exact List.mem_append_left _ membership
  · rcases natText_head number positive with ⟨head, tail, equality, nonzero⟩
    cases kept : significant (natText number) with
    | nil =>
        have allZero := List.rdropWhile_eq_nil_iff.mp kept head (by simp [equality])
        exact absurd (by simpa using allZero) nonzero
    | cons first rest =>
        rw [kept, equality, List.cons_append, List.cons.injEq] at written
        exact ⟨first, rest, rfl, by rw [← written.1]; exact nonzero⟩

theorem value_significant (number : ℕ) (exponent : ℤ) :
    (Nat.ofDigitChars 10 (significant (natText number)) 0 : ℚ) *
        (10 : ℚ) ^ ((natText number).length + exponent -
          (significant (natText number)).length) =
      number * (10 : ℚ) ^ exponent := by
  rcases significant_append (natText number) with ⟨count, written⟩
  have length : ((natText number).length : ℤ) =
      (significant (natText number)).length + count := by
    conv_lhs => rw [written]
    simp
  have number_eq : (number : ℚ) =
      Nat.ofDigitChars 10 (significant (natText number)) 0 * 10 ^ count := by
    conv_lhs => rw [← ofDigitChars_natText number, written, Nat.ofDigitChars_append,
      Nat.ofDigitChars_replicate_zero]
    push_cast
    ring
  have split : (natText number).length + exponent -
      (significant (natText number)).length = count + exponent := by omega
  rw [split, number_eq, zpow_add₀ (by norm_num), zpow_natCast]
  ring

theorem token_negative (negative : Bool) (magnitude : Magnitude) :
    (token negative magnitude).negative = negative := by
  unfold token
  split
  · rfl
  · exact placePoint_negative _ _ _

theorem token_isFloat (negative : Bool) (magnitude : Magnitude) :
    (token negative magnitude).fraction.isSome ∨
      (token negative magnitude).exponent.isSome := by
  unfold token
  split
  · exact .inl rfl
  · exact placePoint_isFloat _ _ _

theorem token_wellFormed (negative : Bool) (magnitude : Magnitude) :
    (token negative magnitude).WellFormed := by
  unfold token
  split
  · exact ⟨by simp, .inl rfl, by simp, by simp⟩
  next nonzero =>
    have digits := significant_natText
      (Magnitude.shortest_pos (Nat.pos_of_ne_zero nonzero))
    exact placePoint_wellFormed negative _ digits.1 digits.2

theorem ofRat_token (negative : Bool) (magnitude : Magnitude) :
    Magnitude.ofRat (token negative magnitude).value = some magnitude := by
  unfold token
  split
  next zero =>
    rcases magnitude with ⟨mantissa, exponent, small, lowest, highest, normal⟩
    simp only at zero
    subst zero
    have subnormal : exponent = -1074 := by
      rcases normal with large | subnormal
      · simp at large
      · exact subnormal
    subst subnormal
    have valueZero : Decimal.value ⟨negative, ['0'], some ['0'], none⟩ = 0 := by
      simp [Decimal.value, Nat.ofDigitChars_cons]
    rw [valueZero, Magnitude.ofRat_zero]
  next nonzero =>
    rw [value_placePoint, value_significant]
    exact Magnitude.ofRat_shortest (Nat.pos_of_ne_zero nonzero)

/-- `float(repr(x)) == x`, bit for bit. -/
theorem ofDecimal_token (negative : Bool) (magnitude : Magnitude) :
    ofDecimal (token negative magnitude) = .finite negative magnitude := by
  rw [ofDecimal, ofRat_token, token_negative]

end PyFloat

end RemoteUnlock.Python
