import Mathlib.Data.List.Basic
import Mathlib.Data.List.TakeWhile
import Mathlib.Algebra.Order.Field.Rat
import Mathlib.Data.Rat.Cast.Defs
import RemoteUnlock.Python.Text

/-!
# Decimal literals

The number tokens of JSON text: an optional sign, an integer part without
leading zeros, an optional fraction and an optional exponent.  `scan` reads one
off the front of a text as the number pattern of the reader does (a fraction or
an exponent without digits is left unread), `text` writes one, and `value` is
its magnitude.
-/

namespace RemoteUnlock.Python

/-- A number token by its parts; the exponent is its sign and its digits. -/
structure Decimal where
  negative : Bool
  integer : Text
  fraction : Option Text
  exponent : Option (Bool × Text)
  deriving DecidableEq, Repr

namespace Decimal

def digits (text : Text) : Text := text.takeWhile Char.isDigit

def afterDigits (text : Text) : Text := text.dropWhile Char.isDigit

/-- The integer part: a lone zero, or digits that start with another one. -/
def scanInteger : Text → Option (Text × Text)
  | [] => none
  | first :: rest =>
      if first = '0' then some (['0'], rest)
      else if first.isDigit then some (first :: digits rest, afterDigits rest)
      else none

def scanFraction : Text → Option Text × Text
  | '.' :: rest =>
      if digits rest = [] then (none, '.' :: rest)
      else (some (digits rest), afterDigits rest)
  | text => (none, text)

def scanSign : Text → Bool × Text
  | '-' :: rest => (true, rest)
  | '+' :: rest => (false, rest)
  | text => (false, text)

def scanExponent : Text → Option (Bool × Text) × Text
  | [] => (none, [])
  | marker :: rest =>
      if marker = 'e' ∨ marker = 'E' then
        let (negative, body) := scanSign rest
        if digits body = [] then (none, marker :: rest)
        else (some (negative, digits body), afterDigits body)
      else (none, marker :: rest)

def scanUnsigned (negative : Bool) (text : Text) : Option (Decimal × Text) :=
  (scanInteger text).map fun (integer, rest) =>
    let (fraction, rest) := scanFraction rest
    let (exponent, rest) := scanExponent rest
    (⟨negative, integer, fraction, exponent⟩, rest)

/-- Read the longest number token a text starts with. -/
def scan : Text → Option (Decimal × Text)
  | '-' :: rest => scanUnsigned true rest
  | text => scanUnsigned false text

def fractionText : Option Text → Text
  | none => []
  | some fraction => '.' :: fraction

def exponentText : Option (Bool × Text) → Text
  | none => []
  | some (negative, magnitude) =>
      'e' :: (if negative then '-' else '+') :: magnitude

def text (token : Decimal) : Text :=
  (if token.negative then ['-'] else []) ++ token.integer ++
    fractionText token.fraction ++ exponentText token.exponent

/-- A token that is written as the number pattern reads it. -/
structure WellFormed (token : Decimal) : Prop where
  integerDigits : ∀ digit ∈ token.integer, digit.isDigit = true
  integerHead : token.integer = ['0'] ∨
    ∃ head tail, token.integer = head :: tail ∧ head ≠ '0'
  fractionDigits : ∀ fraction ∈ token.fraction,
    fraction ≠ [] ∧ ∀ digit ∈ fraction, digit.isDigit = true
  exponentDigits : ∀ exponent ∈ token.exponent,
    exponent.2 ≠ [] ∧ ∀ digit ∈ exponent.2, digit.isDigit = true

/-- A text that cannot prolong a number token. -/
def Delimited (rest : Text) : Prop :=
  ∀ head ∈ rest.head?,
    head.isDigit = false ∧ head ≠ '.' ∧ head ≠ 'e' ∧ head ≠ 'E'

@[simp]
theorem delimited_nil : Delimited [] := by simp [Delimited]

@[simp]
theorem delimited_cons (head : Char) (rest : Text) :
    Delimited (head :: rest) ↔
      head.isDigit = false ∧ head ≠ '.' ∧ head ≠ 'e' ∧ head ≠ 'E' := by
  simp [Delimited]

/-- A text whose first character is no digit. -/
def NoDigitHead (rest : Text) : Prop := ∀ head ∈ rest.head?, head.isDigit = false

theorem Delimited.noDigitHead {rest : Text} (delimited : Delimited rest) :
    NoDigitHead rest :=
  fun head first => (delimited head first).1

theorem digits_append {run rest : Text}
    (allDigits : ∀ digit ∈ run, digit.isDigit = true) (stops : NoDigitHead rest) :
    digits (run ++ rest) = run := by
  unfold digits
  rw [List.takeWhile_append_of_pos allDigits]
  cases rest with
  | nil => simp
  | cons head tail => simp [stops head rfl]

theorem afterDigits_append {run rest : Text}
    (allDigits : ∀ digit ∈ run, digit.isDigit = true) (stops : NoDigitHead rest) :
    afterDigits (run ++ rest) = rest := by
  unfold afterDigits
  rw [List.dropWhile_append_of_pos allDigits]
  cases rest with
  | nil => simp
  | cons head tail => simp [stops head rfl]

theorem scanInteger_append {integer rest : Text}
    (allDigits : ∀ digit ∈ integer, digit.isDigit = true)
    (shape : integer = ['0'] ∨ ∃ head tail, integer = head :: tail ∧ head ≠ '0')
    (stops : NoDigitHead rest) :
    scanInteger (integer ++ rest) = some (integer, rest) := by
  rcases shape with zero | ⟨head, tail, equality, nonzero⟩
  · subst zero
    simp [scanInteger]
  · subst equality
    have headDigit : head.isDigit = true := allDigits head (by simp)
    have tailDigits : ∀ digit ∈ tail, digit.isDigit = true :=
      fun digit membership => allDigits digit (by simp [membership])
    simp [scanInteger, nonzero, headDigit, digits_append tailDigits stops,
      afterDigits_append tailDigits stops]

theorem scanFraction_append {fraction : Option Text} {rest : Text}
    (shape : ∀ run ∈ fraction, run ≠ [] ∧ ∀ digit ∈ run, digit.isDigit = true)
    (stops : NoDigitHead rest) (noPoint : rest.head? ≠ some '.') :
    scanFraction (fractionText fraction ++ rest) = (fraction, rest) := by
  cases fraction with
  | none =>
      cases rest with
      | nil => rfl
      | cons head tail =>
          have other : head ≠ '.' := by simpa using noPoint
          simp [fractionText, scanFraction, other]
  | some run =>
      rcases shape run rfl with ⟨nonempty, allDigits⟩
      simp [fractionText, scanFraction, digits_append allDigits stops,
        afterDigits_append allDigits stops, nonempty]

theorem scanExponent_append {exponent : Option (Bool × Text)} {rest : Text}
    (shape : ∀ part ∈ exponent,
      part.2 ≠ [] ∧ ∀ digit ∈ part.2, digit.isDigit = true)
    (delimited : Delimited rest) :
    scanExponent (exponentText exponent ++ rest) = (exponent, rest) := by
  cases exponent with
  | none =>
      cases rest with
      | nil => rfl
      | cons head tail =>
          have other := (delimited_cons head tail).mp delimited
          simp [exponentText, scanExponent, other.2.2.1, other.2.2.2]
  | some part =>
      rcases part with ⟨negative, run⟩
      rcases shape (negative, run) rfl with ⟨nonempty, allDigits⟩
      have stops := delimited.noDigitHead
      cases negative <;>
        simp [exponentText, scanExponent, scanSign, digits_append allDigits stops,
          afterDigits_append allDigits stops, nonempty]

theorem exponentText_noDigitHead (exponent : Option (Bool × Text)) {rest : Text}
    (delimited : Delimited rest) :
    NoDigitHead (exponentText exponent ++ rest) ∧
      (exponentText exponent ++ rest).head? ≠ some '.' := by
  cases exponent with
  | none =>
      refine ⟨delimited.noDigitHead, ?_⟩
      intro point
      exact (delimited '.' point).2.1 rfl
  | some part => exact ⟨by simp [exponentText, NoDigitHead], by simp [exponentText]⟩

theorem fractionText_noDigitHead (fraction : Option Text) {rest : Text}
    (stops : NoDigitHead rest) : NoDigitHead (fractionText fraction ++ rest) := by
  cases fraction with
  | none => exact stops
  | some run => simp [fractionText, NoDigitHead]

theorem scanUnsigned_append {token : Decimal} (wellFormed : token.WellFormed)
    {rest : Text} (delimited : Delimited rest) (negative : Bool) :
    scanUnsigned negative (token.integer ++ (fractionText token.fraction ++
      (exponentText token.exponent ++ rest))) =
      some (⟨negative, token.integer, token.fraction, token.exponent⟩, rest) := by
  rcases exponentText_noDigitHead token.exponent delimited with
    ⟨exponentStops, noPoint⟩
  have fractionStops := fractionText_noDigitHead token.fraction exponentStops
  simp only [scanUnsigned, scanInteger_append wellFormed.integerDigits
    wellFormed.integerHead fractionStops, Option.map_some,
    scanFraction_append wellFormed.fractionDigits exponentStops noPoint,
    scanExponent_append wellFormed.exponentDigits delimited]

/-- A written token is read back, and nothing behind it is touched. -/
theorem scan_text_append {token : Decimal} (wellFormed : token.WellFormed)
    {rest : Text} (delimited : Delimited rest) :
    scan (token.text ++ rest) = some (token, rest) := by
  have unsigned := scanUnsigned_append wellFormed delimited token.negative
  rcases token with ⟨negative, integer, fraction, exponent⟩
  simp only [text, List.append_assoc]
  cases negative with
  | true => simpa [scan] using unsigned
  | false =>
      simp only [Bool.false_eq_true, if_false, List.nil_append]
      rcases wellFormed.integerHead with zero | ⟨head, tail, equality, nonzero⟩
      · simp only at zero
        subst zero
        simpa [scan] using unsigned
      · simp only at equality
        subst equality
        have headDigit : head.isDigit = true := wellFormed.integerDigits head (by simp)
        have notMinus : head ≠ '-' := by
          rintro rfl
          simp at headDigit
        simpa [scan, notMinus] using unsigned

/-- The magnitude a token denotes. -/
def value (token : Decimal) : ℚ :=
  let fraction := token.fraction.getD []
  let exponent : ℤ := match token.exponent with
    | none => 0
    | some (negative, magnitude) =>
        if negative then -(Nat.ofDigitChars 10 magnitude 0 : ℤ)
        else Nat.ofDigitChars 10 magnitude 0
  Nat.ofDigitChars 10 (token.integer ++ fraction) 0 *
    (10 : ℚ) ^ (exponent - fraction.length)

end Decimal

/-- The decimal digits of a natural number. -/
abbrev natText (number : ℕ) : Text := Nat.toDigits 10 number

theorem natText_isDigit (number : ℕ) :
    ∀ digit ∈ natText number, digit.isDigit = true :=
  fun _ membership => Nat.isDigit_of_mem_toDigits (by decide) (by decide) membership

@[simp]
theorem ofDigitChars_natText (number : ℕ) :
    Nat.ofDigitChars 10 (natText number) 0 = number :=
  Nat.ofDigitChars_toDigits (by decide) (by decide)

theorem natText_injective : Function.Injective natText := by
  intro first second equality
  rw [← ofDigitChars_natText first, equality, ofDigitChars_natText]

/-- Only zero is written with a leading zero. -/
theorem natText_head (number : ℕ) (positive : 0 < number) :
    ∃ head tail, natText number = head :: tail ∧ head ≠ '0' := by
  induction number using Nat.strong_induction_on with
  | _ number inductionHypothesis =>
      by_cases single : number < 10
      · refine ⟨number.digitChar, [], Nat.toDigits_of_lt_base single, ?_⟩
        rw [ne_eq, Nat.digitChar_eq_zero]
        omega
      · rcases inductionHypothesis (number / 10) (by omega) (by omega) with
          ⟨head, tail, equality, nonzero⟩
        refine ⟨head, tail ++ [(number % 10).digitChar], ?_, nonzero⟩
        unfold natText at equality ⊢
        rw [Nat.toDigits_of_base_le (by decide) (by omega), equality]
        rfl

theorem natText_shape (number : ℕ) :
    natText number = ['0'] ∨
      ∃ head tail, natText number = head :: tail ∧ head ≠ '0' := by
  rcases Nat.eq_zero_or_pos number with zero | positive
  · exact .inl (by rw [zero]; exact Nat.toDigits_zero 10)
  · exact .inr (natText_head number positive)

end RemoteUnlock.Python
