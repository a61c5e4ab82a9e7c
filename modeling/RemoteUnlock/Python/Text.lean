import Mathlib.Data.List.Basic
import Mathlib.Order.Basic
import Mathlib.Data.Fin.Basic
import Mathlib.Data.List.Lex

/-!
# Strings of code points

A string value is a sequence of code points, surrogates included, as in an
interpreter whose `str` is not required to be well-formed UTF-16.  A `Text` is
what strict UTF-8 decoding yields: scalar values only.  The one operation on
strings below is the joining of a high surrogate with a following low one,
which a JSON reader performs on two adjacent `\u` escapes.
-/

namespace RemoteUnlock.Python

/-- A Unicode code point; surrogates are allowed. -/
abbrev CodePoint := Fin 0x110000

/-- A string value. -/
abbrev PyStr := List CodePoint

/-- The result of strict UTF-8 decoding. -/
abbrev Text := List Char

theorem toNat_charOfNat {code : ℕ} (small : code < 0xD800) :
    (Char.ofNat code).toNat = code := by
  rw [Char.ofNat, dif_pos (Or.inl small)]
  rfl

namespace CodePoint

def ofChar (character : Char) : CodePoint :=
  ⟨character.toNat, by
    have bound := character.valid
    rcases bound with low | ⟨_, high⟩
    · exact Nat.lt_trans low (by decide)
    · exact high⟩

@[simp]
theorem val_ofChar (character : Char) : (ofChar character).val = character.toNat := rfl

theorem ofChar_injective : Function.Injective ofChar := by
  intro first second equality
  have values : (ofChar first).val = (ofChar second).val := by rw [equality]
  exact Char.toNat_inj.mp values

/-- A code point given by a number in range. -/
def ofNat (code : ℕ) : CodePoint := Fin.ofNat 0x110000 code

theorem val_ofNat {code : ℕ} (inRange : code < 0x110000) : (ofNat code).val = code :=
  Nat.mod_eq_of_lt inRange

@[simp]
theorem ofNat_val (point : CodePoint) : ofNat point.val = point :=
  Fin.ofNat_val_eq_self point

def isHigh (unit : CodePoint) : Bool := 0xD800 ≤ unit.val && unit.val < 0xDC00

def isLow (unit : CodePoint) : Bool := 0xDC00 ≤ unit.val && unit.val < 0xE000

theorem isHigh_iff (unit : CodePoint) :
    unit.isHigh = true ↔ 0xD800 ≤ unit.val ∧ unit.val < 0xDC00 := by
  simp [isHigh]

theorem isLow_iff (unit : CodePoint) :
    unit.isLow = true ↔ 0xDC00 ≤ unit.val ∧ unit.val < 0xE000 := by
  simp [isLow]

theorem isHigh_eq_false_iff (unit : CodePoint) :
    unit.isHigh = false ↔ unit.val < 0xD800 ∨ 0xDC00 ≤ unit.val := by
  rw [← Bool.not_eq_true, isHigh_iff]
  omega

theorem isLow_eq_false_iff (unit : CodePoint) :
    unit.isLow = false ↔ unit.val < 0xDC00 ∨ 0xE000 ≤ unit.val := by
  rw [← Bool.not_eq_true, isLow_iff]
  omega

theorem toNat_scalar (character : Char) :
    character.toNat < 0xD800 ∨
      0xDFFF < character.toNat ∧ character.toNat < 0x110000 :=
  character.valid

@[simp]
theorem isHigh_ofChar (character : Char) : (ofChar character).isHigh = false := by
  rw [isHigh_eq_false_iff, val_ofChar]
  have scalar := toNat_scalar character
  omega

@[simp]
theorem isLow_ofChar (character : Char) : (ofChar character).isLow = false := by
  rw [isLow_eq_false_iff, val_ofChar]
  have scalar := toNat_scalar character
  omega

/-- The scalar value a surrogate pair stands for. -/
def join (high low : CodePoint) : CodePoint :=
  ofNat (0x10000 + (high.val - 0xD800) * 0x400 + (low.val - 0xDC00))

/-- A joined pair lies outside the basic plane, so it is no surrogate itself. -/
theorem val_join {high low : CodePoint}
    (isHighUnit : high.isHigh = true) (isLowUnit : low.isLow = true) :
    (join high low).val =
      0x10000 + (high.val - 0xD800) * 0x400 + (low.val - 0xDC00) := by
  rw [isHigh_iff] at isHighUnit
  rw [isLow_iff] at isLowUnit
  exact val_ofNat (by omega)

theorem isHigh_join {high low : CodePoint}
    (isHighUnit : high.isHigh = true) (isLowUnit : low.isLow = true) :
    (join high low).isHigh = false := by
  rw [isHigh_eq_false_iff, val_join isHighUnit isLowUnit]
  omega

theorem isLow_join {high low : CodePoint}
    (isHighUnit : high.isHigh = true) (isLowUnit : low.isLow = true) :
    (join high low).isLow = false := by
  rw [isLow_eq_false_iff, val_join isHighUnit isLowUnit]
  omega

end CodePoint

open CodePoint

/-- A string value given by scalar values. -/
def ofText (text : Text) : PyStr := text.map ofChar

@[simp]
theorem ofText_nil : ofText [] = [] := rfl

@[simp]
theorem ofText_cons (character : Char) (text : Text) :
    ofText (character :: text) = ofChar character :: ofText text := rfl

theorem ofText_injective : Function.Injective ofText :=
  List.map_injective_iff.mpr ofChar_injective

/-- A string literal of the source. -/
def py (literal : String) : PyStr := ofText literal.toList

namespace PyStr

/-- Replace every high surrogate directly followed by a low one by the scalar
value the two encode, from the left. -/
def joinPairs : PyStr → PyStr
  | high :: low :: rest =>
      if high.isHigh && low.isLow then join high low :: joinPairs rest
      else high :: joinPairs (low :: rest)
  | [unit] => [unit]
  | [] => []

@[simp]
theorem joinPairs_nil : joinPairs [] = [] := rfl

@[simp]
theorem joinPairs_singleton (unit : CodePoint) : joinPairs [unit] = [unit] := rfl

theorem joinPairs_cons_cons (first second : CodePoint) (rest : PyStr) :
    joinPairs (first :: second :: rest) =
      if first.isHigh && second.isLow then join first second :: joinPairs rest
      else first :: joinPairs (second :: rest) := rfl

/-- No high surrogate is directly followed by a low one. -/
def Unpaired : PyStr → Prop
  | high :: low :: rest =>
      ¬ (high.isHigh = true ∧ low.isLow = true) ∧ Unpaired (low :: rest)
  | _ => True

theorem joinPairs_cons_of_not_isHigh {unit : CodePoint} (rest : PyStr)
    (notHigh : unit.isHigh = false) :
    joinPairs (unit :: rest) = unit :: joinPairs rest := by
  cases rest with
  | nil => rfl
  | cons next rest => simp [joinPairs_cons_cons, notHigh]

theorem joinPairs_of_unpaired {text : PyStr} (unpaired : Unpaired text) :
    joinPairs text = text := by
  induction text with
  | nil => rfl
  | cons first rest inductionHypothesis =>
      cases rest with
      | nil => rfl
      | cons second rest =>
          have separate : (first.isHigh && second.isLow) = false := by
            simpa using unpaired.1
          simp [joinPairs_cons_cons, separate, inductionHypothesis unpaired.2]

theorem unpaired_cons_of_not_isHigh {unit : CodePoint} {rest : PyStr}
    (notHigh : unit.isHigh = false) (unpaired : Unpaired rest) :
    Unpaired (unit :: rest) := by
  cases rest with
  | nil => trivial
  | cons next rest => exact ⟨by simp [notHigh], unpaired⟩

/-- The first unit of a joined string is low only if it was low before. -/
theorem head_joinPairs_isLow {text : PyStr} {unit : CodePoint} {rest : PyStr}
    (joined : joinPairs text = unit :: rest) (isLowUnit : unit.isLow = true) :
    ∃ tail, text = unit :: tail := by
  match text with
  | [] => simp at joined
  | [single] =>
      simp only [joinPairs_singleton, List.cons.injEq] at joined
      exact ⟨[], by rw [joined.1]⟩
  | first :: second :: tail =>
      rw [joinPairs_cons_cons] at joined
      split at joined
      next pair =>
        rw [Bool.and_eq_true] at pair
        have notLow := isLow_join pair.1 pair.2
        rw [List.cons.injEq] at joined
        rw [joined.1, isLowUnit] at notLow
        contradiction
      next separate =>
        rw [List.cons.injEq] at joined
        exact ⟨second :: tail, by rw [joined.1]⟩

theorem unpaired_joinPairs (text : PyStr) : Unpaired (joinPairs text) := by
  match text with
  | [] => trivial
  | [_] => trivial
  | first :: second :: rest =>
      rw [joinPairs_cons_cons]
      split
      next pair =>
        rw [Bool.and_eq_true] at pair
        exact unpaired_cons_of_not_isHigh (isHigh_join pair.1 pair.2)
          (unpaired_joinPairs rest)
      next separate =>
        have tailUnpaired := unpaired_joinPairs (second :: rest)
        cases joined : joinPairs (second :: rest) with
        | nil => trivial
        | cons next tail =>
            rw [joined] at tailUnpaired
            refine ⟨?_, tailUnpaired⟩
            rintro ⟨isHighUnit, isLowUnit⟩
            rcases head_joinPairs_isLow joined isLowUnit with ⟨_, equality⟩
            rw [List.cons.injEq] at equality
            rw [equality.1, isHighUnit, isLowUnit] at separate
            exact separate rfl

@[simp]
theorem joinPairs_joinPairs (text : PyStr) :
    joinPairs (joinPairs text) = joinPairs text :=
  joinPairs_of_unpaired (unpaired_joinPairs text)

@[simp]
theorem joinPairs_ofText (text : Text) : joinPairs (ofText text) = ofText text := by
  induction text with
  | nil => rfl
  | cons character text inductionHypothesis =>
      rw [ofText_cons, joinPairs_cons_of_not_isHigh _ (isHigh_ofChar character),
        inductionHypothesis]

@[simp]
theorem joinPairs_py (literal : String) : joinPairs (py literal) = py literal :=
  joinPairs_ofText literal.toList

end PyStr

end RemoteUnlock.Python
