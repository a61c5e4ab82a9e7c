import Mathlib.Data.List.Basic
import Mathlib.Data.List.Induction
import Mathlib.Data.Nat.Basic
import Mathlib.Tactic.Ring

/-!
# Reading text

A number that is read digit by digit is zero exactly if all its digits are, and so is a
number that is put together from such numbers.  A text that is split at a separator has
the same other symbols as its parts.
-/

namespace RemoteUnlock.Library

/-- The number with these digits, the most significant first. -/
def ofDigits (base : ℕ) (digits : List ℕ) : ℕ :=
  digits.foldl (fun value digit => base * value + digit) 0

/-- A fold is zero exactly if each of its steps is. -/
theorem foldl_eq_zero_iff {step : ℕ → ℕ → ℕ}
    (zero : ∀ value digit, step value digit = 0 ↔ value = 0 ∧ digit = 0)
    (digits : List ℕ) (start : ℕ) :
    digits.foldl step start = 0 ↔ start = 0 ∧ ∀ digit ∈ digits, digit = 0 := by
  induction digits generalizing start with
  | nil => simp
  | cons digit digits inductionHypothesis =>
      rw [List.foldl_cons, inductionHypothesis, zero, List.forall_mem_cons, and_assoc]

theorem ofDigits_eq_zero_iff {base : ℕ} (positive : 0 < base) (digits : List ℕ) :
    ofDigits base digits = 0 ↔ ∀ digit ∈ digits, digit = 0 := by
  have zero (value digit : ℕ) : base * value + digit = 0 ↔ value = 0 ∧ digit = 0 := by
    rw [Nat.add_eq_zero_iff, Nat.mul_eq_zero]
    constructor
    · rintro ⟨none | none, last⟩
      · omega
      · exact ⟨none, last⟩
    · rintro ⟨none, last⟩
      exact ⟨.inr none, last⟩
  rw [ofDigits, foldl_eq_zero_iff zero]
  exact and_iff_right rfl

theorem ofDigits_append (base : ℕ) (digits : List ℕ) (digit : ℕ) :
    ofDigits base (digits ++ [digit]) = base * ofDigits base digits + digit := by
  rw [ofDigits, List.foldl_append]
  rfl

theorem ofDigits_lt {base : ℕ} {digits : List ℕ} (below : ∀ digit ∈ digits, digit < base) :
    ofDigits base digits < base ^ digits.length := by
  induction digits using List.reverseRecOn with
  | nil => exact Nat.one_pos
  | append_singleton digits digit inductionHypothesis =>
      have last : digit < base := below digit (by simp)
      have others : ofDigits base digits < base ^ digits.length :=
        inductionHypothesis fun other membership => below other (by simp [membership])
      rw [ofDigits_append, List.length_append, List.length_singleton, pow_succ, Nat.mul_comm _ base]
      calc base * ofDigits base digits + digit
          < base * ofDigits base digits + base := by omega
        _ = base * (ofDigits base digits + 1) := (Nat.mul_succ _ _).symm
        _ ≤ base * base ^ digits.length := Nat.mul_le_mul_left _ others

section Parsing

variable {Token : Type*} {parse : Token → Option ℕ} {IsZero : Token → Prop}

/-- The values are those of the tokens, one by one. -/
theorem forall₂_of_mapM {tokens : List Token} {values : List ℕ}
    (parsed : tokens.mapM parse = some values) :
    List.Forall₂ (fun token value => parse token = some value) tokens values := by
  induction tokens generalizing values with
  | nil =>
      obtain rfl : [] = values := by simpa using parsed
      exact .nil
  | cons token tokens inductionHypothesis =>
      rw [List.mapM_cons] at parsed
      obtain ⟨value, first, parsed⟩ := Option.bind_eq_some_iff.mp parsed
      obtain ⟨rest, others, parsed⟩ := Option.bind_eq_some_iff.mp parsed
      obtain rfl := Option.some.inj parsed
      exact .cons first (inductionHypothesis others)

/-- Where a parser tells which tokens are zero, it tells it of lists. -/
theorem mapM_zero_iff
    (zero : ∀ token value, parse token = some value → (value = 0 ↔ IsZero token))
    {tokens : List Token} {values : List ℕ} (parsed : tokens.mapM parse = some values) :
    (∀ value ∈ values, value = 0) ↔ ∀ token ∈ tokens, IsZero token := by
  replace parsed := forall₂_of_mapM parsed
  induction parsed with
  | nil => simp
  | cons first _ inductionHypothesis =>
      rw [List.forall_mem_cons, List.forall_mem_cons]
      exact and_congr (zero _ _ first) inductionHypothesis

theorem isSome_of_mapM {tokens : List Token} {values : List ℕ}
    (parsed : tokens.mapM parse = some values) : ∀ token ∈ tokens, (parse token).isSome := by
  replace parsed := forall₂_of_mapM parsed
  induction parsed with
  | nil => simp
  | cons first _ inductionHypothesis =>
      exact List.forall_mem_cons.mpr ⟨Option.isSome_of_mem first, inductionHypothesis⟩

theorem forall_mem_of_mapM {tokens : List Token} {values : List ℕ} {property : ℕ → Prop}
    (parsed : tokens.mapM parse = some values)
    (holds : ∀ token value, parse token = some value → property value) :
    ∀ value ∈ values, property value := by
  replace parsed := forall₂_of_mapM parsed
  induction parsed with
  | nil => simp
  | cons first _ inductionHypothesis =>
      exact List.forall_mem_cons.mpr ⟨holds _ _ first, inductionHypothesis⟩

end Parsing

section Splitting

variable {Symbol : Type*} [DecidableEq Symbol]

/-- What holds of all symbols of all parts holds of all symbols between the separators. -/
theorem forall_mem_splitOn_iff (separator : Symbol) {property : Symbol → Prop}
    (text : List Symbol) :
    (∀ part ∈ text.splitOn separator, ∀ symbol ∈ part, property symbol) ↔
      ∀ symbol ∈ text, symbol = separator ∨ property symbol := by
  induction text with
  | nil => simp
  | cons symbol text inductionHypothesis =>
      rw [List.splitOn_cons_eq_if_modifyHead, List.forall_mem_cons, ← inductionHypothesis]
      by_cases ends : symbol = separator
      · rw [if_pos (beq_iff_eq.mpr ends), List.forall_mem_cons]
        simp [ends]
      · rw [if_neg (mt beq_iff_eq.mp ends)]
        obtain ⟨first, others, parts⟩ :=
          List.exists_cons_of_ne_nil (List.splitOn_ne_nil separator text)
        rw [parts, List.modifyHead_cons]
        simp [ends, and_assoc]

/-- No part contains the separator. -/
theorem notMem_of_mem_splitOn {separator : Symbol} {text part : List Symbol}
    (membership : part ∈ text.splitOn separator) : separator ∉ part := by
  have all : ∀ part ∈ text.splitOn separator, ∀ symbol ∈ part, symbol ≠ separator :=
    (forall_mem_splitOn_iff separator text).mpr fun symbol _ => em (symbol = separator)
  exact fun inside => all part membership separator inside rfl

/-- A text without separators belongs to the part that is read next. -/
theorem splitOn_append_of_notMem {separator : Symbol} {front : List Symbol}
    (plain : separator ∉ front) (back : List Symbol) :
    (front ++ back).splitOn separator =
      (back.splitOn separator).modifyHead (front ++ ·) := by
  obtain ⟨first, others, parts⟩ :=
    List.exists_cons_of_ne_nil (List.splitOn_ne_nil separator back)
  induction front with
  | nil =>
      rw [List.nil_append, parts]
      rfl
  | cons symbol front inductionHypothesis =>
      obtain ⟨differ, plain⟩ := not_or.mp (mt List.mem_cons.mpr plain)
      rw [List.cons_append, List.splitOn_cons_eq_if_modifyHead, inductionHypothesis plain,
        if_neg (mt beq_iff_eq.mp (Ne.symm differ)), parts]
      rfl

end Splitting

end RemoteUnlock.Library
