import RemoteUnlock.Python.JsonParse
import RemoteUnlock.Python.JsonPrint

/-!
# Reading what was printed

Whatever the layout, a printed value reads back as itself with its surrogate
pairs joined (`parse_print`), and canonical text determines a joined value up to
the order of its keys (`sortKeys_eq_of_dumpsCanonical_eq`).  Printing what was
read gives the same canonical text exactly when joining the pairs of the sorted
value keeps every object's keys strictly increasing
(`dumpsCanonical_loads_dumpsCanonical`).
-/

namespace RemoteUnlock.Python

open CodePoint Items

/-! ## Strings -/

theorem hexValue_digitChar : ∀ digit, digit < 16 →
    hexValue (Nat.digitChar digit) = some digit := by decide

theorem scanUnit_digits {unit : ℕ} (small : unit < 0x10000) (rest : Text) :
    scanUnit (Nat.digitChar (unit / 4096 % 16) :: Nat.digitChar (unit / 256 % 16) ::
      Nat.digitChar (unit / 16 % 16) :: Nat.digitChar (unit % 16) :: rest) =
      some (ofNat unit, rest) := by
  have digit : ∀ value, hexValue (Nat.digitChar (value % 16)) = some (value % 16) :=
    fun value => hexValue_digitChar _ (Nat.mod_lt _ (by decide))
  have recomposed : 4096 * (unit / 4096 % 16) + 256 * (unit / 256 % 16) +
      16 * (unit / 16 % 16) + unit % 16 = unit := by omega
  simp [scanUnit, digit, recomposed]

theorem scanLow_escapeUnit {high : CodePoint} (isHighUnit : high.isHigh = true)
    {unit : ℕ} (small : unit < 0x10000) (rest : Text) :
    scanLow high (escapeUnit unit ++ rest) =
      if (ofNat unit).isLow then
        some (ofNat unit, rest)
      else none := by
  simp [scanLow, escapeUnit, isHighUnit, scanUnit_digits small]

theorem scanString_escapeUnit (fuel : ℕ) {unit : ℕ} (small : unit < 0x10000)
    (rest : Text) :
    scanString (fuel + 1) (escapeUnit unit ++ rest) =
      match scanLow (ofNat unit) rest with
      | some (low, rest) =>
          (scanString fuel rest).map (consFst (join (ofNat unit) low))
      | none => (scanString fuel rest).map (consFst (ofNat unit)) := by
  simp only [escapeUnit, List.cons_append, List.nil_append]
  rw [scanString]
  simp only [Char.reduceEq, if_false, if_true]
  cases low : scanLow (ofNat unit) rest with
  | none => simp only [scanUnit_digits small, low]
  | some found => simp only [scanUnit_digits small, low]

theorem scanLow_of_not_isHigh {unit : CodePoint} (notHigh : unit.isHigh = false)
    (text : Text) : scanLow unit text = none := by
  unfold scanLow
  split
  · simp [notHigh]
  · rfl

theorem escapeChar_of_surrogate (point : CodePoint)
    (surrogate : 0xD800 ≤ point.val ∧ point.val < 0xE000) :
    escapeChar point = escapeUnit point.val := by
  unfold escapeChar
  repeat rw [if_neg (by omega)]
  rw [if_pos (by omega)]

theorem scanString_escapeChar_high (fuel : ℕ) {point : CodePoint}
    (isHighUnit : point.isHigh = true) (rest : Text) :
    scanString (fuel + 1) (escapeChar point ++ rest) =
      match scanLow point rest with
      | some (low, rest) => (scanString fuel rest).map (consFst (join point low))
      | none => (scanString fuel rest).map (consFst point) := by
  rw [isHigh_iff] at isHighUnit
  rw [escapeChar_of_surrogate _ ⟨isHighUnit.1, by omega⟩,
    scanString_escapeUnit fuel (by omega), ofNat_val]

theorem ofChar_ofNat {point : CodePoint} (small : point.val < 0xD800) :
    ofChar (Char.ofNat point.val) = point := by
  apply Fin.ext
  rw [val_ofChar, toNat_charOfNat small]

theorem scanString_plain (fuel : ℕ) {character : Char} (rest : Text)
    (printable : 0x20 ≤ character.toNat) (notQuote : character ≠ '"')
    (notBackslash : character ≠ '\\') :
    scanString (fuel + 1) (character :: rest) =
      (scanString fuel rest).map (consFst (ofChar character)) := by
  have notControl : ¬ character.toNat < 0x20 := by omega
  simp [scanString, notQuote, notBackslash, notControl]

theorem scanString_unescape (fuel : ℕ) {marker character : Char} (rest : Text)
    (notUnit : marker ≠ 'u') (known : unescape marker = some character) :
    scanString (fuel + 1) ('\\' :: marker :: rest) =
      (scanString fuel rest).map (consFst (ofChar character)) := by
  simp [scanString, notUnit, known]

theorem join_surrogates {point : CodePoint} (astral : 0x10000 ≤ point.val) :
    join (ofNat (highSurrogate point))
      (ofNat (lowSurrogate point)) = point := by
  have bound : point.val < 0x110000 := point.isLt
  rw [join, val_ofNat (by unfold highSurrogate; omega),
    val_ofNat (by unfold lowSurrogate; omega)]
  apply Fin.ext
  rw [val_ofNat (by unfold highSurrogate lowSurrogate; omega)]
  unfold highSurrogate lowSurrogate
  omega

/-- An escaped character other than a high surrogate reads back as itself. -/
theorem scanString_escapeChar (fuel : ℕ) {point : CodePoint}
    (notHigh : point.isHigh = false) (rest : Text) :
    scanString (fuel + 1) (escapeChar point ++ rest) =
      (scanString fuel rest).map (consFst point) := by
  have named : ∀ (marker : Char) (character : Char), marker ≠ 'u' →
      unescape marker = some character → ofChar character = point →
      scanString (fuel + 1) ('\\' :: marker :: rest) =
        (scanString fuel rest).map (consFst point) := by
    intro marker character notUnit known same
    rw [scanString_unescape fuel rest notUnit known, same]
  unfold escapeChar
  split_ifs with quote backslash newline carriage tab feed backspace inside plane
  · exact named '"' '"' (by decide) rfl (Fin.ext quote.symm)
  · exact named '\\' '\\' (by decide) rfl (Fin.ext backslash.symm)
  · exact named 'n' '\n' (by decide) rfl (Fin.ext newline.symm)
  · exact named 'r' '\r' (by decide) rfl (Fin.ext carriage.symm)
  · exact named 't' '\t' (by decide) rfl (Fin.ext tab.symm)
  · exact named 'f' (Char.ofNat 12) (by decide) rfl (Fin.ext feed.symm)
  · exact named 'b' (Char.ofNat 8) (by decide) rfl (Fin.ext backspace.symm)
  · have value : (Char.ofNat point.val).toNat = point.val := toNat_charOfNat (by omega)
    rw [List.cons_append, List.nil_append, scanString_plain fuel rest,
      ofChar_ofNat (by omega)]
    · omega
    · intro same
      rw [same] at value
      exact quote value.symm
    · intro same
      rw [same] at value
      exact backslash value.symm
  · rw [scanString_escapeUnit fuel plane, ofNat_val, scanLow_of_not_isHigh notHigh]
  · have highSmall : highSurrogate point < 0x10000 := by
      have bound : point.val < 0x110000 := point.isLt
      unfold highSurrogate
      omega
    have lowSmall : lowSurrogate point < 0x10000 := by
      unfold lowSurrogate
      omega
    have isHighUnit :
        (ofNat (highSurrogate point)).isHigh = true := by
      have bound : point.val < 0x110000 := point.isLt
      rw [isHigh_iff, val_ofNat (by omega), highSurrogate]
      omega
    have isLowUnit :
        (ofNat (lowSurrogate point)).isLow = true := by
      rw [isLow_iff, val_ofNat (by omega), lowSurrogate]
      omega
    rw [List.append_assoc, scanString_escapeUnit fuel highSmall,
      scanLow_escapeUnit isHighUnit lowSmall, if_pos isLowUnit]
    simp only [join_surrogates (by omega : 0x10000 ≤ point.val)]

/-- Only the escape of a low surrogate continues a pair. -/
theorem scanLow_escapeChar {high : CodePoint} (isHighUnit : high.isHigh = true)
    (point : CodePoint) (rest : Text) :
    scanLow high (escapeChar point ++ rest) =
      if point.isLow then some (point, rest) else none := by
  cases low : point.isLow with
  | true =>
      rw [isLow_iff] at low
      rw [escapeChar_of_surrogate _ ⟨by omega, low.2⟩, scanLow_escapeUnit isHighUnit (by omega),
        ofNat_val, if_pos (point.isLow_iff.mpr low)]
      rfl
  | false =>
      rw [if_neg Bool.false_ne_true]
      unfold escapeChar
      split_ifs with quote backslash newline carriage tab feed backspace inside plane
      any_goals rfl
      · have notBackslash : Char.ofNat point.val ≠ '\\' := by
          intro same
          have value : (Char.ofNat point.val).toNat = point.val :=
            toNat_charOfNat (by omega)
          rw [same] at value
          exact backslash value.symm
        simp [scanLow, notBackslash]
      · rw [scanLow_escapeUnit isHighUnit plane, ofNat_val, low]
        rfl
      · have bound : point.val < 0x110000 := point.isLt
        have notLow :
            (ofNat (highSurrogate point)).isLow = false := by
          rw [isLow_eq_false_iff, val_ofNat (by unfold highSurrogate; omega), highSurrogate]
          omega
        rw [List.append_assoc, scanLow_escapeUnit isHighUnit (by unfold highSurrogate; omega),
          notLow]
        rfl

theorem scanString_escape (text : PyStr) (fuel : ℕ) (rest : Text)
    (enough : text.length < fuel) :
    scanString fuel (escape text ++ '"' :: rest) = some (text.joinPairs, rest) := by
  match text, fuel with
  | [], fuel + 1 => simp [escape, scanString]
  | [point], fuel + 1 =>
      have closing : scanString fuel ('"' :: rest) = some ([], rest) := by
        obtain ⟨before, equality⟩ : ∃ before, fuel = before + 1 :=
          Nat.exists_eq_succ_of_ne_zero (by simp at enough; omega)
        simp [equality, scanString]
      simp only [escape, List.flatMap_cons, List.flatMap_nil, List.append_nil]
      cases high : point.isHigh with
      | false => simp [scanString_escapeChar fuel high, closing, consFst]
      | true =>
          rw [scanString_escapeChar_high fuel high]
          simp [scanLow, closing, consFst]
  | first :: second :: tail, fuel + 1 =>
      have tailRead := scanString_escape tail fuel rest (by simp at enough; omega)
      have secondRead := scanString_escape (second :: tail) fuel rest
        (by simp at enough ⊢; omega)
      have unfolded : escape (first :: second :: tail) ++ '"' :: rest =
          escapeChar first ++ (escapeChar second ++ (escape tail ++ '"' :: rest)) := by
        simp [escape]
      have unfoldedSecond : escape (second :: tail) ++ '"' :: rest =
          escapeChar second ++ (escape tail ++ '"' :: rest) := by
        simp [escape]
      rw [unfoldedSecond] at secondRead
      rw [unfolded, PyStr.joinPairs_cons_cons]
      cases high : first.isHigh with
      | false => simp [scanString_escapeChar fuel high, secondRead, consFst]
      | true =>
          rw [scanString_escapeChar_high fuel high, scanLow_escapeChar high]
          cases low : second.isLow with
          | true => simp [tailRead, consFst]
          | false => simp [secondRead, consFst]
termination_by text.length

theorem length_le_length_escape (text : PyStr) : text.length ≤ (escape text).length := by
  induction text with
  | nil => simp
  | cons point text inductionHypothesis =>
      have nonempty : 1 ≤ (escapeChar point).length := by
        unfold escapeChar
        split_ifs <;> simp [escapeUnit]
      simp only [escape, List.flatMap_cons, List.length_append, List.length_cons]
        at inductionHypothesis ⊢
      omega

/-! ## White space -/

theorem isSpace_iff {character : Char} :
    isSpace character = true ↔ character = ' ' ∨ character = '\t' ∨ character = '\n' ∨
      character = '\r' := by
  simp [isSpace, or_assoc]

theorem skipSpace_append {space : Text} (blank : IsSpace space) (rest : Text) :
    skipSpace (space ++ rest) = skipSpace rest := by
  apply List.dropWhile_append_of_pos
  exact fun character membership => isSpace_iff.mpr (blank character membership)

theorem skipSpace_cons {first : Char} (solid : isSpace first = false) (rest : Text) :
    skipSpace (first :: rest) = first :: rest := by
  simp [skipSpace, solid]

open Decimal in
theorem delimited_space_append {space : Text} (blank : IsSpace space) {rest : Text}
    (delimited : Delimited rest) : Delimited (space ++ rest) := by
  cases space with
  | nil => exact delimited
  | cons first space =>
      rw [List.cons_append, delimited_cons]
      rcases blank first (by simp) with rfl | rfl | rfl | rfl <;> decide

/-! ## Numbers and constants -/

/-- The token of an integer. -/
def intToken (number : ℤ) : Decimal :=
  ⟨decide (number < 0), natText number.natAbs, none, none⟩

theorem intToken_text (number : ℤ) : (intToken number).text = intText number := by
  by_cases negative : number < 0 <;>
    simp [intToken, intText, Decimal.text, Decimal.fractionText, Decimal.exponentText, negative]

theorem intToken_wellFormed (number : ℤ) : (intToken number).WellFormed :=
  ⟨natText_isDigit _, natText_shape _, by simp [intToken], by simp [intToken]⟩

namespace Json

theorem ofDecimal_intToken (number : ℤ) : ofDecimal (intToken number) = .int number := by
  by_cases negative : number < 0
  · simp [ofDecimal, intToken, negative, abs_of_neg negative]
  · simp [ofDecimal, intToken, negative, abs_of_nonneg (not_lt.mp negative)]

theorem ofDecimal_token (negative : Bool) (magnitude : Magnitude) :
    ofDecimal (PyFloat.token negative magnitude) = .float (.finite negative magnitude) := by
  have isFloat := PyFloat.token_isFloat negative magnitude
  have notInt : ¬ ((PyFloat.token negative magnitude).fraction = none ∧
      (PyFloat.token negative magnitude).exponent = none) := by
    rintro ⟨noFraction, noExponent⟩
    simp [noFraction, noExponent] at isFloat
  rw [ofDecimal, if_neg notInt, PyFloat.ofDecimal_token]

end Json

/-- A token starts with a digit, or with a sign and a digit. -/
theorem Decimal.WellFormed.text_head {token : Decimal} (wellFormed : token.WellFormed)
    (rest : Text) : ∃ digit tail, digit.isDigit = true ∧
      (token.text ++ rest = digit :: tail ∨ token.text ++ rest = '-' :: digit :: tail) := by
  have headed : ∃ digit tail, token.integer = digit :: tail ∧ digit.isDigit = true := by
    have allDigits := wellFormed.integerDigits
    rcases wellFormed.integerHead with zero | ⟨head, tail, equality, _⟩
    · exact ⟨'0', [], zero, by decide⟩
    · exact ⟨head, tail, equality, allDigits head (by simp [equality])⟩
  rcases headed with ⟨digit, tail, equality, isDigit⟩
  refine ⟨digit, tail ++ (fractionText token.fraction ++
    (exponentText token.exponent ++ rest)), isDigit, ?_⟩
  cases negative : token.negative with
  | true => exact .inr (by simp [Decimal.text, negative, equality])
  | false => exact .inl (by simp [Decimal.text, negative, equality])

namespace Json

/-- No constant looks like a number. -/
theorem scanScalar_text_append {token : Decimal} (wellFormed : token.WellFormed)
    {rest : Text} (delimited : Decimal.Delimited rest) :
    scanScalar (token.text ++ rest) = some (ofDecimal token, rest) := by
  have noWord : words.findSome? (fun word =>
      (afterWord word.1 (token.text ++ rest)).map fun rest => (word.2, rest)) = none := by
    rcases wellFormed.text_head rest with ⟨digit, tail, isDigit, written⟩
    have other : ∀ letter : Char, letter.isDigit = false → letter ≠ digit := by
      rintro letter notDigit rfl
      simp [isDigit] at notDigit
    rcases written with written | written
    · rw [written]
      simp [words, afterWord, other]
    · rw [written]
      simp [words, afterWord, other]
  rw [scanScalar, noWord]
  simp [Decimal.scan_text_append wellFormed delimited]

/-! ## Values -/

/-- A first character of a value: no white space, no closing bracket. -/
def opensValue (first : Char) : Bool :=
  first.isDigit || ['-', '"', '[', '{', 'n', 't', 'f', 'N', 'I'].contains first

def ValueHead (text : Text) : Prop :=
  ∃ first tail, text = first :: tail ∧ opensValue first = true

namespace ValueHead

variable {text : Text}

theorem append (head : ValueHead text) (rest : Text) : ValueHead (text ++ rest) := by
  rcases head with ⟨first, tail, rfl, opens⟩
  exact ⟨first, tail ++ rest, rfl, opens⟩

theorem length_pos (head : ValueHead text) : 0 < text.length := by
  rcases head with ⟨first, tail, rfl, _⟩
  simp

theorem head_ne (head : ValueHead text) (other : Char) (closes : opensValue other = false) :
    text.head? ≠ some other := by
  rcases head with ⟨first, tail, rfl, opens⟩
  intro same
  rw [List.head?_cons, Option.some.injEq] at same
  rw [same, closes] at opens
  contradiction

theorem skipSpace (head : ValueHead text) : skipSpace text = text := by
  rcases head with ⟨first, tail, rfl, opens⟩
  apply skipSpace_cons
  cases blank : isSpace first with
  | false => rfl
  | true =>
      rcases isSpace_iff.mp blank with rfl | rfl | rfl | rfl <;> contradiction

end ValueHead

theorem valueHead_token {token : Decimal} (wellFormed : token.WellFormed) :
    ValueHead token.text := by
  rcases wellFormed.text_head [] with ⟨digit, tail, isDigit, written⟩
  rw [List.append_nil] at written
  rcases written with written | written
  · exact ⟨digit, tail, written, by simp [opensValue, isDigit]⟩
  · exact ⟨'-', digit :: tail, written, by decide⟩

theorem valueHead_print (layout : Layout) (level : ℕ) (value : Json) :
    ValueHead (print layout level value) := by
  cases value with
  | null => exact ⟨'n', _, rfl, by decide⟩
  | bool value =>
      cases value with
      | true => exact ⟨'t', _, rfl, by decide⟩
      | false => exact ⟨'f', _, rfl, by decide⟩
  | int number =>
      rw [print, ← intToken_text]
      exact valueHead_token (intToken_wellFormed number)
  | float number =>
      cases number with
      | nan => exact ⟨'N', _, rfl, by decide⟩
      | infinity negative =>
          cases negative with
          | true => exact ⟨'-', _, rfl, by decide⟩
          | false => exact ⟨'I', _, rfl, by decide⟩
      | finite negative magnitude =>
          exact valueHead_token (PyFloat.token_wellFormed negative magnitude)
  | str text => exact ⟨'"', _, rfl, by decide⟩
  | arr elements =>
      cases elements with
      | nil => exact ⟨'[', _, rfl, by decide⟩
      | cons element rest => exact ⟨'[', _, by rw [print], by decide⟩
  | obj members =>
      cases members with
      | nil => exact ⟨'{', _, rfl, by decide⟩
      | cons member rest => exact ⟨'{', _, by rw [print], by decide⟩

theorem valueHead_quote (text : PyStr) : ValueHead (quote text) :=
  ⟨'"', _, rfl, by decide⟩

/-- A number is none of the containers and strings. -/
theorem parseValue_token {token : Decimal} (wellFormed : token.WellFormed) {fuel : ℕ}
    {rest : Text} (delimited : Decimal.Delimited rest) :
    parseValue (fuel + 1) (token.text ++ rest) = some (ofDecimal token, rest) := by
  have scanned := scanScalar_text_append wellFormed delimited
  rcases wellFormed.text_head rest with ⟨digit, tail, isDigit, written⟩
  have other : ∀ letter : Char, letter.isDigit = false → digit ≠ letter := by
    rintro letter notDigit rfl
    simp [isDigit] at notDigit
  rcases written with written | written <;> rw [written] at scanned ⊢
  · simp [parseValue, other, scanned]
  · simp [parseValue, scanned]

theorem parseValue_quote (text : PyStr) {fuel : ℕ} (enough : text.length < fuel)
    (rest : Text) : parseValue (fuel + 1) (quote text ++ rest) =
      some (.str text.joinPairs, rest) := by
  simp [quote, parseValue, scanString_escape text fuel rest enough]

theorem length_quote (text : PyStr) : text.length + 2 ≤ (quote text).length := by
  have short := length_le_length_escape text
  simp only [quote, List.length_cons, List.length_append, List.length_nil]
  omega

/-- Between two items: nothing here prolongs a number. -/
theorem delimited_closing (layout : Layout) (level : ℕ) (separator closing : Char)
    (separates : Decimal.Delimited [separator]) (closes : Decimal.Delimited [closing])
    {items : Text} (items_head : items = [] ∨ ∃ tail, items = separator :: tail)
    (rest : Text) :
    Decimal.Delimited (items ++ (layout.newline level ++ closing :: rest)) := by
  rcases items_head with rfl | ⟨tail, rfl⟩
  · apply delimited_space_append (layout.newline_isSpace level)
    rw [Decimal.delimited_cons] at closes ⊢
    exact closes
  · rw [List.cons_append, Decimal.delimited_cons]
    exact (Decimal.delimited_cons _ _).mp separates

theorem printElements_head (layout : Layout) (level : ℕ) (elements : List Json) :
    printElements layout level elements = [] ∨
      ∃ tail, printElements layout level elements = ',' :: tail := by
  cases elements with
  | nil => exact .inl (by rw [printElements])
  | cons element rest => exact .inr ⟨_, by rw [printElements]⟩

theorem printMembers_head (layout : Layout) (level : ℕ) (members : List (PyStr × Json)) :
    printMembers layout level members = [] ∨
      ∃ tail, printMembers layout level members = ',' :: tail := by
  cases members with
  | nil => exact .inl (by rw [printMembers])
  | cons member rest => exact .inr ⟨_, by rw [printMembers]⟩

mutual

theorem parseValue_print (layout : Layout) (level : ℕ) (value : Json) (fuel : ℕ)
    (rest : Text) (delimited : Decimal.Delimited rest)
    (enough : (print layout level value).length ≤ fuel) :
    parseValue fuel (print layout level value ++ rest) = some (value.joinPairs, rest) := by
  obtain ⟨fuel, rfl⟩ : ∃ before, fuel = before + 1 := by
    have nonempty := (valueHead_print layout level value).length_pos
    exact Nat.exists_eq_succ_of_ne_zero (by omega)
  match value with
  | .null => rfl
  | .bool true => rfl
  | .bool false => rfl
  | .int number =>
      rw [print, ← intToken_text, parseValue_token (intToken_wellFormed number) delimited,
        ofDecimal_intToken]
      rfl
  | .float .nan => rfl
  | .float (.infinity true) => rfl
  | .float (.infinity false) => rfl
  | .float (.finite negative magnitude) =>
      rw [print, floatText,
        parseValue_token (PyFloat.token_wellFormed negative magnitude) delimited,
        ofDecimal_token]
      rfl
  | .str text =>
      have short := length_quote text
      rw [print] at enough ⊢
      exact parseValue_quote text (by omega) rest
  | .arr [] => rfl
  | .arr (element :: elements) =>
      have head := (valueHead_print layout (level + 1) element).append
        (printElements layout (level + 1) elements ++ (layout.newline level ++ ']' :: rest))
      have inner := parseElements_print layout level element elements fuel rest (by
        simp only [print, List.length_cons, List.length_append] at enough ⊢
        omega)
      simp only [print, List.cons_append, List.append_assoc, List.nil_append, parseValue,
        Char.reduceEq, if_false, if_true, skipSpace_append (layout.newline_isSpace _),
        head.skipSpace, head.head_ne ']' (by decide), inner, Option.map_some, joinPairs,
        joinPairsElements]
  | .obj [] => rfl
  | .obj ((key, value) :: members) =>
      have head := (valueHead_quote key).append (':' :: (layout.afterColon ++
        (print layout (level + 1) value ++ (printMembers layout (level + 1) members ++
          (layout.newline level ++ '}' :: rest)))))
      have inner := parseMembers_print layout level key value members fuel rest (by
        simp only [print, List.length_cons, List.length_append] at enough ⊢
        omega)
      simp only [print, List.cons_append, List.append_assoc, List.nil_append, parseValue,
        Char.reduceEq, if_false, if_true, skipSpace_append (layout.newline_isSpace _),
        head.skipSpace, head.head_ne '}' (by decide), inner, Option.map_some, joinPairs,
        joinPairsMembers]
termination_by fuel

theorem parseElements_print (layout : Layout) (level : ℕ) (element : Json)
    (elements : List Json) (fuel : ℕ) (rest : Text)
    (enough : (print layout (level + 1) element ++
      printElements layout (level + 1) elements).length < fuel) :
    parseElements fuel (print layout (level + 1) element ++
      (printElements layout (level + 1) elements ++ (layout.newline level ++ ']' :: rest))) =
      some (element.joinPairs :: joinPairsElements elements, rest) := by
  obtain ⟨fuel, rfl⟩ : ∃ before, fuel = before + 1 :=
    Nat.exists_eq_succ_of_ne_zero (by omega)
  have delimited := delimited_closing layout level ',' ']'
    (by simp) (by simp) (printElements_head layout (level + 1) elements) rest
  rw [List.length_append] at enough
  have first := parseValue_print layout (level + 1) element fuel _ delimited (by omega)
  match elements with
  | [] =>
      simp only [printElements, List.nil_append] at first ⊢
      simp only [parseElements, first, skipSpace_append (layout.newline_isSpace _),
        skipSpace_cons (by decide : isSpace ']' = false), joinPairsElements]
  | next :: elements =>
      have head := (valueHead_print layout (level + 1) next).append
        (printElements layout (level + 1) elements ++ (layout.newline level ++ ']' :: rest))
      have others := parseElements_print layout level next elements fuel rest (by
        simp only [printElements, List.length_cons, List.length_append] at enough ⊢
        omega)
      simp only [printElements, List.cons_append, List.append_assoc] at first ⊢
      simp only [parseElements, first, skipSpace_cons (by decide : isSpace ',' = false),
        skipSpace_append layout.afterComma_isSpace, skipSpace_append (layout.newline_isSpace _),
        head.skipSpace, others, Option.map_some, joinPairsElements]
termination_by fuel

theorem parseMembers_print (layout : Layout) (level : ℕ) (key : PyStr) (value : Json)
    (members : List (PyStr × Json)) (fuel : ℕ) (rest : Text)
    (enough : (quote key ++ (print layout (level + 1) value ++
      printMembers layout (level + 1) members)).length < fuel) :
    parseMembers fuel (quote key ++ (':' :: (layout.afterColon ++
      (print layout (level + 1) value ++ (printMembers layout (level + 1) members ++
        (layout.newline level ++ '}' :: rest)))))) =
      some ((key.joinPairs, value.joinPairs) :: joinPairsMembers members, rest) := by
  obtain ⟨fuel, rfl⟩ : ∃ before, fuel = before + 1 :=
    Nat.exists_eq_succ_of_ne_zero (by omega)
  have delimited := delimited_closing layout level ',' '}'
    (by simp) (by simp) (printMembers_head layout (level + 1) members) rest
  have short := length_quote key
  simp only [List.length_append] at enough
  have keyRead := scanString_escape key fuel (':' :: (layout.afterColon ++
    (print layout (level + 1) value ++ (printMembers layout (level + 1) members ++
      (layout.newline level ++ '}' :: rest))))) (by omega)
  have first := parseValue_print layout (level + 1) value fuel _ delimited (by omega)
  have head := (valueHead_print layout (level + 1) value).append
    (printMembers layout (level + 1) members ++ (layout.newline level ++ '}' :: rest))
  simp only [quote, List.cons_append, List.append_assoc, List.nil_append, parseMembers,
    if_true, keyRead, skipSpace_cons (by decide : isSpace ':' = false),
    skipSpace_append layout.afterColon_isSpace, head.skipSpace, first]
  match members with
  | [] =>
      simp only [printMembers, List.nil_append, skipSpace_append (layout.newline_isSpace _),
        skipSpace_cons (by decide : isSpace '}' = false), joinPairsMembers]
  | (nextKey, next) :: members =>
      have head := (valueHead_quote nextKey).append (':' :: (layout.afterColon ++
        (print layout (level + 1) next ++ (printMembers layout (level + 1) members ++
          (layout.newline level ++ '}' :: rest)))))
      have others := parseMembers_print layout level nextKey next members fuel rest (by
        simp only [printMembers, List.length_cons, List.length_append] at enough ⊢
        omega)
      simp only [printMembers, List.cons_append, List.append_assoc,
        skipSpace_cons (by decide : isSpace ',' = false),
        skipSpace_append layout.afterComma_isSpace, skipSpace_append (layout.newline_isSpace _),
        head.skipSpace, others, Option.map_some, joinPairsMembers]
termination_by fuel

end

/-- Whatever the layout, what was printed reads back with its pairs joined. -/
theorem parse_print (layout : Layout) (value : Json) :
    parse (print layout 0 value) = some value.joinPairs := by
  have head := valueHead_print layout 0 value
  have read := parseValue_print layout 0 value
    (2 * (print layout 0 value).length + 1) [] Decimal.delimited_nil (by omega)
  rw [List.append_nil] at read
  have noMark := head.head_ne '\uFEFF' (by decide)
  rw [parse, if_neg noMark, head.skipSpace, read]
  rfl

theorem loads_print (layout : Layout) (value : Json) :
    loads (print layout 0 value) = some value.joinPairs.buildDicts := by
  rw [loads, parse_print, Option.map_some]

/-! ## Canonical text -/

theorem escapeUnit_append_of_pair {high low : CodePoint} (isHighUnit : high.isHigh = true)
    (isLowUnit : low.isLow = true) :
    escapeChar (join high low) = escapeChar high ++ escapeChar low := by
  have value := val_join isHighUnit isLowUnit
  have highUnit : highSurrogate (join high low) = high.val := by
    rw [isHigh_iff] at isHighUnit
    rw [isLow_iff] at isLowUnit
    rw [highSurrogate, value]
    omega
  have lowUnit : lowSurrogate (join high low) = low.val := by
    rw [isHigh_iff] at isHighUnit
    rw [isLow_iff] at isLowUnit
    rw [lowSurrogate, value]
    omega
  rw [isHigh_iff] at isHighUnit
  rw [isLow_iff] at isLowUnit
  rw [escapeChar_of_surrogate high (by omega),
    escapeChar_of_surrogate low (by omega), ← highUnit, ← lowUnit]
  unfold escapeChar
  repeat rw [if_neg (by omega)]

/-- A pair is written like the character it stands for. -/
theorem escape_joinPairs (text : PyStr) : escape text.joinPairs = escape text := by
  match text with
  | [] => rfl
  | [_] => rfl
  | first :: second :: rest =>
      have tail := escape_joinPairs rest
      have others := escape_joinPairs (second :: rest)
      rw [PyStr.joinPairs_cons_cons]
      simp only [escape, List.flatMap_cons] at tail others ⊢
      split
      next pair =>
        rw [Bool.and_eq_true] at pair
        rw [List.flatMap_cons, tail, escapeUnit_append_of_pair pair.1 pair.2,
          List.append_assoc]
      · rw [List.flatMap_cons, others]

theorem quote_joinPairs (text : PyStr) : quote text.joinPairs = quote text := by
  rw [quote, escape_joinPairs, quote]

mutual

theorem print_joinPairs (layout : Layout) : ∀ (level : ℕ) (value : Json),
    print layout level value.joinPairs = print layout level value
  | _, .null => rfl
  | _, .bool _ => rfl
  | _, .int _ => rfl
  | _, .float _ => rfl
  | _, .str text => quote_joinPairs text
  | _, .arr [] => rfl
  | level, .arr (element :: rest) => by
      simp only [joinPairs, joinPairsElements, print,
        print_joinPairs layout (level + 1) element,
        printElements_joinPairs layout (level + 1) rest]
  | _, .obj [] => rfl
  | level, .obj ((key, value) :: rest) => by
      simp only [joinPairs, joinPairsMembers, print, quote_joinPairs,
        print_joinPairs layout (level + 1) value,
        printMembers_joinPairs layout (level + 1) rest]

theorem printElements_joinPairs (layout : Layout) : ∀ (level : ℕ) (elements : List Json),
    printElements layout level (joinPairsElements elements) =
      printElements layout level elements
  | _, [] => rfl
  | level, element :: rest => by
      simp only [joinPairsElements, printElements, print_joinPairs layout level element,
        printElements_joinPairs layout level rest]

theorem printMembers_joinPairs (layout : Layout) :
    ∀ (level : ℕ) (members : List (PyStr × Json)),
    printMembers layout level (joinPairsMembers members) = printMembers layout level members
  | _, [] => rfl
  | level, (key, value) :: rest => by
      simp only [joinPairsMembers, printMembers, quote_joinPairs,
        print_joinPairs layout level value, printMembers_joinPairs layout level rest]

end

theorem parse_dumpsCanonical (value : Json) :
    parse value.dumpsCanonical = some value.sortKeys.joinPairs :=
  parse_print .compact value.sortKeys

/-- On joined values canonical text says everything but the order of keys. -/
theorem sortKeys_eq_of_dumpsCanonical_eq {first second : Json} (firstJoined : Joined first)
    (secondJoined : Joined second)
    (equality : first.dumpsCanonical = second.dumpsCanonical) :
    first.sortKeys = second.sortKeys := by
  have read := parse_dumpsCanonical first
  rw [equality, parse_dumpsCanonical, Option.some.injEq, firstJoined.sortKeys,
    secondJoined.sortKeys] at read
  exact read.symm

theorem dumpsCanonical_congr {first second : Json} (same : first.sortKeys = second.sortKeys) :
    first.dumpsCanonical = second.dumpsCanonical := by
  rw [dumpsCanonical, same, dumpsCanonical]

/-- Where an object's own keys have no pairs, joining is done value by value. -/
theorem joinPairs_sortKeys_obj {members : List (PyStr × Json)}
    (plain : ∀ member ∈ members, PyStr.joinPairs member.1 = member.1) :
    (Json.obj members).sortKeys.joinPairs =
      .obj ((sortItems (members.map fun member => (member.1, member.2.sortKeys))).map
        fun member => (member.1, member.2.joinPairs)) := by
  rw [sortKeys_obj, joinPairs_obj]
  congr 1
  apply List.map_congr_left
  intro member membership
  rcases List.mem_map.mp (mem_sortItems membership) with ⟨source, inMembers, rfl⟩
  simp only [plain source inMembers]

/-- The fields of such an object are read back one by one. -/
theorem loads_dumpsCanonical_obj {members : List (PyStr × Json)}
    (plain : ∀ member ∈ members, PyStr.joinPairs member.1 = member.1) :
    ∃ reread, loads (Json.obj members).dumpsCanonical = some (.obj reread) ∧
      ∀ key, lookup key reread =
        (lookup key members).map fun value => value.sortKeys.joinPairs.buildDicts := by
  have loaded := loads_print .compact (Json.obj members).sortKeys
  rw [joinPairs_sortKeys_obj plain, buildDicts_obj] at loaded
  refine ⟨_, loaded, ?_⟩
  intro key
  rw [lookup_ofPairs, lookup_map, lookup_map, lookup_sortItems, lookup_map, Option.map_map,
    Option.map_map]
  rfl

/-- Joining the surrogate pairs of the sorted value leaves the keys of every object
strictly increasing: no two keys become one and none moves. -/
def KeysStable (value : Json) : Prop := Sorted value.sortKeys.joinPairs

/-- Where an object's own keys have no pairs, only its values matter. -/
theorem keysStable_obj_iff {members : List (PyStr × Json)}
    (plain : ∀ member ∈ members, PyStr.joinPairs member.1 = member.1) :
    KeysStable (.obj members) ↔
      ∀ key value, lookup key members = some value → KeysStable value := by
  have increasing := increasing_sortItems
    (members.map fun member => (member.1, member.2.sortKeys))
  unfold KeysStable
  rw [joinPairs_sortKeys_obj plain, sorted_obj]
  constructor
  · rintro ⟨_, values⟩ key value found
    have listed : lookup key (sortItems (members.map fun member =>
        (member.1, member.2.sortKeys))) = some value.sortKeys := by
      rw [lookup_sortItems, lookup_map, found, Option.map_some]
    exact values _ (List.mem_map.mpr ⟨_, mem_of_lookup listed, rfl⟩)
  · intro values
    refine ⟨?_, ?_⟩
    · unfold Increasing at increasing ⊢
      rw [List.map_map]
      exact increasing
    · intro member membership
      rcases List.mem_map.mp membership with ⟨source, inSorted, rfl⟩
      have found := lookup_of_mem increasing.nodup inSorted
      rw [lookup_sortItems, lookup_map] at found
      rcases Option.map_eq_some_iff.mp found with ⟨value, inMembers, sorted⟩
      simp only [← sorted]
      exact values _ _ inMembers

/-- Canonical text is what its own reading prints exactly if the keys are stable. -/
theorem dumpsCanonical_joinPairs_iff (value : Json) :
    value.sortKeys.joinPairs.dumpsCanonical = value.dumpsCanonical ↔ KeysStable value := by
  constructor
  · intro same
    have read := parse_dumpsCanonical value.sortKeys.joinPairs
    have joined : Joined value.sortKeys.joinPairs := joinPairs_joinPairs _
    rw [same, parse_dumpsCanonical, Option.some.injEq, joined.sortKeys] at read
    rw [KeysStable, read]
    exact sorted_sortKeys _
  · intro stable
    rw [dumpsCanonical, sortKeys_of_sorted stable, print_joinPairs, dumpsCanonical]

end Json

end RemoteUnlock.Python
