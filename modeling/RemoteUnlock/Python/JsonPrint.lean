import RemoteUnlock.Python.Json

/-!
# Printing JSON

`print` is the printer with `ensure_ascii`: every character outside printable
ASCII is escaped, outside the basic plane as a surrogate pair.  A `Layout` is
the white space it puts between tokens; `compact` is the one of canonical text,
`spaced` the default one, `indented` the one with an indentation.
-/

namespace RemoteUnlock.Python

/-- A text of JSON white space only. -/
def IsSpace (text : Text) : Prop :=
  ∀ character ∈ text, character = ' ' ∨ character = '\t' ∨ character = '\n' ∨
    character = '\r'

/-- The white space of a printed text: before an item at a nesting level (and
before the closing bracket one level out), after a comma, after a colon. -/
structure Layout where
  newline : ℕ → Text
  afterComma : Text
  afterColon : Text
  newline_isSpace : ∀ level, IsSpace (newline level)
  afterComma_isSpace : IsSpace afterComma
  afterColon_isSpace : IsSpace afterColon

namespace Layout

/-- `separators=(",", ":")` -/
def compact : Layout where
  newline _ := []
  afterComma := []
  afterColon := []
  newline_isSpace := by simp [IsSpace]
  afterComma_isSpace := by simp [IsSpace]
  afterColon_isSpace := by simp [IsSpace]

/-- The default separators. -/
def spaced : Layout where
  newline _ := []
  afterComma := [' ']
  afterColon := [' ']
  newline_isSpace := by simp [IsSpace]
  afterComma_isSpace := by simp [IsSpace]
  afterColon_isSpace := by simp [IsSpace]

/-- `indent=width` -/
def indented (width : ℕ) : Layout where
  newline level := '\n' :: List.replicate (width * level) ' '
  afterComma := []
  afterColon := [' ']
  newline_isSpace := by
    intro level character membership
    rcases List.mem_cons.mp membership with newline | blank
    · exact .inr (.inr (.inl newline))
    · exact .inl (List.eq_of_mem_replicate blank)
  afterComma_isSpace := by simp [IsSpace]
  afterColon_isSpace := by simp [IsSpace]

end Layout

/-- `\uXXXX` for a code unit. -/
def escapeUnit (unit : ℕ) : Text :=
  ['\\', 'u', Nat.digitChar (unit / 4096 % 16), Nat.digitChar (unit / 256 % 16),
    Nat.digitChar (unit / 16 % 16), Nat.digitChar (unit % 16)]

def highSurrogate (point : CodePoint) : ℕ := 0xD800 + (point.val - 0x10000) / 1024

def lowSurrogate (point : CodePoint) : ℕ := 0xDC00 + (point.val - 0x10000) % 1024

/-- One character of a string, escaped so that the text is printable ASCII. -/
def escapeChar (point : CodePoint) : Text :=
  if point.val = 0x22 then ['\\', '"']
  else if point.val = 0x5C then ['\\', '\\']
  else if point.val = 0x0A then ['\\', 'n']
  else if point.val = 0x0D then ['\\', 'r']
  else if point.val = 0x09 then ['\\', 't']
  else if point.val = 0x0C then ['\\', 'f']
  else if point.val = 0x08 then ['\\', 'b']
  else if 0x20 ≤ point.val ∧ point.val ≤ 0x7E then [Char.ofNat point.val]
  else if point.val < 0x10000 then escapeUnit point.val
  else escapeUnit (highSurrogate point) ++ escapeUnit (lowSurrogate point)

def escape (text : PyStr) : Text := text.flatMap escapeChar

def quote (text : PyStr) : Text := '"' :: (escape text ++ ['"'])

def intText (number : ℤ) : Text :=
  if number < 0 then '-' :: natText number.natAbs else natText number.natAbs

def floatText : PyFloat → Text
  | .nan => ['N', 'a', 'N']
  | .infinity negative =>
      (if negative then ['-'] else []) ++
        ['I', 'n', 'f', 'i', 'n', 'i', 't', 'y']
  | .finite negative magnitude => (PyFloat.token negative magnitude).text

namespace Json

mutual

/-- `json.dumps` at a nesting level. -/
def print (layout : Layout) (level : ℕ) : Json → Text
  | .null => ['n', 'u', 'l', 'l']
  | .bool true => ['t', 'r', 'u', 'e']
  | .bool false => ['f', 'a', 'l', 's', 'e']
  | .int number => intText number
  | .float number => floatText number
  | .str text => quote text
  | .arr [] => ['[', ']']
  | .arr (element :: rest) =>
      '[' :: (layout.newline (level + 1) ++ (print layout (level + 1) element ++
        (printElements layout (level + 1) rest ++ (layout.newline level ++ [']']))))
  | .obj [] => ['{', '}']
  | .obj ((key, value) :: rest) =>
      '{' :: (layout.newline (level + 1) ++ (quote key ++ (':' :: (layout.afterColon ++
        (print layout (level + 1) value ++ (printMembers layout (level + 1) rest ++
          (layout.newline level ++ ['}'])))))))

def printElements (layout : Layout) (level : ℕ) : List Json → Text
  | [] => []
  | element :: rest =>
      ',' :: (layout.afterComma ++ (layout.newline level ++
        (print layout level element ++ printElements layout level rest)))

def printMembers (layout : Layout) (level : ℕ) : List (PyStr × Json) → Text
  | [] => []
  | (key, value) :: rest =>
      ',' :: (layout.afterComma ++ (layout.newline level ++ (quote key ++
        (':' :: (layout.afterColon ++ (print layout level value ++
          printMembers layout level rest))))))

end

/-- `json.dumps(value)` -/
def dumps (value : Json) : Text := print .spaced 0 value

/-- `json.dumps(value, indent=width)` -/
def dumpsIndent (width : ℕ) (value : Json) : Text := print (.indented width) 0 value

/-- `json.dumps(value, sort_keys=True, separators=(",", ":"), ensure_ascii=True)` -/
def dumpsCanonical (value : Json) : Text := print .compact 0 value.sortKeys

end Json

/-! ## The text is printable ASCII -/

/-- A printable ASCII character: nothing a line can be broken at. -/
def IsPrintable (character : Char) : Prop :=
  0x20 ≤ character.toNat ∧ character.toNat ≤ 0x7E

instance (character : Char) : Decidable (IsPrintable character) :=
  inferInstanceAs (Decidable (_ ∧ _))

def Printable (text : Text) : Prop := ∀ character ∈ text, IsPrintable character

instance (text : Text) : Decidable (Printable text) :=
  List.decidableBAll IsPrintable text

@[simp]
theorem printable_nil : Printable [] := by simp [Printable]

@[simp]
theorem printable_cons (character : Char) (text : Text) :
    Printable (character :: text) ↔ IsPrintable character ∧ Printable text := by
  simp [Printable]

@[simp]
theorem printable_append (first second : Text) :
    Printable (first ++ second) ↔ Printable first ∧ Printable second := by
  simp [Printable, or_imp, forall_and]

theorem isPrintable_digitChar_of_lt :
    ∀ digit, digit < 16 → IsPrintable (Nat.digitChar digit) := by decide

theorem isPrintable_of_isDigit {character : Char} (digit : character.isDigit = true) :
    IsPrintable character := by
  simp only [Char.isDigit, Bool.and_eq_true, decide_eq_true_eq] at digit
  have lower : 48 ≤ character.toNat := digit.1
  have upper : character.toNat ≤ 57 := digit.2
  unfold IsPrintable
  omega

theorem printable_of_isDigit {text : Text}
    (allDigits : ∀ digit ∈ text, digit.isDigit = true) : Printable text :=
  fun digit membership => isPrintable_of_isDigit (allDigits digit membership)

theorem printable_escapeUnit (unit : ℕ) : Printable (escapeUnit unit) := by
  have digit : ∀ value, IsPrintable (Nat.digitChar (value % 16)) :=
    fun value => isPrintable_digitChar_of_lt _ (Nat.mod_lt _ (by decide))
  simp only [escapeUnit, printable_cons, digit, printable_nil, and_self, and_true]
  decide

theorem printable_escapeChar (point : CodePoint) : Printable (escapeChar point) := by
  unfold escapeChar
  split_ifs with quote backslash newline carriage tab feed backspace inside plane
  · decide
  · decide
  · decide
  · decide
  · decide
  · decide
  · decide
  · have value : (Char.ofNat point.val).toNat = point.val :=
      toNat_charOfNat (by omega)
    simpa [IsPrintable, value] using inside
  · exact printable_escapeUnit _
  · exact (printable_append _ _).mpr ⟨printable_escapeUnit _, printable_escapeUnit _⟩

theorem printable_quote (text : PyStr) : Printable (quote text) := by
  have body : Printable (escape text) := by
    intro character membership
    rcases List.mem_flatMap.mp membership with ⟨point, _, inPoint⟩
    exact printable_escapeChar point character inPoint
  simp only [quote, printable_cons, printable_append, body, printable_nil, true_and,
    and_true]
  decide

theorem printable_intText (number : ℤ) : Printable (intText number) := by
  have digits := printable_of_isDigit (natText_isDigit number.natAbs)
  unfold intText
  split
  · exact (printable_cons _ _).mpr ⟨by decide, digits⟩
  · exact digits

theorem Decimal.WellFormed.printable {token : Decimal} (wellFormed : token.WellFormed) :
    Printable token.text := by
  have sign : Printable (if token.negative then ['-'] else []) := by
    split
    · decide
    · simp
  have integer := printable_of_isDigit wellFormed.integerDigits
  have fraction : Printable (fractionText token.fraction) := by
    cases written : token.fraction with
    | none => simp [fractionText]
    | some digits =>
        have part := wellFormed.fractionDigits digits (by simp [written])
        exact (printable_cons _ _).mpr ⟨by decide, printable_of_isDigit part.2⟩
  have exponent : Printable (exponentText token.exponent) := by
    cases written : token.exponent with
    | none => simp [exponentText]
    | some part =>
        have digits := wellFormed.exponentDigits part (by simp [written])
        simp only [exponentText, printable_cons, printable_of_isDigit digits.2, and_true]
        refine ⟨by decide, ?_⟩
        split <;> decide
  simp only [Decimal.text, printable_append, sign, integer, fraction, exponent, and_self]

theorem printable_floatText (number : PyFloat) : Printable (floatText number) := by
  cases number with
  | nan => decide
  | infinity negative => cases negative <;> decide
  | finite negative magnitude => exact (PyFloat.token_wellFormed _ _).printable

/-- Printable characters and those of the white space of a layout have a property. -/
structure Layout.Writes (layout : Layout) (holds : Char → Prop) : Prop where
  printable : ∀ character, IsPrintable character → holds character
  newline : ∀ level, ∀ character ∈ layout.newline level, holds character
  afterComma : ∀ character ∈ layout.afterComma, holds character
  afterColon : ∀ character ∈ layout.afterColon, holds character

theorem Layout.Writes.text {layout : Layout} {holds : Char → Prop} (writes : layout.Writes holds)
    {text : Text} (printable : Printable text) : ∀ character ∈ text, holds character :=
  fun character membership => writes.printable character (printable character membership)

namespace Json

section Writes

variable {layout : Layout} {holds : Char → Prop} (writes : layout.Writes holds)

include writes

mutual

/-- So do those of every text that is printed with it. -/
theorem holds_print : ∀ (level : ℕ) (value : Json),
    ∀ character ∈ print layout level value, holds character
  | _, .null => writes.text (by simp only [print]; decide)
  | _, .bool true => writes.text (by simp only [print]; decide)
  | _, .bool false => writes.text (by simp only [print]; decide)
  | _, .int number => writes.text (printable_intText number)
  | _, .float number => writes.text (printable_floatText number)
  | _, .str text => writes.text (printable_quote text)
  | _, .arr [] => writes.text (by simp only [print]; decide)
  | level, .arr (element :: rest) => by
      have head := holds_print (level + 1) element
      have tail := holds_printElements (level + 1) rest
      simp only [print, List.forall_mem_cons, List.forall_mem_append]
      exact ⟨writes.printable '[' (by decide), writes.newline _, head, tail, writes.newline _,
        writes.printable ']' (by decide), by simp⟩
  | _, .obj [] => writes.text (by simp only [print]; decide)
  | level, .obj ((key, value) :: rest) => by
      have head := holds_print (level + 1) value
      have tail := holds_printMembers (level + 1) rest
      simp only [print, List.forall_mem_cons, List.forall_mem_append]
      exact ⟨writes.printable '{' (by decide), writes.newline _, writes.text (printable_quote key),
        writes.printable ':' (by decide), writes.afterColon, head, tail, writes.newline _,
        writes.printable '}' (by decide), by simp⟩

theorem holds_printElements : ∀ (level : ℕ) (elements : List Json),
    ∀ character ∈ printElements layout level elements, holds character
  | _, [] => by simp [printElements]
  | level, element :: rest => by
      have head := holds_print level element
      have tail := holds_printElements level rest
      simp only [printElements, List.forall_mem_cons, List.forall_mem_append]
      exact ⟨writes.printable ',' (by decide), writes.afterComma, writes.newline _, head, tail⟩

theorem holds_printMembers : ∀ (level : ℕ) (members : List (PyStr × Json)),
    ∀ character ∈ printMembers layout level members, holds character
  | _, [] => by simp [printMembers]
  | level, (key, value) :: rest => by
      have head := holds_print level value
      have tail := holds_printMembers level rest
      simp only [printMembers, List.forall_mem_cons, List.forall_mem_append]
      exact ⟨writes.printable ',' (by decide), writes.afterComma, writes.newline _,
        writes.text (printable_quote key), writes.printable ':' (by decide), writes.afterColon,
        head, tail⟩

end

end Writes

theorem writes_compact : Layout.compact.Writes IsPrintable where
  printable _ printable := printable
  newline _ _ absent := absurd absent List.not_mem_nil
  afterComma _ absent := absurd absent List.not_mem_nil
  afterColon _ absent := absurd absent List.not_mem_nil

/-- Canonical text is one line of printable ASCII, whatever the value holds. -/
theorem printable_dumpsCanonical (value : Json) : Printable value.dumpsCanonical :=
  holds_print writes_compact 0 value.sortKeys

theorem writes_indented (width : ℕ) : (Layout.indented width).Writes (· ≠ '\r') where
  printable character printable := by
    rintro rfl
    exact absurd printable (by decide)
  newline level character membership := by
    rcases List.mem_cons.mp membership with rfl | blank
    · decide
    · rw [List.eq_of_mem_replicate blank]
      decide
  afterComma _ absent := absurd absent List.not_mem_nil
  afterColon character membership := by
    rw [List.mem_singleton.mp membership]
    decide

/-- Indented text has no line breaks but newlines. -/
theorem noCarriage_dumpsIndent (width : ℕ) (value : Json) :
    ∀ character ∈ value.dumpsIndent width, character ≠ '\r' :=
  holds_print (writes_indented width) 0 value

end Json

end RemoteUnlock.Python
