import RemoteUnlock.Python.Json

/-!
# Reading JSON

`loads` is the reader with its defaults: strict about control characters in
strings, lenient about `NaN` and `Infinity`, joining the two escapes of a
surrogate pair.  `parseValue` recurses on a fuel that bounds the characters left;
`loads` supplies twice the length of the text.  A reader error is `none`.  The
interpreter's own limits (recursion depth, the length of an integer literal) are
those of `loadsWithin`.
-/

namespace RemoteUnlock.Python

open CodePoint

def hexValue (character : Char) : Option ℕ :=
  if character.isDigit then some (character.toNat - 48)
  else if 'a' ≤ character ∧ character ≤ 'f' then some (character.toNat - 87)
  else if 'A' ≤ character ∧ character ≤ 'F' then some (character.toNat - 55)
  else none

/-- The code unit of four hexadecimal digits at the front of a text. -/
def scanUnit : Text → Option (CodePoint × Text)
  | first :: second :: third :: fourth :: rest => do
      let first ← hexValue first
      let second ← hexValue second
      let third ← hexValue third
      let fourth ← hexValue fourth
      pure (ofNat (4096 * first + 256 * second + 16 * third + fourth), rest)
  | _ => none

/-- After the escape of a high surrogate: the escape of a low one, if it follows. -/
def scanLow (high : CodePoint) : Text → Option (CodePoint × Text)
  | '\\' :: 'u' :: rest =>
      if high.isHigh then
        match scanUnit rest with
        | some (low, rest) => if low.isLow then some (low, rest) else none
        | none => none
      else none
  | _ => none

def unescape (character : Char) : Option Char :=
  if character = '"' then some '"'
  else if character = '\\' then some '\\'
  else if character = '/' then some '/'
  else if character = 'b' then some (Char.ofNat 8)
  else if character = 'f' then some (Char.ofNat 12)
  else if character = 'n' then some '\n'
  else if character = 'r' then some '\r'
  else if character = 't' then some '\t'
  else none

def consFst (unit : CodePoint) (scanned : PyStr × Text) : PyStr × Text :=
  (unit :: scanned.1, scanned.2)

/-- The rest of a string literal, after its opening quote. -/
def scanString : ℕ → Text → Option (PyStr × Text)
  | 0, _ => none
  | _ + 1, [] => none
  | fuel + 1, first :: rest =>
      if first = '"' then some ([], rest)
      else if first = '\\' then
        match rest with
        | [] => none
        | marker :: rest =>
            if marker = 'u' then
              match scanUnit rest with
              | none => none
              | some (unit, rest) =>
                  match scanLow unit rest with
                  | some (low, rest) => (scanString fuel rest).map (consFst (join unit low))
                  | none => (scanString fuel rest).map (consFst unit)
            else
              match unescape marker with
              | none => none
              | some character => (scanString fuel rest).map (consFst (ofChar character))
      else if first.toNat < 0x20 then none
      else (scanString fuel rest).map (consFst (ofChar first))

def isSpace (character : Char) : Bool :=
  character = ' ' || character = '\t' || character = '\n' || character = '\r'

def skipSpace (text : Text) : Text := text.dropWhile isSpace

/-- The text behind a fixed word, if it starts with the word. -/
def afterWord (word : Text) (text : Text) : Option Text :=
  if word.isPrefixOf text then some (text.drop word.length) else none

namespace Json

def ofDecimal (token : Decimal) : Json :=
  if token.fraction = none ∧ token.exponent = none then
    let magnitude : ℤ := Nat.ofDigitChars 10 token.integer 0
    .int (if token.negative then -magnitude else magnitude)
  else .float (PyFloat.ofDecimal token)

def words : List (Text × Json) :=
  [("null".toList, .null), ("true".toList, .bool true), ("false".toList, .bool false),
    ("NaN".toList, .float .nan), ("Infinity".toList, .float (.infinity false)),
    ("-Infinity".toList, .float (.infinity true))]

/-- A constant or a number. -/
def scanScalar (text : Text) : Option (Json × Text) :=
  match words.findSome? fun word => (afterWord word.1 text).map fun rest => (word.2, rest) with
  | some scanned => some scanned
  | none => (Decimal.scan text).map fun scanned => (ofDecimal scanned.1, scanned.2)

mutual

/-- One value at the front of a text.  The pairs of an object are kept as read. -/
def parseValue : ℕ → Text → Option (Json × Text)
  | 0, _ => none
  | _ + 1, [] => none
  | fuel + 1, first :: rest =>
      if first = '"' then
        (scanString fuel rest).map fun scanned => (.str scanned.1, scanned.2)
      else if first = '[' then
        if (skipSpace rest).head? = some ']' then some (.arr [], (skipSpace rest).tail)
        else (parseElements fuel (skipSpace rest)).map fun parsed =>
          (.arr parsed.1, parsed.2)
      else if first = '{' then
        if (skipSpace rest).head? = some '}' then some (.obj [], (skipSpace rest).tail)
        else (parseMembers fuel (skipSpace rest)).map fun parsed =>
          (.obj parsed.1, parsed.2)
      else scanScalar (first :: rest)

/-- The elements of an array and its closing bracket. -/
def parseElements : ℕ → Text → Option (List Json × Text)
  | 0, _ => none
  | fuel + 1, text =>
      match parseValue fuel text with
      | none => none
      | some (element, rest) =>
          match skipSpace rest with
          | ']' :: rest => some ([element], rest)
          | ',' :: rest => (parseElements fuel (skipSpace rest)).map fun parsed =>
              (element :: parsed.1, parsed.2)
          | _ => none

/-- The pairs of an object and its closing brace. -/
def parseMembers : ℕ → Text → Option (List (PyStr × Json) × Text)
  | 0, _ => none
  | _ + 1, [] => none
  | fuel + 1, first :: rest =>
      if first = '"' then
        match scanString fuel rest with
        | none => none
        | some (key, rest) =>
            match skipSpace rest with
            | ':' :: rest =>
                match parseValue fuel (skipSpace rest) with
                | none => none
                | some (value, rest) =>
                    match skipSpace rest with
                    | '}' :: rest => some ([(key, value)], rest)
                    | ',' :: rest => (parseMembers fuel (skipSpace rest)).map fun parsed =>
                        ((key, value) :: parsed.1, parsed.2)
                    | _ => none
            | _ => none
      else none

end

/-- A whole text as one value, with white space around it. -/
def parse (text : Text) : Option Json :=
  if text.head? = some '\uFEFF' then none
  else
    match parseValue (2 * text.length + 1) (skipSpace text) with
    | some (value, rest) => if skipSpace rest = [] then some value else none
    | none => none

/-- `json.loads(text)` -/
def loads (text : Text) : Option Json := (parse text).map buildDicts

end Json

/-! ## What is read has no surrogate pair left -/

theorem scanLow_isLow {high low : CodePoint} {text rest : Text}
    (scanned : scanLow high text = some (low, rest)) :
    high.isHigh = true ∧ low.isLow = true := by
  unfold scanLow at scanned
  split at scanned
  · split at scanned
    next isHighUnit =>
      split at scanned
      · split at scanned
        next isLowUnit =>
          cases scanned
          exact ⟨isHighUnit, isLowUnit⟩
        · simp at scanned
      · simp at scanned
    · simp at scanned
  · simp at scanned

/-- A string that reads as starting with a low surrogate starts with its escape. -/
theorem scanLow_of_scanString {fuel : ℕ} {text rest : Text} {high low : CodePoint}
    {tail : PyStr} (scanned : scanString fuel text = some (low :: tail, rest))
    (isHighUnit : high.isHigh = true) (isLowUnit : low.isLow = true) :
    scanLow high text ≠ none := by
  have notLow : ∀ {unit : CodePoint} {result : Option (PyStr × Text)},
      result.map (consFst unit) = some (low :: tail, rest) → unit.isLow = false → False := by
    intro unit result mapped absent
    rcases Option.map_eq_some_iff.mp mapped with ⟨⟨inner, after⟩, _, equality⟩
    simp only [consFst, Prod.mk.injEq, List.cons.injEq] at equality
    rw [equality.1.1, isLowUnit] at absent
    contradiction
  cases fuel with
  | zero => simp [scanString] at scanned
  | succ fuel =>
      cases text with
      | nil => simp [scanString] at scanned
      | cons first text =>
          unfold scanString at scanned
          split at scanned
          · simp at scanned
          · split at scanned
            next backslash =>
              subst backslash
              split at scanned
              · simp at scanned
              · split at scanned
                next marker =>
                  subst marker
                  split at scanned
                  · simp at scanned
                  next unit after unitScanned =>
                    split at scanned
                    next pairLow afterPair pair =>
                      rcases scanLow_isLow pair with ⟨unitHigh, pairLow⟩
                      exact (notLow scanned (isLow_join unitHigh pairLow)).elim
                    · rcases Option.map_eq_some_iff.mp scanned with
                        ⟨⟨inner, behind⟩, _, equality⟩
                      simp only [consFst, Prod.mk.injEq, List.cons.injEq] at equality
                      rw [← equality.1.1] at isLowUnit
                      simp [scanLow, isHighUnit, unitScanned, isLowUnit]
                · split at scanned
                  · simp at scanned
                  · exact (notLow scanned (isLow_ofChar _)).elim
            · split at scanned
              · simp at scanned
              · exact (notLow scanned (isLow_ofChar _)).elim

theorem unpaired_of_map_consFst {scanned : Option (PyStr × Text)} {unit : CodePoint}
    {read : PyStr} {rest : Text}
    (inner : ∀ tail after, scanned = some (tail, after) → PyStr.Unpaired tail)
    (notHigh : unit.isHigh = false)
    (mapped : scanned.map (consFst unit) = some (read, rest)) : PyStr.Unpaired read := by
  rcases Option.map_eq_some_iff.mp mapped with ⟨⟨tail, after⟩, tailScanned, equality⟩
  simp only [consFst, Prod.mk.injEq] at equality
  rw [← equality.1]
  exact PyStr.unpaired_cons_of_not_isHigh notHigh (inner tail after tailScanned)

theorem unpaired_of_scanString {fuel : ℕ} {text rest : Text} {read : PyStr}
    (scanned : scanString fuel text = some (read, rest)) : PyStr.Unpaired read := by
  induction fuel generalizing text rest read with
  | zero => simp [scanString] at scanned
  | succ fuel inductionHypothesis =>
      have inner : ∀ text tail after, scanString fuel text = some (tail, after) →
          PyStr.Unpaired tail := fun _ _ _ => inductionHypothesis
      cases text with
      | nil => simp [scanString] at scanned
      | cons first text =>
          unfold scanString at scanned
          split at scanned
          · cases scanned
            trivial
          · split at scanned
            · split at scanned
              · simp at scanned
              · split at scanned
                · split at scanned
                  · simp at scanned
                  next unit after _ =>
                    split at scanned
                    next low afterPair pair =>
                      rcases scanLow_isLow pair with ⟨unitHigh, pairLow⟩
                      exact unpaired_of_map_consFst (inner _)
                        (isHigh_join unitHigh pairLow) scanned
                    next noPair =>
                      rcases Option.map_eq_some_iff.mp scanned with
                        ⟨⟨tail, behind⟩, tailScanned, equality⟩
                      simp only [consFst, Prod.mk.injEq] at equality
                      rw [← equality.1]
                      have tailUnpaired := inner _ tail behind tailScanned
                      cases tail with
                      | nil => trivial
                      | cons next tail =>
                          refine ⟨?_, tailUnpaired⟩
                          rintro ⟨isHighUnit, isLowUnit⟩
                          exact scanLow_of_scanString tailScanned isHighUnit isLowUnit noPair
                · split at scanned
                  · simp at scanned
                  · exact unpaired_of_map_consFst (inner _) (isHigh_ofChar _) scanned
            · split at scanned
              · simp at scanned
              · exact unpaired_of_map_consFst (inner _) (isHigh_ofChar _) scanned

namespace Json

theorem joined_ofDecimal (token : Decimal) : Joined (ofDecimal token) := by
  unfold ofDecimal
  split <;> rfl

theorem joined_of_scanScalar {text rest : Text} {value : Json}
    (scanned : scanScalar text = some (value, rest)) : Joined value := by
  unfold scanScalar at scanned
  split at scanned
  next result found =>
    cases scanned
    rcases List.exists_of_findSome?_eq_some found with ⟨word, membership, mapped⟩
    rcases Option.map_eq_some_iff.mp mapped with ⟨after, _, equality⟩
    cases equality
    simp only [words, List.mem_cons, List.not_mem_nil, or_false] at membership
    rcases membership with rfl | rfl | rfl | rfl | rfl | rfl <;> rfl
  · rcases Option.map_eq_some_iff.mp scanned with ⟨token, _, equality⟩
    cases equality
    exact joined_ofDecimal token.1

/-- Everything read off a text is joined: one step of the parser's fuel at a time. -/
theorem joined_of_parse (fuel : ℕ) :
    (∀ text value rest, parseValue fuel text = some (value, rest) → Joined value) ∧
    (∀ text elements rest, parseElements fuel text = some (elements, rest) →
      Joined (.arr elements)) ∧
    (∀ text members rest, parseMembers fuel text = some (members, rest) →
      Joined (.obj members)) := by
  induction fuel with
  | zero =>
      refine ⟨?_, ?_, ?_⟩ <;> intro text result rest parsed <;>
        simp [parseValue, parseElements, parseMembers] at parsed
  | succ fuel inductionHypothesis =>
      rcases inductionHypothesis with ⟨valueStep, elementsStep, membersStep⟩
      refine ⟨?_, ?_, ?_⟩
      · intro text value rest parsed
        cases text with
        | nil => simp [parseValue] at parsed
        | cons first text =>
            unfold parseValue at parsed
            split at parsed
            · rcases Option.map_eq_some_iff.mp parsed with ⟨⟨read, after⟩, scanned, equality⟩
              cases equality
              exact congrArg _ (PyStr.joinPairs_of_unpaired (unpaired_of_scanString scanned))
            · split at parsed
              · split at parsed
                · cases parsed
                  rfl
                · rcases Option.map_eq_some_iff.mp parsed with ⟨⟨elements, after⟩, inner, equality⟩
                  cases equality
                  exact elementsStep _ _ _ inner
              · split at parsed
                · split at parsed
                  · cases parsed
                    rfl
                  · rcases Option.map_eq_some_iff.mp parsed with
                      ⟨⟨members, after⟩, inner, equality⟩
                    cases equality
                    exact membersStep _ _ _ inner
                · exact joined_of_scanScalar parsed
      · intro text elements rest parsed
        unfold parseElements at parsed
        split at parsed
        · simp at parsed
        next element after elementParsed =>
          have elementJoined := valueStep _ _ _ elementParsed
          split at parsed
          · cases parsed
            rw [joined_arr]
            simpa using elementJoined
          · rcases Option.map_eq_some_iff.mp parsed with ⟨⟨others, behind⟩, inner, equality⟩
            cases equality
            have othersJoined := joined_arr.mp (elementsStep _ _ _ inner)
            rw [joined_arr, List.forall_mem_cons]
            exact ⟨elementJoined, othersJoined⟩
          · simp at parsed
      · intro text members rest parsed
        cases text with
        | nil => simp [parseMembers] at parsed
        | cons first text =>
            unfold parseMembers at parsed
            split at parsed
            · split at parsed
              · simp at parsed
              next key afterKey keyScanned =>
                have keyJoined := PyStr.joinPairs_of_unpaired (unpaired_of_scanString keyScanned)
                split at parsed
                · split at parsed
                  · simp at parsed
                  next value afterValue valueParsed =>
                    have valueJoined := valueStep _ _ _ valueParsed
                    split at parsed
                    · cases parsed
                      rw [joined_obj]
                      simpa using ⟨keyJoined, valueJoined⟩
                    · rcases Option.map_eq_some_iff.mp parsed with
                        ⟨⟨others, behind⟩, inner, equality⟩
                      cases equality
                      have othersJoined := joined_obj.mp (membersStep _ _ _ inner)
                      rw [joined_obj, List.forall_mem_cons]
                      exact ⟨⟨keyJoined, valueJoined⟩, othersJoined⟩
                    · simp at parsed
                · simp at parsed
            · simp at parsed

/-- A value that was read has no surrogate pair left to join. -/
theorem joined_of_loads {text : Text} {value : Json} (loaded : loads text = some value) :
    Joined value := by
  rcases Option.map_eq_some_iff.mp loaded with ⟨raw, parsed, equality⟩
  rw [← equality]
  apply Joined.buildDicts
  unfold parse at parsed
  split at parsed
  · simp at parsed
  · split at parsed
    next inner rest innerParsed =>
      split at parsed
      · cases parsed
        exact (joined_of_parse _).1 _ _ _ innerParsed
      · simp at parsed
    · simp at parsed

end Json

end RemoteUnlock.Python
