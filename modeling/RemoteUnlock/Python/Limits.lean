import RemoteUnlock.Python.JsonParse
import RemoteUnlock.Python.Exec

/-!
# What an interpreter refuses

The interpreter sets limits to its reader and printer of JSON: the bracket that would
open one array or object too many inside one another raises `RecursionError` as soon
as it is reached, and an integer with too many digits is refused as it is converted.
`loadsWithin` is the reader with these limits.  What it reads `loads` reads too, and
what it finds malformed `loads` does not read (`loads_agree`).
-/

namespace RemoteUnlock.Python

/-- How many arrays and objects inside one another are read and written, and how many
digits of an integer are read; no digits stand for no limit. -/
structure Limits where
  reads : ℕ
  writes : ℕ
  digits : ℕ

/-- The limits an interpreter starts with. -/
def initialLimits : Limits := ⟨1000, 1000, 4300⟩

namespace Json

/-- `int(token)` refuses the digits. -/
def tooLong (digits : ℕ) (token : Decimal) : Prop :=
  token.fraction = none ∧ token.exponent = none ∧ digits ≠ 0 ∧ digits < token.integer.length

instance (digits : ℕ) (token : Decimal) : Decidable (tooLong digits token) :=
  inferInstanceAs (Decidable (_ ∧ _ ∧ _ ∧ _))

def scanScalarWithin (digits : ℕ) (text : Text) : Except PyExc (Json × Text) :=
  match words.findSome? fun word => (afterWord word.1 text).map fun rest => (word.2, rest) with
  | some scanned => .ok scanned
  | none =>
      match Decimal.scan text with
      | none => .error .jsonDecodeError
      | some (token, rest) =>
          if tooLong digits token then .error .valueError else .ok (ofDecimal token, rest)

mutual

/-- `parseValue` with the number of arrays and objects that may still be opened. -/
def parseValueWithin (digits : ℕ) : ℕ → ℕ → Text → Except PyExc (Json × Text)
  | 0, _, _ => .error .jsonDecodeError
  | _ + 1, _, [] => .error .jsonDecodeError
  | fuel + 1, levels, first :: rest =>
      if first = '"' then
        match scanString fuel rest with
        | none => .error .jsonDecodeError
        | some (read, rest) => .ok (.str read, rest)
      else if first = '[' then
        if levels = 0 then .error .recursionError
        else if (skipSpace rest).head? = some ']' then .ok (.arr [], (skipSpace rest).tail)
        else (parseElementsWithin digits fuel (levels - 1) (skipSpace rest)).map fun parsed =>
          (.arr parsed.1, parsed.2)
      else if first = '{' then
        if levels = 0 then .error .recursionError
        else if (skipSpace rest).head? = some '}' then .ok (.obj [], (skipSpace rest).tail)
        else (parseMembersWithin digits fuel (levels - 1) (skipSpace rest)).map fun parsed =>
          (.obj parsed.1, parsed.2)
      else scanScalarWithin digits (first :: rest)

def parseElementsWithin (digits : ℕ) : ℕ → ℕ → Text → Except PyExc (List Json × Text)
  | 0, _, _ => .error .jsonDecodeError
  | fuel + 1, levels, text =>
      match parseValueWithin digits fuel levels text with
      | .error exc => .error exc
      | .ok (element, rest) =>
          match skipSpace rest with
          | ']' :: rest => .ok ([element], rest)
          | ',' :: rest =>
              (parseElementsWithin digits fuel levels (skipSpace rest)).map fun parsed =>
                (element :: parsed.1, parsed.2)
          | _ => .error .jsonDecodeError

def parseMembersWithin (digits : ℕ) :
    ℕ → ℕ → Text → Except PyExc (List (PyStr × Json) × Text)
  | 0, _, _ => .error .jsonDecodeError
  | _ + 1, _, [] => .error .jsonDecodeError
  | fuel + 1, levels, first :: rest =>
      if first = '"' then
        match scanString fuel rest with
        | none => .error .jsonDecodeError
        | some (key, rest) =>
            match skipSpace rest with
            | ':' :: rest =>
                match parseValueWithin digits fuel levels (skipSpace rest) with
                | .error exc => .error exc
                | .ok (value, rest) =>
                    match skipSpace rest with
                    | '}' :: rest => .ok ([(key, value)], rest)
                    | ',' :: rest =>
                        (parseMembersWithin digits fuel levels (skipSpace rest)).map
                          fun parsed => ((key, value) :: parsed.1, parsed.2)
                    | _ => .error .jsonDecodeError
            | _ => .error .jsonDecodeError
      else .error .jsonDecodeError

end

/-- `json.loads(text)` -/
def loadsWithin (limits : Limits) (text : Text) : Except PyExc Json :=
  if text.head? = some '\uFEFF' then .error .jsonDecodeError
  else
    match parseValueWithin limits.digits (2 * text.length + 1) limits.reads
        (skipSpace text) with
    | .error exc => .error exc
    | .ok (value, rest) =>
        if skipSpace rest = [] then .ok (buildDicts value) else .error .jsonDecodeError

mutual

/-- How many arrays and objects of a value stand inside one another. -/
def nesting : Json → ℕ
  | .arr elements => elementsNesting elements + 1
  | .obj members => membersNesting members + 1
  | _ => 0

def elementsNesting : List Json → ℕ
  | [] => 0
  | element :: elements => max (nesting element) (elementsNesting elements)

def membersNesting : List (PyStr × Json) → ℕ
  | [] => 0
  | (_, value) :: members => max (nesting value) (membersNesting members)

end

/-! ## What is read without a limit -/

/-- What a reader with limits raises. -/
def refusals : List PyExc := [.jsonDecodeError, .valueError, .recursionError]

/-- A reader with limits that agrees with one without: it reads the same, and what it finds
malformed the other does not read either. -/
structure ReadsAs {α : Type} (limited : Except PyExc α) (unlimited : Option α) : Prop where
  reads : ∀ value, limited = .ok value → unlimited = some value
  malformed : limited = .error .jsonDecodeError → unlimited = none
  refuses : ∀ exc, limited = .error exc → exc ∈ refusals

namespace ReadsAs

variable {α β : Type}

theorem ok (value : α) : ReadsAs (.ok value) (some value) :=
  ⟨by simp, by simp, by simp⟩

theorem unread : ReadsAs (.error .jsonDecodeError) (none : Option α) :=
  ⟨by simp, by simp, by simp [refusals]⟩

theorem refused {exc : PyExc} (refusal : exc ∈ refusals) (other : exc ≠ .jsonDecodeError)
    (unlimited : Option α) : ReadsAs (.error exc) unlimited :=
  ⟨by simp, by simp [other], by simpa using refusal⟩

/-- A refusal is passed on. -/
theorem passed {limited : Except PyExc α} {unlimited : Option α}
    (agree : ReadsAs limited unlimited) {exc : PyExc} (raised : limited = .error exc)
    {outer : Option β} (unread : unlimited = none → outer = none) :
    ReadsAs (.error exc) outer := by
  refine ⟨by simp, fun same => unread (agree.malformed ?_), ?_⟩
  · rw [raised, Except.error.inj same]
  · intro other same
    rw [← Except.error.inj same]
    exact agree.refuses exc raised

theorem map {limited : Except PyExc α} {unlimited : Option α}
    (agree : ReadsAs limited unlimited) (change : α → β) :
    ReadsAs (limited.map change) (unlimited.map change) := by
  cases read : limited with
  | ok value =>
      rw [agree.reads value read]
      exact .ok (change value)
  | error exc => exact agree.passed read fun unread => by rw [unread]; rfl

end ReadsAs

theorem scanScalar_agree (digits : ℕ) (text : Text) :
    ReadsAs (scanScalarWithin digits text) (scanScalar text) := by
  unfold scanScalarWithin scanScalar
  cases words.findSome? fun word =>
      (afterWord word.1 text).map fun rest => (word.2, rest) with
  | some scanned => exact .ok _
  | none =>
    cases Decimal.scan text with
    | none => exact .unread
    | some scanned =>
        simp only [Option.map_some]
        split
        · exact .refused (by decide) (by decide) _
        · exact .ok _

/-- The two readers agree as long as no limit is reached. -/
theorem parse_agree (digits fuel : ℕ) :
    (∀ levels text,
      ReadsAs (parseValueWithin digits fuel levels text) (parseValue fuel text)) ∧
    (∀ levels text,
      ReadsAs (parseElementsWithin digits fuel levels text) (parseElements fuel text)) ∧
    (∀ levels text,
      ReadsAs (parseMembersWithin digits fuel levels text) (parseMembers fuel text)) := by
  induction fuel with
  | zero => exact ⟨fun _ _ => .unread, fun _ _ => .unread, fun _ _ => .unread⟩
  | succ fuel inductionHypothesis =>
      obtain ⟨valueStep, elementsStep, membersStep⟩ := inductionHypothesis
      refine ⟨?_, ?_, ?_⟩
      · intro levels text
        cases text with
        | nil => exact .unread
        | cons first rest =>
            unfold parseValueWithin parseValue
            split
            · cases scanString fuel rest with
              | none => exact .unread
              | some scanned => exact .ok _
            · split
              · split
                · exact .refused (by decide) (by decide) _
                · split
                  · exact .ok _
                  · exact (elementsStep _ _).map _
              · split
                · split
                  · exact .refused (by decide) (by decide) _
                  · split
                    · exact .ok _
                    · exact (membersStep _ _).map _
                · exact scanScalar_agree digits _
      · intro levels text
        have element := valueStep levels text
        unfold parseElementsWithin parseElements
        cases parsed : parseValueWithin digits fuel levels text with
        | error exc => exact element.passed parsed fun unread => by rw [unread]
        | ok read =>
            rw [element.reads read parsed]
            simp only
            split
            next _ after closed =>
              try simp only [closed]
              exact .ok _
            next _ after more =>
              try simp only [more]
              exact (elementsStep _ _).map _
            next notClosed notMore =>
              first
              | exact .unread
              | split
                next after closed => exact absurd closed (notClosed after)
                next after more => exact absurd more (notMore after)
                · exact .unread
      · intro levels text
        cases text with
        | nil => exact .unread
        | cons first rest =>
            unfold parseMembersWithin parseMembers
            split
            · cases scanString fuel rest with
              | none => exact .unread
              | some scanned =>
                  simp only
                  split
                  next _ behind colon =>
                    have member := valueStep levels (skipSpace behind)
                    try simp only [colon]
                    cases parsed : parseValueWithin digits fuel levels (skipSpace behind) with
                    | error exc => exact member.passed parsed fun unread => by rw [unread]
                    | ok read =>
                        rw [member.reads read parsed]
                        simp only
                        split
                        next _ after closed =>
                          try simp only [closed]
                          exact .ok _
                        next _ after more =>
                          try simp only [more]
                          exact (membersStep _ _).map _
                        next notClosed notMore =>
                          first
                          | exact .unread
                          | split
                            next after closed => exact absurd closed (notClosed after)
                            next after more => exact absurd more (notMore after)
                            · exact .unread
                  next noColon =>
                    first
                    | exact .unread
                    | split
                      next behind colon => exact absurd colon (noColon behind)
                      · exact .unread
            · exact .unread

theorem loads_agree (limits : Limits) (text : Text) :
    ReadsAs (loadsWithin limits text) (loads text) := by
  have value := (parse_agree limits.digits (2 * text.length + 1)).1 limits.reads
    (skipSpace text)
  unfold loadsWithin loads parse
  split
  · exact .unread
  · cases parsed : parseValueWithin limits.digits (2 * text.length + 1) limits.reads
        (skipSpace text) with
    | error exc => exact value.passed parsed fun unread => by rw [unread]; rfl
    | ok read =>
        rw [value.reads read parsed]
        simp only
        split
        · exact .ok _
        · exact .unread

theorem loads_of_loadsWithin {limits : Limits} {text : Text} {value : Json}
    (loaded : loadsWithin limits text = .ok value) : loads text = some value :=
  (loads_agree limits text).reads value loaded

/-! ## Brackets inside one another -/

/-- The reader goes into no more brackets than its limit, whatever stands behind them. -/
theorem parseValueWithin_brackets (digits : ℕ) {fuel levels : ℕ} (rest : Text)
    (enough : 2 * levels < fuel) :
    parseValueWithin digits fuel levels (List.replicate (levels + 1) '[' ++ rest) =
      .error .recursionError := by
  induction levels generalizing fuel with
  | zero =>
      obtain ⟨fuel, rfl⟩ := Nat.exists_eq_add_of_lt enough
      simp [parseValueWithin, List.replicate_succ]
  | succ levels inductionHypothesis =>
      obtain ⟨fuel, rfl⟩ : ∃ less, fuel = less + 2 := ⟨fuel - 2, by omega⟩
      have inside : parseValueWithin digits fuel levels (List.replicate (levels + 1) '[' ++ rest) =
          .error .recursionError := inductionHypothesis (by omega)
      rw [List.replicate_succ, List.cons_append]
      unfold parseValueWithin parseElementsWithin
      rw [List.replicate_succ, List.cons_append] at inside ⊢
      simp [skipSpace, isSpace, inside, Except.map]

theorem loadsWithin_brackets (limits : Limits) (rest : Text) :
    loadsWithin limits (List.replicate (limits.reads + 1) '[' ++ rest) =
      .error .recursionError := by
  have enough : 2 * limits.reads <
      2 * (List.replicate (limits.reads + 1) '[' ++ rest).length + 1 := by
    simp only [List.length_append, List.length_replicate]
    omega
  have brackets := parseValueWithin_brackets limits.digits rest enough
  unfold loadsWithin
  rw [List.replicate_succ, List.cons_append] at brackets ⊢
  simp only [List.head?_cons, Option.some.injEq, Char.reduceEq, if_false]
  have first : skipSpace ('[' :: (List.replicate limits.reads '[' ++ rest)) =
      '[' :: (List.replicate limits.reads '[' ++ rest) := by
    simp [skipSpace, isSpace]
  rw [first, brackets]

end Json

end RemoteUnlock.Python
