import Mathlib.Data.List.Basic
import RemoteUnlock.Python.Text

/-!
# Text files

`openLines` is a file opened as UTF-8 text and iterated line by line: its bytes
arrive in chunks, each is decoded as far as it goes, the three line endings count
as one, and a chunk that does not decode ends the iteration with an error after
the lines completed before it.
-/

namespace RemoteUnlock.Python

abbrev Bytes := List UInt8

/-- `text.encode()` -/
def encode (text : Text) : Bytes := text.flatMap String.utf8EncodeChar

/-! ## Decoding -/

/-- Between two bytes: at the start of a character, or before `count` more bytes of
it, the next of them between `low` and `high`. -/
inductive Utf8State where
  | start
  | tail (count accumulated low high : ℕ)
  deriving DecidableEq, Repr

namespace Utf8State

/-- Take one byte; the text is the character it completes. -/
def step : Utf8State → UInt8 → Option (Utf8State × Text)
  | .start, byte =>
      let value := byte.toNat
      if value < 0x80 then some (.start, [Char.ofNat value])
      else if value < 0xC2 then none
      else if value < 0xE0 then some (.tail 1 (value - 0xC0) 0x80 0xBF, [])
      else if value = 0xE0 then some (.tail 2 0 0xA0 0xBF, [])
      else if value = 0xED then some (.tail 2 0xD 0x80 0x9F, [])
      else if value < 0xF0 then some (.tail 2 (value - 0xE0) 0x80 0xBF, [])
      else if value = 0xF0 then some (.tail 3 0 0x90 0xBF, [])
      else if value < 0xF4 then some (.tail 3 (value - 0xF0) 0x80 0xBF, [])
      else if value = 0xF4 then some (.tail 3 4 0x80 0x8F, [])
      else none
  | .tail count accumulated low high, byte =>
      let value := byte.toNat
      if low ≤ value ∧ value ≤ high then
        let accumulated := 64 * accumulated + (value - 0x80)
        if count = 1 then some (.start, [Char.ofNat accumulated])
        else some (.tail (count - 1) accumulated 0x80 0xBF, [])
      else none

def run : Utf8State → Bytes → Option (Utf8State × Text)
  | state, [] => some (state, [])
  | state, byte :: rest =>
      match step state byte with
      | none => none
      | some (state, text) => (run state rest).map fun (state, more) => (state, text ++ more)

theorem run_append (state : Utf8State) (first second : Bytes) :
    run state (first ++ second) =
      (run state first).bind fun (middle, text) =>
        (run middle second).map fun (final, more) => (final, text ++ more) := by
  induction first generalizing state with
  | nil => simp [run]
  | cons byte first inductionHypothesis =>
      simp only [List.cons_append, run]
      cases step state byte with
      | none => rfl
      | some next =>
          rcases next with ⟨state, text⟩
          simp only [inductionHypothesis, Option.map_bind, Option.bind_map]
          cases run state first with
          | none => rfl
          | some reached =>
              rcases reached with ⟨middle, more⟩
              simp only [Option.bind_some, Function.comp_apply, Option.map_map]
              congr 1
              funext final
              simp [List.append_assoc]

theorem toNat_ofNat_of_lt {value : ℕ} (small : value < 256) :
    (UInt8.ofNat value).toNat = value := by
  rw [UInt8.toNat_ofNat']
  exact Nat.mod_eq_of_lt small

/-- The last byte of a character. -/
theorem step_last (accumulated low high value : ℕ) (small : value < 256)
    (inRange : low ≤ value ∧ value ≤ high) :
    step (.tail 1 accumulated low high) (UInt8.ofNat value) =
      some (.start, [Char.ofNat (64 * accumulated + (value - 0x80))]) := by
  simp only [step, toNat_ofNat_of_lt small, if_pos inRange, if_true]

/-- A byte in front of it. -/
theorem step_tail (count accumulated low high value : ℕ) (more : count ≠ 1) (small : value < 256)
    (inRange : low ≤ value ∧ value ≤ high) :
    step (.tail count accumulated low high) (UInt8.ofNat value) =
      some (.tail (count - 1) (64 * accumulated + (value - 0x80)) 0x80 0xBF, []) := by
  simp only [step, toNat_ofNat_of_lt small, if_pos inRange, if_neg more]

theorem step_one {value : ℕ} (small : value < 0x80) :
    step .start (UInt8.ofNat value) = some (.start, [Char.ofNat value]) := by
  simp only [step, toNat_ofNat_of_lt (by omega : value < 256)]
  rw [if_pos small]

theorem step_two {value : ℕ} (first : 0xC2 ≤ value) (last : value < 0xE0) :
    step .start (UInt8.ofNat value) = some (.tail 1 (value - 0xC0) 0x80 0xBF, []) := by
  simp only [step, toNat_ofNat_of_lt (by omega : value < 256)]
  rw [if_neg (by omega), if_neg (by omega), if_pos last]

/-- The first byte of three bounds the second, which leaves out surrogates. -/
theorem step_three {value : ℕ} (first : 0xE0 ≤ value) (last : value < 0xF0) :
    step .start (UInt8.ofNat value) =
      some (.tail 2 (value - 0xE0) (if value = 0xE0 then 0xA0 else 0x80)
        (if value = 0xED then 0x9F else 0xBF), []) := by
  by_cases zero : value = 0xE0
  · subst zero
    rfl
  by_cases surrogate : value = 0xED
  · subst surrogate
    rfl
  simp only [step, toNat_ofNat_of_lt (by omega : value < 256), if_neg zero, if_neg surrogate]
  rw [if_neg (by omega), if_neg (by omega), if_neg (by omega), if_pos last]

/-- The first byte of four bounds the second, which leaves out what is no code point. -/
theorem step_four {value : ℕ} (first : 0xF0 ≤ value) (last : value < 0xF5) :
    step .start (UInt8.ofNat value) =
      some (.tail 3 (value - 0xF0) (if value = 0xF0 then 0x90 else 0x80)
        (if value = 0xF4 then 0x8F else 0xBF), []) := by
  by_cases zero : value = 0xF0
  · subst zero
    rfl
  by_cases four : value = 0xF4
  · subst four
    rfl
  simp only [step, toNat_ofNat_of_lt (by omega : value < 256), if_neg zero, if_neg four]
  rw [if_neg (by omega), if_neg (by omega), if_neg (by omega), if_neg (by omega),
    if_neg (by omega), if_neg (by omega), if_pos (by omega)]

/-- The bytes of a character decode to it. -/
theorem run_encodeChar (character : Char) :
    run .start (String.utf8EncodeChar character) = some (.start, [character]) := by
  have value : character.val.toNat = character.toNat := rfl
  have scalar : character.toNat < 0xD800 ∨
      0xDFFF < character.toNat ∧ character.toNat < 0x110000 := character.valid
  have known := Char.ofNat_toNat character
  unfold String.utf8EncodeChar
  simp only [value]
  generalize character.toNat = code at *
  split_ifs with one two three
  · have first := step_one (by omega : code < 0x80)
    simp only [run, first, known]
    rfl
  · have first := step_two (by omega : 0xC2 ≤ code / 64 % 32 + 192) (by omega)
    have last := step_last (code / 64 % 32 + 192 - 0xC0) 0x80 0xBF (code % 64 + 128) (by omega)
      (by omega)
    have whole : 64 * (code / 64 % 32 + 192 - 0xC0) + (code % 64 + 128 - 0x80) = code := by omega
    rw [whole, known] at last
    simp only [run, first, last]
    rfl
  · have first := step_three (by omega : 0xE0 ≤ code / 4096 % 16 + 224) (by omega)
    have second := step_tail 2 (code / 4096 % 16 + 224 - 0xE0)
      (if code / 4096 % 16 + 224 = 0xE0 then 0xA0 else 0x80)
      (if code / 4096 % 16 + 224 = 0xED then 0x9F else 0xBF) (code / 64 % 64 + 128) (by omega)
      (by omega) (by split_ifs <;> omega)
    have last := step_last
      (64 * (code / 4096 % 16 + 224 - 0xE0) + (code / 64 % 64 + 128 - 0x80)) 0x80 0xBF
      (code % 64 + 128) (by omega) (by omega)
    have whole : 64 * (64 * (code / 4096 % 16 + 224 - 0xE0) + (code / 64 % 64 + 128 - 0x80)) +
        (code % 64 + 128 - 0x80) = code := by omega
    rw [whole, known] at last
    simp only [run, first, second, last]
    rfl
  · have first := step_four (by omega : 0xF0 ≤ code / 262144 % 8 + 240) (by omega)
    have second := step_tail 3 (code / 262144 % 8 + 240 - 0xF0)
      (if code / 262144 % 8 + 240 = 0xF0 then 0x90 else 0x80)
      (if code / 262144 % 8 + 240 = 0xF4 then 0x8F else 0xBF) (code / 4096 % 64 + 128) (by omega)
      (by omega) (by split_ifs <;> omega)
    have third := step_tail 2
      (64 * (code / 262144 % 8 + 240 - 0xF0) + (code / 4096 % 64 + 128 - 0x80)) 0x80 0xBF
      (code / 64 % 64 + 128) (by omega) (by omega) (by omega)
    have last := step_last (64 * (64 * (code / 262144 % 8 + 240 - 0xF0) +
        (code / 4096 % 64 + 128 - 0x80)) + (code / 64 % 64 + 128 - 0x80)) 0x80 0xBF
      (code % 64 + 128) (by omega) (by omega)
    have whole : 64 * (64 * (64 * (code / 262144 % 8 + 240 - 0xF0) +
        (code / 4096 % 64 + 128 - 0x80)) + (code / 64 % 64 + 128 - 0x80)) +
        (code % 64 + 128 - 0x80) = code := by omega
    rw [whole, known] at last
    simp only [run, first, second, third, last]
    rfl

end Utf8State

theorem encode_append (first second : Text) :
    encode (first ++ second) = encode first ++ encode second := by
  simp [encode]

theorem run_encode (text : Text) : Utf8State.run .start (encode text) = some (.start, text) := by
  induction text with
  | nil => rfl
  | cons character text inductionHypothesis =>
      rw [encode, List.flatMap_cons, Utf8State.run_append, Utf8State.run_encodeChar]
      rw [encode] at inductionHypothesis
      simp [inductionHypothesis]

theorem encode_injective : Function.Injective encode := by
  intro first second same
  have read := run_encode first
  rw [same, run_encode second] at read
  simpa using read.symm

/-! ## Reading in chunks -/

/-- The text of the chunks up to the first that does not decode, and whether all did. -/
def readChunks : Utf8State → List Bytes → Text × Bool
  | state, [] => ([], decide (state = .start))
  | state, chunk :: rest =>
      match Utf8State.run state chunk with
      | none => ([], false)
      | some (state, text) =>
          ((text ++ (readChunks state rest).1), (readChunks state rest).2)

theorem readChunks_of_run {state : Utf8State} {chunks : List Bytes} {text : Text}
    (decoded : Utf8State.run state chunks.flatten = some (.start, text)) :
    readChunks state chunks = (text, true) := by
  induction chunks generalizing state text with
  | nil =>
      simp only [List.flatten_nil, Utf8State.run, Option.some.injEq, Prod.mk.injEq] at decoded
      simp [readChunks, decoded.1, decoded.2]
  | cons chunk chunks inductionHypothesis =>
      rw [List.flatten_cons, Utf8State.run_append] at decoded
      rcases Option.bind_eq_some_iff.mp decoded with ⟨⟨middle, first⟩, chunkRead, others⟩
      rcases Option.map_eq_some_iff.mp others with ⟨⟨final, more⟩, restRead, equality⟩
      simp only [Prod.mk.injEq] at equality
      rw [equality.1] at restRead
      simp [readChunks, chunkRead, inductionHypothesis restRead, equality.2]

/-- Split into pieces of a positive size; the last may be shorter. -/
def chunksOf (size : ℕ) (bytes : Bytes) : List Bytes :=
  match bytes with
  | [] => []
  | first :: rest => (first :: rest.take size) :: chunksOf size (rest.drop size)
termination_by bytes.length

@[simp]
theorem flatten_chunksOf (size : ℕ) (bytes : Bytes) : (chunksOf size bytes).flatten = bytes := by
  fun_induction chunksOf size bytes with
  | case1 => rfl
  | case2 first rest inductionHypothesis => simp [inductionHypothesis]

/-! ## Lines -/

def universalNewlines : Text → Text
  | '\r' :: '\n' :: rest => '\n' :: universalNewlines rest
  | '\r' :: rest => '\n' :: universalNewlines rest
  | character :: rest => character :: universalNewlines rest
  | [] => []

/-- The lines that end, without their newline, and what follows the last newline. -/
def cutLines : Text → List Text × Text
  | [] => ([], [])
  | character :: rest =>
      if character = '\n' then ([] :: (cutLines rest).1, (cutLines rest).2)
      else
        match cutLines rest with
        | ([], last) => ([], character :: last)
        | (line :: lines, last) => ((character :: line) :: lines, last)

def textLines (text : Text) : List Text :=
  match cutLines (universalNewlines text) with
  | (lines, []) => lines
  | (lines, last) => lines ++ [last]

/-- A carriage return at the end of a chunk is held back until the next one is read. -/
def dropCarriage (text : Text) : Text :=
  if text.getLast? = some '\r' then text.dropLast else text

/-- The lines of a file, without their newlines, and whether reading them all
succeeds; if not, the error comes after these lines. -/
def openLines (chunkSize : ℕ) (bytes : Bytes) : List Text × Bool :=
  match readChunks .start (chunksOf (chunkSize - 1) bytes) with
  | (text, true) => (textLines text, true)
  | (text, false) => ((cutLines (universalNewlines (dropCarriage text))).1, false)

theorem openLines_of_run {bytes : Bytes} {text : Text} (chunkSize : ℕ)
    (decoded : Utf8State.run .start bytes = some (.start, text)) :
    openLines chunkSize bytes = (textLines text, true) := by
  have read : readChunks .start (chunksOf (chunkSize - 1) bytes) = (text, true) := by
    apply readChunks_of_run
    rw [flatten_chunksOf]
    exact decoded
  rw [openLines, read]

/-! ## Appending a line -/

/-- A text that is empty or ends with a line break. -/
def EndsLine (text : Text) : Prop := ∀ last ∈ text.getLast?, last = '\n' ∨ last = '\r'

/-- A text within one line. -/
def OneLine (text : Text) : Prop := ∀ character ∈ text, character ≠ '\n' ∧ character ≠ '\r'

theorem cutLines_append {first second : Text} (ended : (cutLines first).2 = []) :
    cutLines (first ++ second) =
      ((cutLines first).1 ++ (cutLines second).1, (cutLines second).2) := by
  induction first with
  | nil => rfl
  | cons character first inductionHypothesis =>
      rw [List.cons_append, cutLines, cutLines]
      rw [cutLines] at ended
      split
      next newline =>
        rw [if_pos newline] at ended
        simp [inductionHypothesis ended]
      next other =>
        rw [if_neg other] at ended
        cases cut : cutLines first with
        | mk lines last =>
            rw [cut] at ended inductionHypothesis
            cases lines with
            | nil => simp at ended
            | cons line lines =>
                rw [inductionHypothesis ended]
                rfl

theorem cutLines_line {line : Text} (oneLine : OneLine line) :
    cutLines (line ++ ['\n']) = ([line], []) := by
  induction line with
  | nil => rfl
  | cons character line inductionHypothesis =>
      have other : character ≠ '\n' := (oneLine character (by simp)).1
      have tail := inductionHypothesis fun next membership =>
        oneLine next (by simp [membership])
      simp [cutLines, other, tail]

theorem cutLines_append_newline (text : Text) :
    ∃ line lines, cutLines (text ++ ['\n']) = (line :: lines, []) := by
  induction text with
  | nil => exact ⟨[], [], rfl⟩
  | cons character text inductionHypothesis =>
      rcases inductionHypothesis with ⟨line, lines, cut⟩
      rw [List.cons_append, cutLines, cut]
      split
      · exact ⟨[], line :: lines, rfl⟩
      · exact ⟨character :: line, lines, rfl⟩

theorem universalNewlines_oneLine {line : Text} (oneLine : OneLine line) (rest : Text) :
    universalNewlines (line ++ rest) = line ++ universalNewlines rest := by
  induction line with
  | nil => rfl
  | cons character line inductionHypothesis =>
      have other := oneLine character (by simp)
      have tail := inductionHypothesis fun next membership =>
        oneLine next (by simp [membership])
      rw [List.cons_append, List.cons_append, universalNewlines, tail]
      · simp [other.2]
      · simp [other.2]

theorem universalNewlines_append (first : Text) {second : Text}
    (noNewline : second.head? ≠ some '\n') :
    universalNewlines (first ++ second) =
      universalNewlines first ++ universalNewlines second := by
  fun_induction universalNewlines first with
  | case1 rest inductionHypothesis =>
      rw [List.cons_append, List.cons_append, universalNewlines, inductionHypothesis,
        List.cons_append]
  | case2 rest notPair inductionHypothesis =>
      have single : ∀ tail, rest ++ second = '\n' :: tail → False := by
        intro tail paired
        cases rest with
        | nil => simp [← List.head?_eq_some_iff.mpr ⟨tail, paired⟩] at noNewline
        | cons character rest =>
            rw [List.cons_append, List.cons.injEq] at paired
            exact notPair rest (by rw [paired.1])
      rw [List.cons_append, List.cons_append, universalNewlines, inductionHypothesis]
      exact single
  | case3 character rest notPair notCarriage inductionHypothesis =>
      rw [List.cons_append, List.cons_append, universalNewlines, inductionHypothesis]
      · exact fun _ carriage _ => notCarriage carriage
      · exact notCarriage
  | case4 => rfl

theorem universalNewlines_endsLine (text : Text) {last : Char}
    (ending : last = '\n' ∨ last = '\r') :
    ∃ before, universalNewlines (text ++ [last]) = before ++ ['\n'] := by
  fun_induction universalNewlines text with
  | case1 rest inductionHypothesis =>
      rcases inductionHypothesis with ⟨before, equality⟩
      exact ⟨'\n' :: before, by simp [universalNewlines, equality]⟩
  | case2 rest notPair inductionHypothesis =>
      cases rest with
      | nil =>
          rcases ending with rfl | rfl
          · exact ⟨[], rfl⟩
          · exact ⟨['\n'], rfl⟩
      | cons character rest =>
          rcases inductionHypothesis with ⟨before, equality⟩
          have other : character ≠ '\n' := by
            rintro rfl
            exact notPair rest rfl
          refine ⟨'\n' :: before, ?_⟩
          rw [List.cons_append, universalNewlines, equality, List.cons_append]
          simp [other]
  | case3 character rest notPair notCarriage inductionHypothesis =>
      rcases inductionHypothesis with ⟨before, equality⟩
      refine ⟨character :: before, ?_⟩
      rw [List.cons_append, universalNewlines, equality, List.cons_append]
      · exact fun _ carriage _ => notCarriage carriage
      · exact notCarriage
  | case4 => rcases ending with rfl | rfl <;> exact ⟨[], rfl⟩

theorem cutLines_of_endsLine {text : Text} (ends : EndsLine text) :
    (cutLines (universalNewlines text)).2 = [] := by
  rcases List.eq_nil_or_concat text with empty | ⟨before, last, equality⟩
  · rw [empty]
    rfl
  · rw [List.concat_eq_append] at equality
    rcases universalNewlines_endsLine before (ends last (by simp [equality])) with
      ⟨translated, newline⟩
    rcases cutLines_append_newline translated with ⟨line, lines, cut⟩
    rw [equality, newline, cut]

/-- A line written behind a line break becomes the last line, and nothing else changes. -/
theorem textLines_append_line {text line : Text} (ends : EndsLine text)
    (oneLine : OneLine line) (nonempty : line ≠ []) :
    textLines (text ++ (line ++ ['\n'])) = textLines text ++ [line] := by
  have head : (line ++ ['\n']).head? ≠ some '\n' := by
    cases line with
    | nil => contradiction
    | cons character line => simpa using (oneLine character (by simp)).1
  have ended := cutLines_of_endsLine ends
  have written : universalNewlines (line ++ ['\n']) = line ++ ['\n'] :=
    universalNewlines_oneLine oneLine ['\n']
  rw [textLines, universalNewlines_append text head, written, cutLines_append ended,
    cutLines_line oneLine, textLines]
  generalize cutLines (universalNewlines text) = cut at ended
  rcases cut with ⟨lines, last⟩
  cases ended
  rfl

theorem endsLine_append_newline (text : Text) : EndsLine (text ++ ['\n']) := by
  simp [EndsLine]

/-! ## Writing lines -/

/-- The text that holds these lines. -/
def writtenLines (lines : List Text) : Text := lines.flatMap (· ++ ['\n'])

theorem cutLines_writtenLines {lines : List Text} (oneLine : ∀ line ∈ lines, OneLine line) :
    cutLines (writtenLines lines) = (lines, []) := by
  induction lines with
  | nil => rfl
  | cons line lines inductionHypothesis =>
      rw [List.forall_mem_cons] at oneLine
      have first := cutLines_line oneLine.1
      have ended : (cutLines (line ++ ['\n'])).2 = [] := by rw [first]
      rw [writtenLines, List.flatMap_cons, cutLines_append ended, first]
      have rest := inductionHypothesis oneLine.2
      rw [writtenLines] at rest
      rw [rest]
      rfl

theorem universalNewlines_of_no_carriage {text : Text}
    (noCarriage : ∀ character ∈ text, character ≠ '\r') : universalNewlines text = text := by
  induction text with
  | nil => rfl
  | cons character text inductionHypothesis =>
      rw [List.forall_mem_cons] at noCarriage
      rw [universalNewlines, inductionHypothesis noCarriage.2]
      · intro _ carriage _
        exact noCarriage.1 carriage
      · exact noCarriage.1

/-- Lines that are written are read back. -/
theorem textLines_writtenLines {lines : List Text} (oneLine : ∀ line ∈ lines, OneLine line) :
    textLines (writtenLines lines) = lines := by
  have noCarriage : ∀ character ∈ writtenLines lines, character ≠ '\r' := by
    intro character membership
    obtain ⟨line, inLines, inLine⟩ := List.mem_flatMap.mp membership
    rcases List.mem_append.mp inLine with written | newline
    · exact (oneLine line inLines character written).2
    · rw [List.mem_singleton.mp newline]
      decide
  rw [textLines, universalNewlines_of_no_carriage noCarriage, cutLines_writtenLines oneLine]

theorem ne_carriage_of_mem_universalNewlines {text : Text} :
    ∀ character ∈ universalNewlines text, character ≠ '\r' := by
  fun_induction universalNewlines text with
  | case1 rest inductionHypothesis => simpa using inductionHypothesis
  | case2 rest notPair inductionHypothesis => simpa using inductionHypothesis
  | case3 character rest notPair notCarriage inductionHypothesis =>
      simpa using ⟨notCarriage, inductionHypothesis⟩
  | case4 => simp

/-- A line, or what follows the last, holds characters of the text but no newline. -/
theorem mem_of_cutLines {text line : Text}
    (isLine : line ∈ (cutLines text).1 ∨ line = (cutLines text).2) :
    ∀ character ∈ line, character ∈ text ∧ character ≠ '\n' := by
  induction text generalizing line with
  | nil =>
      rw [cutLines] at isLine
      rcases isLine with absent | rfl
      · contradiction
      · simp
  | cons first text inductionHypothesis =>
      have later : ∀ other, other ∈ (cutLines text).1 ∨ other = (cutLines text).2 →
          ∀ character ∈ other, character ∈ first :: text ∧ character ≠ '\n' := by
        intro other isOther character membership
        have known := inductionHypothesis isOther character membership
        exact ⟨List.mem_cons_of_mem first known.1, known.2⟩
      rw [cutLines] at isLine
      split at isLine
      next newline =>
        rcases isLine with inLines | last
        · rcases List.mem_cons.mp inLines with rfl | inRest
          · simp
          · exact later line (.inl inRest)
        · exact later line (.inr last)
      next other =>
        have longer : ∀ before, (before ∈ (cutLines text).1 ∨ before = (cutLines text).2) →
            ∀ character ∈ first :: before, character ∈ first :: text ∧ character ≠ '\n' := by
          intro before isBefore
          rw [List.forall_mem_cons]
          exact ⟨⟨List.mem_cons_self, other⟩, later before isBefore⟩
        cases cut : cutLines text with
        | mk lines last =>
            rw [cut] at isLine later longer
            cases lines with
            | nil =>
                rcases isLine with absent | rfl
                · contradiction
                · exact longer last (.inr rfl)
            | cons before lines =>
                rcases isLine with inLines | rfl
                · rcases List.mem_cons.mp inLines with rfl | inRest
                  · exact longer before (.inl List.mem_cons_self)
                  · exact later line (.inl (List.mem_cons_of_mem before inRest))
                · exact later _ (.inr rfl)

/-- What a file is read as are lines. -/
theorem oneLine_of_openLines (chunkSize : ℕ) (bytes : Bytes) :
    ∀ line ∈ (openLines chunkSize bytes).1, OneLine line := by
  have cut : ∀ (text line : Text), line ∈ (cutLines (universalNewlines text)).1 ∨
      line = (cutLines (universalNewlines text)).2 → OneLine line := by
    intro text line isLine character membership
    have known := mem_of_cutLines isLine character membership
    exact ⟨known.2, ne_carriage_of_mem_universalNewlines character known.1⟩
  intro line membership
  unfold openLines at membership
  split at membership
  next text _ =>
    simp only [textLines] at membership
    split at membership
    next lines whole =>
      apply cut text line
      rw [whole]
      exact .inl membership
    next lines last _ whole =>
      apply cut text line
      rw [whole]
      exact (List.mem_append.mp membership).imp_right List.mem_singleton.mp
  next text _ => exact cut (dropCarriage text) line (.inl membership)

end RemoteUnlock.Python
