import RemoteUnlock.Python.JsonPrint
import RemoteUnlock.Windows.Delivery

/-!
# The pipe between the listener and the credential provider

The listener writes a byte that says whether to sign in, and the password in UTF-8 behind
it.  The provider reads them into a buffer of 2048 bytes, takes any first byte but zero for
a yes, and turns what is behind it into UTF-16, whatever it is.
-/

namespace RemoteUnlock.Windows

open Python Common

variable {Value : Type}

abbrev WideStr := List UInt16

/-- A character in UTF-16. -/
def wideChar (character : Char) : WideStr :=
  if character.toNat < 0x10000 then [UInt16.ofNat character.toNat]
  else
    [UInt16.ofNat (highSurrogate (CodePoint.ofChar character)),
      UInt16.ofNat (lowSurrogate (CodePoint.ofChar character))]

def wide (text : Text) : WideStr := text.flatMap wideChar

def replacement : Char := '\uFFFD'

/-- The text of bytes, with the parts of it that are no UTF-8 replaced.  That a sequence that
breaks off is replaced by one character, however long it is, is an assumption: the
documentation only says that there is a replacement. -/
def readLossy : Utf8State → Bytes → Text
  | state, [] => if state = .start then [] else [replacement]
  | state, byte :: rest =>
      match Utf8State.step state byte with
      | some (next, text) => text ++ readLossy next rest
      | none =>
          match state with
          | .start => replacement :: readLossy .start rest
          | .tail .. =>
              match Utf8State.step .start byte with
              | some (next, text) => replacement :: (text ++ readLossy next rest)
              | none => replacement :: replacement :: readLossy .start rest

/-- `MultiByteToWideChar(CP_UTF8, 0, ...)` -/
def multiByteToWideChar (bytes : Bytes) : WideStr := wide (readLossy .start bytes)

/-- How the wait of the provider ends. -/
inductive Outcome where
  | approved (password : WideStr)
  | rejected
  | timedOut
  | pipeError
  deriving DecidableEq

/-- `sizeof(buf)` -/
def bufferSize : ℕ := 2048

/-- One `ReadFile` of what one write has put into the pipe. -/
def readFile (written : Bytes) : Bytes := written.take (bufferSize - 1)

/-- `WaitForPhoneOnBackgroundThread()` from `ReadFile` on, of what was read. -/
def takeUp (read : Bytes) : Outcome :=
  match read with
  | [] => .rejected
  | first :: rest => if first = 0 then .rejected else .approved (multiByteToWideChar rest)

/-- The wire format of a yes: a one, and a password that is not empty in UTF-8. -/
def IsApproval (bytes : Bytes) : Prop :=
  ∃ password encoded, password ≠ [] ∧ encodeStr password = .ok encoded ∧ bytes = 1 :: encoded

/-- If the provider accepts what is written for a password, it stores that password. -/
def ReadsAsWritten (platform : Platform Value) : Prop :=
  ∀ written, payload platform true = .ok written →
    ∀ stored, takeUp (readFile written) = .approved stored →
      ∃ text, platform.password = ofText text ∧ stored = wide text

/-- The provider accepts nothing but the wire format. -/
def ReadsFormat (read : Bytes) : Prop :=
  ∀ stored, takeUp read = .approved stored → IsApproval read

/-- The password fits into the buffer, or what is cut off is the end of a last character
that a replacement of it looks the same as. -/
def Fits (password : PyStr) : Prop :=
  ∀ encoded, encodeStr password = .ok encoded →
    encoded.length ≤ bufferSize - 2 ∨
      encoded.length ≤ bufferSize ∧ password.getLast? = some (CodePoint.ofChar replacement)

/-- The first byte is a zero, or a one in front of a password in UTF-8. -/
def IsFormatted (bytes : Bytes) : Prop :=
  ∀ first rest, bytes = first :: rest → first = 0 ∨
    first = 1 ∧ ∃ password, password ≠ [] ∧ encodeStr password = .ok rest

/-! ## Reading what was encoded -/

theorem readLossy_cons {state next : Utf8State} {byte : UInt8} {text : Text}
    (stepped : Utf8State.step state byte = some (next, text)) (rest : Bytes) :
    readLossy state (byte :: rest) = text ++ readLossy next rest := by
  cases state with
  | start => simp only [readLossy, stepped]
  | tail count accumulated low high => simp only [readLossy, stepped]

theorem readLossy_of_run {state next : Utf8State} {bytes : Bytes} {text : Text}
    (ran : Utf8State.run state bytes = some (next, text)) (more : Bytes) :
    readLossy state (bytes ++ more) = text ++ readLossy next more := by
  induction bytes generalizing state text with
  | nil =>
      rw [Utf8State.run, Option.some.injEq, Prod.mk.injEq] at ran
      obtain ⟨rfl, rfl⟩ := ran
      rfl
  | cons byte bytes inductionHypothesis =>
      rw [Utf8State.run] at ran
      cases stepped : Utf8State.step state byte with
      | none =>
          rw [stepped] at ran
          contradiction
      | some reached =>
          obtain ⟨middle, front⟩ := reached
          rw [stepped] at ran
          obtain ⟨⟨final, back⟩, rest, same⟩ := Option.map_eq_some_iff.mp ran
          rw [Prod.mk.injEq] at same
          obtain ⟨rfl, rfl⟩ := same
          rw [List.cons_append, readLossy_cons stepped, inductionHypothesis rest,
            List.append_assoc]

theorem readLossy_encode (text : Text) (more : Bytes) :
    readLossy .start (encode text ++ more) = text ++ readLossy .start more :=
  readLossy_of_run (run_encode text) more

/-- Back at the start, a character is complete. -/
theorem step_start_ne_nil {state : Utf8State} {byte : UInt8} {text : Text}
    (stepped : Utf8State.step state byte = some (.start, text)) : text ≠ [] := by
  rintro rfl
  cases state with
  | start =>
      simp only [Utf8State.step] at stepped
      split_ifs at stepped <;> simp at stepped
  | tail count accumulated low high =>
      simp only [Utf8State.step] at stepped
      split_ifs at stepped <;> simp at stepped

theorem run_start_ne_nil {state : Utf8State} {bytes : Bytes} {text : Text} (nonempty : bytes ≠ [])
    (ran : Utf8State.run state bytes = some (.start, text)) : text ≠ [] := by
  induction bytes generalizing state text with
  | nil => contradiction
  | cons byte bytes inductionHypothesis =>
      rw [Utf8State.run] at ran
      cases stepped : Utf8State.step state byte with
      | none =>
          rw [stepped] at ran
          contradiction
      | some reached =>
          obtain ⟨middle, front⟩ := reached
          rw [stepped] at ran
          obtain ⟨⟨final, back⟩, rest, same⟩ := Option.map_eq_some_iff.mp ran
          rw [Prod.mk.injEq] at same
          obtain ⟨rfl, rfl⟩ := same
          by_cases last : bytes = []
          · rw [last, Utf8State.run, Option.some.injEq, Prod.mk.injEq] at rest
            rw [rest.1] at stepped
            intro isEmpty
            exact step_start_ne_nil stepped (List.append_eq_nil_iff.mp isEmpty).1
          · intro isEmpty
            exact inductionHypothesis last rest (List.append_eq_nil_iff.mp isEmpty).2

/-- A character that is cut off is replaced. -/
theorem readLossy_part {character : Char} {part behind : Bytes}
    (parts : String.utf8EncodeChar character = part ++ behind) (nonempty : part ≠ [])
    (cut : behind ≠ []) : readLossy .start part = [replacement] := by
  have whole := Utf8State.run_encodeChar character
  rw [parts, Utf8State.run_append] at whole
  obtain ⟨⟨middle, front⟩, ran, rest⟩ := Option.bind_eq_some_iff.mp whole
  obtain ⟨⟨final, back⟩, ends, same⟩ := Option.map_eq_some_iff.mp rest
  rw [Prod.mk.injEq] at same
  obtain ⟨rfl, joined⟩ := same
  have complete := run_start_ne_nil cut ends
  have single : front.length + back.length = 1 := by
    rw [← List.length_append, joined]
    rfl
  have backPositive := List.length_pos_iff.mpr complete
  obtain rfl : front = [] := List.length_eq_zero_iff.mp (by omega)
  cases middle with
  | start => exact absurd rfl (run_start_ne_nil nonempty ran)
  | tail count accumulated low high =>
      have read := readLossy_of_run ran []
      rw [List.append_nil] at read
      rw [read]
      rfl

/-! ## What is cut off -/

/-- The first bytes of an encoded text end within one of its characters. -/
theorem take_encode {text : Text} {count : ℕ} (short : count < (encode text).length) :
    ∃ front character back part behind, text = front ++ character :: back ∧
      String.utf8EncodeChar character = part ++ behind ∧ behind ≠ [] ∧
      (encode text).take count = encode front ++ part := by
  induction text generalizing count with
  | nil => exact absurd short (Nat.not_lt_zero count)
  | cons character text inductionHypothesis =>
      have parts : encode (character :: text) = String.utf8EncodeChar character ++ encode text :=
        rfl
      rw [parts] at short ⊢
      by_cases inside : count < (String.utf8EncodeChar character).length
      · refine ⟨[], character, text, (String.utf8EncodeChar character).take count,
          (String.utf8EncodeChar character).drop count, rfl,
          (List.take_append_drop _ _).symm, ?_, ?_⟩
        · rw [ne_eq, List.drop_eq_nil_iff]
          omega
        · rw [List.take_append_of_le_length inside.le]
          rfl
      · rw [List.length_append] at short
        have remaining : count - (String.utf8EncodeChar character).length <
            (encode text).length := by omega
        obtain ⟨front, other, back, part, behind, rfl, encoded, cut, taken⟩ :=
          inductionHypothesis remaining
        refine ⟨character :: front, other, back, part, behind, rfl, encoded, cut, ?_⟩
        rw [List.take_append, List.take_of_length_le (by omega), taken, ← List.append_assoc]
        rfl

/-! ## The two directions -/

theorem wide_append (first second : Text) : wide (first ++ second) = wide first ++ wide second :=
  List.flatMap_append

theorem wideChar_ne_nil (character : Char) : wideChar character ≠ [] := by
  unfold wideChar
  split_ifs <;> simp

theorem wide_ne_nil {text : Text} (nonempty : text ≠ []) : wide text ≠ [] := by
  obtain ⟨first, rest, rfl⟩ := List.exists_cons_of_ne_nil nonempty
  rw [wide, List.flatMap_cons]
  exact fun isEmpty => wideChar_ne_nil first (List.append_eq_nil_iff.mp isEmpty).1

/-- Only the replacement character looks like it. -/
theorem wide_eq_replacement {character : Char} {rest : Text}
    (same : wide (character :: rest) = wide [replacement]) :
    character = replacement ∧ rest = [] := by
  have single : wide [replacement] = [0xFFFD] := by decide
  rw [single, wide, List.flatMap_cons] at same
  unfold wideChar at same
  split_ifs at same with small
  · rw [List.singleton_append, List.cons.injEq] at same
    have value := congrArg UInt16.toNat same.1
    rw [UInt16.toNat_ofNat', Nat.mod_eq_of_lt small] at value
    constructor
    · exact Char.toNat_inj.mp value
    · by_contra nonempty
      exact wide_ne_nil nonempty same.2
  · have lengths := congrArg List.length same
    simp at lengths

theorem length_replacement : (String.utf8EncodeChar replacement).length = 3 := by decide

theorem length_encode_append (front back : Text) :
    (encode (front ++ back)).length = (encode front).length + (encode back).length := by
  rw [encode_append, List.length_append]

theorem length_encode_cons (character : Char) (text : Text) :
    (encode (character :: text)).length =
      (String.utf8EncodeChar character).length + (encode text).length := by
  rw [encode, List.flatMap_cons, List.length_append]
  rfl

/-- Where a character is cut off, everything is there again only if it is the last one and
looks like its replacement. -/
theorem multiByteToWideChar_take_iff (text : Text) (count : ℕ) :
    multiByteToWideChar ((encode text).take count) = wide text ↔
      (encode text).length ≤ count ∨
        (encode text).length ≤ count + 2 ∧ text.getLast? = some replacement := by
  unfold multiByteToWideChar
  by_cases short : (encode text).length ≤ count
  · have read := readLossy_encode text []
    rw [List.append_nil] at read
    rw [List.take_of_length_le short, read]
    exact ⟨fun _ => .inl short, fun _ => congrArg wide (List.append_nil text)⟩
  · rw [or_iff_right short]
    obtain ⟨front, character, back, part, behind, rfl, parts, cut, taken⟩ :=
      take_encode (not_le.mp short)
    have size : (encode front).length + part.length = count := by
      rw [← List.length_append, ← taken, List.length_take, min_eq_left (not_le.mp short).le]
    have shorter := List.length_pos_iff.mpr cut
    have whole : (String.utf8EncodeChar character).length = part.length + behind.length := by
      rw [parts, List.length_append]
    rw [taken, readLossy_encode, wide_append, wide_append, List.append_cancel_left_eq,
      length_encode_append, length_encode_cons]
    by_cases none : part = []
    · -- Nothing of the character is left, and a last one like it has three bytes.
      rw [none] at size whole ⊢
      have read : wide (readLossy .start []) = [] := rfl
      rw [read]
      constructor
      · exact fun same => absurd same.symm (wide_ne_nil (List.cons_ne_nil _ _))
      · rintro ⟨bound, isLast⟩
        exfalso
        rw [List.getLast?_append_of_ne_nil _ (List.cons_ne_nil _ _)] at isLast
        obtain ⟨others, same⟩ := List.getLast?_eq_some_iff.mp isLast
        have last := length_encode_cons character back
        rw [same, length_encode_append, length_encode_cons, length_replacement] at last
        rw [List.length_nil] at size
        omega
    · rw [readLossy_part parts none cut]
      have some := List.length_pos_iff.mpr none
      constructor
      · intro same
        obtain ⟨rfl, rfl⟩ := wide_eq_replacement same.symm
        rw [length_replacement] at whole ⊢
        refine ⟨?_, List.getLast?_concat ..⟩
        change _ + (3 + 0) ≤ _
        omega
      · rintro ⟨bound, isLast⟩
        rw [List.getLast?_append_of_ne_nil _ (List.cons_ne_nil _ _)] at isLast
        by_cases last : back = []
        · rw [last, List.getLast?_singleton, Option.some.injEq] at isLast
          rw [isLast, last]
        · exfalso
          rw [List.getLast?_cons_of_ne_nil last] at isLast
          obtain ⟨others, same⟩ := List.getLast?_eq_some_iff.mp isLast
          have rest := length_encode_append others [replacement]
          rw [← same, length_encode_cons replacement [], length_replacement] at rest
          omega

theorem getLast?_ofText (text : Text) :
    (ofText text).getLast? = some (CodePoint.ofChar replacement) ↔
      text.getLast? = some replacement := by
  rw [ofText, List.getLast?_map, Option.map_eq_some_iff]
  constructor
  · rintro ⟨character, isLast, same⟩
    rw [isLast, CodePoint.ofChar_injective same]
  · exact fun isLast => ⟨replacement, isLast, rfl⟩

theorem readsAsWritten_iff (platform : Platform Value) :
    ReadsAsWritten platform ↔ Fits platform.password := by
  have written {text : Text} (isPassword : platform.password = ofText text) :
      payload platform true = .ok (1 :: encode text) := by
    have encoded := encodeStr_eq_ok_iff.mpr ⟨text, isPassword, rfl⟩
    rw [payload, if_pos rfl, encoded]
    rfl
  have accepted (text : Text) : takeUp (readFile (1 :: encode text)) =
      .approved (multiByteToWideChar ((encode text).take (bufferSize - 2))) := rfl
  constructor
  · intro reads encoded made
    obtain ⟨text, isPassword, rfl⟩ := encodeStr_eq_ok_iff.mp made
    obtain ⟨source, isSource, stored⟩ := reads _ (written isPassword) _ (accepted text)
    rw [isPassword] at isSource ⊢
    rw [← ofText_injective isSource, multiByteToWideChar_take_iff] at stored
    rw [getLast?_ofText]
    exact stored
  · intro fits bytes made stored isStored
    have encodes : ∃ encoded, encodeStr platform.password = .ok encoded := by
      cases result : encodeStr platform.password with
      | error exc =>
          rw [payload, if_pos rfl, result] at made
          contradiction
      | ok encoded => exact ⟨encoded, rfl⟩
    obtain ⟨encoded, isEncoded⟩ := encodes
    have fit := fits encoded isEncoded
    obtain ⟨text, isPassword, rfl⟩ := encodeStr_eq_ok_iff.mp isEncoded
    rw [written isPassword] at made
    rw [← Except.ok.inj made, accepted] at isStored
    rw [isPassword, getLast?_ofText] at fit
    refine ⟨text, isPassword, ?_⟩
    rw [← (multiByteToWideChar_take_iff text (bufferSize - 2)).mpr fit]
    exact (Outcome.approved.inj isStored).symm

theorem readsFormat_iff (read : Bytes) : ReadsFormat read ↔ IsFormatted read := by
  constructor
  · rintro reads first rest rfl
    by_cases refused : first = 0
    · exact .inl refused
    · obtain ⟨password, encoded, nonempty, made, same⟩ :=
        reads (multiByteToWideChar rest) (if_neg refused)
      rw [List.cons.injEq] at same
      obtain ⟨rfl, rfl⟩ := same
      exact .inr ⟨rfl, password, nonempty, made⟩
  · intro formatted stored isStored
    cases read with
    | nil => contradiction
    | cons first rest =>
        rw [takeUp] at isStored
        rcases formatted first rest rfl with refused | ⟨rfl, password, nonempty, made⟩
        · rw [if_pos refused] at isStored
          contradiction
        · exact ⟨password, rest, nonempty, made, rfl⟩

/-- The pipe is read as it is written where the password fits into the buffer, and where
what arrives is a refusal or the wire format of a password. -/
theorem pipe_iff (platform : Platform Value) (read : Bytes) :
    ReadsAsWritten platform ∧ ReadsFormat read ↔
      Fits platform.password ∧ IsFormatted read :=
  and_congr (readsAsWritten_iff platform) (readsFormat_iff read)

/-- An empty password behind the one is accepted, and so is another first byte. -/
theorem not_readsFormat :
    takeUp [1] = .approved [] ∧ takeUp [2, 0x41] = .approved [0x41] ∧
      ¬ ReadsFormat [1] ∧ ¬ ReadsFormat [2, 0x41] := by
  refine ⟨by decide, by decide, fun reads => ?_, fun reads => ?_⟩
  · obtain ⟨password, encoded, nonempty, made, same⟩ := reads [] (by decide)
    obtain ⟨text, rfl, rfl⟩ := encodeStr_eq_ok_iff.mp made
    rw [List.cons.injEq] at same
    have isEmpty : text = [] := encode_injective same.2.symm
    rw [isEmpty] at nonempty
    exact nonempty rfl
  · obtain ⟨_, _, _, _, same⟩ := reads [0x41] (by decide)
    rw [List.cons.injEq] at same
    exact absurd same.1 (by decide)

end RemoteUnlock.Windows
