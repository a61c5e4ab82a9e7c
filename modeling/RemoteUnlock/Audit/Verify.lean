import RemoteUnlock.Python.JsonRoundTrip
import RemoteUnlock.Python.Exec
import RemoteUnlock.Audit.Sha256

/-!
# Verifying the audit log

`verifyFile` replays a log line by line: the cursor is the number of entries read
and the hash of the last one.  A line that does not continue the chain ends the
replay with a verdict; what the reader of a line does not catch ends it with an
exception.
-/

namespace RemoteUnlock.Audit

open Python Python.Items

/-- `GENESIS` -/
def genesis : Text := List.replicate 64 '0'

/-- `_canon(obj)` -/
def canon (value : Json) : Text := value.dumpsCanonical

/-- `_hash(prev, entry_without_hash)` -/
def hash (sha : Sha256) (prev : Text) (entryWithoutHash : Json) : Text :=
  sha.hexdigest (encode (prev ++ canon entryWithoutHash))

/-- `(ok, entries, head, error_message)` -/
structure Verdict where
  ok : Bool
  entries : ℕ
  head : Text
  error : Option Text
  deriving DecidableEq

/-- The loop variables `n` and `prev`. -/
structure Cursor where
  entries : ℕ
  head : Text
  deriving DecidableEq

def Cursor.start : Cursor := ⟨0, genesis⟩

/-- How the loop is left before the end of the file. -/
inductive Stop where
  | returned (cursor : Cursor) (error : Text)
  | raised (exc : PyExc)
  deriving DecidableEq

/-- `entry = json.loads(line); claimed = entry.pop("hash")`: what is left of the entry
and the hash it claims. -/
def readEntry (line : Text) : Except PyExc (List (PyStr × Json) × Json) :=
  match Json.loads line with
  | none => .error .jsonDecodeError
  | some (.obj members) =>
      match lookup (py "hash") members with
      | none => .error .keyError
      | some claimed => .ok (remove (py "hash") members, claimed)
  | some (.arr _) => .error .typeError
  | some _ => .error .attributeError

/-- `return False, n, prev, f"line {lineno}: …"` -/
def rejection (cursor : Cursor) (lineno : ℕ) (problem : String) : Stop :=
  .returned cursor ("line ".toList ++ natText lineno ++ problem.toList)

/-- One turn of the loop. -/
def checkLine (sha : Sha256) (lineno : ℕ) (cursor : Cursor) (line : Text) :
    Except Stop Cursor :=
  if line = [] then .ok cursor
  else
    match readEntry line with
    | .error exc =>
        if exc.kind = .value ∨ exc.kind = .key then
          .error (rejection cursor lineno ": unparsable")
        else .error (.raised exc)
    | .ok (entry, claimed) =>
        let n := cursor.entries + 1
        let counted : Cursor := ⟨n, cursor.head⟩
        if (lookup (py "seq") entry).bind Json.number ≠ some (n : ℚ) then
          .error (rejection counted lineno ": sequence gap/reorder")
        else if lookup (py "prev") entry ≠ some (.str (ofText cursor.head)) then
          .error (rejection counted lineno ": broken chain link")
        else if .str (ofText (hash sha cursor.head (.obj entry))) ≠ claimed then
          .error (rejection counted lineno ": content modified")
        else .ok ⟨n, hash sha cursor.head (.obj entry)⟩

/-- The loop from line `lineno` on. -/
def verifyLines (sha : Sha256) : ℕ → Cursor → List Text → Except Stop Cursor
  | _, cursor, [] => .ok cursor
  | lineno, cursor, line :: rest =>
      match checkLine sha lineno cursor line with
      | .error stop => .error stop
      | .ok cursor => verifyLines sha (lineno + 1) cursor rest

/-- `str.lower` as far as `startswith` on a hash can tell: a character outside ASCII
is left as it is, and is no hexadecimal digit before or after. -/
def lower (text : PyStr) : PyStr :=
  text.map fun point =>
    if 0x41 ≤ point.val ∧ point.val ≤ 0x5A then CodePoint.ofNat (point.val + 0x20) else point

/-- `if expected_head and not prev.startswith(expected_head.lower())` -/
def anchorMismatch (head : Text) : Option PyStr → Bool
  | none => false
  | some [] => false
  | some expected => !(lower expected).isPrefixOf (ofText head)

/-- `verify_file(path, expected_head)` for a missing file or for the content of one,
read in chunks of a given size. -/
def verifyFile (sha : Sha256) (chunkSize : ℕ) (expectedHead : Option PyStr) :
    Option Bytes → Except PyExc Verdict
  | none => .ok ⟨true, 0, genesis, none⟩
  | some content =>
      let (lines, decoded) := openLines chunkSize content
      match verifyLines sha 1 .start lines with
      | .error (.returned cursor error) => .ok ⟨false, cursor.entries, cursor.head, some error⟩
      | .error (.raised exc) => .error exc
      | .ok cursor =>
          if decoded = false then .error .unicodeDecodeError
          else if anchorMismatch cursor.head expectedHead then
            .ok ⟨false, cursor.entries, cursor.head,
              some "head does not match anchor (log truncated or rewritten)".toList⟩
          else .ok ⟨true, cursor.entries, cursor.head, none⟩

/-! ## Hashing -/

theorem canon_obj (members : List (PyStr × Json)) :
    ∃ rest, canon (.obj members) = '{' :: rest := by
  rw [canon, Json.dumpsCanonical, Json.sortKeys_obj]
  cases sortItems (members.map fun member => (member.1, member.2.sortKeys)) with
  | nil => exact ⟨_, rfl⟩
  | cons member rest => exact ⟨_, by rw [Json.print]⟩

theorem hash_congr (sha : Sha256) (prev : Text) {first second : Json}
    (same : first.sortKeys = second.sortKeys) : hash sha prev first = hash sha prev second := by
  rw [hash, hash, canon, canon, Json.dumpsCanonical_congr same]

theorem canon_eq_of_hash_eq {sha : Sha256} (collisionFree : Function.Injective sha.hexdigest)
    {prev : Text} {first second : Json} (same : hash sha prev first = hash sha prev second) :
    canon first = canon second := by
  have bytes := collisionFree same
  rw [encode_append, encode_append] at bytes
  exact encode_injective (List.append_cancel_left bytes)

/-! ## The loop -/

theorem verifyLines_append (sha : Sha256) (lineno : ℕ) (cursor : Cursor)
    (first second : List Text) :
    verifyLines sha lineno cursor (first ++ second) =
      match verifyLines sha lineno cursor first with
      | .error stop => .error stop
      | .ok cursor => verifyLines sha (lineno + first.length) cursor second := by
  induction first generalizing lineno cursor with
  | nil => simp [verifyLines]
  | cons line first inductionHypothesis =>
      simp only [List.cons_append, verifyLines]
      cases checkLine sha lineno cursor line with
      | error stop => rfl
      | ok next =>
          simp only [inductionHypothesis, List.length_cons]
          rw [Nat.add_assoc, Nat.add_comm 1]

/-- A line that continues the chain at a cursor: what it says and what it claims. -/
structure Continues (sha : Sha256) (cursor : Cursor) (line : Text)
    (entry : List (PyStr × Json)) : Prop where
  read : readEntry line = .ok (entry, .str (ofText (hash sha cursor.head (.obj entry))))
  seq : (lookup (py "seq") entry).bind Json.number = some ((cursor.entries + 1 : ℕ) : ℚ)
  prev : lookup (py "prev") entry = some (.str (ofText cursor.head))

/-- The loop goes on exactly at blank lines and at lines that continue the chain. -/
theorem checkLine_eq_ok_iff {sha : Sha256} {lineno : ℕ} {cursor next : Cursor} {line : Text}
    (nonempty : line ≠ []) :
    checkLine sha lineno cursor line = .ok next ↔
      ∃ entry, Continues sha cursor line entry ∧
        next = ⟨cursor.entries + 1, hash sha cursor.head (.obj entry)⟩ := by
  rw [checkLine, if_neg nonempty]
  constructor
  · intro checked
    split at checked
    · split at checked <;> simp at checked
    next entry claimed read =>
      simp only at checked
      split at checked
      · simp at checked
      next seq =>
        split at checked
        · simp at checked
        next prev =>
          split at checked
          · simp at checked
          next same =>
            rw [not_not] at seq prev same
            rw [← same] at read
            exact ⟨entry, ⟨read, seq, prev⟩, (Except.ok.inj checked).symm⟩
  · rintro ⟨entry, continues, rfl⟩
    simp [continues.read, continues.seq, continues.prev]

@[simp]
theorem checkLine_nil (sha : Sha256) (lineno : ℕ) (cursor : Cursor) :
    checkLine sha lineno cursor [] = .ok cursor := by
  simp [checkLine]

/-- A file is accepted exactly if every line is read and the loop gets to the last. -/
theorem verifyFile_accepts_iff {sha : Sha256} {chunkSize : ℕ} {content : Bytes}
    {entries : ℕ} {head : Text} {error : Option Text} :
    verifyFile sha chunkSize none (some content) = .ok ⟨true, entries, head, error⟩ ↔
      error = none ∧ ∃ lines, openLines chunkSize content = (lines, true) ∧
        verifyLines sha 1 .start lines = .ok ⟨entries, head⟩ := by
  rcases opened : openLines chunkSize content with ⟨lines, decoded⟩
  simp only [verifyFile, opened, Prod.mk.injEq]
  cases replayed : verifyLines sha 1 .start lines with
  | error stop =>
      cases stop with
      | returned cursor message =>
          constructor
          · intro verdict
            simp at verdict
          · rintro ⟨_, other, ⟨rfl, _⟩, ended⟩
            simp [replayed] at ended
      | raised exc =>
          constructor
          · intro verdict
            simp at verdict
          · rintro ⟨_, other, ⟨rfl, _⟩, ended⟩
            simp [replayed] at ended
  | ok cursor =>
      cases decoded with
      | false => simp
      | true =>
          simp only [anchorMismatch, Bool.true_eq_false, Bool.false_eq_true, if_false,
            Except.ok.injEq, Verdict.mk.injEq, true_and, and_true]
          constructor
          · rintro ⟨rfl, rfl, rfl⟩
            exact ⟨rfl, lines, rfl, replayed⟩
          · rintro ⟨rfl, other, rfl, ended⟩
            rw [replayed, Except.ok.injEq] at ended
            rw [ended]
            exact ⟨rfl, rfl, rfl⟩

end RemoteUnlock.Audit
