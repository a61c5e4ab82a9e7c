import RemoteUnlock.Python.Limits
import RemoteUnlock.Audit.Verdicts

/-!
# Verdicts on whatever is in the file

The verifier as an interpreter with limits runs it: `json.loads` refuses a long integer
like malformed text, but raises `RecursionError` at brackets that are too deep, and
so does `json.dumps` where the hash of an entry is computed, outside the handler.  On
lines that stay within the limits the two verifiers do the same (`checkLineWithin_of_fits`),
so the loop is left at the first line that does not, or that does not continue the
chain (`verifyLinesWithin_cases`).
-/

namespace RemoteUnlock.Audit

open Python Python.Items

variable {sha : Sha256} {limits : Limits} {chunkSize : ℕ}

/-! ## An interpreter with limits -/

/-- `entry = json.loads(line); claimed = entry.pop("hash")` -/
def readEntryWithin (limits : Limits) (line : Text) :
    Except PyExc (List (PyStr × Json) × Json) :=
  match Json.loadsWithin limits line with
  | .error exc => .error exc
  | .ok (.obj members) =>
      match lookup (py "hash") members with
      | none => .error .keyError
      | some claimed => .ok (remove (py "hash") members, claimed)
  | .ok (.arr _) => .error .typeError
  | .ok _ => .error .attributeError

/-- One turn of the loop. -/
def checkLineWithin (sha : Sha256) (limits : Limits) (lineno : ℕ) (cursor : Cursor)
    (line : Text) : Except Stop Cursor :=
  if line = [] then .ok cursor
  else
    match readEntryWithin limits line with
    | .error exc =>
        if exc.kind = .value ∨ exc.kind = .key then
          .error (rejection cursor lineno ": unparsable")
        else .error (.raised exc)
    | .ok (entry, claimed) =>
        let n := cursor.entries + 1
        let counted : Cursor := ⟨n, cursor.head⟩
        if (lookup (py "seq") entry).bind Json.number ≠ some (n : ℚ) then
          .error (rejection counted lineno ": sequence gap/reorder")
        else if lookup (py "prev") entry ≠ some (.str (ofText cursor.head)) then
          .error (rejection counted lineno ": broken chain link")
        -- `_hash(prev, entry)` is not in the `try`
        else if limits.writes < (Json.obj entry).nesting then .error (.raised .recursionError)
        else if .str (ofText (hash sha cursor.head (.obj entry))) ≠ claimed then
          .error (rejection counted lineno ": content modified")
        else .ok ⟨n, hash sha cursor.head (.obj entry)⟩

def verifyLinesWithin (sha : Sha256) (limits : Limits) :
    ℕ → Cursor → List Text → Except Stop Cursor
  | _, cursor, [] => .ok cursor
  | lineno, cursor, line :: rest =>
      match checkLineWithin sha limits lineno cursor line with
      | .error stop => .error stop
      | .ok cursor => verifyLinesWithin sha limits (lineno + 1) cursor rest

/-- `verify_file(path, expected_head)` -/
def verifyFileWithin (sha : Sha256) (limits : Limits) (chunkSize : ℕ)
    (expectedHead : Option PyStr) : Option Bytes → Except PyExc Verdict
  | none => .ok ⟨true, 0, genesis, none⟩
  | some content =>
      let (lines, decoded) := openLines chunkSize content
      match verifyLinesWithin sha limits 1 .start lines with
      | .error (.returned cursor error) => .ok ⟨false, cursor.entries, cursor.head, some error⟩
      | .error (.raised exc) => .error exc
      | .ok cursor =>
          if decoded = false then .error .unicodeDecodeError
          else if anchorMismatch cursor.head expectedHead then
            .ok ⟨false, cursor.entries, cursor.head,
              some "head does not match anchor (log truncated or rewritten)".toList⟩
          else .ok ⟨true, cursor.entries, cursor.head, none⟩

/-- `AuditLog(path)` -/
def AuditLog.initWithin (sha : Sha256) (limits : Limits) (chunkSize : ℕ)
    (file : Option Bytes) : Except PyExc AuditLog :=
  match verifyFileWithin sha limits chunkSize none file with
  | .error exc => .error exc
  | .ok verdict =>
      .ok ⟨verdict.entries, verdict.head, if verdict.ok then none else verdict.error⟩

/-! ## Lines within the limits -/

/-- The line is read as without limits, and what is left of it can be written. -/
structure Fits (limits : Limits) (line : Text) : Prop where
  read : readEntryWithin limits line = readEntry line
  written : ∀ entry claimed, readEntry line = .ok (entry, claimed) →
    (Json.obj entry).nesting ≤ limits.writes

theorem readEntry_of_readEntryWithin {line : Text} {parsed : List (PyStr × Json) × Json}
    (read : readEntryWithin limits line = .ok parsed) : readEntry line = .ok parsed := by
  unfold readEntryWithin at read
  split at read
  · contradiction
  next members loaded =>
    rw [readEntry, Json.loads_of_loadsWithin loaded]
    exact read
  · contradiction
  · contradiction

theorem checkLineWithin_of_fits {line : Text} (fits : Fits limits line) (lineno : ℕ)
    (cursor : Cursor) :
    checkLineWithin sha limits lineno cursor line = checkLine sha lineno cursor line := by
  unfold checkLineWithin checkLine
  rw [fits.read]
  cases read : readEntry line with
  | error exc => rfl
  | ok parsed =>
      have written := fits.written parsed.1 parsed.2 read
      simp only [not_lt.mpr written, if_false]

/-- The loop goes on only at lines within the limits. -/
theorem checkLineWithin_ok {lineno : ℕ} {cursor next : Cursor} {line : Text}
    (nonempty : line ≠ [])
    (checked : checkLineWithin sha limits lineno cursor line = .ok next) :
    Fits limits line := by
  unfold checkLineWithin at checked
  rw [if_neg nonempty] at checked
  split at checked
  · split at checked <;> contradiction
  next entry claimed read =>
    have unlimited := readEntry_of_readEntryWithin read
    simp only at checked
    split at checked
    · contradiction
    · split at checked
      · contradiction
      · split at checked
        · contradiction
        next written =>
          refine ⟨read.trans unlimited.symm, fun other claim parsed => ?_⟩
          rw [unlimited, Except.ok.injEq, Prod.mk.injEq] at parsed
          rw [← parsed.1]
          exact not_lt.mp written

theorem verifyLinesWithin_append {before : List Text}
    (fits : ∀ line ∈ entryLines before, Fits limits line) (lineno : ℕ) (cursor : Cursor)
    (after : List Text) :
    verifyLinesWithin sha limits lineno cursor (before ++ after) =
      match verifyLines sha lineno cursor before with
      | .error stop => .error stop
      | .ok cursor => verifyLinesWithin sha limits (lineno + before.length) cursor after := by
  induction before generalizing lineno cursor with
  | nil => simp [verifyLines]
  | cons line before inductionHypothesis =>
      have same : checkLineWithin sha limits lineno cursor line =
          checkLine sha lineno cursor line := by
        by_cases blank : line = []
        · simp [blank, checkLineWithin]
        · exact checkLineWithin_of_fits (fits line (by simp [entryLines, blank])) lineno cursor
      have others : ∀ line ∈ entryLines before, Fits limits line := fun other membership =>
        fits other (by
          rw [entryLines, List.mem_filter] at membership ⊢
          exact ⟨.tail line membership.1, membership.2⟩)
      simp only [List.cons_append, verifyLinesWithin, verifyLines, same]
      cases checkLine sha lineno cursor line with
      | error stop => rfl
      | ok next =>
          simp only [inductionHypothesis others, List.length_cons]
          rw [Nat.add_assoc, Nat.add_comm 1]

/-- The lines in front of the line form a valid chain within the limits; the line does not
continue it, or is not within the limits. -/
structure FirstUnfit (sha : Sha256) (limits : Limits) (lines before : List Text) (line : Text)
    (after : List Text) (cursor : Cursor) : Prop where
  parts : lines = before ++ line :: after
  valid : ValidChain sha (entryLines before) cursor
  fits : ∀ entry ∈ entryLines before, Fits limits entry
  nonempty : line ≠ []
  unfit : ¬(Fits limits line ∧ ∃ entry, Continues sha cursor line entry)

/-- The loop does not go on behind such a line. -/
theorem FirstUnfit.stops {lines before after : List Text} {line : Text} {cursor : Cursor}
    (first : FirstUnfit sha limits lines before line after cursor) :
    ∃ stop, checkLineWithin sha limits (before.length + 1) cursor line = .error stop ∧
      verifyLinesWithin sha limits 1 .start lines = .error stop := by
  have replayed := @verifyLinesWithin_append sha limits _ first.fits 1 .start (line :: after)
  rw [← first.parts, verifyLines_eq_ok_iff.mpr first.valid, Nat.add_comm] at replayed
  cases checked : checkLineWithin sha limits (before.length + 1) cursor line with
  | error stop => exact ⟨stop, rfl, by simpa [verifyLinesWithin, checked] using replayed⟩
  | ok next =>
      have fits := checkLineWithin_ok first.nonempty checked
      rw [checkLineWithin_of_fits fits, checkLine_eq_ok_iff first.nonempty] at checked
      obtain ⟨entry, continues, _⟩ := checked
      exact absurd ⟨fits, entry, continues⟩ first.unfit

/-- All lines continue the chain within the limits, or there is a first that does not. -/
theorem verifyLinesWithin_cases (sha : Sha256) (limits : Limits) (lines : List Text) :
    (∃ final, ValidChain sha (entryLines lines) final ∧
      (∀ line ∈ entryLines lines, Fits limits line) ∧
      verifyLinesWithin sha limits 1 .start lines = .ok final) ∨
    ∃ before line after cursor, FirstUnfit sha limits lines before line after cursor := by
  induction lines using List.reverseRecOn with
  | nil => exact .inl ⟨.start, .nil, by simp [entryLines], rfl⟩
  | append_singleton lines line inductionHypothesis =>
      rcases inductionHypothesis with
        ⟨final, valid, fits, replayed⟩ | ⟨before, other, after, cursor, first⟩
      · by_cases blank : line = []
        · subst blank
          have same : entryLines (lines ++ [[]]) = entryLines lines := by simp [entryLines]
          refine .inl ⟨final, by rwa [same], by rwa [same], ?_⟩
          rw [verifyLinesWithin_append fits, verifyLines_eq_ok_iff.mpr valid]
          rfl
        · have more : entryLines (lines ++ [line]) = entryLines lines ++ [line] := by
            simp [entryLines, blank]
          by_cases fit : Fits limits line ∧ ∃ entry, Continues sha final line entry
          · obtain ⟨lineFits, entry, continues⟩ := fit
            have longer := ValidChain.snoc valid continues
            refine .inl ⟨_, more ▸ longer, ?_, ?_⟩
            · rw [more, List.forall_mem_append, List.forall_mem_singleton]
              exact ⟨fits, lineFits⟩
            · have checked : checkLine sha (1 + lines.length) final line = .ok _ :=
                (checkLine_eq_ok_iff blank).mpr ⟨entry, continues, rfl⟩
              rw [verifyLinesWithin_append fits, verifyLines_eq_ok_iff.mpr valid]
              simp only [verifyLinesWithin, checkLineWithin_of_fits lineFits, checked]
          · exact .inr ⟨lines, line, [], final, rfl, valid, fits, blank, fit⟩
      · refine .inr ⟨before, other, after ++ [line], cursor, ?_, first.valid, first.fits,
          first.nonempty, first.unfit⟩
        rw [first.parts, List.append_assoc, List.cons_append]

/-! ## Which files are judged -/

/-- The line is an object with the fields of an entry. -/
def HasFields (line : Text) : Prop :=
  ∃ members, Json.loads line = some (.obj members) ∧
    ∀ key ∈ [py "hash", py "seq", py "prev"], lookup key members ≠ none

/-- The verifier and the opening of the log return, and tell of a line without the fields. -/
def Judges (sha : Sha256) (limits : Limits) (chunkSize : ℕ) (anchor : Option PyStr)
    (content : Bytes) : Prop :=
  let malformed := ∃ line ∈ entryLines (openLines chunkSize content).1, ¬HasFields line
  (∃ verdict, verifyFileWithin sha limits chunkSize anchor (some content) = .ok verdict ∧
      (malformed → verdict.ok = false)) ∧
    ∃ log, AuditLog.initWithin sha limits chunkSize (some content) = .ok log ∧
      (malformed → log.tamperError ≠ none)

/-- `json.loads` refuses the line with a `ValueError`, or reads an object; and if the number
and the link of the object are right, it is not too deep to be written. -/
def Settled (limits : Limits) (cursor : Cursor) (line : Text) : Prop :=
  match Json.loadsWithin limits line with
  | .error exc => exc.isValueError = true
  | .ok (.obj members) =>
      let entry := remove (py "hash") members
      lookup (py "hash") members ≠ none →
        (lookup (py "seq") entry).bind Json.number = some ((cursor.entries + 1 : ℕ) : ℚ) →
        lookup (py "prev") entry = some (.str (ofText cursor.head)) →
        (Json.obj entry).nesting ≤ limits.writes
  | .ok _ => False

/-- The first line that does not continue the chain within the limits is settled; or there
is none, and every byte was decoded. -/
def Judgeable (sha : Sha256) (limits : Limits) (chunkSize : ℕ) (content : Bytes) : Prop :=
  let lines := (openLines chunkSize content).1
  (∃ before line after cursor,
      FirstUnfit sha limits lines before line after cursor ∧ Settled limits cursor line) ∨
    ((∃ cursor, ValidChain sha (entryLines lines) cursor) ∧
      (∀ line ∈ entryLines lines, Fits limits line) ∧
      (openLines chunkSize content).2 = true)

theorem ValidChain.continues {lines : List Text} {final : Cursor}
    (valid : ValidChain sha lines final) :
    ∀ line ∈ lines, ∃ cursor entry, Continues sha cursor line entry := by
  induction valid with
  | nil => simp
  | snoc _ continues inductionHypothesis =>
      rw [List.forall_mem_append, List.forall_mem_singleton]
      exact ⟨inductionHypothesis, _, _, continues⟩

theorem Continues.hasFields {cursor : Cursor} {line : Text} {entry : List (PyStr × Json)}
    (continues : Continues sha cursor line entry) : HasFields line := by
  obtain ⟨read, seq, prev⟩ := continues
  unfold readEntry at read
  split at read
  · contradiction
  next members loaded =>
    split at read
    · contradiction
    next claimed found =>
      simp only [Except.ok.injEq, Prod.mk.injEq] at read
      obtain ⟨rfl, rfl⟩ := read
      refine ⟨members, loaded, ?_⟩
      have seqKey : py "seq" ≠ py "hash" := by decide
      have prevKey : py "prev" ≠ py "hash" := by decide
      rw [lookup_remove, if_neg seqKey] at seq
      rw [lookup_remove, if_neg prevKey] at prev
      simp only [List.forall_mem_cons]
      refine ⟨by simp [found], ?_, by simp [prev], by simp⟩
      rintro missing
      simp [missing] at seq
  · contradiction
  · contradiction

/-- A line that ends the loop ends it with a verdict exactly if it is settled. -/
theorem settled_iff {lineno : ℕ} {cursor : Cursor} {line : Text} {stop : Stop}
    (nonempty : line ≠ [])
    (stopped : checkLineWithin sha limits lineno cursor line = .error stop) :
    Settled limits cursor line ↔ ∃ reached error, stop = .returned reached error := by
  unfold checkLineWithin readEntryWithin at stopped
  rw [if_neg nonempty] at stopped
  unfold Settled
  cases loaded : Json.loadsWithin limits line with
  | error exc =>
      have refusal := (Json.loads_agree limits line).refuses exc loaded
      simp only [Json.refusals, List.mem_cons, List.not_mem_nil, or_false] at refusal
      rw [loaded] at stopped
      rcases refusal with rfl | rfl | rfl
      · cases stopped
        exact iff_of_true rfl ⟨_, _, rfl⟩
      · cases stopped
        exact iff_of_true rfl ⟨_, _, rfl⟩
      · cases stopped
        exact iff_of_false (by simp [PyExc.recursionError, PyExc.isValueError]) (by simp)
  | ok value =>
      rw [loaded] at stopped
      cases value with
      | obj members =>
          simp only at stopped ⊢
          cases found : lookup (py "hash") members with
          | none =>
              rw [found] at stopped
              cases stopped
              exact iff_of_true (by simp) ⟨_, _, rfl⟩
          | some claimed =>
              rw [found] at stopped
              simp only at stopped
              split at stopped
              next seq =>
                cases stopped
                exact iff_of_true (fun _ right => absurd right seq) ⟨_, _, rfl⟩
              next seq =>
                split at stopped
                next prev =>
                  cases stopped
                  exact iff_of_true (fun _ _ right => absurd right prev) ⟨_, _, rfl⟩
                next prev =>
                  rw [not_not] at seq prev
                  split at stopped
                  next deep =>
                    cases stopped
                    refine iff_of_false (fun settled => ?_) (by simp)
                    exact not_lt.mpr (settled (by simp) seq prev) deep
                  next written =>
                    split at stopped
                    · cases stopped
                      exact iff_of_true (fun _ _ _ => not_lt.mp written) ⟨_, _, rfl⟩
                    · contradiction
      | _ =>
          cases stopped
          exact iff_of_false (by simp) (by simp)

/-- The verifier judges a file exactly if the first line that does not continue the chain
within the limits is settled, or there is no such line and no byte that cannot be decoded. -/
theorem judges_iff (sha : Sha256) (limits : Limits) (chunkSize : ℕ) (anchor : Option PyStr)
    (content : Bytes) :
    Judges sha limits chunkSize anchor content ↔ Judgeable sha limits chunkSize content := by
  unfold Judges Judgeable AuditLog.initWithin verifyFileWithin
  simp only
  rcases verifyLinesWithin_cases sha limits (openLines chunkSize content).1 with
    ⟨final, valid, fits, replayed⟩ | ⟨before, line, after, cursor, first⟩
  · have complete : ¬∃ line ∈ entryLines (openLines chunkSize content).1, ¬HasFields line := by
      rintro ⟨line, membership, lacks⟩
      obtain ⟨_, _, continues⟩ := valid.continues line membership
      exact lacks continues.hasFields
    rw [replayed]
    cases decoded : (openLines chunkSize content).2 with
    | false =>
        refine iff_of_false (by simp) ?_
        rintro (⟨before, line, after, cursor, first, _⟩ | ⟨_, _, whole⟩)
        · obtain ⟨stop, _, stopped⟩ := first.stops
          rw [replayed] at stopped
          contradiction
        · contradiction
    | true =>
        refine iff_of_true ⟨?_, _, rfl, fun malformed => absurd malformed complete⟩
          (.inr ⟨⟨final, valid⟩, fits, rfl⟩)
        simp only [Bool.true_eq_false, if_false]
        cases anchorMismatch final.head anchor with
        | true => exact ⟨_, rfl, fun _ => rfl⟩
        | false => exact ⟨_, rfl, fun malformed => absurd malformed complete⟩
  · obtain ⟨stop, checked, stopped⟩ := first.stops
    have verdict := settled_iff first.nonempty checked
    rw [stopped]
    cases stop with
    | returned reached error =>
        refine iff_of_true ⟨⟨_, rfl, fun _ => rfl⟩, _, rfl, by simp⟩ (.inl ⟨before, line, after,
          cursor, first, verdict.mpr ⟨reached, error, rfl⟩⟩)
    | raised exc =>
        refine iff_of_false (by simp) ?_
        rintro (⟨front, bad, rest, reached, other, settled⟩ | ⟨⟨final, valid⟩, fits, _⟩)
        · obtain ⟨otherStop, otherChecked, otherStopped⟩ := other.stops
          rw [stopped, Except.error.injEq] at otherStopped
          subst otherStopped
          obtain ⟨_, _, same⟩ := (settled_iff other.nonempty otherChecked).mp settled
          contradiction
        · have replayed := @verifyLinesWithin_append sha limits _ fits 1 .start []
          rw [List.append_nil, stopped, verifyLines_eq_ok_iff.mpr valid] at replayed
          contradiction

/-- The verifier does not return from a line of brackets too deep for the interpreter. -/
theorem verifyFileWithin_brackets (sha : Sha256) (limits : Limits) (chunkSize : ℕ)
    (anchor : Option PyStr) :
    verifyFileWithin sha limits chunkSize anchor
        (some (encode (writtenLines [List.replicate (limits.reads + 1) '[']))) =
      .error .recursionError := by
  have oneLine : ∀ line ∈ [List.replicate (limits.reads + 1) '['], OneLine line := by
    simp [OneLine]
  have loaded := Json.loadsWithin_brackets limits []
  rw [List.append_nil] at loaded
  have checked : checkLineWithin sha limits 1 .start (List.replicate (limits.reads + 1) '[') =
      .error (.raised .recursionError) := by
    simp [checkLineWithin, readEntryWithin, loaded, PyExc.recursionError]
  simp only [verifyFileWithin, openLines_of_run chunkSize (run_encode _),
    textLines_writtenLines oneLine, verifyLinesWithin, checked]

/-- A line that is a number, one that is a list, one of brackets, and a byte that is no
UTF-8. -/
theorem not_judges :
    verifyFileWithin (.table firstDigests) initialLimits 8192 none
        (some (encode ['1', '\n'])) = .error .attributeError ∧
      verifyFileWithin (.table firstDigests) initialLimits 8192 none
        (some (encode ['[', ']', '\n'])) = .error .typeError ∧
      verifyFileWithin (.table firstDigests) initialLimits 8192 none
        (some (encode (writtenLines [List.replicate 1001 '[']))) = .error .recursionError ∧
      verifyFileWithin (.table firstDigests) initialLimits 8192 none (some [0xFF]) =
        .error .unicodeDecodeError ∧
      ¬∀ content, Judges (.table firstDigests) initialLimits 8192 none content := by
  have number : verifyFileWithin (.table firstDigests) initialLimits 8192 none
      (some (encode ['1', '\n'])) = .error .attributeError := by
    simp only [verifyFileWithin, openLines_of_run 8192 (run_encode _)]
    decide +kernel
  refine ⟨number, ?_, verifyFileWithin_brackets _ initialLimits _ _, ?_, ?_⟩
  · simp only [verifyFileWithin, openLines_of_run 8192 (run_encode _)]
    decide +kernel
  · decide +kernel
  · intro judges
    obtain ⟨⟨verdict, returned, _⟩, _⟩ := judges (encode ['1', '\n'])
    rw [number] at returned
    contradiction

end RemoteUnlock.Audit
