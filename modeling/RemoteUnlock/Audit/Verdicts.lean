import RemoteUnlock.Audit.Anchor
import RemoteUnlock.Audit.Reopen

/-!
# What a verdict says

The lines of a file that are not empty form a valid chain up to some first bad line
(`ValidChain`, `FirstBad`).  The verifier stops there and nowhere else
(`verifyLines_stops`).  A verdict counts the bad line itself, unless it could not be
parsed.
-/

namespace RemoteUnlock.Audit

open Python Python.Items

variable {sha : Sha256} {chunkSize : ℕ}

/-! ## Valid chains -/

/-- Lines that continue one another from the genesis value on, and the cursor behind them. -/
inductive ValidChain (sha : Sha256) : List Text → Cursor → Prop
  | nil : ValidChain sha [] .start
  | snoc {lines : List Text} {cursor : Cursor} {line : Text} {entry : List (PyStr × Json)}
      (valid : ValidChain sha lines cursor) (continues : Continues sha cursor line entry) :
      ValidChain sha (lines ++ [line])
        ⟨cursor.entries + 1, hash sha cursor.head (.obj entry)⟩

theorem Continues.unique {cursor : Cursor} {line : Text} {entry other : List (PyStr × Json)}
    (continues : Continues sha cursor line entry) (others : Continues sha cursor line other) :
    entry = other := by
  have same := continues.read.symm.trans others.read
  simp only [Except.ok.injEq, Prod.mk.injEq] at same
  exact same.1

theorem ValidChain.snoc_inv {lines : List Text} {line : Text} {final : Cursor}
    (valid : ValidChain sha (lines ++ [line]) final) :
    ∃ cursor entry, ValidChain sha lines cursor ∧ Continues sha cursor line entry ∧
      final = ⟨cursor.entries + 1, hash sha cursor.head (.obj entry)⟩ := by
  generalize whole : lines ++ [line] = all at valid
  cases valid with
  | nil => simp at whole
  | @snoc before cursor last entry valid continues =>
      obtain ⟨rfl, same⟩ := List.append_inj' whole rfl
      cases same
      exact ⟨cursor, entry, valid, continues, rfl⟩

theorem ValidChain.length {lines : List Text} {cursor : Cursor}
    (valid : ValidChain sha lines cursor) : cursor.entries = lines.length := by
  induction valid with
  | nil => rfl
  | snoc _ _ inductionHypothesis => simp [inductionHypothesis]

theorem ValidChain.unique {lines : List Text} {cursor other : Cursor}
    (valid : ValidChain sha lines cursor) (others : ValidChain sha lines other) :
    cursor = other := by
  induction lines using List.reverseRecOn generalizing cursor other with
  | nil =>
      have atStart {final : Cursor} (chain : ValidChain sha [] final) : final = .start := by
        generalize none : ([] : List Text) = lines at chain
        cases chain with
        | nil => rfl
        | snoc => simp at none
      rw [atStart valid, atStart others]
  | append_singleton lines line inductionHypothesis =>
      obtain ⟨first, entry, validFirst, continues, rfl⟩ := valid.snoc_inv
      obtain ⟨second, otherEntry, validSecond, otherContinues, rfl⟩ := others.snoc_inv
      cases inductionHypothesis validFirst validSecond
      rw [continues.unique otherContinues]

/-- A chain may be cut off anywhere. -/
theorem ValidChain.of_append {first second : List Text} {final : Cursor}
    (valid : ValidChain sha (first ++ second) final) :
    ∃ cursor, ValidChain sha first cursor := by
  induction second using List.reverseRecOn generalizing final with
  | nil => exact ⟨final, by simpa using valid⟩
  | append_singleton second line inductionHypothesis =>
      rw [← List.append_assoc] at valid
      obtain ⟨cursor, _, shorter, _⟩ := valid.snoc_inv
      exact inductionHypothesis shorter

/-- The loop goes through exactly the valid chains. -/
theorem verifyLines_eq_ok_iff {lines : List Text} {cursor : Cursor} :
    verifyLines sha 1 .start lines = .ok cursor ↔ ValidChain sha (entryLines lines) cursor := by
  induction lines using List.reverseRecOn generalizing cursor with
  | nil =>
      constructor
      · intro replayed
        cases replayed
        exact .nil
      · intro valid
        rw [valid.unique .nil]
        rfl
  | append_singleton lines line inductionHypothesis =>
      rw [verifyLines_append]
      by_cases blank : line = []
      · subst blank
        have same : entryLines (lines ++ [[]]) = entryLines lines := by simp [entryLines]
        rw [same, ← inductionHypothesis]
        cases verifyLines sha 1 .start lines with
        | error stop => rfl
        | ok reached => simp [verifyLines]
      · have more : entryLines (lines ++ [line]) = entryLines lines ++ [line] := by
          simp [entryLines, blank]
        rw [more]
        constructor
        · intro replayed
          cases before : verifyLines sha 1 .start lines with
          | error stop => simp [before] at replayed
          | ok reached =>
              simp only [before, verifyLines] at replayed
              cases checked : checkLine sha (1 + lines.length) reached line with
              | error stop => simp [checked] at replayed
              | ok next =>
                  simp only [checked, Except.ok.injEq] at replayed
                  subst replayed
                  obtain ⟨entry, continues, rfl⟩ := (checkLine_eq_ok_iff blank).mp checked
                  exact .snoc (inductionHypothesis.mp before) continues
        · intro valid
          obtain ⟨reached, entry, shorter, continues, rfl⟩ := valid.snoc_inv
          have checked : checkLine sha (1 + lines.length) reached line =
              .ok ⟨reached.entries + 1, hash sha reached.head (.obj entry)⟩ :=
            (checkLine_eq_ok_iff blank).mpr ⟨entry, continues, rfl⟩
          simp only [inductionHypothesis.mpr shorter, verifyLines, checked]

/-! ## The first bad line -/

/-- The lines in front of the line form a valid chain that the line does not continue. -/
structure FirstBad (sha : Sha256) (lines before : List Text) (line : Text) (after : List Text)
    (cursor : Cursor) : Prop where
  parts : lines = before ++ line :: after
  valid : ValidChain sha (entryLines before) cursor
  nonempty : line ≠ []
  bad : ¬∃ entry, Continues sha cursor line entry

theorem FirstBad.not_shorter {lines before otherBefore after otherAfter : List Text}
    {line other : Text} {cursor otherCursor : Cursor}
    (first : FirstBad sha lines before line after cursor)
    (second : FirstBad sha lines otherBefore other otherAfter otherCursor) :
    ¬before.length < otherBefore.length := by
  intro shorter
  have whole := first.parts.symm.trans second.parts
  obtain ⟨middle, rfl⟩ : ∃ middle, otherBefore = before ++ line :: middle := by
    rcases List.append_eq_append_iff.mp whole with ⟨middle, behind, rest⟩ | ⟨middle, ahead, _⟩
    · cases middle with
      | nil => simp [behind] at shorter
      | cons head middle =>
          rw [List.cons_append, List.cons.injEq] at rest
          exact ⟨middle, by rw [behind, rest.1]⟩
    · simp [ahead] at shorter
  have valid := second.valid
  have split : entryLines (before ++ line :: middle) =
      (entryLines before ++ [line]) ++ entryLines middle := by
    simp [entryLines, first.nonempty]
  rw [split] at valid
  obtain ⟨_, upTo⟩ := valid.of_append
  obtain ⟨reached, entry, validBefore, continues, _⟩ := upTo.snoc_inv
  rw [validBefore.unique first.valid] at continues
  exact first.bad ⟨entry, continues⟩

/-- There is at most one. -/
theorem FirstBad.unique {lines before otherBefore after otherAfter : List Text}
    {line other : Text} {cursor otherCursor : Cursor}
    (first : FirstBad sha lines before line after cursor)
    (second : FirstBad sha lines otherBefore other otherAfter otherCursor) :
    before = otherBefore ∧ line = other ∧ cursor = otherCursor := by
  have whole := first.parts.symm.trans second.parts
  have length : before.length = otherBefore.length :=
    Nat.le_antisymm (not_lt.mp (second.not_shorter first)) (not_lt.mp (first.not_shorter second))
  obtain ⟨rfl, same⟩ := List.append_inj whole length
  rw [List.cons.injEq] at same
  exact ⟨rfl, same.1, first.valid.unique second.valid⟩

/-- The loop is left at the first bad line. -/
theorem verifyLines_stops {lines : List Text} {stop : Stop}
    (stopped : verifyLines sha 1 .start lines = .error stop) :
    ∃ before line after cursor, FirstBad sha lines before line after cursor ∧
      checkLine sha (before.length + 1) cursor line = .error stop := by
  induction lines using List.reverseRecOn with
  | nil => contradiction
  | append_singleton lines line inductionHypothesis =>
      rw [verifyLines_append] at stopped
      cases before : verifyLines sha 1 .start lines with
      | error other =>
          rw [before] at stopped
          obtain ⟨front, bad, rest, cursor, first, why⟩ :=
            inductionHypothesis (before.trans stopped)
          refine ⟨front, bad, rest ++ [line], cursor, ⟨?_, first.valid, first.nonempty,
            first.bad⟩, why⟩
          rw [first.parts, List.append_assoc, List.cons_append]
      | ok cursor =>
          simp only [before, verifyLines] at stopped
          cases checked : checkLine sha (1 + lines.length) cursor line with
          | ok next => simp [checked] at stopped
          | error other =>
              simp only [checked, Except.error.injEq] at stopped
              subst stopped
              have nonempty : line ≠ [] := by
                rintro rfl
                simp at checked
              refine ⟨lines, line, [], cursor, ⟨rfl, verifyLines_eq_ok_iff.mp before, nonempty,
                ?_⟩, by rw [Nat.add_comm, checked]⟩
              rintro ⟨entry, continues⟩
              rw [(checkLine_eq_ok_iff nonempty).mpr ⟨entry, continues, rfl⟩] at checked
              contradiction

/-- A file whose lines all continue the chain has no bad line. -/
theorem ValidChain.not_firstBad {lines before after : List Text} {line : Text}
    {final cursor : Cursor} (valid : ValidChain sha (entryLines lines) final) :
    ¬FirstBad sha lines before line after cursor := by
  intro first
  have split : entryLines lines = (entryLines before ++ [line]) ++ entryLines after := by
    rw [first.parts]
    simp [entryLines, first.nonempty]
  rw [split] at valid
  obtain ⟨_, upTo⟩ := valid.of_append
  obtain ⟨reached, entry, validBefore, continues, _⟩ := upTo.snoc_inv
  rw [validBefore.unique first.valid] at continues
  exact first.bad ⟨entry, continues⟩

/-! ## The prefix a verdict names -/

/-- What can be wrong with a line. -/
def problems : List Text :=
  [": unparsable", ": sequence gap/reorder", ": broken chain link", ": content modified"].map
    String.toList

/-- The first `k` entries form a valid chain with head `h`, and the error names the line of
the next, which does not continue it. -/
def NamesPrefix (sha : Sha256) (lines : List Text) (k : ℕ) (h error : Text) : Prop :=
  ∃ before line after, FirstBad sha lines before line after ⟨k, h⟩ ∧
    (entryLines before).length = k ∧
    ∃ problem ∈ problems, error = "line ".toList ++ natText (before.length + 1) ++ problem

/-- The first bad line cannot be parsed as an entry. -/
def StopsUnparsed (sha : Sha256) (lines : List Text) : Prop :=
  ∃ before line after cursor, FirstBad sha lines before line after cursor ∧
    ¬∃ parsed, readEntry line = .ok parsed

theorem checkLine_names {lineno : ℕ} {cursor reached : Cursor} {line error : Text}
    (stopped : checkLine sha lineno cursor line = .error (.returned reached error)) :
    ∃ problem ∈ problems, error = "line ".toList ++ natText lineno ++ problem := by
  unfold checkLine at stopped
  split at stopped
  · contradiction
  · split at stopped
    · split at stopped
      · cases stopped
        exact ⟨_, by simp [problems], rfl⟩
      · simp at stopped
    · simp only at stopped
      split at stopped
      · cases stopped
        exact ⟨_, by simp [problems], rfl⟩
      · split at stopped
        · cases stopped
          exact ⟨_, by simp [problems], rfl⟩
        · split at stopped
          · cases stopped
            exact ⟨_, by simp [problems], rfl⟩
          · contradiction

theorem verifyLines_of_rejected {content : Bytes} {k : ℕ} {h error : Text}
    (rejected : verifyFile sha chunkSize none (some content) = .ok ⟨false, k, h, some error⟩) :
    verifyLines sha 1 .start (openLines chunkSize content).1 =
      .error (.returned ⟨k, h⟩ error) := by
  unfold verifyFile at rejected
  simp only at rejected
  cases replayed : verifyLines sha 1 .start (openLines chunkSize content).1 with
  | ok cursor =>
      simp only [replayed, anchorMismatch, Bool.false_eq_true, if_false] at rejected
      split at rejected <;> simp at rejected
  | error stop =>
      cases stop with
      | raised exc => simp [replayed] at rejected
      | returned cursor message =>
          simp only [replayed, Except.ok.injEq, Verdict.mk.injEq, true_and,
            Option.some.injEq] at rejected
          obtain ⟨rfl, rfl, rfl⟩ := rejected
          rfl

/-- A failed verification reports the exact valid prefix where the first bad line could not
be parsed, and only there: any other bad line is counted. -/
theorem namesPrefix_iff {content : Bytes} {k : ℕ} {h error : Text}
    (rejected : verifyFile sha chunkSize none (some content) = .ok ⟨false, k, h, some error⟩) :
    NamesPrefix sha (openLines chunkSize content).1 k h error ↔
      StopsUnparsed sha (openLines chunkSize content).1 := by
  obtain ⟨before, line, after, cursor, first, stopped⟩ :=
    verifyLines_stops (verifyLines_of_rejected rejected)
  obtain ⟨head, counted⟩ := checkLine_returned stopped
  constructor
  · rintro ⟨front, bad, rest, named, _⟩
    obtain ⟨rfl, rfl, rfl⟩ := first.unique named
    refine ⟨before, line, after, ⟨k, h⟩, first, ?_⟩
    rcases counted with ⟨_, more⟩ | ⟨unread, _⟩
    · exact absurd more (Nat.succ_ne_self k).symm
    · exact unread
  · rintro ⟨front, bad, rest, reached, named, unread⟩
    obtain ⟨rfl, rfl, rfl⟩ := first.unique named
    have same : cursor = ⟨k, h⟩ := by
      rcases counted with ⟨read, _⟩ | ⟨_, entries⟩
      · exact absurd read unread
      · cases cursor
        simp only at head entries
        rw [head, entries]
    subst same
    exact ⟨before, line, after, first, first.valid.length.symm, checkLine_names stopped⟩

/-- A line that is no JSON at all. -/
theorem namesPrefix_unparsed :
    NamesPrefix (.table firstDigests) (openLines 8192 (encode ['x', '\n'])).1 0 genesis
      "line 1: unparsable".toList := by
  have opened : (openLines 8192 (encode ['x', '\n'])).1 = [['x']] := by
    rw [openLines_of_run 8192 (run_encode _)]
    decide
  have rejected : verifyFile (.table firstDigests) 8192 none (some (encode ['x', '\n'])) =
      .ok ⟨false, 0, genesis, some "line 1: unparsable".toList⟩ := by
    simp only [verifyFile, openLines_of_run 8192 (run_encode _)]
    decide +kernel
  apply (namesPrefix_iff rejected).mpr
  rw [opened]
  have unread : readEntry ['x'] = .error .jsonDecodeError := by decide +kernel
  refine ⟨[], ['x'], [], .start, ⟨rfl, .nil, by simp, ?_⟩, ?_⟩
  · rintro ⟨entry, continues⟩
    have read := continues.read
    rw [unread] at read
    contradiction
  · rintro ⟨parsed, read⟩
    rw [unread] at read
    contradiction

/-- An object that is no entry is counted as a valid one. -/
theorem not_namesPrefix :
    verifyFile (.table firstDigests) 8192 none (some (encode countedText)) =
        .ok ⟨false, 1, genesis, some "line 1: sequence gap/reorder".toList⟩ ∧
      ¬NamesPrefix (.table firstDigests) (openLines 8192 (encode countedText)).1 1 genesis
        "line 1: sequence gap/reorder".toList := by
  constructor
  · simp only [verifyFile, openLines_of_run 8192 (run_encode _)]
    decide +kernel
  · rintro ⟨before, line, after, first, one, _⟩
    have opened : (openLines 8192 (encode countedText)).1 =
        [['\x7b', '"', 'h', 'a', 's', 'h', '"', ':', '0', '\x7d']] := by
      rw [openLines_of_run 8192 (run_encode _)]
      decide
    have parts := congrArg List.length first.parts
    have atMost : (entryLines before).length ≤ before.length := List.length_filter_le _ _
    simp only [opened, List.length_append, List.length_cons, List.length_nil] at parts
    omega

end RemoteUnlock.Audit
