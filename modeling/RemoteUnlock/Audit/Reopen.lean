import RemoteUnlock.Audit.Runs

/-!
# Reopening a damaged log

A log object opened on a file takes up the verifier's count and head.  The head is that of
the last entry in front of the one that stops the verifier, and so is the count if this one
cannot be parsed; otherwise it is already counted (`init_log`).  The records appended then
continue the good part of the file exactly if nothing that parses was counted, the file
ends at the end of a line, and the appends write their whole lines with data that is read
back as it was written (`continuesGood_of_resumable`, `resumable_of_continuesGood`).
-/

namespace RemoteUnlock.Audit

open Python Python.Items

/-! ## The good part of a log -/

/-- The lines in front of the one that stops the verifier, and the cursor behind them. -/
def goodPart (sha : Sha256) : ℕ → Cursor → List Text → List Text × Cursor
  | _, cursor, [] => ([], cursor)
  | lineno, cursor, line :: rest =>
      match checkLine sha lineno cursor line with
      | .error _ => ([], cursor)
      | .ok next =>
          (line :: (goodPart sha (lineno + 1) next rest).1,
            (goodPart sha (lineno + 1) next rest).2)

/-- The good part of what a file is read as. -/
def goodLines (sha : Sha256) (chunkSize : ℕ) (content : Bytes) : List Text :=
  (goodPart sha 1 .start (openLines chunkSize content).1).1

variable {sha : Sha256} {chunkSize : ℕ}

theorem verifyLines_goodPart (lineno : ℕ) (cursor : Cursor) (lines : List Text) :
    verifyLines sha lineno cursor (goodPart sha lineno cursor lines).1 =
      .ok (goodPart sha lineno cursor lines).2 := by
  induction lines generalizing lineno cursor with
  | nil => rfl
  | cons line lines inductionHypothesis =>
      rw [goodPart]
      cases checked : checkLine sha lineno cursor line with
      | error stop => rfl
      | ok next =>
          simp only [verifyLines, checked]
          exact inductionHypothesis (lineno + 1) next

theorem goodPart_prefix (lineno : ℕ) (cursor : Cursor) (lines : List Text) :
    (goodPart sha lineno cursor lines).1 <+: lines := by
  induction lines generalizing lineno cursor with
  | nil => exact List.nil_prefix
  | cons line lines inductionHypothesis =>
      rw [goodPart]
      cases checkLine sha lineno cursor line with
      | error stop => exact List.nil_prefix
      | ok next =>
          rw [List.cons_prefix_cons]
          exact ⟨rfl, inductionHypothesis (lineno + 1) next⟩

/-- No longer part of the file is accepted. -/
theorem goodPart_longest {lineno : ℕ} {cursor final : Cursor} {first : List Text}
    (rest : List Text) (accepted : verifyLines sha lineno cursor first = .ok final) :
    first <+: (goodPart sha lineno cursor (first ++ rest)).1 := by
  induction first generalizing lineno cursor with
  | nil => exact List.nil_prefix
  | cons line first inductionHypothesis =>
      rw [List.cons_append, goodPart]
      rw [verifyLines] at accepted
      cases checked : checkLine sha lineno cursor line with
      | error stop =>
          rw [checked] at accepted
          contradiction
      | ok next =>
          rw [checked] at accepted
          rw [List.cons_prefix_cons]
          exact ⟨rfl, inductionHypothesis accepted⟩

/-- Where the verifier stops, the good part ends. -/
theorem goodPart_of_stop {lineno : ℕ} {cursor : Cursor} {lines : List Text} {stop : Stop}
    (stopped : verifyLines sha lineno cursor lines = .error stop) :
    ∃ line rest, lines = (goodPart sha lineno cursor lines).1 ++ line :: rest ∧
      ∃ number, checkLine sha number (goodPart sha lineno cursor lines).2 line = .error stop := by
  induction lines generalizing lineno cursor with
  | nil => contradiction
  | cons line lines inductionHypothesis =>
      rw [verifyLines] at stopped
      rw [goodPart]
      cases checked : checkLine sha lineno cursor line with
      | error other =>
          rw [checked] at stopped
          cases stopped
          exact ⟨line, lines, rfl, lineno, checked⟩
      | ok next =>
          rw [checked] at stopped
          obtain ⟨found, rest, parts, number, why⟩ := inductionHypothesis stopped
          refine ⟨found, rest, ?_, number, why⟩
          rw [List.cons_append, ← parts]

theorem goodPart_of_accepted {lineno : ℕ} {cursor final : Cursor} {lines : List Text}
    (accepted : verifyLines sha lineno cursor lines = .ok final) :
    goodPart sha lineno cursor lines = (lines, final) := by
  induction lines generalizing lineno cursor with
  | nil =>
      cases accepted
      rfl
  | cons line lines inductionHypothesis =>
      rw [verifyLines] at accepted
      rw [goodPart]
      cases checked : checkLine sha lineno cursor line with
      | error stop =>
          rw [checked] at accepted
          contradiction
      | ok next =>
          rw [checked] at accepted
          simp only [inductionHypothesis accepted]

/-! ## Opening -/

/-- A line that stops the verifier is counted exactly if it can be read as an entry. -/
theorem checkLine_returned {lineno : ℕ} {cursor reached : Cursor} {line error : Text}
    (stopped : checkLine sha lineno cursor line = .error (.returned reached error)) :
    reached.head = cursor.head ∧
      ((∃ parsed, readEntry line = .ok parsed) ∧ reached.entries = cursor.entries + 1 ∨
        (¬ ∃ parsed, readEntry line = .ok parsed) ∧ reached.entries = cursor.entries) := by
  unfold checkLine at stopped
  split at stopped
  · contradiction
  · split at stopped
    next exc unread =>
      split at stopped
      · cases stopped
        exact ⟨rfl, .inr ⟨by simp [unread], rfl⟩⟩
      · simp at stopped
    next entry claimed read =>
      simp only at stopped
      split at stopped
      · cases stopped
        exact ⟨rfl, .inl ⟨⟨_, read⟩, rfl⟩⟩
      · split at stopped
        · cases stopped
          exact ⟨rfl, .inl ⟨⟨_, read⟩, rfl⟩⟩
        · split at stopped
          · cases stopped
            exact ⟨rfl, .inl ⟨⟨_, read⟩, rfl⟩⟩
          · contradiction

/-- The verifier stops at a line that can be read as an entry. -/
def StopsAtEntry (sha : Sha256) (chunkSize : ℕ) (content : Bytes) : Prop :=
  ∃ line parsed, readEntry line = .ok parsed ∧
    (openLines chunkSize content).1[(goodLines sha chunkSize content).length]? = some line

/-- What an object opened on a file takes up. -/
theorem init_log {content : Bytes} {log : AuditLog}
    (opened : AuditLog.init sha chunkSize (some content) = .ok log) :
    log.head = (goodPart sha 1 .start (openLines chunkSize content).1).2.head ∧
      (StopsAtEntry sha chunkSize content ∧
          log.seq = (goodPart sha 1 .start (openLines chunkSize content).1).2.entries + 1 ∨
        ¬ StopsAtEntry sha chunkSize content ∧
          log.seq = (goodPart sha 1 .start (openLines chunkSize content).1).2.entries) := by
  unfold AuditLog.init verifyFile at opened
  unfold StopsAtEntry goodLines
  rcases read : openLines chunkSize content with ⟨lines, decoded⟩
  simp only [read] at opened ⊢
  cases replayed : verifyLines sha 1 .start lines with
  | ok cursor =>
      rw [replayed] at opened
      have good := goodPart_of_accepted replayed
      have none : ¬ ∃ line parsed, readEntry line = .ok parsed ∧
          lines[lines.length]? = some line := by
        rintro ⟨line, parsed, _, found⟩
        simp at found
      rw [good]
      simp only at opened ⊢
      split at opened
      · contradiction
      next verdict verified =>
        split at verified
        · contradiction
        · simp only [anchorMismatch, Bool.false_eq_true, if_false, Except.ok.injEq] at verified
          subst verified
          cases opened
          exact ⟨rfl, .inr ⟨none, rfl⟩⟩
  | error stop =>
      rw [replayed] at opened
      obtain ⟨line, rest, parts, number, stopped⟩ := goodPart_of_stop replayed
      cases stop with
      | raised exc => contradiction
      | returned reached error =>
          cases opened
          have behind : ∀ good : List Text, lines = good ++ line :: rest →
              lines[good.length]? = some line := by
            rintro good rfl
            simp
          have found := behind _ parts
          obtain ⟨head, counted⟩ := checkLine_returned stopped
          refine ⟨head, ?_⟩
          rcases counted with ⟨⟨parsed, read⟩, count⟩ | ⟨unread, count⟩
          · exact .inl ⟨⟨line, parsed, read, found⟩, count⟩
          · refine .inr ⟨?_, count⟩
            rintro ⟨other, parsed, read, same⟩
            rw [found] at same
            cases same
            exact unread ⟨parsed, read⟩

/-! ## Appending behind the good part -/

/-- The state behind a sequence of calls. -/
def runCalls (sha : Sha256) : List Call → LogState → LogState
  | [], state => state
  | call :: rest, state => runCalls sha rest (call.run sha state).2

/-- The lines the calls write. -/
def recordLines (sha : Sha256) : List Call → LogState → List Text
  | [], _ => []
  | call :: rest, state =>
      entryLine sha state.log.head (newEntry state.log call.timestamp call.event call.data) ::
        recordLines sha rest (call.run sha state).2

/-- Data that are empty or end with a line break. -/
def LineStart (bytes : Bytes) : Prop := ∀ last ∈ bytes.getLast?, last = 10 ∨ last = 13

/-- Lines written one by one behind some data each stand on a line of their own. -/
def StandAlone : Bytes → List Text → Prop
  | _, [] => True
  | before, line :: rest =>
      LineStart before ∧ OneLine line ∧ StandAlone (before ++ encode (line ++ ['\n'])) rest

/-- The records of the calls stand on lines of their own behind the content, and with its
good part they make a log the verifier accepts. -/
structure ContinuesGood (sha : Sha256) (chunkSize : ℕ) (content : Bytes) (log : AuditLog)
    (calls : List Call) : Prop where
  written : (runCalls sha calls ⟨log, some content⟩).file =
    some (content ++ encode (writtenLines (recordLines sha calls ⟨log, some content⟩)))
  alone : StandAlone content (recordLines sha calls ⟨log, some content⟩)
  accepted : ∃ entries head, verifyFile sha chunkSize none
    (some (encode (writtenLines (goodLines sha chunkSize content ++
      recordLines sha calls ⟨log, some content⟩)))) = .ok ⟨true, entries, head, none⟩

/-- The conditions under which they do. -/
structure Resumable (sha : Sha256) (chunkSize : ℕ) (content : Bytes) (calls : List Call) :
    Prop where
  lineStart : LineStart content
  uncounted : ¬ StopsAtEntry sha chunkSize content
  whole : ∀ call ∈ calls, call.io = .complete
  stable : ∀ call ∈ calls, Json.KeysStable (.obj call.data)

theorem Call.run_log {call : Call} (calm : call.io.raises = false) (state : LogState) :
    (call.run sha state).2.log =
      state.log.next sha call.timestamp call.event call.data := by
  obtain ⟨count, written⟩ := Io.eq_of_calm calm
  rw [Call.run, written, append_written]

/-- Read from where the log object stands, the records with stable data are accepted. -/
theorem verifyLines_records (lineno : ℕ) {calls : List Call} (state : LogState)
    (calm : ∀ call ∈ calls, call.io.raises = false)
    (stable : ∀ call ∈ calls, Json.KeysStable (.obj call.data)) :
    ∃ final, verifyLines sha lineno ⟨state.log.seq, state.log.head⟩
      (recordLines sha calls state) = .ok final := by
  induction calls generalizing lineno state with
  | nil => exact ⟨_, rfl⟩
  | cons call calls inductionHypothesis =>
      rw [List.forall_mem_cons] at calm stable
      simp only [recordLines, verifyLines, checkLine_entryLine_of_stable _ state.log stable.1]
      have next := inductionHypothesis (lineno + 1) (call.run sha state).2 calm.2 stable.2
      rw [Call.run_log calm.1] at next
      exact next

/-- And none with unstable data. -/
theorem stable_of_verifyLines_records (collisionFree : Function.Injective sha.hexdigest)
    (lineno : ℕ) {calls : List Call} (state : LogState) {final : Cursor}
    (calm : ∀ call ∈ calls, call.io.raises = false)
    (accepted : verifyLines sha lineno ⟨state.log.seq, state.log.head⟩
      (recordLines sha calls state) = .ok final) :
    ∀ call ∈ calls, Json.KeysStable (.obj call.data) := by
  induction calls generalizing lineno state with
  | nil => exact fun call absent => absurd absent List.not_mem_nil
  | cons call calls inductionHypothesis =>
      rw [List.forall_mem_cons] at calm ⊢
      simp only [recordLines, verifyLines] at accepted
      by_cases stable : Json.KeysStable (.obj call.data)
      · simp only [checkLine_entryLine_of_stable _ state.log stable] at accepted
        refine ⟨stable, inductionHypothesis (lineno + 1) (call.run sha state).2 calm.2 ?_⟩
        rw [Call.run_log calm.1]
        exact accepted
      · simp only [checkLine_entryLine_of_unstable collisionFree _ state.log stable] at accepted
        contradiction

theorem oneLine_recordLines (calls : List Call) (state : LogState) :
    ∀ line ∈ recordLines sha calls state, OneLine line := by
  induction calls generalizing state with
  | nil => exact fun line absent => absurd absent List.not_mem_nil
  | cons call calls inductionHypothesis =>
      rw [recordLines, List.forall_mem_cons]
      exact ⟨oneLine_entryLine sha _ _, inductionHypothesis _⟩

/-- A record that counts one entry too many does not continue the chain. -/
theorem checkLine_entryLine_of_miscounted {lineno entries : ℕ} {log : AuditLog}
    {timestamp event : PyStr} {data : List (PyStr × Json)} {next : Cursor}
    (miscounted : log.seq ≠ entries) :
    checkLine sha lineno ⟨entries, log.head⟩
      (entryLine sha log.head (newEntry log timestamp event data)) ≠ .ok next := by
  intro accepted
  obtain ⟨read, readBack, fields⟩ :=
    readEntry_entryLine sha log.head (newEntry_plain log timestamp event data) rfl
  obtain ⟨entry, continues, _⟩ := (checkLine_eq_ok_iff (entryLine_ne_nil sha _ _)).mp accepted
  have same := continues.read
  rw [readBack, Except.ok.injEq, Prod.mk.injEq] at same
  obtain ⟨rfl, _⟩ := same
  have seq : lookup (py "seq") read = some (.int (log.seq + 1 : ℕ)) := fields (py "seq")
  have counted := continues.seq
  rw [seq] at counted
  simp only [Option.bind_some, Json.number, Option.some.injEq] at counted
  apply miscounted
  have numbers : ((log.seq + 1 : ℕ) : ℚ) = ((entries + 1 : ℕ) : ℚ) := by exact_mod_cast counted
  have naturals : log.seq + 1 = entries + 1 := by exact_mod_cast numbers
  omega

theorem standAlone_of_lineStart {before : Bytes} {lines : List Text}
    (lineStart : LineStart before) (oneLine : ∀ line ∈ lines, OneLine line) :
    StandAlone before lines := by
  induction lines generalizing before with
  | nil => trivial
  | cons line lines inductionHypothesis =>
      rw [List.forall_mem_cons] at oneLine
      refine ⟨lineStart, oneLine.1, inductionHypothesis ?_ oneLine.2⟩
      have ended : encode ['\n'] = [10] := rfl
      rw [encode_append, ended, ← List.append_assoc]
      simp [LineStart]

theorem length_writtenPart_le (data : Bytes) (count : Option ℕ) :
    (writtenPart data count).length ≤ data.length := by
  cases count with
  | none => exact le_refl _
  | some count =>
      rw [writtenPart, List.length_take, List.length_dropLast]
      omega

theorem eq_none_of_length_writtenPart {data : Bytes} {count : Option ℕ} (nonempty : data ≠ [])
    (whole : (writtenPart data count).length = data.length) : count = none := by
  cases count with
  | none => rfl
  | some count =>
      have length := List.length_pos_iff.mpr nonempty
      rw [writtenPart, List.length_take, List.length_dropLast] at whole
      omega

/-- What the calls wrote is at most their lines, and less where a write was short. -/
theorem runCalls_file {calls : List Call} (state : LogState) {before : Bytes}
    (file : state.file = some before) (calm : ∀ call ∈ calls, call.io.raises = false) :
    ∃ written, (runCalls sha calls state).file = some (before ++ written) ∧
      written.length ≤ (encode (writtenLines (recordLines sha calls state))).length ∧
      (written.length = (encode (writtenLines (recordLines sha calls state))).length →
        ∀ call ∈ calls, call.io = .complete) ∧
      ((∀ call ∈ calls, call.io = .complete) →
        written = encode (writtenLines (recordLines sha calls state))) := by
  induction calls generalizing state before with
  | nil => exact ⟨[], by simp [runCalls, file], by simp, by simp, fun _ => rfl⟩
  | cons call calls inductionHypothesis =>
      rw [List.forall_mem_cons] at calm
      obtain ⟨count, io⟩ := Io.eq_of_calm calm.1
      set line := entryLine sha state.log.head
        (newEntry state.log call.timestamp call.event call.data) with isLine
      have grown : (call.run sha state).2.file =
          some (before ++ writtenPart (encode (line ++ ['\n'])) count) := by
        rw [Call.run, io, append_written, file, isLine]
        rfl
      obtain ⟨rest, final, atMost, whole, complete⟩ :=
        inductionHypothesis (call.run sha state).2 grown calm.2
      have lines : encode (writtenLines (recordLines sha (call :: calls) state)) =
          encode (line ++ ['\n']) ++
            encode (writtenLines (recordLines sha calls (call.run sha state).2)) := by
        rw [recordLines, writtenLines, List.flatMap_cons, ← encode_append]
        rfl
      refine ⟨writtenPart (encode (line ++ ['\n'])) count ++ rest, ?_, ?_, ?_, ?_⟩
      · rw [runCalls, final, List.append_assoc]
      · rw [lines, List.length_append, List.length_append]
        have bound := length_writtenPart_le (encode (line ++ ['\n'])) count
        omega
      · intro same
        rw [lines, List.length_append, List.length_append] at same
        have bound := length_writtenPart_le (encode (line ++ ['\n'])) count
        have nonempty : encode (line ++ ['\n']) ≠ [] := by
          rw [encode_append]
          exact List.append_ne_nil_of_right_ne_nil _ (by decide)
        have full : (writtenPart (encode (line ++ ['\n'])) count).length =
            (encode (line ++ ['\n'])).length := by omega
        have all := eq_none_of_length_writtenPart nonempty full
        rw [List.forall_mem_cons]
        subst all
        exact ⟨io, whole (by omega)⟩
      · intro allComplete
        rw [List.forall_mem_cons, io] at allComplete
        have all : count = none := by
          have parts := allComplete.1
          simpa [Io.complete] using parts
        rw [lines, complete allComplete.2, all]
        rfl

/-! ## What is appended continues the good part -/

/-- A log of the good part and the records is accepted exactly if the records continue it. -/
theorem accepted_iff {content : Bytes} {calls : List Call} {state : LogState} :
    (∃ entries head, verifyFile sha chunkSize none
      (some (encode (writtenLines (goodLines sha chunkSize content ++
        recordLines sha calls state)))) = .ok ⟨true, entries, head, none⟩) ↔
      ∃ final, verifyLines sha (1 + (goodLines sha chunkSize content).length)
        (goodPart sha 1 .start (openLines chunkSize content).1).2 (recordLines sha calls state) =
          .ok final := by
  have good : verifyLines sha 1 .start (goodLines sha chunkSize content) =
      .ok (goodPart sha 1 .start (openLines chunkSize content).1).2 :=
    verifyLines_goodPart 1 .start (openLines chunkSize content).1
  have oneLine : ∀ line ∈ goodLines sha chunkSize content ++ recordLines sha calls state,
      OneLine line := by
    intro line membership
    rcases List.mem_append.mp membership with old | new
    · have starts : goodLines sha chunkSize content <+: (openLines chunkSize content).1 :=
        goodPart_prefix 1 .start _
      exact oneLine_of_openLines chunkSize content line (starts.subset old)
    · exact oneLine_recordLines calls state line new
  have opened := openLines_of_run chunkSize (run_encode
    (writtenLines (goodLines sha chunkSize content ++ recordLines sha calls state)))
  rw [textLines_writtenLines oneLine] at opened
  have replayed := verifyLines_append sha 1 .start (goodLines sha chunkSize content)
    (recordLines sha calls state)
  rw [good] at replayed
  constructor
  · rintro ⟨entries, head, accepted⟩
    obtain ⟨_, lines, reread, ended⟩ := verifyFile_accepts_iff.mp accepted
    rw [opened, Prod.mk.injEq] at reread
    rw [← reread.1, replayed] at ended
    exact ⟨_, ended⟩
  · rintro ⟨final, ended⟩
    refine ⟨final.entries, final.head, verifyFile_accepts_iff.mpr ⟨rfl, _, opened, ?_⟩⟩
    rw [replayed]
    exact ended

theorem continuesGood_of_resumable {content : Bytes} {log : AuditLog} {calls : List Call}
    (opened : AuditLog.init sha chunkSize (some content) = .ok log)
    (resumable : Resumable sha chunkSize content calls) :
    ContinuesGood sha chunkSize content log calls := by
  have calm : ∀ call ∈ calls, call.io.raises = false := by
    intro call membership
    rw [resumable.whole call membership]
    rfl
  obtain ⟨written, final, _, _, complete⟩ := runCalls_file ⟨log, some content⟩ rfl calm
  obtain ⟨head, counted⟩ := init_log opened
  have seq : log.seq = (goodPart sha 1 .start (openLines chunkSize content).1).2.entries := by
    rcases counted with ⟨stops, _⟩ | ⟨_, seq⟩
    · exact absurd stops resumable.uncounted
    · exact seq
  constructor
  · rw [final, complete resumable.whole]
  · exact standAlone_of_lineStart resumable.lineStart (oneLine_recordLines calls _)
  · apply accepted_iff.mpr
    have atLog : (goodPart sha 1 .start (openLines chunkSize content).1).2 =
        ⟨log.seq, log.head⟩ := by
      rw [seq, head]
    rw [atLog]
    exact verifyLines_records _ ⟨log, some content⟩ calm resumable.stable

theorem resumable_of_continuesGood (collisionFree : Function.Injective sha.hexdigest)
    {content : Bytes} {log : AuditLog} {calls : List Call}
    (opened : AuditLog.init sha chunkSize (some content) = .ok log)
    (calm : ∀ call ∈ calls, call.io.raises = false) (someCall : calls ≠ [])
    (continues : ContinuesGood sha chunkSize content log calls) :
    Resumable sha chunkSize content calls := by
  obtain ⟨written, final, _, whole, _⟩ := runCalls_file ⟨log, some content⟩ rfl calm
  obtain ⟨head, counted⟩ := init_log opened
  obtain ⟨last, accepted⟩ := accepted_iff.mp continues.accepted
  have uncounted : log.seq =
      (goodPart sha 1 .start (openLines chunkSize content).1).2.entries := by
    by_contra miscounted
    cases calls with
    | nil => contradiction
    | cons call calls =>
        simp only [recordLines, verifyLines] at accepted
        split at accepted
        · contradiction
        next next checked =>
          generalize goodPart sha 1 .start (openLines chunkSize content).1 = good at *
          obtain ⟨lines, entries, goodHead⟩ := good
          simp only at head miscounted checked
          subst head
          exact checkLine_entryLine_of_miscounted miscounted checked
  have atLog : (goodPart sha 1 .start (openLines chunkSize content).1).2 = ⟨log.seq, log.head⟩ := by
    rw [uncounted, head]
  rw [atLog] at accepted
  constructor
  · have alone := continues.alone
    cases calls with
    | nil => contradiction
    | cons call calls => exact alone.1
  · rcases counted with ⟨_, seq⟩ | ⟨notStops, _⟩
    · omega
    · exact notStops
  · apply whole
    have same := continues.written
    rw [final, Option.some.injEq, List.append_cancel_left_eq] at same
    rw [same]
  · exact stable_of_verifyLines_records collisionFree _ ⟨log, some content⟩ calm accepted

/-- Behind the calls on a reopened log their records continue the good part exactly if there
are none, or the log can be resumed; only that it cannot otherwise needs the hash to tell
texts apart. -/
theorem continuesGood_iff_resumable (sha : Sha256) (chunkSize : ℕ) (content : Bytes)
    (log : AuditLog) (calls : List Call)
    (opened : AuditLog.init sha chunkSize (some content) = .ok log)
    (returned : ∀ call ∈ calls, call.io.raises = false) :
    (calls = [] ∨ Resumable sha chunkSize content calls →
      ContinuesGood sha chunkSize content log calls) ∧
    (Function.Injective sha.hexdigest → ContinuesGood sha chunkSize content log calls →
      calls = [] ∨ Resumable sha chunkSize content calls) := by
  constructor
  · rintro (rfl | resumable)
    · constructor
      · simp [runCalls, recordLines, writtenLines, encode]
      · trivial
      · exact accepted_iff.mpr ⟨_, rfl⟩
    · exact continuesGood_of_resumable opened resumable
  · intro collisionFree continues
    by_cases none : calls = []
    · exact .inl none
    · exact .inr (resumable_of_continuesGood collisionFree opened returned none continues)

theorem init_encode (sha : Sha256) (chunkSize : ℕ) (text : Text) :
    AuditLog.init sha chunkSize (some (encode text)) =
      match verifyLines sha 1 .start (textLines text) with
      | .error (.returned cursor error) => .ok ⟨cursor.entries, cursor.head, some error⟩
      | .error (.raised exc) => .error exc
      | .ok cursor => .ok ⟨cursor.entries, cursor.head, none⟩ := by
  simp only [AuditLog.init, verifyFile, openLines_of_run chunkSize (run_encode text)]
  cases verifyLines sha 1 .start (textLines text) with
  | error stop => cases stop <;> rfl
  | ok cursor => rfl

/-- The object opened on a file of one line without an entry. -/
def unparsedLog : AuditLog := ⟨0, genesis, some "line 1: unparsable".toList⟩

theorem continuesGood_unparsed :
    ContinuesGood (.table firstDigests) 8192 (encode ['x', '\n']) unparsedLog [stopCall] := by
  have opened : AuditLog.init (.table firstDigests) 8192 (some (encode ['x', '\n'])) =
      .ok unparsedLog := by
    rw [init_encode]
    decide +kernel
  have stable : Json.KeysStable (.obj stopCall.data) := ⟨List.Pairwise.nil, trivial⟩
  refine (continuesGood_iff_resumable (.table firstDigests) 8192 (encode ['x', '\n']) unparsedLog
    [stopCall] opened (by simp [stopCall, Io.complete, Io.raises])).1
    (.inr ⟨?_, ?_, by simp [stopCall], by simpa using stable⟩)
  · simp [LineStart, encode, String.utf8EncodeChar]
  · rintro ⟨line, parsed, read, found⟩
    have lines : textLines ['x', '\n'] = [['x']] := by decide
    have good : goodPart (.table firstDigests) 1 .start [['x']] = ([], .start) := by
      decide +kernel
    rw [goodLines, openLines_of_run 8192 (run_encode _), lines, good] at found
    cases found
    have unread : readEntry ['x'] = .error .jsonDecodeError := by decide +kernel
    rw [unread] at read
    contradiction

/-- A line that is an object with a hash, and no entry. -/
def countedText : Text := ['\x7b', '"', 'h', 'a', 's', 'h', '"', ':', '0', '\x7d', '\n']

/-- The object opened on it counts the line. -/
def countedLog : AuditLog := ⟨1, genesis, some "line 1: sequence gap/reorder".toList⟩

/-- A record behind a torn line does not stand on a line of its own, and one behind a line
that is counted without being an entry leaves a gap. -/
theorem not_continuesGood :
    (AuditLog.init (.table firstDigests) 8192 (some (encode ['x'])) = .ok unparsedLog ∧
      ¬ ContinuesGood (.table firstDigests) 8192 (encode ['x']) unparsedLog [stopCall]) ∧
    AuditLog.init (.table firstDigests) 8192 (some (encode countedText)) = .ok countedLog ∧
      ¬ ContinuesGood (.table firstDigests) 8192 (encode countedText) countedLog [stopCall] := by
  have torn : AuditLog.init (.table firstDigests) 8192 (some (encode ['x'])) =
      .ok unparsedLog := by
    rw [init_encode]
    decide +kernel
  have counted : AuditLog.init (.table firstDigests) 8192 (some (encode countedText)) =
      .ok countedLog := by
    rw [init_encode]
    decide +kernel
  refine ⟨⟨torn, ?_⟩, counted, ?_⟩
  · intro continues
    have lineStart := continues.alone.1
    simp [LineStart, encode, String.utf8EncodeChar] at lineStart
  · intro continues
    have calm : ∀ call ∈ [stopCall], call.io.raises = false := by
      simp [stopCall, Io.complete, Io.raises]
    have resumable := resumable_of_continuesGood (Sha256.table_injective firstDigests) counted
      calm (List.cons_ne_nil _ _) continues
    obtain ⟨_, ⟨stops, _⟩ | ⟨_, seq⟩⟩ := init_log counted
    · exact resumable.uncounted stops
    · have good : (goodPart (.table firstDigests) 1 .start (textLines countedText)).2.entries =
          0 := by
        decide +kernel
      rw [openLines_of_run 8192 (run_encode _), good] at seq
      contradiction

end RemoteUnlock.Audit
