import RemoteUnlock.Audit.Verify

/-!
# Appending to the audit log

`append` counts up, writes one line and moves the head, in three separate steps
with the file operations in between; an `Io` says how each of these ends.  A call
that writes its whole line keeps a log in order (`append_inOrder`) as long as its
data prints as it will be read: the keys have to be stable.
-/

namespace RemoteUnlock.Audit

open Python Python.Items

/-- The fields of an `AuditLog`. -/
structure AuditLog where
  seq : ℕ
  head : Text
  tamperError : Option Text
  deriving DecidableEq

/-- A log object and the content of its file, if there is one. -/
structure LogState where
  log : AuditLog
  file : Option Bytes
  deriving DecidableEq

/-- How the file operations of one call end; `write` is `none` if it wrote everything,
and otherwise a bound on what a short write got to. -/
structure Io where
  openRaises : Option PyExc
  write : Except PyExc (Option ℕ)
  fsyncRaises : Option PyExc
  closeRaises : Option PyExc

/-- No operation raises and the line is written in full. -/
def Io.complete : Io := ⟨none, .ok none, none, none⟩

/-- Some operation raises. -/
def Io.raises (io : Io) : Bool :=
  io.openRaises.isSome || io.write matches .error _ || io.fsyncRaises.isSome ||
    io.closeRaises.isSome

/-- What the operations raise: what closing raises takes the place of what came before. -/
def Io.raised (io : Io) : Option PyExc :=
  io.openRaises.or (io.closeRaises.or
    (match io.write with
      | .error exc => some exc
      | .ok _ => io.fsyncRaises))

/-- `AuditLog(path)` -/
def AuditLog.init (sha : Sha256) (chunkSize : ℕ) (file : Option Bytes) :
    Except PyExc AuditLog :=
  match verifyFile sha chunkSize none file with
  | .error exc => .error exc
  | .ok verdict =>
      .ok ⟨verdict.entries, verdict.head, if verdict.ok then none else verdict.error⟩

/-- `os.open(path, O_WRONLY | O_APPEND | O_CREAT)` -/
def openAppend (io : Io) : Py LogState Unit := do
  Py.raiseIf io.openRaises
  Py.modify fun state => { state with file := some (state.file.getD []) }

/-- What of the data a write that did not raise got to the file. -/
def writtenPart (data : Bytes) : Option ℕ → Bytes
  | none => data
  | some count => data.dropLast.take count

/-- `os.write(fd, data)`: a short write is no error. -/
def writeAppend (io : Io) (data : Bytes) : Py LogState Unit :=
  match io.write with
  | .error exc => Py.raise exc
  | .ok count => Py.modify fun state =>
      { state with file := state.file.map (· ++ writtenPart data count) }

/-- The entry a call writes, without its hash. -/
def newEntry (log : AuditLog) (timestamp event : PyStr) (data : List (PyStr × Json)) :
    List (PyStr × Json) :=
  [(py "seq", .int (log.seq + 1 : ℕ)), (py "ts", .str timestamp), (py "event", .str event),
    (py "data", .obj data), (py "prev", .str (ofText log.head))]

/-- The line for an entry, without its newline. -/
def entryLine (sha : Sha256) (head : Text) (entry : List (PyStr × Json)) : Text :=
  canon (.obj (assign (py "hash") (.str (ofText (hash sha head (.obj entry)))) entry))

/-- `append(event, **data)` at a time printed as `timestamp`. -/
def append (sha : Sha256) (io : Io) (timestamp event : PyStr) (data : List (PyStr × Json)) :
    Py LogState (ℕ × Text) := do
  let before ← Py.read LogState.log
  Py.modify fun state => { state with log := { state.log with seq := state.log.seq + 1 } }
  let entry := newEntry before timestamp event data
  let digest := hash sha before.head (.obj entry)
  openAppend io
  Py.tryFinally
    (do
      writeAppend io (encode (entryLine sha before.head entry ++ ['\n']))
      Py.raiseIf io.fsyncRaises)
    (Py.raiseIf io.closeRaises)
  Py.modify fun state => { state with log := { state.log with head := digest } }
  let after ← Py.read LogState.log
  pure (after.seq, after.head)

/-- The log object behind a call that returns. -/
def AuditLog.next (sha : Sha256) (log : AuditLog) (timestamp event : PyStr)
    (data : List (PyStr × Json)) : AuditLog :=
  { log with
    seq := log.seq + 1
    head := hash sha log.head (.obj (newEntry log timestamp event data)) }

/-- A call none of whose operations raises moves the log object, whatever of its line got
to the file. -/
theorem append_written (sha : Sha256) (count : Option ℕ) (timestamp event : PyStr)
    (data : List (PyStr × Json)) (state : LogState) :
    append sha ⟨none, .ok count, none, none⟩ timestamp event data state =
      (.ok (state.log.seq + 1,
          hash sha state.log.head (.obj (newEntry state.log timestamp event data))),
        { log := state.log.next sha timestamp event data
          file := some (state.file.getD [] ++ writtenPart (encode (entryLine sha state.log.head
            (newEntry state.log timestamp event data) ++ ['\n'])) count) }) := by
  simp [append, openAppend, writeAppend, AuditLog.next, Py.bind_apply, Py.tryFinally]

/-- A call that completes adds one line and moves the log object to it. -/
theorem append_complete (sha : Sha256) (timestamp event : PyStr)
    (data : List (PyStr × Json)) (state : LogState) :
    append sha .complete timestamp event data state =
      (.ok (state.log.seq + 1,
          hash sha state.log.head (.obj (newEntry state.log timestamp event data))),
        { log := state.log.next sha timestamp event data
          file := some (state.file.getD [] ++ encode (entryLine sha state.log.head
            (newEntry state.log timestamp event data) ++ ['\n'])) }) :=
  append_written sha none timestamp event data state

theorem Io.eq_of_calm {io : Io} (calm : io.raises = false) :
    ∃ count, io = ⟨none, .ok count, none, none⟩ := by
  rcases io with ⟨openRaises, write, fsyncRaises, closeRaises⟩
  simp only [Io.raises, Bool.or_eq_false_iff, Option.isSome_eq_false_iff,
    Option.isNone_iff_eq_none] at calm
  rcases calm with ⟨⟨⟨rfl, written⟩, rfl⟩, rfl⟩
  cases write with
  | error exc => contradiction
  | ok count => exact ⟨count, rfl⟩

/-- A call none of whose operations raises returns. -/
theorem append_returns (sha : Sha256) {io : Io} (calm : io.raises = false)
    (timestamp event : PyStr) (data : List (PyStr × Json)) (state : LogState) :
    ∃ entry after, append sha io timestamp event data state = (.ok entry, after) := by
  obtain ⟨count, rfl⟩ := Io.eq_of_calm calm
  exact ⟨_, _, append_written sha count timestamp event data state⟩

/-- A call raises what its operations raise. -/
theorem append_raises {sha : Sha256} {io : Io} {timestamp event : PyStr}
    {data : List (PyStr × Json)} {state after : LogState} {exc : PyExc}
    (ran : append sha io timestamp event data state = (.error exc, after)) :
    exc ∈ io.raised := by
  rcases io with ⟨openRaises, write, fsyncRaises, closeRaises⟩
  cases openRaises <;> cases write <;> cases fsyncRaises <;> cases closeRaises <;>
    simp_all [append, openAppend, writeAppend, Py.bind_apply, Py.tryFinally, Io.raised]

/-- Every call counts, also one that raises. -/
theorem append_counts (sha : Sha256) (io : Io) (timestamp event : PyStr)
    (data : List (PyStr × Json)) (state : LogState) :
    (append sha io timestamp event data state).2.log.seq = state.log.seq + 1 := by
  by_cases calm : io.raises = false
  · obtain ⟨count, rfl⟩ := Io.eq_of_calm calm
    rw [append_written]
    rfl
  · rcases io with ⟨openRaises, write, fsyncRaises, closeRaises⟩
    cases openRaises <;> cases write <;> cases fsyncRaises <;> cases closeRaises <;>
      simp [append, openAppend, writeAppend, Py.bind_apply, Py.tryFinally]

/-- A call that returns tells where the log object is then. -/
theorem append_reports {sha : Sha256} {io : Io} {timestamp event : PyStr}
    {data : List (PyStr × Json)} {state after : LogState} {seq : ℕ} {head : Text}
    (ran : append sha io timestamp event data state = (.ok (seq, head), after)) :
    seq = after.log.seq ∧ head = after.log.head ∧ ∃ bytes, head = sha.hexdigest bytes := by
  by_cases calm : io.raises = false
  · obtain ⟨count, rfl⟩ := Io.eq_of_calm calm
    rw [append_written] at ran
    cases ran
    exact ⟨rfl, rfl, _, rfl⟩
  · exfalso
    rcases io with ⟨openRaises, write, fsyncRaises, closeRaises⟩
    cases openRaises <;> cases write <;> cases fsyncRaises <;> cases closeRaises <;>
      simp [append, openAppend, writeAppend, Py.bind_apply, Py.tryFinally, Io.raises] at ran calm

/-! ## Reading a line back -/

/-- What a value becomes by being written and read. -/
def reread (value : Json) : Json := value.sortKeys.joinPairs.buildDicts

section Line

variable (sha : Sha256) (head : Text) {entry : List (PyStr × Json)}

/-- A written entry is read with every value as its text says it; the keys are those
of the log, which no reading changes. -/
theorem readEntry_entryLine (plain : ∀ member ∈ entry, PyStr.joinPairs member.1 = member.1)
    (noHash : lookup (py "hash") entry = none) :
    ∃ read, readEntry (entryLine sha head entry) =
        .ok (read, .str (ofText (hash sha head (.obj entry)))) ∧
      ∀ key, lookup key read = (lookup key entry).map reread := by
  have fullPlain : ∀ member ∈ assign (py "hash")
      (Json.str (ofText (hash sha head (.obj entry)))) entry,
      PyStr.joinPairs member.1 = member.1 := by
    intro member membership
    rcases mem_assign membership with same | inEntry
    · rw [same]
      exact PyStr.joinPairs_py "hash"
    · exact plain member inEntry
  rcases Json.loads_dumpsCanonical_obj fullPlain with ⟨read, loaded, fields⟩
  have claimed : lookup (py "hash") read =
      some (.str (ofText (hash sha head (.obj entry)))) := by
    rw [fields, lookup_assign_self]
    simp [Json.sortKeys, Json.joinPairs, Json.buildDicts]
  refine ⟨remove (py "hash") read, ?_, ?_⟩
  · simp only [readEntry, entryLine, canon, loaded, claimed]
  · intro key
    rw [lookup_remove, fields, lookup_assign]
    split
    next isHash => rw [isHash, noHash, Option.map_none]
    · rfl

end Line

/-- Fields that were written and read make the entry the text of the entry says. -/
theorem sortKeys_of_reread {entry read : List (PyStr × Json)}
    (plain : ∀ member ∈ entry, PyStr.joinPairs member.1 = member.1)
    (fields : ∀ key, lookup key read = (lookup key entry).map reread) :
    (Json.obj read).sortKeys = (Json.obj entry).sortKeys.joinPairs.sortKeys := by
  rw [Json.joinPairs_sortKeys_obj plain, Json.sortKeys_obj, Json.sortKeys_obj]
  congr 1
  apply Json.sortItems_map_congr
  intro key
  rw [fields, lookup_map, lookup_sortItems, lookup_map, Option.map_map, Option.map_map,
    Option.map_map]
  congr 1
  funext value
  exact Json.sortKeys_buildDicts _

/-! ## One call -/

theorem newEntry_plain (log : AuditLog) (timestamp event : PyStr)
    (data : List (PyStr × Json)) :
    ∀ member ∈ newEntry log timestamp event data, PyStr.joinPairs member.1 = member.1 := by
  simp [newEntry]

/-- Nothing but the data can be unstable. -/
theorem keysStable_newEntry (log : AuditLog) (timestamp event : PyStr)
    (data : List (PyStr × Json)) :
    Json.KeysStable (.obj (newEntry log timestamp event data)) ↔
      Json.KeysStable (.obj data) := by
  rw [Json.keysStable_obj_iff (newEntry_plain log timestamp event data)]
  constructor
  · exact fun stable => stable (py "data") (.obj data) rfl
  · intro stable key value found
    have membership := mem_of_lookup found
    simp only [newEntry, List.mem_cons, Prod.mk.injEq, List.not_mem_nil, or_false]
      at membership
    rcases membership with ⟨_, rfl⟩ | ⟨_, rfl⟩ | ⟨_, rfl⟩ | ⟨_, rfl⟩ | ⟨_, rfl⟩
    · trivial
    · trivial
    · trivial
    · exact stable
    · trivial

variable {sha : Sha256}

theorem entryLine_ne_nil (sha : Sha256) (head : Text) (entry : List (PyStr × Json)) :
    entryLine sha head entry ≠ [] := by
  rcases canon_obj (assign (py "hash") (.str (ofText (hash sha head (.obj entry)))) entry) with
    ⟨rest, written⟩
  rw [entryLine, written]
  exact List.cons_ne_nil _ _

/-- The line of a call, read where the log object stands: everything agrees with the
cursor, and only the recomputed hash can differ from the claimed one. -/
theorem checkLine_entryLine (lineno : ℕ) (log : AuditLog) (timestamp event : PyStr)
    (data : List (PyStr × Json)) :
    checkLine sha lineno ⟨log.seq, log.head⟩
        (entryLine sha log.head (newEntry log timestamp event data)) =
      if hash sha log.head
          ((Json.obj (newEntry log timestamp event data)).sortKeys.joinPairs) =
          hash sha log.head (.obj (newEntry log timestamp event data)) then
        .ok ⟨log.seq + 1, hash sha log.head (.obj (newEntry log timestamp event data))⟩
      else .error (rejection ⟨log.seq + 1, log.head⟩ lineno ": content modified") := by
  have plain := newEntry_plain log timestamp event data
  rcases readEntry_entryLine sha log.head plain rfl with ⟨read, readBack, fields⟩
  have seq : lookup (py "seq") read = some (.int (log.seq + 1 : ℕ)) := fields (py "seq")
  have prev : lookup (py "prev") read = some (.str (ofText log.head)) := by
    have field : lookup (py "prev") read = some (reread (.str (ofText log.head))) :=
      fields (py "prev")
    simpa [reread, Json.sortKeys, Json.joinPairs, Json.buildDicts] using field
  have recomputed := hash_congr sha log.head (sortKeys_of_reread plain fields)
  have counted : Json.number (.int (log.seq + 1 : ℕ)) = some ((log.seq + 1 : ℕ) : ℚ) := by
    simp [Json.number]
  rw [checkLine, if_neg (entryLine_ne_nil sha log.head _)]
  simp only [readBack, seq, prev, Option.bind_some, counted, ne_eq, not_true_eq_false,
    if_false, Json.str.injEq, ofText_injective.eq_iff, recomputed, ite_not]
  split
  next same => rw [same]
  · rfl

theorem checkLine_entryLine_of_stable (lineno : ℕ) (log : AuditLog)
    {timestamp event : PyStr} {data : List (PyStr × Json)}
    (stable : Json.KeysStable (.obj data)) :
    checkLine sha lineno ⟨log.seq, log.head⟩
        (entryLine sha log.head (newEntry log timestamp event data)) =
      .ok ⟨log.seq + 1, hash sha log.head (.obj (newEntry log timestamp event data))⟩ := by
  rw [← keysStable_newEntry log timestamp event, ← Json.dumpsCanonical_joinPairs_iff] at stable
  rw [checkLine_entryLine, if_pos]
  rw [hash, hash, canon, canon, stable]

theorem checkLine_entryLine_of_unstable (collisionFree : Function.Injective sha.hexdigest)
    (lineno : ℕ) (log : AuditLog) {timestamp event : PyStr} {data : List (PyStr × Json)}
    (unstable : ¬ Json.KeysStable (.obj data)) :
    checkLine sha lineno ⟨log.seq, log.head⟩
        (entryLine sha log.head (newEntry log timestamp event data)) =
      .error (rejection ⟨log.seq + 1, log.head⟩ lineno ": content modified") := by
  rw [← keysStable_newEntry log timestamp event, ← Json.dumpsCanonical_joinPairs_iff]
    at unstable
  rw [checkLine_entryLine, if_neg]
  exact fun same => unstable (canon_eq_of_hash_eq collisionFree same)

/-! ## The file behind a log object -/

theorem oneLine_entryLine (sha : Sha256) (head : Text) (entry : List (PyStr × Json)) :
    OneLine (entryLine sha head entry) := by
  intro character membership
  have printable := Json.printable_dumpsCanonical _ character membership
  constructor
  · rintro rfl
    exact absurd printable (by decide)
  · rintro rfl
    exact absurd printable (by decide)

/-- The text of a file whose last line is complete. -/
structure WholeLines (file : Option Bytes) (text : Text) : Prop where
  decoded : Utf8State.run .start (file.getD []) = some (.start, text)
  ends : EndsLine text

theorem wholeLines_missing : WholeLines none [] := ⟨rfl, by simp [EndsLine]⟩

/-- A complete call adds its line to the lines of the file. -/
theorem WholeLines.appended (sha : Sha256) {state : LogState} {text : Text}
    (whole : WholeLines state.file text) (timestamp event : PyStr)
    (data : List (PyStr × Json)) :
    ∃ longer, WholeLines (append sha .complete timestamp event data state).2.file longer ∧
      textLines longer = textLines text ++
        [entryLine sha state.log.head (newEntry state.log timestamp event data)] := by
  have oneLine := oneLine_entryLine sha state.log.head
    (newEntry state.log timestamp event data)
  have nonempty := entryLine_ne_nil sha state.log.head
    (newEntry state.log timestamp event data)
  refine ⟨_, ⟨?_, ?_⟩, textLines_append_line whole.ends oneLine nonempty⟩
  · rw [append_complete]
    simp only [Option.getD_some, Utf8State.run_append, whole.decoded, Option.bind_some,
      run_encode, Option.map_some]
  · rw [← List.append_assoc]
    exact endsLine_append_newline _

/-- The file is a chain of whole lines that ends where the log object stands. -/
def InOrder (sha : Sha256) (state : LogState) : Prop :=
  ∃ text, WholeLines state.file text ∧
    verifyLines sha 1 .start (textLines text) = .ok ⟨state.log.seq, state.log.head⟩

/-- The file has a line that does not continue the chain. -/
def Broken (sha : Sha256) (state : LogState) : Prop :=
  ∃ text cursor error, WholeLines state.file text ∧
    verifyLines sha 1 .start (textLines text) = .error (.returned cursor error)

theorem InOrder.verified {state : LogState} (inOrder : InOrder sha state) (chunkSize : ℕ) :
    verifyFile sha chunkSize none state.file =
      .ok ⟨true, state.log.seq, state.log.head, none⟩ := by
  rcases inOrder with ⟨text, whole, replayed⟩
  cases file : state.file with
  | none =>
      have empty : text = [] := by
        have decoded := whole.decoded
        rw [file] at decoded
        simpa [Utf8State.run] using decoded.symm
      rw [empty] at replayed
      have start : Cursor.start = ⟨state.log.seq, state.log.head⟩ := Except.ok.inj replayed
      rw [Cursor.start, Cursor.mk.injEq] at start
      rw [verifyFile, ← start.1, ← start.2]
  | some content =>
      have decoded := whole.decoded
      rw [file, Option.getD_some] at decoded
      exact verifyFile_accepts_iff.mpr ⟨rfl, _, openLines_of_run chunkSize decoded, replayed⟩

theorem Broken.verified {state : LogState} (broken : Broken sha state) (chunkSize : ℕ) :
    ∃ entries head error, verifyFile sha chunkSize none state.file =
      .ok ⟨false, entries, head, some error⟩ := by
  rcases broken with ⟨text, cursor, error, whole, replayed⟩
  cases file : state.file with
  | none =>
      have empty : text = [] := by
        have decoded := whole.decoded
        rw [file] at decoded
        simpa [Utf8State.run] using decoded.symm
      rw [empty] at replayed
      contradiction
  | some content =>
      have decoded := whole.decoded
      rw [file, Option.getD_some] at decoded
      refine ⟨cursor.entries, cursor.head, error, ?_⟩
      simp only [verifyFile, openLines_of_run chunkSize decoded, replayed]

/-- A file the verifier accepts is in order for the object it is opened with. -/
theorem inOrder_of_verified {chunkSize : ℕ} {file : Option Bytes} {text : Text} {log : AuditLog}
    (whole : WholeLines file text)
    (accepted : verifyFile sha chunkSize none file = .ok ⟨true, log.seq, log.head, none⟩) :
    InOrder sha ⟨log, file⟩ := by
  refine ⟨text, whole, ?_⟩
  cases file with
  | none =>
      have empty : text = [] := by simpa [Utf8State.run] using whole.decoded.symm
      simp only [verifyFile, Except.ok.injEq, Verdict.mk.injEq, true_and, and_true] at accepted
      rw [empty, ← accepted.1, ← accepted.2]
      rfl
  | some content =>
      rcases verifyFile_accepts_iff.mp accepted with ⟨_, lines, opened, replayed⟩
      have decoded := openLines_of_run chunkSize whole.decoded
      rw [Option.getD_some, opened, Prod.mk.injEq] at decoded
      rw [← decoded.1, replayed]

/-- A complete call with stable data keeps a log in order. -/
theorem InOrder.appended {state : LogState} (inOrder : InOrder sha state)
    {timestamp event : PyStr} {data : List (PyStr × Json)}
    (stable : Json.KeysStable (.obj data)) :
    InOrder sha (append sha .complete timestamp event data state).2 := by
  rcases inOrder with ⟨text, whole, replayed⟩
  rcases whole.appended sha timestamp event data with ⟨longer, grown, lines⟩
  refine ⟨longer, grown, ?_⟩
  rw [lines, verifyLines_append, replayed]
  simp only [verifyLines, checkLine_entryLine_of_stable _ state.log stable, append_complete,
    AuditLog.next]

/-- A complete call with unstable data breaks it. -/
theorem InOrder.appended_unstable (collisionFree : Function.Injective sha.hexdigest)
    {state : LogState} (inOrder : InOrder sha state) {timestamp event : PyStr}
    {data : List (PyStr × Json)} (unstable : ¬ Json.KeysStable (.obj data)) :
    Broken sha (append sha .complete timestamp event data state).2 := by
  rcases inOrder with ⟨text, whole, replayed⟩
  rcases whole.appended sha timestamp event data with ⟨longer, grown, lines⟩
  have rejected : verifyLines sha 1 .start (textLines longer) =
      .error (rejection ⟨state.log.seq + 1, state.log.head⟩ (1 + (textLines text).length)
        ": content modified") := by
    rw [lines, verifyLines_append, replayed]
    simp only [verifyLines,
      checkLine_entryLine_of_unstable collisionFree _ state.log unstable]
  exact ⟨longer, _, _, grown, rejected⟩

/-- What is broken stays broken. -/
theorem Broken.appended {state : LogState} (broken : Broken sha state)
    (timestamp event : PyStr) (data : List (PyStr × Json)) :
    Broken sha (append sha .complete timestamp event data state).2 := by
  rcases broken with ⟨text, cursor, error, whole, replayed⟩
  rcases whole.appended sha timestamp event data with ⟨longer, grown, lines⟩
  refine ⟨longer, cursor, error, grown, ?_⟩
  rw [lines, verifyLines_append, replayed]

end RemoteUnlock.Audit
