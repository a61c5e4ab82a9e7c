import RemoteUnlock.Audit.Append

/-!
# Runs of a log object

A log is appended to, closed and opened again.  Every complete call with stable
data and every reopening keep the log in order, so the verifier accepts what was
written and counts it (`runSteps_inOrder`); a call with unstable data breaks the
log for good (`runSteps_broken`).
-/

namespace RemoteUnlock.Audit

open Python Python.Items

/-- One call of `append`, with what the file operations answer. -/
structure Call where
  io : Io
  timestamp : PyStr
  event : PyStr
  data : List (PyStr × Json)

def Call.run (sha : Sha256) (call : Call) : Py LogState (ℕ × Text) :=
  append sha call.io call.timestamp call.event call.data

/-- `AuditLog(path)` on a missing file. -/
def LogState.fresh : LogState := ⟨⟨0, genesis, none⟩, none⟩

theorem inOrder_fresh (sha : Sha256) : InOrder sha .fresh := ⟨[], wholeLines_missing, rfl⟩

/-- What happens to a log: a call, or the object is closed and a new one opened. -/
inductive Step where
  | append (call : Call)
  | reopen

/-- The caller goes on after a call that raised. -/
def Step.run (sha : Sha256) (chunkSize : ℕ) : Step → LogState → Except PyExc LogState
  | .append call, state => .ok (call.run sha state).2
  | .reopen, state =>
      (AuditLog.init sha chunkSize state.file).map fun log => { state with log := log }

def runSteps (sha : Sha256) (chunkSize : ℕ) : List Step → LogState → Except PyExc LogState
  | [], state => .ok state
  | step :: rest, state =>
      match step.run sha chunkSize state with
      | .error exc => .error exc
      | .ok state => runSteps sha chunkSize rest state

/-- The calls among the steps. -/
def appended : List Step → List Call
  | [] => []
  | .append call :: rest => call :: appended rest
  | .reopen :: rest => appended rest

variable {sha : Sha256} {chunkSize : ℕ}

theorem InOrder.reopened (chunkSize : ℕ) {state : LogState} (inOrder : InOrder sha state) :
    ∃ log, AuditLog.init sha chunkSize state.file = .ok log ∧ log.seq = state.log.seq ∧
      InOrder sha { state with log := log } := by
  refine ⟨⟨state.log.seq, state.log.head, none⟩, ?_, rfl, inOrder⟩
  rw [AuditLog.init, inOrder.verified chunkSize]
  rfl

theorem Broken.reopened (chunkSize : ℕ) {state : LogState} (broken : Broken sha state) :
    ∃ log, AuditLog.init sha chunkSize state.file = .ok log ∧
      Broken sha { state with log := log } := by
  rcases broken.verified chunkSize with ⟨entries, head, error, verdict⟩
  refine ⟨⟨entries, head, some error⟩, ?_, broken⟩
  rw [AuditLog.init, verdict]
  rfl

/-- Complete calls with stable data keep the log in order, whatever is reopened. -/
theorem runSteps_inOrder (chunkSize : ℕ) {steps : List Step} {state : LogState}
    (complete : ∀ call ∈ appended steps, call.io = .complete)
    (stable : ∀ call ∈ appended steps, Json.KeysStable (.obj call.data))
    (inOrder : InOrder sha state) :
    ∃ final, runSteps sha chunkSize steps state = .ok final ∧ InOrder sha final ∧
      final.log.seq = state.log.seq + (appended steps).length := by
  induction steps generalizing state with
  | nil => exact ⟨state, rfl, inOrder, rfl⟩
  | cons step steps inductionHypothesis =>
      cases step with
      | append call =>
          rw [appended, List.forall_mem_cons] at complete stable
          have next : InOrder sha (call.run sha state).2 := by
            rw [Call.run, complete.1]
            exact inOrder.appended stable.1
          have counted : (call.run sha state).2.log.seq = state.log.seq + 1 := by
            rw [Call.run, complete.1, append_complete]
            rfl
          rcases inductionHypothesis complete.2 stable.2 next with ⟨final, ran, last, length⟩
          refine ⟨final, ran, last, ?_⟩
          rw [length, counted, appended, List.length_cons]
          omega
      | reopen =>
          rcases inOrder.reopened chunkSize with ⟨log, opened, seq, next⟩
          rcases inductionHypothesis complete stable next with ⟨final, ran, last, length⟩
          refine ⟨final, ?_, last, ?_⟩
          · simp only [runSteps, Step.run, opened, Except.map]
            exact ran
          · rw [length, ← seq, appended]

/-- A broken log stays broken. -/
theorem runSteps_broken (chunkSize : ℕ) {steps : List Step} {state : LogState}
    (complete : ∀ call ∈ appended steps, call.io = .complete) (broken : Broken sha state) :
    ∃ final, runSteps sha chunkSize steps state = .ok final ∧ Broken sha final := by
  induction steps generalizing state with
  | nil => exact ⟨state, rfl, broken⟩
  | cons step steps inductionHypothesis =>
      cases step with
      | append call =>
          rw [appended, List.forall_mem_cons] at complete
          have next : Broken sha (call.run sha state).2 := by
            rw [Call.run, complete.1]
            exact broken.appended _ _ _
          exact inductionHypothesis complete.2 next
      | reopen =>
          rcases broken.reopened chunkSize with ⟨log, opened, next⟩
          rcases inductionHypothesis complete next with ⟨final, ran, last⟩
          refine ⟨final, ?_, last⟩
          simp only [runSteps, Step.run, opened, Except.map]
          exact ran

/-- The first call with unstable data breaks the log. -/
theorem runSteps_unstable (chunkSize : ℕ) (collisionFree : Function.Injective sha.hexdigest)
    {steps : List Step} {state : LogState}
    (complete : ∀ call ∈ appended steps, call.io = .complete)
    (unstable : ∃ call ∈ appended steps, ¬ Json.KeysStable (.obj call.data))
    (inOrder : InOrder sha state) :
    ∃ final, runSteps sha chunkSize steps state = .ok final ∧ Broken sha final := by
  induction steps generalizing state with
  | nil => simp [appended] at unstable
  | cons step steps inductionHypothesis =>
      cases step with
      | append call =>
          rw [appended, List.forall_mem_cons] at complete
          have ran : (call.run sha state).2 =
              (append sha .complete call.timestamp call.event call.data state).2 := by
            rw [Call.run, complete.1]
          by_cases stable : Json.KeysStable (.obj call.data)
          · have later : ∃ other ∈ appended steps, ¬ Json.KeysStable (.obj other.data) := by
              rcases unstable with ⟨other, membership, otherUnstable⟩
              rcases List.mem_cons.mp membership with same | inRest
              · rw [same] at otherUnstable
                contradiction
              · exact ⟨other, inRest, otherUnstable⟩
            have next : InOrder sha (call.run sha state).2 := by
              rw [ran]
              exact inOrder.appended stable
            exact inductionHypothesis complete.2 later next
          · have next : Broken sha (call.run sha state).2 := by
              rw [ran]
              exact inOrder.appended_unstable collisionFree stable
            have rest := runSteps_broken chunkSize complete.2 next
            exact rest
      | reopen =>
          rcases inOrder.reopened chunkSize with ⟨log, opened, _, next⟩
          rcases inductionHypothesis complete unstable next with ⟨final, ran, last⟩
          refine ⟨final, ?_, last⟩
          simp only [runSteps, Step.run, opened, Except.map]
          exact ran

/-! ## What the log writes, the verifier accepts -/

/-- After the steps, starting from a missing file, the verifier accepts the file and
agrees with the object on the number of calls and on the head. -/
def Verifies (sha : Sha256) (chunkSize : ℕ) (steps : List Step) : Prop :=
  ∃ final, runSteps sha chunkSize steps .fresh = .ok final ∧
    verifyFile sha chunkSize none final.file =
      .ok ⟨true, (appended steps).length, final.log.head, none⟩ ∧
    final.log.seq = (appended steps).length

theorem Verifies.of_keysStable {steps : List Step}
    (complete : ∀ call ∈ appended steps, call.io = .complete)
    (stable : ∀ call ∈ appended steps, Json.KeysStable (.obj call.data)) :
    Verifies sha chunkSize steps := by
  rcases runSteps_inOrder chunkSize complete stable (inOrder_fresh sha) with
    ⟨final, ran, inOrder, length⟩
  have seq : final.log.seq = (appended steps).length := by
    rw [length]
    exact Nat.zero_add _
  refine ⟨final, ran, ?_, seq⟩
  rw [inOrder.verified, seq]

theorem Verifies.keysStable (collisionFree : Function.Injective sha.hexdigest)
    {steps : List Step} (complete : ∀ call ∈ appended steps, call.io = .complete)
    (verifies : Verifies sha chunkSize steps) :
    ∀ call ∈ appended steps, Json.KeysStable (.obj call.data) := by
  by_contra unstable
  push Not at unstable
  rcases runSteps_unstable chunkSize collisionFree complete unstable
    (inOrder_fresh sha) with ⟨broken, ran, isBroken⟩
  rcases isBroken.verified chunkSize with ⟨entries, head, error, rejected⟩
  rcases verifies with ⟨final, reached, accepted, _⟩
  rw [ran, Except.ok.injEq] at reached
  rw [← reached, rejected] at accepted
  simp at accepted

/-- A sequence of complete calls verifies exactly if reading their data back keeps the
keys of every object in order; only that it fails otherwise needs the hash to tell
texts apart. -/
theorem verifies_iff_keysStable (sha : Sha256) (chunkSize : ℕ) (steps : List Step)
    (complete : ∀ call ∈ appended steps, call.io = .complete) :
    ((∀ call ∈ appended steps, Json.KeysStable (.obj call.data)) →
      Verifies sha chunkSize steps) ∧
    (Function.Injective sha.hexdigest → Verifies sha chunkSize steps →
      ∀ call ∈ appended steps, Json.KeysStable (.obj call.data)) :=
  ⟨Verifies.of_keysStable complete,
    fun collisionFree => Verifies.keysStable collisionFree complete⟩

/-- A call as the service makes it when it stops. -/
def stopCall : Call where
  io := .complete
  timestamp := py "2026-01-01T00:00:00.000+00:00"
  event := py "service_stop"
  data := []

/-- Two keys that change places when the surrogate pair of the first is joined. -/
def pairCall : Call where
  io := .complete
  timestamp := py "2026-01-01T00:00:00.000+00:00"
  event := py "e"
  data := [([CodePoint.ofNat 0xD83D, CodePoint.ofNat 0xDE00], .int 1),
    ([CodePoint.ofNat 0xFFFF], .int 2)]

def Call.entry (call : Call) : Json :=
  .obj (newEntry LogState.fresh.log call.timestamp call.event call.data)

/-- The digests of the first entries of three logs: of `stopCall`, and of `pairCall` as
written and as read. -/
def firstDigests : Sha256.Known where
  pairs :=
    [(encode (genesis ++ canon stopCall.entry),
        "873c934d21c25f07df01977479a9aae72e82d1af4dfb3580817bce3efa1e9165".toList),
      (encode (genesis ++ canon pairCall.entry),
        "1966bb3f1e9afdf9e6682fadd6e1a520479e0fe376bb237b06c7c177923f53b8".toList),
      (encode (genesis ++ canon pairCall.entry.sortKeys.joinPairs),
        "4ab433bdc033a6a1dcdff1e464265b54eaa2a70ecfb040b3fda68558449e2eed".toList)]
  distinct := by decide
  isHex := by
    intro pair member
    apply List.all_eq_true.mp
    revert pair member
    decide
  length := by decide

theorem pairCall_unstable : ¬ Json.KeysStable (.obj pairCall.data) := by
  intro stable
  have increasing := ((Json.sorted_obj _).mp stable).1
  revert increasing
  decide

/-- A call whose data are nested and not ASCII. -/
def lockoutCall : Call where
  io := .complete
  timestamp := py "2026-01-01T00:00:00.000+00:00"
  event := py "lockout"
  data := [(py "reason", .str (py "clé rejetée 🔒")),
    (py "context", .obj [(py "étape", .int 2),
      (py "causes", .arr [.str (py "délai"), .null,
        .obj [(py "ß", .bool true), (py "a", .int (-1))]])])]

def unlockCall : Call where
  io := .complete
  timestamp := py "2026-01-01T00:00:00.000+00:00"
  event := py "unlock"
  data := [(py "device", .str (py "téléphone 📱")),
    (py "échecs", .obj [(py "n", .int 3),
      (py "clés", .arr [.str (py "ü"), .obj [(py "é", .arr [])]])])]

theorem lockoutCall_stable : Json.KeysStable (.obj lockoutCall.data) :=
  (Json.dumpsCanonical_joinPairs_iff _).mp (by decide +kernel)

theorem unlockCall_stable : Json.KeysStable (.obj unlockCall.data) :=
  (Json.dumpsCanonical_joinPairs_iff _).mp (by decide +kernel)

def lockoutHead : Text :=
  "0d9da14866df06d64ead63f58cbaea3d47ebcb10bfba737d3d27645bb218d169".toList

def unlockHead : Text :=
  "7110a0f1c8cc1dd62917fa72bdccc8e003fa6d0eb817dc7f49184de33a13c3a0".toList

/-- The entry of an `unlockCall` that follows a `lockoutCall`. -/
def unlockEntry : List (PyStr × Json) :=
  newEntry ⟨1, lockoutHead, none⟩ unlockCall.timestamp unlockCall.event unlockCall.data

/-- The digests of a log of two entries. -/
def nestedDigests : Sha256.Known where
  pairs :=
    [(encode (genesis ++ canon lockoutCall.entry), lockoutHead),
      (encode (lockoutHead ++ canon (.obj unlockEntry)), unlockHead)]
  distinct := by decide
  isHex := by
    intro pair member
    apply List.all_eq_true.mp
    revert pair member
    decide
  length := by decide

theorem verifies_lockoutCall : Verifies (.table nestedDigests) 8192
    [.append lockoutCall, .reopen, .append unlockCall, .reopen] := by
  refine (verifies_iff_keysStable (.table nestedDigests) 8192 _ ?_).1 ?_
  · simp [appended, lockoutCall, unlockCall]
  · simp [appended, lockoutCall_stable, unlockCall_stable]

/-- The verifier rejects a log nobody touched. -/
theorem not_verifies_pairCall : ¬ Verifies (.table firstDigests) 8192 [.append pairCall] := by
  intro verifies
  have stable := verifies.keysStable (Sha256.table_injective firstDigests)
    (by simp [appended, pairCall])
  exact pairCall_unstable (stable pairCall (by simp [appended]))

/-! ## Calls that fail -/

/-- The object counts the entries of its file and knows the hash of the last. -/
def Consistent (sha : Sha256) (chunkSize : ℕ) (state : LogState) : Prop :=
  ∃ ok error, verifyFile sha chunkSize none state.file =
    .ok ⟨ok, state.log.seq, state.log.head, error⟩

/-- Along a sequence of calls with the caller going on: a call that returns leaves a
file the verifier accepts, and one that raises leaves a consistent object. -/
def Survives (sha : Sha256) (chunkSize : ℕ) : List Call → LogState → Prop
  | [], _ => True
  | call :: rest, state =>
      (match call.run sha state with
        | (.ok _, after) =>
            ∃ entries head, verifyFile sha chunkSize none after.file =
              .ok ⟨true, entries, head, none⟩
        | (.error _, after) => Consistent sha chunkSize after) ∧
      Survives sha chunkSize rest (call.run sha state).2

theorem survives_of_inOrder {calls : List Call} {state : LogState}
    (complete : ∀ call ∈ calls, call.io = .complete)
    (stable : ∀ call ∈ calls, Json.KeysStable (.obj call.data))
    (inOrder : InOrder sha state) : Survives sha chunkSize calls state := by
  induction calls generalizing state with
  | nil => trivial
  | cons call calls inductionHypothesis =>
      rw [List.forall_mem_cons] at complete stable
      have next : InOrder sha (call.run sha state).2 := by
        rw [Call.run, complete.1]
        exact inOrder.appended stable.1
      refine ⟨?_, inductionHypothesis complete.2 stable.2 next⟩
      have accepted := next.verified chunkSize
      rw [Call.run, complete.1, append_complete] at accepted ⊢
      exact ⟨_, _, accepted⟩

/-- On a file that verifies and ends with a line break, calls that complete do no
damage. -/
theorem survives_of_complete (sha : Sha256) (chunkSize : ℕ) (file : Option Bytes)
    (log : AuditLog) (calls : List Call)
    (opened : AuditLog.init sha chunkSize file = .ok log)
    (verifying : ∃ entries head,
      verifyFile sha chunkSize none file = .ok ⟨true, entries, head, none⟩)
    (whole : ∃ text, WholeLines file text)
    (complete : ∀ call ∈ calls, call.io = .complete)
    (stable : ∀ call ∈ calls, Json.KeysStable (.obj call.data)) :
    Survives sha chunkSize calls ⟨log, file⟩ := by
  rcases verifying with ⟨entries, head, accepted⟩
  rcases whole with ⟨text, isWhole⟩
  have logged : log = ⟨entries, head, none⟩ := by
    rw [AuditLog.init, accepted] at opened
    exact (Except.ok.inj opened).symm
  subst logged
  exact survives_of_inOrder complete stable (inOrder_of_verified isWhole accepted)

theorem survives_lockoutCall :
    Survives (.table nestedDigests) 8192 [lockoutCall, unlockCall] .fresh := by
  refine survives_of_complete (.table nestedDigests) 8192 none _ _ rfl ⟨0, genesis, rfl⟩
    ⟨[], wholeLines_missing⟩ ?_ ?_
  · simp [lockoutCall, unlockCall]
  · simp [lockoutCall_stable, unlockCall_stable]

/-- A call that gets nothing into the file still counts an entry. -/
theorem InOrder.inconsistent_of_raise {state : LogState} (inOrder : InOrder sha state)
    {call : Call} {exc : PyExc}
    (raises : call.io.openRaises = some exc ∨
      call.io.openRaises = none ∧ call.io.write = .error exc) :
    ¬ Consistent sha chunkSize (call.run sha state).2 := by
  have unchanged : ∀ file, file.getD [] = state.file.getD [] →
      ¬ Consistent sha chunkSize
        ⟨{ state.log with seq := state.log.seq + 1 }, file⟩ := by
    rintro file same ⟨ok, error, verdict⟩
    have still : InOrder sha ⟨state.log, file⟩ := by
      rcases inOrder with ⟨text, whole, replayed⟩
      exact ⟨text, ⟨same ▸ whole.decoded, whole.ends⟩, replayed⟩
    have accepted := still.verified chunkSize
    simp only at verdict accepted
    rw [accepted, Except.ok.injEq, Verdict.mk.injEq] at verdict
    omega
  rcases raises with opening | ⟨opened, writing⟩
  · have left : (call.run sha state).2 =
        ⟨{ state.log with seq := state.log.seq + 1 }, state.file⟩ := by
      simp [Call.run, append, openAppend, opening, Py.bind_apply]
    rw [left]
    exact unchanged _ rfl
  · have left : (call.run sha state).2 =
        ⟨{ state.log with seq := state.log.seq + 1 }, some (state.file.getD [])⟩ := by
      cases closing : call.io.closeRaises <;>
        simp [Call.run, append, openAppend, writeAppend, opened, writing, closing,
          Py.bind_apply, Py.tryFinally]
    rw [left]
    exact unchanged _ rfl

/-- `stopCall` on a disk that is full when the file is opened. -/
def fullDiskCall : Call := { stopCall with io := ⟨some .osError, .ok none, none, none⟩ }

/-- The object counts an entry that is in no file. -/
theorem not_survives_fullDiskCall :
    ¬ Survives (.table firstDigests) 8192 [fullDiskCall, stopCall] .fresh := by
  rintro ⟨⟨ok, error, verdict⟩, _⟩
  have counted : 0 = 1 := congrArg Verdict.entries (Except.ok.inj verdict)
  contradiction

end RemoteUnlock.Audit
