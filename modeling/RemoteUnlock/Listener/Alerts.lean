import RemoteUnlock.Audit.Anchor
import RemoteUnlock.Listener.Operations

/-!
# Alerts as anchors

An alert carries the number of an entry and the start of its hash.  Verified with it, the
log is accepted as long as that entry is its last one; once another entry has been
appended the verifier compares the anchor with the hash of the wrong entry, and accepts
only if the two happen to start alike.
-/

namespace RemoteUnlock.Listener

open Python Python.Items Common Audit Library

variable {Key : Type} {platform : Platform Key}

/-- An alert names an entry of the log: none behind the last, and the last with its hash. -/
structure Names (sha : Sha256) (log : AuditLog) (alert : Alert) : Prop where
  counted : 0 < alert.seq
  written : alert.seq ≤ log.seq
  last : alert.seq = log.seq → alert.anchor = log.head.take 16
  digest : ∃ bytes, alert.anchor = (sha.hexdigest bytes).take 16

/-- All alerts do. -/
def Anchored (platform : Platform Key) (service : UnlockService) : Prop :=
  ∀ alert ∈ service.alerts, Names platform.sha service.audit.log alert

/-- The alerts stay anchored. -/
def KeepsAnchors (platform : Platform Key) (before after : UnlockService) : Prop :=
  Anchored platform before → Anchored platform after

instance : IsPreorder UnlockService (KeepsAnchors platform) where
  refl _ anchored := anchored
  trans _ _ _ start rest anchored := rest (start anchored)

/-- An entry behind it makes no alert wrong. -/
theorem Names.counts {sha : Sha256} {log later : AuditLog} {alert : Alert}
    (names : Names sha log alert) (counts : later.seq = log.seq + 1) : Names sha later alert where
  counted := names.counted
  written := names.written.trans (counts ▸ Nat.le_succ _)
  last same := by
    have bound := names.written
    omega
  digest := names.digest

theorem auditAppend_anchors (answers : Answers) (event : String) (data : Dict) :
    Py.Keeps (KeepsAnchors platform) (auditAppend platform answers event data) := by
  intro service anchored alert sent
  exact (anchored alert sent).counts (append_counts _ _ _ _ _ _)

theorem auditAppend_reports {answers : Answers} {event : String} {data : Dict}
    {before after : UnlockService} {seq : ℕ} {head : Text}
    (ran : auditAppend platform answers event data before = (.ok (seq, head), after)) :
    0 < seq ∧ seq = after.audit.log.seq ∧ head = after.audit.log.head ∧
      ∃ bytes, head = platform.sha.hexdigest bytes := by
  unfold auditAppend at ran
  rw [Py.bind_of_ok (Py.read_apply _ _), Py.zoom_apply, Prod.mk.injEq] at ran
  obtain ⟨returned, rfl⟩ := ran
  have counts := append_counts platform.sha (answers.disk before.audit.log.seq).1
    (answers.disk before.audit.log.seq).2 (py event) data before.audit
  obtain ⟨isSeq, isHead, bytes, digest⟩ := append_reports (Prod.ext returned rfl)
  refine ⟨?_, isSeq, isHead, bytes, digest⟩
  rw [isSeq, counts]
  exact Nat.succ_pos _

theorem record_anchors (answers : Answers) (event : String) (title : Option String)
    (priority : String) (tags : List String) (data : Dict) :
    Py.Keeps (KeepsAnchors platform)
      (record platform answers event title priority tags data) := by
  intro service anchored
  unfold record
  rcases appended : auditAppend platform answers event data service with ⟨outcome, middle⟩
  have kept : Anchored platform middle :=
    (auditAppend_anchors answers event data).after appended anchored
  cases outcome with
  | error exc =>
      rw [Py.bind_of_error appended]
      exact kept
  | ok entry =>
      obtain ⟨seq, head⟩ := entry
      rw [Py.bind_of_ok appended]
      cases title with
      | none => exact kept
      | some title =>
          obtain ⟨positive, isSeq, isHead, bytes, digest⟩ := auditAppend_reports appended
          intro alert sent
          rcases List.mem_append.mp sent with old | new
          · exact kept alert old
          · rw [List.mem_singleton.mp new]
            exact ⟨positive, isSeq.le, fun _ => by rw [isHead]; rfl, bytes, by rw [digest]⟩

/-- Only records and appends touch the log or the alerts. -/
theorem anchors_operations : Operations platform (KeepsAnchors platform) where
  auditAppend := auditAppend_anchors
  record := record_anchors
  lockAudit _ _ anchored := anchored
  countFailure kind key service anchored := by
    cases kind <;> exact anchored
  clearFailures _ _ _ anchored := anchored
  issueChallenge := issueChallenge_keeps (fun _ _ anchored => anchored)
    (fun _ _ _ anchored => anchored) fun _ _ anchored => anchored
  checkResponse := checkResponse_keeps fun _ _ anchored => anchored
  broker _ _ _ anchored := anchored
  config _ _ anchored := anchored

theorem anchored_after (platform : Platform Key) (setup : Setup) (labels : List Label) :
    Anchored platform (World.after platform setup labels).service := by
  unfold World.after
  refine @run_invariant _ _ step (fun world => Anchored platform world.service) ?_ _ ?_ labels
  · intro world label anchored
    exact anchors_operations.step (fun _ _ kept => kept) (fun _ _ kept => kept)
      (step_cases world label) anchored
  · obtain ⟨threshold, base, maximum, ttl, _, same⟩ := setup.service_eq
    intro alert sent
    simp [World.start, same] at sent

/-! ## Verifying against an alert -/

/-- `verify_file(path, anchor)` with the anchor of an alert returns ok. -/
def Usable (sha : Sha256) (chunkSize : ℕ) (file : Option Bytes) (alert : Alert) : Prop :=
  ∃ head, Approves sha chunkSize (some (ofText alert.anchor)) file head

/-- Without an anchor the verifier accepts the log and gets to where its object stands. -/
def Intact (sha : Sha256) (chunkSize : ℕ) (state : LogState) : Prop :=
  verifyFile sha chunkSize none state.file = .ok ⟨true, state.log.seq, state.log.head, none⟩

theorem anchorMismatch_ofText {head anchor : Text}
    (hex : ∀ digit ∈ anchor, isHexDigit digit = true) :
    anchorMismatch head (some (ofText anchor)) = false ↔ anchor <+: head := by
  have starts : lower (ofText anchor) <+: ofText head ↔ anchor <+: head := by
    rw [lower_ofText hex, ofText, ofText,
      List.prefix_map_iff_of_injective CodePoint.ofChar_injective]
  by_cases empty : anchor = []
  · subst empty
    simp [anchorMismatch, ofText]
  · rw [anchorMismatch_eq_false_iff (by simpa [ofText] using empty), starts]

/-- On an intact log an alert is usable if its entry is the last one, or if the last entry
happens to have a hash that starts as the alert says. -/
theorem Names.usable_iff {sha : Sha256} {chunkSize : ℕ} {state : LogState} {alert : Alert}
    (names : Names sha state.log alert) (intact : Intact sha chunkSize state) :
    Usable sha chunkSize state.file alert ↔
      alert.seq = state.log.seq ∨ alert.anchor <+: state.log.head := by
  obtain ⟨bytes, isAnchor⟩ := names.digest
  have hex : ∀ digit ∈ alert.anchor, isHexDigit digit = true := by
    rw [isAnchor]
    exact fun digit inStart => sha.isHex bytes digit (List.mem_of_mem_take inStart)
  cases present : state.file with
  | none =>
      rw [Intact, present, verifyFile, Except.ok.injEq, Verdict.mk.injEq] at intact
      have written := names.written
      have counted := names.counted
      omega
  | some content =>
      rw [Intact, present] at intact
      have anchored : Usable sha chunkSize (some content) alert ↔
          alert.anchor <+: state.log.head := by
        constructor
        · rintro ⟨head, entries, error, approved⟩
          obtain ⟨accepted, agrees⟩ := verifyFile_anchored_iff.mp approved
          rw [intact] at accepted
          cases accepted
          exact (anchorMismatch_ofText hex).mp agrees
        · intro starts
          have agrees := (anchorMismatch_ofText hex).mpr starts
          exact ⟨_, _, _, verifyFile_anchored_iff.mpr ⟨intact, agrees⟩⟩
      rw [anchored]
      constructor
      · exact .inr
      · rintro (isLast | starts)
        · rw [names.last isLast]
          exact List.take_prefix _ _
        · exact starts

/-- An alert of a run can be used to verify the log as long as its entry is the last one, and
behind that only if the hash of the last entry happens to start alike. -/
theorem usable_iff_last (platform : Platform Key) (setup : Setup) (labels : List Label)
    (chunkSize : ℕ)
    (intact : Intact platform.sha chunkSize (World.after platform setup labels).service.audit) :
    ∀ alert ∈ (World.after platform setup labels).service.alerts,
      Usable platform.sha chunkSize (World.after platform setup labels).service.audit.file alert ↔
        alert.seq = (World.after platform setup labels).service.audit.log.seq ∨
          alert.anchor <+: (World.after platform setup labels).service.audit.log.head := by
  intro alert sent
  exact (anchored_after platform setup labels alert sent).usable_iff intact

/-- All alerts of a run can be used to verify the log, if it is intact. -/
def AlertsUsable (platform : Platform Key) (chunkSize : ℕ) (setup : Setup)
    (labels : List Label) : Prop :=
  Intact platform.sha chunkSize (World.after platform setup labels).service.audit →
    ∀ alert ∈ (World.after platform setup labels).service.alerts,
      Usable platform.sha chunkSize (World.after platform setup labels).service.audit.file alert

/-- A session fails, which is recorded, and so is the lockout it starts. -/
def rejectLabels : List Label :=
  [.connect 0 samplePeer .calm calmAnswers, .resume 0 (.text "[]".toList) calmAnswers,
    .resume 0 (.finished none) calmAnswers]

/-- The two entries. -/
def rejectEntry : Dict :=
  newEntry ⟨0, genesis, none⟩ (py "2026-01-01T00:00:00.000+00:00") (py "unlock_rejected")
    [(py "ip", .str (py "100.64.0.2")), (py "device", .null),
      (py "reason", .str (py "malformed_or_late:ValueError"))]

def rejectHead : Text := "fe1c0904ef4ed9e25476ae0027808b5fe1d72fcbb94fc515ed7469df1795a528".toList

def lockoutEntry : Dict :=
  newEntry ⟨1, rejectHead, none⟩ (py "2026-01-01T00:00:00.000+00:00") (py "lockout")
    [(py "kind", .str (py "ip")), (py "key", .str (py "100.64.0.2")), (py "seconds", .int 30)]

def lockoutHead : Text := "96460019935bef1de8940011e22ebb22c04515afb5c7c57135255df7cf24e155".toList

def rejectDigests : Sha256.Known where
  pairs := [(encode (genesis ++ canon (.obj rejectEntry)), rejectHead),
    (encode (rejectHead ++ canon (.obj lockoutEntry)), lockoutHead)]
  distinct := by decide
  isHex := by
    intro pair member
    apply List.all_eq_true.mp
    revert pair member
    decide
  length := by decide

/-- The sample platform with the digests of the two entries. -/
def hashPlatform : Platform Unit := { samplePlatform with sha := .table rejectDigests }

def rejectLines : List Text :=
  [entryLine hashPlatform.sha genesis rejectEntry,
    entryLine hashPlatform.sha rejectHead lockoutEntry]

theorem after_rejectLabels :
    (World.after hashPlatform sampleSetup rejectLabels).service.audit =
        ⟨⟨2, lockoutHead, none⟩, some (encode (writtenLines rejectLines))⟩ ∧
      (World.after hashPlatform sampleSetup rejectLabels).service.alerts.map Alert.anchor =
        [rejectHead.take 16, lockoutHead.take 16] := by
  decide +kernel

theorem intact_rejectLabels :
    Intact hashPlatform.sha 8192
      (World.after hashPlatform sampleSetup rejectLabels).service.audit := by
  have oneLine : ∀ line ∈ rejectLines, OneLine line := by
    intro line inLines
    rcases List.mem_pair.mp inLines with rfl | rfl
    · exact oneLine_entryLine _ _ _
    · exact oneLine_entryLine _ _ _
  rw [Intact, after_rejectLabels.1]
  apply verifyFile_accepts_iff.mpr
  refine ⟨rfl, rejectLines, ?_, ?_⟩
  · rw [openLines_of_run 8192 (run_encode _), textLines_writtenLines oneLine]
  · decide +kernel

/-- The condition at the alert about the failed session. -/
theorem usable_rejectLabels :
    ∃ alert ∈ (World.after hashPlatform sampleSetup rejectLabels).service.alerts,
      alert.anchor = rejectHead.take 16 ∧
        (Usable hashPlatform.sha 8192
            (World.after hashPlatform sampleSetup rejectLabels).service.audit.file alert ↔
          alert.seq = (World.after hashPlatform sampleSetup rejectLabels).service.audit.log.seq ∨
            alert.anchor <+:
              (World.after hashPlatform sampleSetup rejectLabels).service.audit.log.head) := by
  have sent : rejectHead.take 16 ∈
      (World.after hashPlatform sampleSetup rejectLabels).service.alerts.map Alert.anchor := by
    rw [after_rejectLabels.2]
    exact List.mem_cons_self
  obtain ⟨alert, isAlert, anchor⟩ := List.mem_map.mp sent
  exact ⟨alert, isAlert, anchor,
    usable_iff_last hashPlatform sampleSetup rejectLabels 8192 intact_rejectLabels alert isAlert⟩

/-- Once the lockout is recorded, the alert about the failed session reports a log nobody
touched as rewritten. -/
theorem not_alertsUsable_rejectLabels :
    ¬ AlertsUsable hashPlatform 8192 sampleSetup rejectLabels := by
  intro usable
  have sent : rejectHead.take 16 ∈
      (World.after hashPlatform sampleSetup rejectLabels).service.alerts.map Alert.anchor := by
    rw [after_rejectLabels.2]
    exact List.mem_cons_self
  obtain ⟨alert, isAlert, anchor⟩ := List.mem_map.mp sent
  have names := anchored_after hashPlatform sampleSetup rejectLabels alert isAlert
  have starts := (names.usable_iff intact_rejectLabels).mp
    (usable intact_rejectLabels alert isAlert)
  rw [anchor, after_rejectLabels.1] at starts
  rcases starts with isLast | starts
  · have same := names.last (by rw [after_rejectLabels.1, isLast])
    rw [anchor, after_rejectLabels.1] at same
    revert same
    decide
  · revert starts
    decide

end RemoteUnlock.Listener
