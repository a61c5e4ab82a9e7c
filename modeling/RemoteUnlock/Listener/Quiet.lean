import RemoteUnlock.Listener.Session

/-!
# What the shared operations do to the service

Audit records, alerts, failures and refused responses leave the configuration and the
grant alone, make no challenge pending, issue nothing and end no lockout: they are
`Quiet`.  `issueChallenge` is quiet or opens one challenge (`issueChallenge_cases`),
and a response that `checkResponse` accepts meets all its checks
(`checkResponse_accepted`).
-/

namespace RemoteUnlock.Listener

open Python Python.Items Common Audit

/-! ## Quiet operations -/

/-- Configuration, grant and clock are as before, and no lockout is shortened. -/
structure Calm (before after : UnlockService) : Prop where
  config : after.config = before.config
  broker : after.broker = before.broker
  now : after.now = before.now
  left : ∀ kind key, before.left kind key ≤ after.left kind key

theorem Calm.refl (service : UnlockService) : Calm service service :=
  ⟨rfl, rfl, rfl, fun _ _ => le_refl _⟩

theorem Calm.trans {first second third : UnlockService} (start : Calm first second)
    (rest : Calm second third) : Calm first third where
  config := rest.config.trans start.config
  broker := rest.broker.trans start.broker
  now := rest.now.trans start.now
  left kind key := (start.left kind key).trans (rest.left kind key)

/-- A calm change that issues nothing, and at most forgets challenges. -/
structure Quiet (before after : UnlockService) : Prop extends Calm before after where
  history : after.history = before.history
  pending : ∀ nonce entry, after.pending.get nonce = some entry →
    before.pending.get nonce = some entry

theorem Quiet.refl (service : UnlockService) : Quiet service service :=
  ⟨Calm.refl service, rfl, fun _ _ found => found⟩

theorem Quiet.trans {first second third : UnlockService} (start : Quiet first second)
    (rest : Quiet second third) : Quiet first third :=
  { start.toCalm.trans rest.toCalm with
    history := rest.history.trans start.history
    pending := fun nonce entry found =>
      start.pending nonce entry (rest.pending nonce entry found) }

instance : IsPreorder UnlockService Quiet where
  refl := Quiet.refl
  trans _ _ _ := Quiet.trans

/-- Nothing but the log, the alerts, the times of the last lockout records and the number of
connections changes. -/
theorem Quiet.of_ledger (service : UnlockService) (audit : LogState) (alerts : List Alert)
    (lastLockAudit : PyDict (LockKind × PyStr) ℚ) (active : ℤ) :
    Quiet service
      { service with
        audit := audit, alerts := alerts, lastLockAudit := lastLockAudit, active := active } :=
  ⟨⟨rfl, rfl, rfl, fun _ _ => le_refl _⟩, rfl, fun _ _ found => found⟩

section Recording

variable {Key : Type} (platform : Platform Key) (answers : Answers)

theorem auditAppend_quiet (event : String) (data : Dict) :
    Py.Keeps Quiet (auditAppend platform answers event data) := by
  refine Py.Keeps.bind (Py.Keeps.read _) fun seq => ?_
  exact Py.Keeps.zoom (fun audit service => Quiet.of_ledger service audit _ _ _) _

theorem alert_quiet (title : String) (text : PyStr) (priority : String) (tags : List String)
    (seq : ℕ) (head : Text) : Py.Keeps Quiet (alert title text priority tags seq head) :=
  fun service => Quiet.of_ledger service _ _ _ _

theorem record_quiet (event : String) (title : Option String) (priority : String)
    (tags : List String) (data : Dict) :
    Py.Keeps Quiet (record platform answers event title priority tags data) := by
  unfold record
  refine Py.Keeps.bind (auditAppend_quiet platform answers event data) fun entry => ?_
  cases title with
  | none => exact Py.Keeps.bind (Py.Keeps.pure ()) fun _ => Py.Keeps.pure _
  | some title => exact Py.Keeps.bind (alert_quiet _ _ _ _ _ _) fun _ => Py.Keeps.pure _

theorem locked_quiet (key : PyStr) (kind : LockKind) :
    Py.Keeps Quiet (locked platform answers key kind) := by
  unfold locked
  refine Py.Keeps.bind (Py.Keeps.read _) fun left => ?_
  split
  · refine Py.Keeps.bind (Py.Keeps.read _) fun now => ?_
    refine Py.Keeps.bind (Py.Keeps.read _) fun last => ?_
    split
    · have stamped := fun (service : UnlockService) (now : PyDict (LockKind × PyStr) ℚ) =>
        Quiet.of_ledger service service.audit service.alerts now service.active
      refine Py.Keeps.bind (Py.Keeps.modify fun service => stamped service _) fun _ => ?_
      exact Py.Keeps.bind (auditAppend_quiet platform answers _ _) fun _ => Py.Keeps.pure _
    · exact Py.Keeps.pure _
  · exact Py.Keeps.pure _

/-- A key that `_locked` lets pass has no lockout left. -/
theorem locked_false {key : PyStr} {kind : LockKind} {before after : UnlockService}
    (ran : locked platform answers key kind before = (.ok false, after)) :
    after = before ∧ before.left kind key = 0 := by
  have nonneg : 0 ≤ before.left kind key := Backoff.remaining_nonneg _ _ _
  by_cases positive : 0 < before.left kind key
  · exfalso
    simp only [locked, Py.bind_apply, Py.read_apply, positive, if_true] at ran
    split at ran
    · rcases Py.of_bind ran with ⟨exc, _, wrong⟩ | ⟨value, middle, _, rest⟩
      · cases wrong
      · rcases Py.of_bind rest with ⟨exc, _, wrong⟩ | ⟨value, middle, _, last⟩
        · cases wrong
        · cases last
    · cases ran
  · simp only [locked, Py.bind_apply, Py.read_apply, positive, if_false] at ran
    cases ran
    exact ⟨rfl, le_antisymm (not_lt.mp positive) nonneg⟩

theorem countFailure_quiet (kind : LockKind) (key : PyStr) :
    Py.Keeps Quiet (countFailure kind key) := by
  intro service
  have kept := (service.backoff kind).remaining_le_fail service.time_nonneg key
  cases kind with
  | ip =>
      refine ⟨⟨rfl, rfl, rfl, ?_⟩, rfl, fun _ _ found => found⟩
      rintro (_ | _) other
      · exact kept other
      · exact le_refl _
  | device =>
      refine ⟨⟨rfl, rfl, rfl, ?_⟩, rfl, fun _ _ found => found⟩
      rintro (_ | _) other
      · exact le_refl _
      · exact kept other

theorem countDeviceFailure_quiet (deviceId : Option PyStr) :
    Py.Keeps Quiet (countDeviceFailure deviceId) := by
  unfold countDeviceFailure
  split
  · exact Py.Keeps.pure _
  · exact Py.Keeps.pure _
  · exact countFailure_quiet .device _

theorem failStart_quiet (ip : PyStr) (deviceId : Option PyStr) (reason : Text) :
    Py.Keeps Quiet (failStart platform answers ip deviceId reason) := by
  unfold failStart
  refine Py.Keeps.bind (countFailure_quiet .ip ip) fun lockIp => ?_
  refine Py.Keeps.bind (countDeviceFailure_quiet deviceId) fun lockDev => ?_
  exact Py.Keeps.bind (record_quiet platform answers _ _ _ _ _) fun _ => Py.Keeps.pure _

theorem failRest_quiet (hits : List (LockKind × PyStr)) :
    Py.Keeps Quiet (failRest platform answers hits) := by
  induction hits with
  | nil => exact Py.Keeps.pure _
  | cons hit hits inductionHypothesis =>
      unfold failRest
      refine Py.Keeps.bind (Py.Keeps.read _) fun left => ?_
      exact Py.Keeps.bind (record_quiet platform answers _ _ _ _ _) fun _ => inductionHypothesis

end Recording

theorem configItem_quiet (key : String) : Py.Keeps Quiet (configItem key) := Quiet.refl

/-! ## Challenges -/

/-- One challenge becomes pending, and its message is signed or not. -/
structure Opens (nonce : PyStr) (entry : Pending) (signed : Option Bytes)
    (before after : UnlockService) : Prop extends Calm before after where
  history : after.history =
    before.history ++ .challenge nonce entry :: (signed.map Event.signed).toList
  pending : ∀ other found, after.pending.get other = some found →
    if other = nonce then found = entry else before.pending.get other = some found

theorem Opens.quiet {nonce : PyStr} {entry : Pending} {signed : Option Bytes}
    {first second third : UnlockService} (opens : Opens nonce entry signed first second)
    (rest : Quiet second third) : Opens nonce entry signed first third :=
  { opens.toCalm.trans rest.toCalm with
    history := rest.history.trans opens.history
    pending := fun other found there =>
      opens.pending other found (rest.pending other found there) }

theorem prunePending_sound {now : ℚ} {ttl : Json} {pending kept : PyDict PyStr Pending}
    (pruned : prunePending now ttl pending = .ok kept) {nonce : PyStr} {entry : Pending}
    (found : kept.get nonce = some entry) : pending.get nonce = some entry := by
  unfold prunePending at pruned
  split at pruned
  · cases pruned
    exact PyDict.get_of_get_filter found
  · contradiction

theorem prune_quiet {service : UnlockService} {now : ℚ} {ttl : Json}
    {kept : PyDict PyStr Pending} (pruned : prunePending now ttl service.pending = .ok kept) :
    Quiet service { service with pending := kept } :=
  ⟨⟨rfl, rfl, rfl, fun _ _ => le_refl _⟩, rfl, fun _ _ => prunePending_sound pruned⟩

theorem insertPending_opens (nonce : PyStr) (entry : Pending) (service : UnlockService) :
    Opens nonce entry none service (insertPending nonce entry service).2 where
  toCalm := ⟨rfl, rfl, rfl, fun _ _ => le_refl _⟩
  history := rfl
  pending other found there := by
    change (service.pending.set nonce entry).get other = some found at there
    rw [PyDict.get_set] at there
    split at there
    next same =>
      rw [if_pos same]
      exact (Option.some.inj there).symm
    next different =>
      rw [if_neg different]
      exact there

theorem Opens.sign {nonce : PyStr} {entry : Pending} {before after : UnlockService}
    (opens : Opens nonce entry none before after) (message : Bytes) :
    Opens nonce entry (some message) before
      { after with history := after.history ++ [.signed message] } :=
  { opens with
    history := by simp [opens.history] }

/-- A change that is quiet up to where a challenge becomes pending. -/
theorem Quiet.opens {nonce : PyStr} {entry : Pending} {signed : Option Bytes}
    {first second third : UnlockService} (start : Quiet first second)
    (opens : Opens nonce entry signed second third) : Opens nonce entry signed first third where
  toCalm := start.toCalm.trans opens.toCalm
  history := by rw [opens.history, start.history]
  pending other found there := by
    have old := opens.pending other found there
    split at old
    next same => rwa [if_pos same]
    next different =>
      rw [if_neg different]
      exact start.pending other found old

/-- What there is to say about the signature of a challenge when `issue_challenge` ends. -/
def SignedFor (data : Dict) (deviceId nonce : PyStr) (issuedMs : ℤ) :
    Option Bytes → Except PyExc Json → Prop
  | none, result => ∃ exc, result = .error exc
  | some message, result => (∃ challenge, result = .ok challenge) ∧
      ∃ target, item data "target_id" = .ok target ∧
        signedMessageFor (py "challenge") nonce issuedMs deviceId target = .ok message

theorem openChallenge_opens {answers : Answers} {deviceId nonce : PyStr} {now : ℚ}
    {issuedMs : ℤ} {before after : UnlockService} {result : Except PyExc Json}
    (ran : openChallenge answers deviceId nonce now issuedMs before = (result, after)) :
    ∃ signed, Opens nonce ⟨deviceId, now, issuedMs⟩ signed before after ∧
      SignedFor before.data deviceId nonce issuedMs signed result := by
  have opens := insertPending_opens nonce ⟨deviceId, now, issuedMs⟩ before
  unfold openChallenge at ran
  rw [insertPending, Py.bind_of_ok (Py.modify_apply _ _)] at ran
  rcases Py.of_bind ran with ⟨exc, ended, failed⟩ | ⟨target, middle, configured, ran⟩
  · rcases configItem_eq_iff.mp ended with ⟨_, rfl⟩
    exact ⟨none, opens, exc, failed⟩
  rcases configItem_eq_iff.mp configured with ⟨hasTarget, rfl⟩
  rcases Py.of_bind ran with ⟨exc, ended, failed⟩ | ⟨message, middle, built, ran⟩
  · rcases Py.ofExcept_eq_iff.mp ended with ⟨_, rfl⟩
    exact ⟨none, opens, exc, failed⟩
  rcases Py.ofExcept_eq_iff.mp built with ⟨isMessage, rfl⟩
  cases signing : answers.signature with
  | error exc =>
      simp only [sign, signing, Py.bind_apply, Py.ofExcept_apply] at ran
      cases ran
      exact ⟨none, opens, exc, rfl⟩
  | ok signature =>
      simp only [sign, signing, Py.bind_apply, Py.ofExcept_apply, Py.modify_apply,
        Py.pure_apply] at ran
      cases ran
      exact ⟨some message, opens.sign message, ⟨_, rfl⟩, target, hasTarget, isMessage⟩

/-- The lockouts are the same. -/
def SameLocks (before after : UnlockService) : Prop :=
  ∀ kind key, after.left kind key = before.left kind key

instance : IsPreorder UnlockService SameLocks where
  refl _ _ _ := rfl
  trans _ _ _ start rest kind key := (rest kind key).trans (start kind key)

theorem issueChallenge_sameLocks (answers : Answers) (deviceId : PyStr) :
    Py.Keeps SameLocks (issueChallenge answers deviceId) := by
  unfold issueChallenge
  refine Py.Keeps.bind (Py.Keeps.read _) fun now => ?_
  refine Py.Keeps.bind (fun _ _ _ => rfl) fun ttl => ?_
  refine Py.Keeps.bind (Py.Keeps.read _) fun pending => ?_
  refine Py.Keeps.bind (Py.Keeps.ofExcept _) fun kept => ?_
  refine Py.Keeps.bind (Py.Keeps.modify fun _ _ _ => rfl) fun _ => ?_
  split
  · exact Py.Keeps.raise _
  · unfold openChallenge
    refine Py.Keeps.bind (Py.Keeps.modify fun _ _ _ => rfl) fun _ => ?_
    refine Py.Keeps.bind (fun _ _ _ => rfl) fun target => ?_
    refine Py.Keeps.bind (Py.Keeps.ofExcept _) fun message => ?_
    refine Py.Keeps.bind ?_ fun signature => Py.Keeps.pure _
    exact Py.Keeps.bind (Py.Keeps.ofExcept _) fun _ =>
      Py.Keeps.bind (Py.Keeps.modify fun _ _ _ => rfl) fun _ => Py.Keeps.pure _

/-- `issue_challenge` raises before it makes anything pending, or it makes one challenge
pending and then signs its message or raises. -/
theorem issueChallenge_cases {answers : Answers} {deviceId : PyStr}
    {before after : UnlockService} {result : Except PyExc Json}
    (ran : issueChallenge answers deviceId before = (result, after)) :
    (Quiet before after ∧ ∃ exc, result = .error exc) ∨
      ∃ signed, Opens answers.nonce ⟨deviceId, before.time, answers.issuedMs⟩ signed before after ∧
        SignedFor before.data deviceId answers.nonce answers.issuedMs signed result := by
  unfold issueChallenge at ran
  rw [Py.bind_of_ok (Py.read_apply _ _)] at ran
  rcases Py.of_bind ran with ⟨exc, ended, failed⟩ | ⟨ttl, middle, found, ran⟩
  · rcases configItem_eq_iff.mp ended with ⟨_, rfl⟩
    exact .inl ⟨Quiet.refl _, exc, failed⟩
  rcases configItem_eq_iff.mp found with ⟨_, rfl⟩
  rw [Py.bind_of_ok (Py.read_apply _ _)] at ran
  rcases Py.of_bind ran with ⟨exc, ended, failed⟩ | ⟨kept, middle, filtered, ran⟩
  · rcases Py.ofExcept_eq_iff.mp ended with ⟨_, rfl⟩
    exact .inl ⟨Quiet.refl _, exc, failed⟩
  rcases Py.ofExcept_eq_iff.mp filtered with ⟨pruned, rfl⟩
  have forgets := prune_quiet pruned
  rw [Py.bind_of_ok (Py.modify_apply _ _)] at ran
  split at ran
  · cases ran
    exact .inl ⟨forgets, _, rfl⟩
  · rcases openChallenge_opens ran with ⟨signed, opens, message⟩
    exact .inr ⟨signed, forgets.opens opens, message⟩

/-! ## Responses -/

/-- The checks of `check_response` on the challenge a response names, passed at a time
with a configuration. -/
structure Checked {Key : Type} (platform : Platform Key) (device : Dict) (nonce : PyStr)
    (signature : Option Json) (entry : Pending) (now : ℚ) (data : Dict) : Prop where
  identifier : item device "id" = .ok (.str entry.deviceId)
  inTime : ∃ ttl, item data "challenge_ttl" = .ok ttl ∧
    Json.exceeds (now - entry.issued) ttl = some false
  verified : ∃ target message pem key, item data "target_id" = .ok target ∧
    signedMessageFor (py "response") nonce entry.issuedMs entry.deviceId target = .ok message ∧
    item device "public_key_pem" = .ok pem ∧ loadKey platform pem = .ok key ∧
    verifySig platform.crypto key message signature = true

section Responses

variable {Key : Type} {platform : Platform Key} {device : Dict}

/-- The checks behind the popped nonce change nothing. -/
theorem checkEntry_pure (platform : Platform Key) (device : Dict) (nonce : PyStr)
    (signature : Option Json) (entry : Pending) :
    Py.Keeps Eq (checkEntry platform device nonce signature entry) := by
  unfold checkEntry
  refine Py.Keeps.bind (Py.Keeps.ofExcept _) fun identifier => ?_
  split
  · exact Py.Keeps.pure _
  · refine Py.Keeps.bind (Py.Keeps.read _) fun now => ?_
    refine Py.Keeps.bind (fun service => rfl) fun ttl => ?_
    refine Py.Keeps.bind (Py.Keeps.ofExcept _) fun expired => ?_
    split
    · exact Py.Keeps.pure _
    · refine Py.Keeps.bind (fun service => rfl) fun target => ?_
      refine Py.Keeps.bind (Py.Keeps.ofExcept _) fun message => ?_
      refine Py.Keeps.bind (Py.Keeps.ofExcept _) fun pem => ?_
      refine Py.Keeps.bind (Py.Keeps.ofExcept _) fun key => ?_
      split <;> exact Py.Keeps.pure _

theorem checkEntry_accepted {nonce acceptedNonce : PyStr} {signature : Option Json}
    {entry acceptedEntry : Pending} {before after : UnlockService}
    (ran : checkEntry platform device nonce signature entry before =
      (.ok (.accepted acceptedNonce acceptedEntry), after)) :
    acceptedNonce = nonce ∧ acceptedEntry = entry ∧
      Checked platform device nonce signature entry before.time before.data := by
  unfold checkEntry at ran
  rcases Py.of_bind ran with ⟨exc, _, failed⟩ | ⟨identifier, middle, named, ran⟩
  · contradiction
  rcases Py.ofExcept_eq_iff.mp named with ⟨hasId, rfl⟩
  split at ran
  · cases ran
  next same =>
  rw [Py.bind_of_ok (Py.read_apply _ _)] at ran
  rcases Py.of_bind ran with ⟨exc, _, failed⟩ | ⟨ttl, middle, configured, ran⟩
  · contradiction
  rcases configItem_eq_iff.mp configured with ⟨hasTtl, rfl⟩
  rcases Py.of_bind ran with ⟨exc, _, failed⟩ | ⟨expired, middle, aged, ran⟩
  · contradiction
  rcases Py.ofExcept_eq_iff.mp aged with ⟨compares, rfl⟩
  split at ran
  · cases ran
  next young =>
  rcases Py.of_bind ran with ⟨exc, _, failed⟩ | ⟨target, middle, configured, ran⟩
  · contradiction
  rcases configItem_eq_iff.mp configured with ⟨hasTarget, rfl⟩
  rcases Py.of_bind ran with ⟨exc, _, failed⟩ | ⟨message, middle, built, ran⟩
  · contradiction
  rcases Py.ofExcept_eq_iff.mp built with ⟨isMessage, rfl⟩
  rcases Py.of_bind ran with ⟨exc, _, failed⟩ | ⟨pem, middle, kept, ran⟩
  · contradiction
  rcases Py.ofExcept_eq_iff.mp kept with ⟨hasPem, rfl⟩
  rcases Py.of_bind ran with ⟨exc, _, failed⟩ | ⟨key, middle, loaded, ran⟩
  · contradiction
  rcases Py.ofExcept_eq_iff.mp loaded with ⟨isKey, rfl⟩
  split at ran
  next verified =>
    cases ran
    refine ⟨rfl, rfl, ?_, ⟨ttl, hasTtl, ?_⟩, target, message, pem, key, hasTarget, isMessage,
      hasPem, isKey, verified⟩
    · rw [hasId, not_not.mp same]
    · cases outcome : Json.exceeds (before.time - entry.issued) ttl with
      | none => simp [outcome, compared] at compares
      | some late =>
          rw [outcome, compared, Except.ok.injEq] at compares
          rw [compares, Bool.eq_false_iff.mpr young]
  · cases ran

theorem popped_quiet (nonce : PyStr) (service : UnlockService) :
    Quiet service (popped nonce service) where
  toCalm := ⟨rfl, rfl, rfl, fun _ _ => le_refl _⟩
  history := rfl
  pending other entry found := by
    change (service.pending.pop nonce).get other = some entry at found
    rw [PyDict.get_pop] at found
    split at found
    · contradiction
    · exact found

theorem checkResponse_quiet (nonce signature : Option Json) :
    Py.Keeps Quiet (checkResponse platform device nonce signature) := by
  unfold checkResponse
  split
  · split
    · exact Py.Keeps.pure _
    · refine Py.Keeps.bind (Py.Keeps.read _) fun found => ?_
      refine Py.Keeps.bind (Py.Keeps.modify (popped_quiet _)) fun _ => ?_
      split
      · exact Py.Keeps.pure _
      · intro service
        rw [← checkEntry_pure platform device _ signature _ service]
        exact Quiet.refl service
  · exact Py.Keeps.pure _

/-- A response that is accepted names a pending challenge, which it uses up, and passes all
checks. -/
theorem checkResponse_accepted {named signature : Option Json} {nonce : PyStr}
    {entry : Pending} {before after : UnlockService}
    (ran : checkResponse platform device named signature before =
      (.ok (.accepted nonce entry), after)) :
    before.pending.get nonce = some entry ∧
      after = popped nonce before ∧
      Checked platform device nonce signature entry before.time before.data := by
  unfold checkResponse at ran
  split at ran
  next wanted =>
    split at ran
    · cases ran
    · rw [Py.bind_of_ok (Py.read_apply _ _), Py.bind_of_ok (Py.modify_apply _ _)] at ran
      cases present : before.pending.get wanted with
      | none =>
          rw [present] at ran
          cases ran
      | some found =>
          simp only [present] at ran
          have same := checkEntry_pure platform device wanted signature found
            (popped wanted before)
          rw [ran] at same
          rcases checkEntry_accepted ran with ⟨rfl, rfl, checked⟩
          exact ⟨present, same.symm, checked⟩
  · cases ran

/-- The challenge it uses up is the one the response names. -/
theorem checkResponse_names {named signature : Option Json} {nonce : PyStr}
    {entry : Pending} {before : UnlockService}
    (accepted : (checkResponse platform device named signature before).1 =
      .ok (.accepted nonce entry)) : named = some (.str nonce) := by
  rcases ran : checkResponse platform device named signature before with ⟨outcome, after⟩
  rw [ran] at accepted
  cases accepted
  unfold checkResponse at ran
  split at ran
  next wanted =>
    split at ran
    · cases ran
    · rw [Py.bind_of_ok (Py.read_apply _ _), Py.bind_of_ok (Py.modify_apply _ _)] at ran
      cases present : before.pending.get wanted with
      | none =>
          rw [present] at ran
          cases ran
      | some found =>
          simp only [present] at ran
          rcases checkEntry_accepted ran with ⟨rfl, _⟩
          rfl
  · cases ran

end Responses

end RemoteUnlock.Listener
