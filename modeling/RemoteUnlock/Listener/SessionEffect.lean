import RemoteUnlock.Listener.Quiet

/-!
# What one step of a session does

Between two awaits a session is quiet, or it opens a challenge for the device it has
found, or it issues a grant for a response that passes all checks; and it goes on
waiting for a hello, a challenge to be sent or a response only in these ways.
`resume_effect` and `connect_effect` say so for the code, its `except` and `finally`
clauses included: whatever is raised behind an effect, the handlers add only quiet
operations to it.
-/

namespace RemoteUnlock.Listener

open Python Python.Items Common Audit

/-! ## Effects -/

/-- The session does not go on to wait for a message of its peer. -/
def Resting : Except PyExc Place → Prop
  | .ok (.recvHello _ _) => False
  | .ok (.sendChallenge _ _) => False
  | .ok (.recvResponse _ _) => False
  | _ => True

/-- A device record a session may go on with behind the hello: the one its certificate
names, or one looked up by the id of the hello. -/
structure Identified (before : UnlockService) (identity : Identity) : Prop where
  identifier : item identity.device "id" = .ok (.str identity.deviceId)
  source : identity.certDevice = some identity.device ∧ identity.lookupData = identity.data ∨
    identity.certDevice.getD [] = [] ∧ identity.lookupData = before.data ∧
      deviceById before.data identity.deviceId = .ok (some identity.device)
  unlocked : before.left .device identity.deviceId = 0

/-- Behind an effect that leaves the session resting something quiet may follow. -/
def Settles (effect : UnlockService → Except PyExc Place → Prop) : Prop :=
  ∀ ⦃middle after outcome next⦄, effect middle outcome → Resting outcome → Quiet middle after →
    Resting next → effect after next

section Effects

variable {Key : Type} (platform : Platform Key) (session : ℕ) (peer : Peer)

/-- The code from an accepted response on, whether or not the success is recorded. -/
structure Issues (identity : Identity) (nonce : PyStr) (signature : Option Json)
    (entry : Pending) (recorded : Bool) (before after : UnlockService) : Prop where
  config : after.config = before.config
  now : after.now = before.now
  broker : after.broker = before.broker.issue before.time
  history : after.history = before.history ++
    .grant session (grantFor peer identity nonce signature entry (popped nonce before)) ::
      if recorded then [.authorized session] else []
  popped : before.pending.get nonce = some entry
  pending : ∀ other found, after.pending.get other = some found →
    other ≠ nonce ∧ before.pending.get other = some found
  checked : Checked platform identity.device nonce signature entry before.time before.data
  left : ∀ kind key, (kind, key) ≠ (.ip, peer.ip) →
    (kind, key) ≠ (.device, identity.deviceId) → before.left kind key ≤ after.left kind key

variable {platform session peer} in
theorem Issues.quiet {identity : Identity} {nonce : PyStr} {signature : Option Json}
    {entry : Pending} {recorded : Bool} {first second third : UnlockService}
    (issues : Issues platform session peer identity nonce signature entry recorded first second)
    (rest : Quiet second third) :
    Issues platform session peer identity nonce signature entry recorded first third :=
  { issues with
    config := rest.config.trans issues.config
    now := rest.now.trans issues.now
    broker := rest.broker.trans issues.broker
    history := rest.history.trans issues.history
    pending := fun other found there => issues.pending other found (rest.pending other found there)
    left := fun kind key otherIp otherDevice =>
      (issues.left kind key otherIp otherDevice).trans (rest.left kind key) }

/-- The message an await ends with is a response that `check_response` accepts. -/
def Accepts (identity : Identity) (awaited : Awaited) (before : UnlockService) (nonce : PyStr)
    (signature : Option Json) (entry : Pending) : Prop :=
  ∃ response, received awaited = some (.ok response) ∧
    lookup (py "type") response = some (.str (py "response")) ∧
    signature = lookup (py "signature") response ∧
    (checkResponse platform identity.device (lookup (py "nonce") response) signature before).1 =
      .ok (.accepted nonce entry)

/-- The message an await ends with is a hello that names the device. -/
def Greets (awaited : Awaited) (deviceId : PyStr) : Prop :=
  ∃ hello, received awaited = some (.ok hello) ∧
    lookup (py "type") hello = some (.str (py "hello")) ∧
    lookup (py "device_id") hello = some (.str deviceId)

/-- What a session can do between two awaits, the first of which ends as `awaited` says. -/
inductive SessionEffect (answers : Answers) (awaited : Awaited) (before : UnlockService) :
    Place → UnlockService → Except PyExc Place → Prop where
  | quiet {place after next} (calm : Quiet before after) (resting : Resting next) :
      SessionEffect answers awaited before place after next
  | challenge {admission deadline after} (identity : Identity) (challenge : Json)
      (signed : Option Bytes) (admitted : identity.toAdmission = admission)
      (identified : Identified before identity)
      (opens : Opens answers.nonce ⟨identity.deviceId, before.time, answers.issuedMs⟩ signed
        before after)
      (message : SignedFor before.data identity.deviceId answers.nonce answers.issuedMs signed
        (.ok challenge))
      (locks : SameLocks before after) (greets : Greets awaited identity.deviceId) :
      SessionEffect answers awaited before (.recvHello admission deadline) after
        (.ok (.sendChallenge identity challenge))
  | unsent {admission deadline after next} (deviceId : PyStr)
      (opens : Opens answers.nonce ⟨deviceId, before.time, answers.issuedMs⟩ none before after)
      (resting : Resting next) :
      SessionEffect answers awaited before (.recvHello admission deadline) after next
  | await {identity challenge deadline} :
      SessionEffect answers awaited before (.sendChallenge identity challenge) before
        (.ok (.recvResponse identity deadline))
  | grant {identity deadline after next} (nonce : PyStr) (signature : Option Json)
      (entry : Pending) (recorded : Bool)
      (accepts : Accepts platform identity awaited before nonce signature entry)
      (issues : Issues platform session peer identity nonce signature entry recorded before after)
      (unrecorded : recorded = false → (answers.disk before.audit.log.seq).1.raises = true)
      (resting : Resting next) :
      SessionEffect answers awaited before (.recvResponse identity deadline) after next

variable {platform session peer}

theorem SessionEffect.settles (answers : Answers) (awaited : Awaited) (before : UnlockService)
    (place : Place) :
    Settles (SessionEffect platform session peer answers awaited before place) := by
  intro middle after outcome next effect rests rest resting
  cases effect with
  | quiet calm _ => exact .quiet (calm.trans rest) resting
  | challenge => exact rests.elim
  | unsent deviceId opens _ => exact .unsent deviceId (opens.quiet rest) resting
  | await => exact rests.elim
  | grant nonce signature entry recorded accepts issues unrecorded _ =>
      exact .grant nonce signature entry recorded accepts (issues.quiet rest) unrecorded resting

/-! ## Resting code -/

/-- Code that is quiet and does not go on to wait for a message. -/
def Rests (body : Py UnlockService Place) : Prop :=
  ∀ before, Quiet before (body before).2 ∧ Resting (body before).1

theorem Rests.pure (place : Place) (resting : Resting (.ok place)) :
    Rests (Pure.pure place) := fun before => ⟨Quiet.refl before, resting⟩

theorem Rests.raise (exc : PyExc) : Rests (Py.raise exc) :=
  fun before => ⟨Quiet.refl before, trivial⟩

theorem Rests.bind {α : Type} {program : Py UnlockService α} {next : α → Py UnlockService Place}
    (calm : Py.Keeps Quiet program) (rests : ∀ value, Rests (next value)) :
    Rests (program >>= next) := by
  intro before
  have start := calm before
  rw [Py.bind_apply]
  rcases ran : program before with ⟨outcome, middle⟩
  rw [ran] at start
  cases outcome with
  | error exc => exact ⟨start, trivial⟩
  | ok value => exact ⟨start.trans (rests value middle).1, (rests value middle).2⟩

theorem Rests.after {body : Py UnlockService Place} (rests : Rests body)
    {before after : UnlockService} {next : Except PyExc Place}
    (ran : body before = (next, after)) : Quiet before after ∧ Resting next := by
  have holds := rests before
  rwa [ran] at holds

theorem fail_rests (platform : Platform Key) (answers : Answers) (peer : Peer)
    (deviceId : Option PyStr) (reason : Text) (handling : Bool) :
    Rests (fail platform answers peer deviceId reason handling) :=
  Rests.bind (failStart_quiet platform answers _ _ _) fun _ => Rests.pure _ trivial

theorem sent_quiet (raises : Option PyExc) : Py.Keeps Quiet (sent raises) := Py.Keeps.raiseIf _

theorem Rests.effect {body : Py UnlockService Place} (rests : Rests body) {answers : Answers}
    {awaited : Awaited} {place : Place} {before after : UnlockService} {next : Except PyExc Place}
    (ran : body before = (next, after)) :
    SessionEffect platform session peer answers awaited before place after next :=
  .quiet (rests.after ran).1 (rests.after ran).2

/-! ## The steps of a session -/

theorem challengeDevice_effect {answers : Answers} {awaited : Awaited} {admission : Admission}
    {identity : Identity} {deadline : Option ℚ} {before after : UnlockService}
    {next : Except PyExc Place} (admitted : identity.toAdmission = admission)
    (identified : before.left .device identity.deviceId = 0 → Identified before identity)
    (greets : Greets awaited identity.deviceId)
    (ran : challengeDevice platform answers identity before = (next, after)) :
    SessionEffect platform session peer answers awaited before (.recvHello admission deadline) after
      next := by
  rcases Py.of_bind ran with ⟨exc, ended, rfl⟩ | ⟨isLocked, middle, tested, rest⟩
  · exact .quiet ((locked_quiet platform answers _ _).after ended) trivial
  · cases isLocked with
    | true =>
        cases rest
        exact .quiet ((locked_quiet platform answers _ _).after tested) trivial
    | false =>
        rcases locked_false platform answers tested with ⟨rfl, unlocked⟩
        rcases Py.of_bind rest with ⟨exc, ended, rfl⟩ | ⟨challenge, final, issued, finish⟩
        · rcases issueChallenge_cases ended with ⟨forgets, _⟩ | ⟨signed, opens, message⟩
          · exact .quiet forgets trivial
          · cases signed with
            | none => exact .unsent identity.deviceId opens trivial
            | some bytes =>
                rcases message with ⟨⟨challenge, wrong⟩, _⟩
                contradiction
        · rcases issueChallenge_cases issued with ⟨_, exc, failed⟩ | ⟨signed, opens, message⟩
          · contradiction
          · cases finish
            exact .challenge identity challenge signed admitted (identified unlocked) opens message
              ((issueChallenge_sameLocks _ _).after issued) greets

theorem lookupDevice_eq_iff {admission : Admission} {deviceId : PyStr}
    {before after : UnlockService} {result : Except PyExc (Option Dict × Dict)} :
    lookupDevice admission deviceId before = (result, after) ↔ after = before ∧
      result = if admission.certDevice.getD [] ≠ [] then .ok (admission.certDevice, admission.data)
        else (deviceById before.data deviceId).map fun device => (device, before.data) := by
  unfold lookupDevice
  rw [Py.bind_of_ok (Py.read_apply _ _)]
  by_cases named : admission.certDevice.getD [] ≠ []
  · simp only [if_pos named, Py.pure_apply, Prod.mk.injEq]
    rw [eq_comm, and_comm, eq_comm]
  · simp only [if_neg named, Py.bind_apply, Py.ofExcept_apply]
    cases deviceById before.data deviceId <;>
      simp [Except.map, eq_comm, and_comm]

theorem afterHello_effect {answers : Answers} {awaited : Awaited} {admission : Admission}
    {hello : Dict} {deadline : Option ℚ} {before after : UnlockService} {next : Except PyExc Place}
    (arrived : received awaited = some (.ok hello))
    (ran : afterHello platform answers peer admission hello before = (next, after)) :
    SessionEffect platform session peer answers awaited before (.recvHello admission deadline) after
      next := by
  unfold afterHello at ran
  generalize named : lookup (py "device_id") hello = field at ran
  split at ran
  next deviceId =>
    split at ran
    · exact (fail_rests platform answers _ _ _ _).effect ran
    next isHello =>
      rcases Py.of_bind ran with ⟨exc, ended, rfl⟩ | ⟨⟨found, lookupData⟩, middle, looked, rest⟩
      · rcases lookupDevice_eq_iff.mp ended with ⟨rfl, _⟩
        exact .quiet (Quiet.refl _) trivial
      rcases lookupDevice_eq_iff.mp looked with ⟨rfl, source⟩
      cases found with
      | none => exact (fail_rests platform answers _ _ _ _).effect rest
      | some device =>
          rcases Py.of_bind rest with ⟨exc, ended, rfl⟩ | ⟨identifier, final, has, finish⟩
          · rcases Py.ofExcept_eq_iff.mp ended with ⟨_, rfl⟩
            exact .quiet (Quiet.refl _) trivial
          rcases Py.ofExcept_eq_iff.mp has with ⟨hasId, rfl⟩
          split at finish
          · exact (fail_rests platform answers _ _ _ _).effect finish
          next same =>
            refine challengeDevice_effect rfl (fun unlocked => ⟨?_, ?_, unlocked⟩)
              ⟨hello, arrived, not_not.mp isHello, named⟩ finish
            · rw [hasId, not_not.mp same]
            · split at source
              · rw [Except.ok.injEq, Prod.mk.injEq] at source
                exact .inl ⟨source.1.symm, source.2⟩
              next unnamed =>
                cases searched : deviceById middle.data deviceId with
                | error exc => simp [searched, Except.map] at source
                | ok found =>
                    simp only [searched, Except.map, Except.ok.injEq, Prod.mk.injEq] at source
                    exact .inr ⟨not_not.mp unnamed, source.2, by rw [source.1]⟩
  · exact (fail_rests platform answers _ _ _ _).effect ran

theorem record_returns (platform : Platform Key) {answers : Answers} {service : UnlockService}
    (calm : (answers.disk service.audit.log.seq).1.raises = false) (event : String)
    (title : Option String) (priority : String) (tags : List String) (data : Dict) :
    ∃ entry after, record platform answers event title priority tags data service =
      (.ok entry, after) := by
  rcases append_returns platform.sha calm (answers.disk service.audit.log.seq).2 (py event) data
    service.audit with ⟨entry, log, appended⟩
  unfold record auditAppend
  simp only [Py.bind_apply, Py.read_apply, Py.zoom_apply, appended]
  cases title with
  | none => exact ⟨_, _, rfl⟩
  | some title => exact ⟨_, _, rfl⟩

theorem left_clearFailures (service : UnlockService) (ip deviceId : PyStr) {kind : LockKind}
    {key : PyStr} (otherIp : (kind, key) ≠ (.ip, ip))
    (otherDevice : (kind, key) ≠ (.device, deviceId)) :
    (clearFailures ip deviceId service).2.left kind key = service.left kind key := by
  cases kind with
  | ip =>
      have different : key ≠ ip := fun same => otherIp (by rw [same])
      exact (Backoff.remaining_success _ _ ip key).trans (if_neg different)
  | device =>
      have different : key ≠ deviceId := fun same => otherDevice (by rw [same])
      exact (Backoff.remaining_success _ _ deviceId key).trans (if_neg different)

section Success

variable {identity : Identity} {nonce : PyStr} {signature : Option Json} {entry : Pending}
  {before : UnlockService}

/-- The state in which the success is recorded. -/
def granted (session : ℕ) (peer : Peer) (identity : Identity) (nonce : PyStr)
    (signature : Option Json) (entry : Pending) (before : UnlockService) : UnlockService :=
  (issueGrant session
    (grantFor peer identity nonce signature entry (popped nonce before))
    (clearFailures peer.ip identity.deviceId (popped nonce before)).2).2

theorem granted_issues (session : ℕ) (peer : Peer) (pending : before.pending.get nonce = some entry)
    (checked : Checked platform identity.device nonce signature entry before.time before.data) :
    Issues platform session peer identity nonce signature entry false before
      (granted session peer identity nonce signature entry before) where
  config := rfl
  now := rfl
  broker := rfl
  history := rfl
  popped := pending
  pending other found there := by
    change (before.pending.pop nonce).get other = some found at there
    rw [PyDict.get_pop] at there
    split at there
    · contradiction
    next different => exact ⟨different, there⟩
  checked := checked
  left kind key otherIp otherDevice :=
    (left_clearFailures before peer.ip identity.deviceId otherIp otherDevice).ge

theorem Issues.authorize {after : UnlockService}
    (issues : Issues platform session peer identity nonce signature entry false before after) :
    Issues platform session peer identity nonce signature entry true before
      { after with history := after.history ++ [.authorized session] } :=
  { issues with
    history := by simp [issues.history] }

theorem succeed_issues {answers : Answers} {after : UnlockService} {next : Except PyExc Place}
    (pending : before.pending.get nonce = some entry)
    (checked : Checked platform identity.device nonce signature entry before.time before.data)
    (ran : succeed platform answers session peer identity nonce signature entry
      (popped nonce before) = (next, after)) :
    ∃ recorded, Issues platform session peer identity nonce signature entry recorded
        before after ∧
      (recorded = false → (answers.disk before.audit.log.seq).1.raises = true) ∧
      Resting next := by
  have issues := granted_issues session peer pending checked
  unfold succeed at ran
  rw [Py.bind_of_ok (Py.read_apply _ _), clearFailures, Py.bind_of_ok (Py.modify_apply _ _),
    issueGrant, Py.bind_of_ok (Py.modify_apply _ _)] at ran
  rcases checked.verified with ⟨target, _, _, _, hasTarget, _⟩
  rcases Py.of_bind ran with ⟨exc, ended, _⟩ | ⟨value, middle, configured, rest⟩
  · have wrong := hasTarget.symm.trans (configItem_eq_iff.mp ended).1
    contradiction
  have start : granted session peer identity nonce signature entry before = middle :=
    (configItem_eq_iff.mp configured).2
  have sameLog : middle.audit = before.audit := by
    rw [← start]
    rfl
  rw [start] at issues
  rcases Py.of_bind rest with ⟨exc, ended, rfl⟩ | ⟨written, final, ended, finish⟩
  · have calm := (record_quiet platform answers _ _ _ _ _).after ended
    refine ⟨false, issues.quiet calm, ?_, trivial⟩
    intro _
    by_contra calm
    rw [Bool.not_eq_true, ← sameLog] at calm
    rcases record_returns platform calm "unlock_authorized" _ _ _ _ with
      ⟨written, final, recorded⟩
    rw [ended] at recorded
    cases recorded
  · cases finish
    exact ⟨true, (issues.quiet ((record_quiet platform answers _ _ _ _ _).after ended)).authorize,
      by simp, trivial⟩

end Success

theorem afterResponse_effect {answers : Answers} {awaited : Awaited} {identity : Identity}
    {response : Dict} {deadline : Option ℚ} {before after : UnlockService}
    {next : Except PyExc Place} (arrived : received awaited = some (.ok response))
    (ran : afterResponse platform answers session peer identity response before =
      (next, after)) :
    SessionEffect platform session peer answers awaited before (.recvResponse identity deadline)
      after next := by
  unfold afterResponse at ran
  split at ran
  · exact (fail_rests platform answers _ _ _ _).effect ran
  next isResponse =>
    rcases Py.of_bind ran with ⟨exc, ended, rfl⟩ | ⟨verdict, middle, judged, rest⟩
    · exact .quiet ((checkResponse_quiet _ _).after ended) trivial
    · cases verdict with
      | refused reason =>
          have calm := (checkResponse_quiet _ _).after judged
          rcases (fail_rests platform answers _ _ _ _).after rest with ⟨refused, resting⟩
          exact .quiet (calm.trans refused) resting
      | accepted nonce entry =>
          rcases checkResponse_accepted judged with ⟨pending, rfl, checked⟩
          rcases succeed_issues pending checked rest with ⟨recorded, issues, unrecorded, resting⟩
          exact .grant nonce _ entry recorded
            ⟨response, arrived, not_not.mp isResponse, rfl, congrArg Prod.fst judged⟩ issues
            unrecorded resting

theorem afterChallenge_effect {answers : Answers} {awaited : Awaited} {identity : Identity}
    {challenge : Json} {before after : UnlockService} {next : Except PyExc Place}
    (ran : afterChallenge identity before = (next, after)) :
    SessionEffect platform session peer answers awaited before (.sendChallenge identity challenge)
      after next := by
  unfold afterChallenge at ran
  rcases Py.of_bind ran with ⟨exc, ended, rfl⟩ | ⟨ttl, middle, configured, rest⟩
  · exact .quiet ((configItem_quiet _).after ended) trivial
  rcases configItem_eq_iff.mp configured with ⟨_, rfl⟩
  rw [Py.bind_of_ok (Py.read_apply _ _)] at rest
  rcases Py.of_bind rest with ⟨exc, ended, rfl⟩ | ⟨deadline, middle, computed, finish⟩
  · rcases Py.ofExcept_eq_iff.mp ended with ⟨_, rfl⟩
    exact .quiet (Quiet.refl _) trivial
  · rcases Py.ofExcept_eq_iff.mp computed with ⟨_, rfl⟩
    cases finish
    exact .await

theorem sessionBody_effect {answers : Answers} {awaited : Awaited} {place : Place}
    {body : Py UnlockService Place}
    (runs : sessionBody platform answers session peer place awaited = some body)
    {before after : UnlockService} {next : Except PyExc Place}
    (ran : body before = (next, after)) :
    SessionEffect platform session peer answers awaited before place after next := by
  unfold sessionBody at runs
  split at runs
  next raises =>
    cases runs
    exact (Rests.bind (Py.Keeps.raiseIf raises) fun _ => Rests.pure .done trivial).effect ran
  next admission deadline =>
    rcases Option.map_eq_some_iff.mp runs with ⟨message, arrived, rfl⟩
    cases message with
    | error exc => exact (Rests.raise exc).effect ran
    | ok hello => exact afterHello_effect arrived ran
  next identity challenge raises =>
    cases runs
    rcases Py.of_bind ran with ⟨exc, ended, rfl⟩ | ⟨value, middle, ended, rest⟩
    · exact .quiet ((sent_quiet raises).after ended) trivial
    · have same : before = middle := (Py.Keeps.raiseIf _).after ended
      subst same
      exact afterChallenge_effect rest
  next identity deadline =>
    rcases Option.map_eq_some_iff.mp runs with ⟨message, arrived, rfl⟩
    cases message with
    | error exc => exact (Rests.raise exc).effect ran
    | ok response => exact afterResponse_effect arrived ran
  next hits raises =>
    cases runs
    exact (Rests.bind (sent_quiet raises) fun _ =>
      Rests.bind (failRest_quiet platform answers hits) fun _ =>
        Rests.pure .done trivial).effect ran
  next raises =>
    cases runs
    exact (Rests.bind (sent_quiet raises) fun _ => Rests.pure .done trivial).effect ran
  · contradiction

theorem recover_rests (platform : Platform Key) (answers : Answers) (peer : Peer) (exc : PyExc) :
    Rests (recover platform answers peer exc) := by
  unfold recover
  cases exc.kind with
  | connectionClosed => exact Rests.pure _ trivial
  | base => exact Rests.raise exc
  | _ => exact fail_rests platform answers _ _ _ _

/-- The `except` clauses leave an effect what it is. -/
theorem handled_effect {effect : UnlockService → Except PyExc Place → Prop}
    (settles : Settles effect) {answers : Answers} {body : Py UnlockService Place}
    {before after : UnlockService} {next : Except PyExc Place}
    (holds : ∀ outcome middle, body before = (outcome, middle) → effect middle outcome)
    (ran : handled platform answers peer body before = (next, after)) : effect after next := by
  rcases Py.of_tryExcept ran with ⟨place, ended, rfl⟩ | ⟨exc, middle, raised, handles⟩
  · exact holds _ _ ended
  · rcases (recover_rests platform answers peer exc).after handles with ⟨calm, resting⟩
    exact settles (holds _ _ raised) trivial calm resting

/-- So does the `finally` clause. -/
theorem finished_effect {effect : UnlockService → Except PyExc Place → Prop}
    (settles : Settles effect) {body : Py UnlockService Place} {before : UnlockService}
    (holds : ∀ outcome middle, body before = (outcome, middle) → effect middle outcome) :
    effect (finished body before).1 (.ok (finished body before).2) := by
  unfold finished
  rcases ran : body before with ⟨outcome, middle⟩
  have start := holds _ _ ran
  have closed := Quiet.of_ledger middle middle.audit middle.alerts middle.lastLockAudit
    (middle.active - 1)
  cases outcome with
  | error exc => exact settles start trivial closed trivial
  | ok next =>
      cases next with
      | done => exact settles start trivial closed trivial
      | _ => exact start

/-- One step of a session behind an await. -/
theorem resume_effect {answers : Answers} {awaited : Awaited} {place next : Place}
    {before after : UnlockService}
    (ran : resume platform answers session peer place awaited before = some (after, next)) :
    SessionEffect platform session peer answers awaited before place after (.ok next) := by
  unfold resume at ran
  split at ran
  · cases ran
    exact .quiet (Quiet.refl _) trivial
  next hits raises =>
    rw [Option.some.injEq, Prod.mk.injEq] at ran
    rcases ran with ⟨rfl, rfl⟩
    apply finished_effect (SessionEffect.settles answers (.finished raises) before _)
    intro outcome middle ran
    exact (Rests.bind (sent_quiet raises) fun _ =>
      Rests.bind (failRest_quiet platform answers hits) fun _ =>
        Rests.pure .done trivial).effect ran
  · rcases Option.map_eq_some_iff.mp ran with ⟨body, runs, ended⟩
    rw [Prod.mk.injEq] at ended
    rcases ended with ⟨rfl, rfl⟩
    apply finished_effect (SessionEffect.settles answers awaited before place)
    intro outcome middle ran
    exact handled_effect (SessionEffect.settles answers awaited before place)
      (fun _ _ => sessionBody_effect runs) ran

/-! ## The first step of a session -/

variable (platform peer)

/-- What a session has checked of its peer when it goes on to wait for the hello. -/
structure Admitted (before : UnlockService) (admission : Admission) : Prop where
  data : admission.data = before.data
  certificate : ∃ certificate, peer.certificate = .ok certificate ∧
    certDevice platform before.data certificate = .ok admission.certDevice
  required : ∃ required, item before.data "require_mtls" = .ok required ∧
    (required.truthy = true → admission.certDevice ≠ none)
  unlocked : before.left .ip peer.ip = 0

/-- What a session can do in front of its first await once the configuration is loaded: it
rests, or it waits for the hello of a peer it has admitted. -/
inductive ConnectEffect (before : UnlockService) : UnlockService → Except PyExc Place → Prop where
  | quiet {after next} (calm : Quiet before after) (resting : Resting next) :
      ConnectEffect before after next
  | hello {admission deadline} (admitted : Admitted platform peer before admission) :
      ConnectEffect before before (.ok (.recvHello admission deadline))

variable {platform peer}

theorem Rests.connects {body : Py UnlockService Place} (rests : Rests body)
    {before after : UnlockService} {next : Except PyExc Place}
    (ran : body before = (next, after)) : ConnectEffect platform peer before after next :=
  .quiet (rests.after ran).1 (rests.after ran).2

theorem ConnectEffect.settles (platform : Platform Key) (peer : Peer) (before : UnlockService) :
    Settles (ConnectEffect platform peer before) := by
  intro middle after outcome next effect rests rest resting
  cases effect with
  | quiet calm _ => exact .quiet (calm.trans rest) resting
  | hello => exact rests.elim

theorem sessionStart_effect {answers : Answers} {before after : UnlockService}
    {next : Except PyExc Place}
    (ran : sessionStart platform answers peer before = (next, after)) :
    ConnectEffect platform peer before after next := by
  unfold sessionStart at ran
  rcases Py.of_bind ran with ⟨exc, ended, rfl⟩ | ⟨isLocked, middle, tested, rest⟩
  · exact .quiet ((locked_quiet platform answers _ _).after ended) trivial
  cases isLocked with
  | true =>
      cases rest
      exact .quiet ((locked_quiet platform answers _ _).after tested) trivial
  | false =>
      rcases locked_false platform answers tested with ⟨rfl, unlocked⟩
      rcases Py.of_bind rest with ⟨exc, ended, rfl⟩ | ⟨certificate, _, asked, rest⟩
      · rcases Py.ofExcept_eq_iff.mp ended with ⟨_, rfl⟩
        exact .quiet (Quiet.refl _) trivial
      rcases Py.ofExcept_eq_iff.mp asked with ⟨hasCertificate, rfl⟩
      rw [Py.bind_of_ok (Py.read_apply _ _)] at rest
      rcases Py.of_bind rest with ⟨exc, ended, rfl⟩ | ⟨device, _, searched, rest⟩
      · rcases Py.ofExcept_eq_iff.mp ended with ⟨_, rfl⟩
        exact .quiet (Quiet.refl _) trivial
      rcases Py.ofExcept_eq_iff.mp searched with ⟨names, rfl⟩
      rcases Py.of_bind rest with ⟨exc, ended, rfl⟩ | ⟨required, _, configured, rest⟩
      · exact .quiet ((configItem_quiet _).after ended) trivial
      rcases configItem_eq_iff.mp configured with ⟨hasRequired, rfl⟩
      split at rest
      · exact (fail_rests platform answers _ _ _ _).connects rest
      next admits =>
        rw [Py.bind_of_ok (Py.read_apply _ _)] at rest
        cases rest
        refine .hello ⟨rfl, ⟨certificate, hasCertificate, names⟩, ⟨required, hasRequired, ?_⟩,
          unlocked⟩
        exact fun isRequired absent => admits ⟨isRequired, absent⟩

/-- The state in which a session begins: the connection is counted and the configuration
loaded again. -/
def begun (access : FileAccess) (before : UnlockService) : UnlockService :=
  { before with
    active := before.active + 1, config := (reloadIfChanged access before.config).2 }

/-- The first step of a session: the connection is refused, or the session begins. -/
theorem connect_effect {answers : Answers} {access : FileAccess} {next : Place}
    {before after : UnlockService}
    (ran : connect platform answers peer access before = (after, next)) :
    Quiet before after ∧ Resting (.ok next) ∨
      ConnectEffect platform peer (begun access before) after (.ok next) := by
  unfold connect at ran
  split at ran
  · cases ran
    exact .inl ⟨Quiet.refl _, trivial⟩
  · right
    have settles := ConnectEffect.settles platform peer (begun access before)
    rw [Prod.mk.injEq] at ran
    rcases ran with ⟨rfl, rfl⟩
    apply finished_effect settles
    intro outcome middle handles
    apply handled_effect settles _ handles
    intro outcome middle body
    rcases Py.of_bind body with ⟨exc, ended, rfl⟩ | ⟨value, loaded, reloads, rest⟩
    · rw [reloadConfig, Py.zoom_apply, Prod.mk.injEq] at ended
      rw [← ended.2]
      exact .quiet (Quiet.refl _) trivial
    · rw [reloadConfig, Py.zoom_apply, Prod.mk.injEq] at reloads
      rw [← reloads.2] at rest
      exact sessionStart_effect rest
  · cases ran
    exact .inl ⟨Quiet.refl _, trivial⟩

end Effects

end RemoteUnlock.Listener
