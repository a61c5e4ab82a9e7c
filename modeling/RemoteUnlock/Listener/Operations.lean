import RemoteUnlock.Listener.World

/-!
# What every operation keeps

Sessions and requests are made of a few operations on the service.  A relation each of
them keeps is kept by the code between two awaits, whichever way it ends
(`Operations.sessionBody`, `RequestOperations.pamBody`), and by every step of the world
(`Operations.step`).
-/

namespace RemoteUnlock.Listener

open Python Python.Items Common Audit

variable {Key : Type} {platform : Platform Key} {relation : UnlockService → UnlockService → Prop}

/-- The operations keep a relation one by one. -/
structure Operations (platform : Platform Key)
    (relation : UnlockService → UnlockService → Prop) : Prop where
  auditAppend : ∀ answers event data,
    Py.Keeps relation (Listener.auditAppend platform answers event data)
  record : ∀ answers event title priority tags data,
    Py.Keeps relation (Listener.record platform answers event title priority tags data)
  lockAudit : ∀ service stamps, relation service { service with lastLockAudit := stamps }
  countFailure : ∀ kind key, Py.Keeps relation (Listener.countFailure kind key)
  clearFailures : ∀ ip deviceId, Py.Keeps relation (Listener.clearFailures ip deviceId)
  issueChallenge : ∀ answers deviceId,
    Py.Keeps relation (Listener.issueChallenge answers deviceId)
  checkResponse : ∀ device nonce signature,
    Py.Keeps relation (Listener.checkResponse platform device nonce signature)
  broker : ∀ service broker history,
    relation service { service with broker := broker, history := history }
  config : ∀ service config, relation service { service with config := config }

/-- Those the requests are made of keep it. -/
structure RequestOperations (platform : Platform Key)
    (relation : UnlockService → UnlockService → Prop) : Prop where
  record : ∀ answers event title priority tags data,
    Py.Keeps relation (Listener.record platform answers event title priority tags data)
  broker : ∀ service broker history,
    relation service { service with broker := broker, history := history }

theorem Operations.requests (operations : Operations platform relation) :
    RequestOperations platform relation :=
  ⟨operations.record, operations.broker⟩

section Unchanged

variable [IsPreorder UnlockService relation]

theorem configItem_keeps (key : String) : Py.Keeps relation (configItem key) :=
  fun service => refl service

theorem sent_keeps (raises : Option PyExc) : Py.Keeps relation (sent raises) :=
  Py.Keeps.raiseIf _

theorem lookupDevice_keeps (admission : Admission) (deviceId : PyStr) :
    Py.Keeps relation (lookupDevice admission deviceId) := by
  unfold lookupDevice
  refine Py.Keeps.bind (Py.Keeps.read _) fun data => ?_
  split
  · exact Py.Keeps.pure _
  · exact Py.Keeps.bind (Py.Keeps.ofExcept _) fun _ => Py.Keeps.pure _

theorem afterChallenge_keeps (identity : Identity) :
    Py.Keeps relation (afterChallenge identity) := by
  unfold afterChallenge
  refine Py.Keeps.bind (configItem_keeps _) fun ttl => ?_
  refine Py.Keeps.bind (Py.Keeps.read _) fun now => ?_
  exact Py.Keeps.bind (Py.Keeps.ofExcept _) fun _ => Py.Keeps.pure _

theorem locked_keeps {answers : Answers}
    (appends : ∀ event data, Py.Keeps relation (auditAppend platform answers event data))
    (stamped : ∀ service stamps, relation service { service with lastLockAudit := stamps })
    (key : PyStr) (kind : LockKind) : Py.Keeps relation (locked platform answers key kind) := by
  unfold locked
  refine Py.Keeps.bind (Py.Keeps.read _) fun left => ?_
  split
  · refine Py.Keeps.bind (Py.Keeps.read _) fun now => ?_
    refine Py.Keeps.bind (Py.Keeps.read _) fun last => ?_
    split
    · refine Py.Keeps.bind (Py.Keeps.modify fun service => stamped service _) fun _ => ?_
      exact Py.Keeps.bind (appends _ _) fun _ => Py.Keeps.pure _
    · exact Py.Keeps.pure _
  · exact Py.Keeps.pure _

theorem issueChallenge_keeps
    (pruned : ∀ service pending, relation service { service with pending := pending })
    (inserted : ∀ nonce entry, Py.Keeps relation (insertPending nonce entry))
    (signed : ∀ service history, relation service { service with history := history })
    (answers : Answers) (deviceId : PyStr) :
    Py.Keeps relation (issueChallenge answers deviceId) := by
  unfold issueChallenge
  refine Py.Keeps.bind (Py.Keeps.read _) fun now => ?_
  refine Py.Keeps.bind (configItem_keeps _) fun ttl => ?_
  refine Py.Keeps.bind (Py.Keeps.read _) fun pending => ?_
  refine Py.Keeps.bind (Py.Keeps.ofExcept _) fun kept => ?_
  refine Py.Keeps.bind (Py.Keeps.modify fun service => pruned service kept) fun _ => ?_
  split
  · exact Py.Keeps.raise _
  · unfold openChallenge
    refine Py.Keeps.bind (inserted _ _) fun _ => ?_
    refine Py.Keeps.bind (configItem_keeps _) fun target => ?_
    refine Py.Keeps.bind (Py.Keeps.ofExcept _) fun message => ?_
    refine Py.Keeps.bind ?_ fun signature => Py.Keeps.pure _
    refine Py.Keeps.bind (Py.Keeps.ofExcept _) fun signature => ?_
    exact Py.Keeps.bind (Py.Keeps.modify fun service => signed service _) fun _ => Py.Keeps.pure _

theorem checkResponse_keeps (pops : ∀ nonce service, relation service (popped nonce service))
    (device : Dict) (nonce signature : Option Json) :
    Py.Keeps relation (checkResponse platform device nonce signature) := by
  unfold checkResponse
  split
  · split
    · exact Py.Keeps.pure _
    · refine Py.Keeps.bind (Py.Keeps.read _) fun found => ?_
      refine Py.Keeps.bind (Py.Keeps.modify (pops _)) fun _ => ?_
      split
      · exact Py.Keeps.pure _
      · intro service
        rw [← checkEntry_pure platform device _ signature _ service]
        exact refl service
  · exact Py.Keeps.pure _

end Unchanged

/-! ## Requests -/

namespace RequestOperations

variable [IsPreorder UnlockService relation]
  (operations : RequestOperations platform relation)

include operations

theorem recordConsume (answers : Answers) (credentials : Credentials) (message : Dict)
    (ok : Bool) :
    Py.Keeps relation (Listener.recordConsume platform answers credentials message ok) := by
  unfold Listener.recordConsume
  refine Py.Keeps.bind (Py.Keeps.ofExcept _) fun user => ?_
  exact Py.Keeps.bind (operations.record _ _ _ _ _ _) fun _ => Py.Keeps.pure _

theorem afterTaken (answers : Answers) (request : ℕ) (credentials : Credentials)
    (taking : Taking) :
    Py.Keeps relation (Listener.afterTaken platform answers request credentials taking) := by
  unfold Listener.afterTaken
  apply Py.Keeps.bind
  · exact Py.Keeps.modify fun service => operations.broker service service.broker _
  · intro _
    apply Py.Keeps.tryExcept
    · exact Py.Keeps.bind (operations.recordConsume _ _ _ _) fun _ => Py.Keeps.pure _
    · intro exc
      split
      · exact Py.Keeps.raise exc
      · exact Py.Keeps.pure _

theorem afterRefused (answers : Answers) (credentials : Credentials) (message : Dict) :
    Py.Keeps relation (Listener.afterRefused platform answers credentials message) :=
  Py.Keeps.bind (operations.recordConsume _ _ _ _) fun _ => Py.Keeps.pure _

theorem consumeTurn (answers : Answers) (request : ℕ) (credentials : Credentials)
    (uidData message userData : Dict) (deadline : Option ℚ) :
    Py.Keeps relation (Listener.consumeTurn platform answers request credentials uidData message
      userData deadline) := by
  unfold Listener.consumeTurn
  refine Py.Keeps.bind (Py.Keeps.read _) fun now => ?_
  apply Py.Keeps.bind
  · exact Py.Keeps.zoom (fun broker service => operations.broker service broker service.history) _
  · intro turn
    cases turn with
    | taken => exact operations.afterTaken _ _ _ _
    | refused => exact operations.afterRefused _ _ _
    | waits => exact Py.Keeps.pure _

theorem pamStart (answers : Answers) (credentials : Except PyExc Credentials) :
    Py.Keeps relation (Listener.pamStart platform answers credentials) := by
  unfold Listener.pamStart
  refine Py.Keeps.bind (Py.Keeps.ofExcept _) fun credentials => ?_
  refine Py.Keeps.bind (Py.Keeps.read _) fun data => ?_
  refine Py.Keeps.bind (Py.Keeps.ofExcept _) fun allowed => ?_
  split
  · exact Py.Keeps.bind (Py.Keeps.read _) fun _ => Py.Keeps.pure _
  · exact Py.Keeps.bind (operations.record _ _ _ _ _ _) fun _ => Py.Keeps.pure _

theorem afterLine (answers : Answers) (request : ℕ) (credentials : Credentials) (uidData : Dict)
    (raw : Bytes) :
    Py.Keeps relation (Listener.afterLine platform answers request credentials uidData raw) := by
  unfold Listener.afterLine
  refine Py.Keeps.bind (Py.Keeps.ofExcept _) fun message => ?_
  refine Py.Keeps.bind (Py.Keeps.read _) fun data => ?_
  refine Py.Keeps.bind (Py.Keeps.ofExcept _) fun same => ?_
  split
  · refine Py.Keeps.bind (configItem_keeps _) fun wait => ?_
    refine Py.Keeps.bind (Py.Keeps.read _) fun now => ?_
    refine Py.Keeps.bind (Py.Keeps.ofExcept _) fun deadline => ?_
    exact operations.consumeTurn _ _ _ _ _ _ _
  · exact Py.Keeps.bind (operations.record _ _ _ _ _ _) fun _ => Py.Keeps.pure _

omit [IsPreorder UnlockService relation] in
theorem leaveWait (request : ℕ) : Py.Keeps relation (Listener.leaveWait request) :=
  Py.Keeps.modify fun service => operations.broker service _ service.history

/-- The code of a request between two awaits. -/
theorem pamBody {answers : Answers} {request : ℕ} {place : PamPlace} {awaited : PamAwaited}
    {body : Py UnlockService PamStep}
    (runs : Listener.pamBody platform answers request place awaited = some body) :
    Py.Keeps relation body := by
  unfold Listener.pamBody at runs
  split at runs
  next credentials uidData deadline raw =>
    cases runs
    exact operations.afterLine _ _ _ _ _
  next credentials uidData deadline exc =>
    cases runs
    exact Py.Keeps.raise exc
  next credentials uidData deadline =>
    cases runs
    exact Py.Keeps.raise _
  next credentials uidData message userData deadline =>
    cases runs
    exact Py.Keeps.bind (operations.leaveWait _) fun _ => operations.consumeTurn _ _ _ _ _ _ _
  next credentials uidData message userData deadline exc =>
    cases runs
    exact Py.Keeps.bind (operations.leaveWait _) fun _ => Py.Keeps.raise exc
  next credentials uidData message userData deadline =>
    cases runs
    exact Py.Keeps.bind (operations.leaveWait _) fun _ => operations.afterRefused _ _ _
  · contradiction

theorem reply (answers : Answers) (request : ℕ) (ok : Option Taking) (service : UnlockService) :
    relation service (Listener.reply answers request ok service).1 := by
  unfold Listener.reply
  split
  · exact refl service
  · split
    · exact operations.broker service service.broker _
    · exact operations.broker service service.broker _

theorem concluded (answers : Answers) (request : ℕ) {body : Py UnlockService PamStep}
    (keeps : Py.Keeps relation body) (service : UnlockService) :
    relation service (Listener.concluded answers request body service).1 := by
  have start := keeps service
  unfold Listener.concluded
  rcases ran : body service with ⟨outcome, middle⟩
  rw [ran] at start
  split
  next same =>
    cases same
    exact start
  next same =>
    cases same
    exact IsTrans.trans _ _ _ start (operations.reply _ _ _ _)
  next same =>
    cases same
    exact IsTrans.trans _ _ _ start (operations.reply _ _ _ _)

theorem pamConnect (answers : Answers) (request : ℕ) (credentials : Except PyExc Credentials)
    (service : UnlockService) :
    relation service (Listener.pamConnect platform answers request credentials service).1 :=
  operations.concluded _ _ (operations.pamStart _ _) service

theorem pamResume {answers : Answers} {request : ℕ} {place next : PamPlace}
    {awaited : PamAwaited} {before after : UnlockService}
    (ran : Listener.pamResume platform answers request place awaited before =
      some (after, next)) : relation before after := by
  unfold Listener.pamResume at ran
  split at ran
  · cases ran
    exact refl before
  · obtain ⟨body, runs, ended⟩ := Option.map_eq_some_iff.mp ran
    have keeps := operations.concluded answers request (operations.pamBody runs) before
    rwa [ended] at keeps

end RequestOperations

/-! ## Sessions -/

namespace Operations

variable [IsPreorder UnlockService relation] (operations : Operations platform relation)

include operations

theorem locked (answers : Answers) (key : PyStr) (kind : LockKind) :
    Py.Keeps relation (Listener.locked platform answers key kind) :=
  locked_keeps (operations.auditAppend answers) operations.lockAudit key kind

theorem failStart (answers : Answers) (ip : PyStr) (deviceId : Option PyStr) (reason : Text) :
    Py.Keeps relation (Listener.failStart platform answers ip deviceId reason) := by
  unfold Listener.failStart
  refine Py.Keeps.bind (operations.countFailure _ _) fun lockIp => ?_
  apply Py.Keeps.bind
  · unfold countDeviceFailure
    split
    · exact Py.Keeps.pure _
    · exact Py.Keeps.pure _
    · exact operations.countFailure _ _
  · intro lockDev
    exact Py.Keeps.bind (operations.record _ _ _ _ _ _) fun _ => Py.Keeps.pure _

theorem failRest (answers : Answers) (hits : List (LockKind × PyStr)) :
    Py.Keeps relation (Listener.failRest platform answers hits) := by
  induction hits with
  | nil => exact Py.Keeps.pure _
  | cons hit hits inductionHypothesis =>
      unfold Listener.failRest
      refine Py.Keeps.bind (Py.Keeps.read _) fun left => ?_
      exact Py.Keeps.bind (operations.record _ _ _ _ _ _) fun _ => inductionHypothesis

theorem fail (answers : Answers) (peer : Peer) (deviceId : Option PyStr) (reason : Text)
    (handling : Bool) :
    Py.Keeps relation (Listener.fail platform answers peer deviceId reason handling) :=
  Py.Keeps.bind (operations.failStart _ _ _ _) fun _ => Py.Keeps.pure _

theorem sessionStart (answers : Answers) (peer : Peer) :
    Py.Keeps relation (Listener.sessionStart platform answers peer) := by
  unfold Listener.sessionStart
  refine Py.Keeps.bind (operations.locked _ _ _) fun isLocked => ?_
  split
  · exact Py.Keeps.pure _
  · refine Py.Keeps.bind (Py.Keeps.ofExcept _) fun certificate => ?_
    refine Py.Keeps.bind (Py.Keeps.read _) fun data => ?_
    refine Py.Keeps.bind (Py.Keeps.ofExcept _) fun device => ?_
    refine Py.Keeps.bind (configItem_keeps _) fun required => ?_
    split
    · exact operations.fail _ _ _ _ _
    · exact Py.Keeps.bind (Py.Keeps.read _) fun _ => Py.Keeps.pure _

theorem challengeDevice (answers : Answers) (identity : Identity) :
    Py.Keeps relation (Listener.challengeDevice platform answers identity) := by
  unfold Listener.challengeDevice
  refine Py.Keeps.bind (operations.locked _ _ _) fun isLocked => ?_
  split
  · exact Py.Keeps.pure _
  · exact Py.Keeps.bind (operations.issueChallenge _ _) fun _ => Py.Keeps.pure _

theorem afterHello (answers : Answers) (peer : Peer) (admission : Admission) (hello : Dict) :
    Py.Keeps relation (Listener.afterHello platform answers peer admission hello) := by
  unfold Listener.afterHello
  split
  · split
    · exact operations.fail _ _ _ _ _
    · refine Py.Keeps.bind (lookupDevice_keeps _ _) fun looked => ?_
      obtain ⟨found, lookupData⟩ := looked
      cases found with
      | none => exact operations.fail _ _ _ _ _
      | some device =>
          refine Py.Keeps.bind (Py.Keeps.ofExcept _) fun identifier => ?_
          split
          · exact operations.fail _ _ _ _ _
          · exact operations.challengeDevice _ _
  · exact operations.fail _ _ _ _ _

theorem succeed (answers : Answers) (session : ℕ) (peer : Peer) (identity : Identity)
    (nonce : PyStr) (signature : Option Json) (entry : Pending) :
    Py.Keeps relation
      (Listener.succeed platform answers session peer identity nonce signature entry) := by
  unfold Listener.succeed
  refine Py.Keeps.bind (Py.Keeps.read _) fun grant => ?_
  refine Py.Keeps.bind (operations.clearFailures _ _) fun _ => ?_
  refine Py.Keeps.bind (Py.Keeps.modify fun service => operations.broker service _ _) fun _ => ?_
  refine Py.Keeps.bind (configItem_keeps _) fun target => ?_
  refine Py.Keeps.bind (operations.record _ _ _ _ _ _) fun _ => ?_
  apply Py.Keeps.bind
  · exact Py.Keeps.modify fun service => operations.broker service service.broker _
  · exact fun _ => Py.Keeps.pure _

theorem afterResponse (answers : Answers) (session : ℕ) (peer : Peer) (identity : Identity)
    (response : Dict) :
    Py.Keeps relation
      (Listener.afterResponse platform answers session peer identity response) := by
  unfold Listener.afterResponse
  split
  · exact operations.fail _ _ _ _ _
  · refine Py.Keeps.bind (operations.checkResponse _ _ _) fun verdict => ?_
    cases verdict with
    | refused reason => exact operations.fail _ _ _ _ _
    | accepted nonce entry => exact operations.succeed _ _ _ _ _ _ _

/-- The code of a session between two awaits. -/
theorem sessionBody {answers : Answers} {session : ℕ} {peer : Peer} {place : Place}
    {awaited : Awaited} {body : Py UnlockService Place}
    (runs : Listener.sessionBody platform answers session peer place awaited = some body) :
    Py.Keeps relation body := by
  unfold Listener.sessionBody at runs
  split at runs
  next raises =>
    cases runs
    exact Py.Keeps.bind (Py.Keeps.raiseIf _) fun _ => Py.Keeps.pure _
  next admission deadline =>
    obtain ⟨message, _, rfl⟩ := Option.map_eq_some_iff.mp runs
    exact Py.Keeps.bind (Py.Keeps.ofExcept _) fun hello => operations.afterHello _ _ _ _
  next identity challenge raises =>
    cases runs
    exact Py.Keeps.bind (sent_keeps _) fun _ => afterChallenge_keeps _
  next identity deadline =>
    obtain ⟨message, _, rfl⟩ := Option.map_eq_some_iff.mp runs
    exact Py.Keeps.bind (Py.Keeps.ofExcept _) fun response =>
      operations.afterResponse _ _ _ _ _
  next hits raises =>
    cases runs
    refine Py.Keeps.bind (sent_keeps _) fun _ => ?_
    exact Py.Keeps.bind (operations.failRest _ _) fun _ => Py.Keeps.pure _
  next raises =>
    cases runs
    exact Py.Keeps.bind (sent_keeps _) fun _ => Py.Keeps.pure _
  · contradiction

/-- The `except` clauses included. -/
theorem handled (answers : Answers) (peer : Peer) {body : Py UnlockService Place}
    (keeps : Py.Keeps relation body) :
    Py.Keeps relation (Listener.handled platform answers peer body) := by
  apply Py.Keeps.tryExcept keeps
  intro exc
  unfold recover
  split
  · exact Py.Keeps.pure _
  all_goals first
    | exact Py.Keeps.raise exc
    | exact operations.fail _ _ _ _ _

omit [IsPreorder UnlockService relation] in
theorem reloadConfig (access : FileAccess) : Py.Keeps relation (Listener.reloadConfig access) :=
  Py.Keeps.zoom (fun config service => operations.config service config) _

/-- The code of a session in front of its first await. -/
theorem connectBody (answers : Answers) (peer : Peer) (access : FileAccess) :
    Py.Keeps relation (Listener.handled platform answers peer (do
      Listener.reloadConfig access
      Listener.sessionStart platform answers peer)) := by
  apply operations.handled answers peer
  exact Py.Keeps.bind (operations.reloadConfig access) fun _ => operations.sessionStart _ _

/-! ## Steps of the world -/

section Active

variable (active : ∀ service count, relation service { service with active := count })

include active

omit operations in
theorem finished {body : Py UnlockService Place} (keeps : Py.Keeps relation body)
    (service : UnlockService) : relation service (Listener.finished body service).1 := by
  have start := keeps service
  unfold Listener.finished
  rcases ran : body service with ⟨outcome, middle⟩
  rw [ran] at start
  split
  next same =>
    cases same
    exact IsTrans.trans _ _ _ start (active _ _)
  next same =>
    cases same
    exact start
  next same =>
    cases same
    exact IsTrans.trans _ _ _ start (active _ _)

theorem connect (answers : Answers) (peer : Peer) (access : FileAccess)
    (service : UnlockService) :
    relation service (Listener.connect platform answers peer access service).1 := by
  unfold Listener.connect
  split
  · exact refl service
  · apply IsTrans.trans _ _ _ (active service (service.active + 1))
    exact finished active (operations.connectBody _ _ _) _
  · exact refl service

theorem resume {answers : Answers} {session : ℕ} {peer : Peer} {place next : Place}
    {awaited : Awaited} {before after : UnlockService}
    (ran : Listener.resume platform answers session peer place awaited before =
      some (after, next)) : relation before after := by
  unfold Listener.resume at ran
  split at ran
  · cases ran
    exact refl before
  next hits raises =>
    have keeps : Py.Keeps relation (do
        Listener.sent raises
        Listener.failRest platform answers hits
        Pure.pure Place.done) := by
      refine Py.Keeps.bind (sent_keeps _) fun _ => ?_
      exact Py.Keeps.bind (operations.failRest _ _) fun _ => Py.Keeps.pure _
    have related := finished active keeps before
    rw [Option.some.injEq] at ran
    rwa [ran] at related
  · obtain ⟨body, runs, ended⟩ := Option.map_eq_some_iff.mp ran
    have related := finished active
      (operations.handled answers peer (operations.sessionBody runs)) before
    rwa [ended] at related

/-- A relation the operations keep, and changes of the clock and of the number of
connections too, is kept by every step. -/
theorem step (elapsed : ∀ service duration, relation service (Listener.elapsed duration service))
    {before after : World platform} {label : Label} (moved : StepCase before label after) :
    relation before.service after.service := by
  cases moved with
  | idle => exact refl _
  | tick duration => exact elapsed _ duration
  | change change => exact operations.config _ _
  | hangUp request => exact operations.broker _ before.service.broker _
  | connect session peer access answers service next known account fresh ran =>
      have related := operations.connect active answers peer access before.service
      rwa [ran] at related
  | resume session awaited answers current service next known account found allowed ran =>
      exact operations.resume active ran
  | pamConnect request credentials answers service next passed fresh ran =>
      have related := operations.requests.pamConnect answers request credentials before.service
      rwa [ran] at related
  | pamResume request awaited answers current service next passed found allowed ran =>
      exact operations.requests.pamResume ran

end Active

end Operations

end RemoteUnlock.Listener
