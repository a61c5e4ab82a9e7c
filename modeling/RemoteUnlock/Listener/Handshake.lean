import RemoteUnlock.Listener.Isolation

/-!
# A session that is let in

What the code of a session does where nothing stands in its way: its peer is admitted
(`connect_admits`), its device is sent a challenge (`hello_challenged`), and a response that
verifies is granted (`response_granted`).  Steps of others leave this way open: the device
stays `Ready` and its challenge `Held` (`step_aside`).
-/

namespace RemoteUnlock.Listener

open Python Python.Items Common Audit Library

/-! ## What is sent -/

/-- `{"type": "result", "ok": ok}` -/
def resultMessage (ok : Bool) : Json :=
  .obj [(py "type", .str (py "result")), (py "ok", .bool ok)]

/-- What `issue_challenge` returns. -/
def challengeMessage (nonce : PyStr) (issuedMs : ℤ) (target : Json) (signature : Text) : Dict :=
  [(py "type", .str (py "challenge")), (py "nonce", .str nonce),
    (py "issued_ms", .int issuedMs), (py "target_id", target),
    (py "server_sig", .str (ofText signature))]

/-- The message a session sends in the place where it waits. -/
def Place.sends : Place → Option Json
  | .sendChallenge _ challenge => some challenge
  | .sendRejection _ _ => some (resultMessage false)
  | .sendResult => some (resultMessage true)
  | _ => none

variable {Key : Type} {platform : Platform Key}

/-! ## Code that raises nothing -/

section Course

variable {answers : Answers} {session : ℕ} {peer : Peer} {identity : Identity}
  {service after : UnlockService}

theorem finished_of_ok {body : Py UnlockService Place} {place : Place}
    (ran : body service = (.ok place, after)) (waits : place ≠ .done) :
    finished (handled platform answers peer body) service = (after, place) := by
  have guarded : handled platform answers peer body service = (.ok place, after) := by
    rw [handled, Py.tryExcept, ran]
  rw [finished, guarded]
  cases place <;> first | rfl | contradiction

theorem locked_of_left {kind : LockKind} {key : PyStr} (unlocked : service.left kind key = 0) :
    locked platform answers key kind service = (.ok false, service) := by
  rw [locked, Py.bind_of_ok (Py.read_apply _ _), unlocked, if_neg (lt_irrefl _)]
  rfl

theorem sessionStart_admits (vouched : Vouched platform peer identity.toAdmission)
    (isData : service.data = identity.data) (unlocked : service.left .ip peer.ip = 0) :
    sessionStart platform answers peer service =
      (.ok (.recvHello identity.toAdmission (some (service.time + msgTimeout))), service) := by
  obtain ⟨⟨certificate, presented, certified⟩, required, configured, satisfied⟩ := vouched
  rw [← isData] at certified configured
  rw [sessionStart, Py.bind_of_ok (locked_of_left unlocked), if_neg Bool.false_ne_true, presented,
    Py.bind_of_ok (Py.ofExcept_apply _ _), Py.bind_of_ok (Py.read_apply _ _), certified,
    Py.bind_of_ok (Py.ofExcept_apply _ _), Py.bind_of_ok (configItem_eq_iff.mpr ⟨configured, rfl⟩),
    if_neg (fun refuses => satisfied refuses.1 refuses.2), Py.bind_of_ok (Py.read_apply _ _),
    isData]
  rfl

/-- The peer of a registered device is admitted. -/
theorem connect_admits {access : FileAccess} {config : ConfigState}
    (vouched : Vouched platform peer identity.toAdmission)
    (below : (item service.data "max_connections").map (Json.atLeast service.active) =
      .ok (some false))
    (reloaded : reloadIfChanged access service.config = (.ok (), config))
    (isData : config.config.data = identity.data) (unlocked : service.left .ip peer.ip = 0) :
    connect platform answers peer access service =
      ({ service with active := service.active + 1, config := config },
        .recvHello identity.toAdmission (some (service.time + msgTimeout))) := by
  have loads : reloadConfig access { service with active := service.active + 1 } =
      (.ok (), { service with active := service.active + 1, config := config }) := by
    rw [reloadConfig, Py.zoom_apply, reloaded]
  unfold connect
  simp only [below]
  apply finished_of_ok _ (by simp)
  rw [Py.bind_of_ok loads]
  exact sessionStart_admits vouched isData unlocked

/-- The device record a session has found out about is a complete one: its key loads, and the
challenges for it can be built. -/
structure Enrolled (platform : Platform Key) (peer : Peer) (identity : Identity) (targetId : PyStr)
    (key : Key) (ttl : Json) : Prop where
  traced : Traced platform peer identity
  looked : identity.lookupData = identity.data
  timed : item identity.data "challenge_ttl" = .ok ttl
  limit : IsLimit ttl
  target : item identity.data "target_id" = .ok (.str targetId)
  deviceMatches : idMatches identity.deviceId = true
  targetMatches : idMatches targetId = true
  loads : ∃ pem, item identity.device "public_key_pem" = .ok pem ∧ loadKey platform pem = .ok key

variable {targetId : PyStr} {key : Key} {ttl : Json}

theorem lookupDevice_finds (enrolled : Enrolled platform peer identity targetId key ttl)
    (isData : service.data = identity.data) :
    lookupDevice identity.toAdmission identity.deviceId service =
      (.ok (some identity.device, identity.lookupData), service) := by
  refine lookupDevice_eq_iff.mpr ⟨rfl, ?_⟩
  have identifier := enrolled.traced.identifier
  rcases enrolled.traced.source with ⟨named, looked⟩ | ⟨unnamed, found⟩
  · have nonempty : identity.device ≠ [] := by
      intro empty
      rw [empty] at identifier
      contradiction
    rw [named, Option.getD_some, if_pos nonempty, looked]
  · rw [if_neg (not_not_intro unnamed), isData, ← enrolled.looked, found]
    rfl

/-- The service when a challenge has been made pending and signed. -/
def challenged (kept : PyDict PyStr Pending) (nonce : PyStr) (entry : Pending) (message : Bytes)
    (service : UnlockService) : UnlockService :=
  { service with
    pending := kept.set nonce entry
    history := service.history ++ [.challenge nonce entry] ++ [.signed message]
    store := service.store ++ [.opened nonce entry] }

theorem issueChallenge_challenges {kept : PyDict PyStr Pending} {deviceId : PyStr}
    {target : Json} {message : Bytes} {signature : Text} (room : Room service kept)
    (configured : item service.data "target_id" = .ok target)
    (built : signedMessageFor (py "challenge") answers.nonce answers.issuedMs deviceId target =
      .ok message)
    (signs : answers.signature = .ok signature) :
    issueChallenge answers deviceId service =
      (.ok (.obj (challengeMessage answers.nonce answers.issuedMs target signature)),
        challenged kept answers.nonce ⟨deviceId, service.time, answers.issuedMs⟩ message
          service) := by
  have isTarget : ∀ pending history store,
      configItem "target_id" { service with
        pending := pending, history := history, store := store } =
          (.ok target, { service with
            pending := pending, history := history, store := store }) :=
    fun _ _ _ => configItem_eq_iff.mpr ⟨configured, rfl⟩
  rw [issueChallenge_of_room room, openChallenge, insertPending,
    Py.bind_of_ok (Py.modify_apply _ _), Py.bind_of_ok (isTarget _ _ _), built,
    Py.bind_of_ok (Py.ofExcept_apply _ _), sign, signs]
  rfl

/-- The hello of a registered device is answered with a challenge for it. -/
theorem hello_challenged (enrolled : Enrolled platform peer identity targetId key ttl)
    {raw : Text} {hello : Dict} {kept : PyDict PyStr Pending} {signature : Text}
    (session : ℕ) (deadline : Option ℚ)
    (parsed : Json.loads raw = some (.obj hello))
    (isHello : lookup (py "type") hello = some (.str (py "hello")))
    (names : lookup (py "device_id") hello = some (.str identity.deviceId))
    (isData : service.data = identity.data)
    (unlocked : service.left .device identity.deviceId = 0) (room : Room service kept)
    (isNonce : nonceMatches answers.nonce = true) (signs : answers.signature = .ok signature) :
    ∃ message, signedMessage (py "challenge") answers.nonce answers.issuedMs identity.deviceId
        targetId = .ok message ∧
      resume platform answers session peer (.recvHello identity.toAdmission deadline) (.text raw)
          service =
        some (challenged kept answers.nonce ⟨identity.deviceId, service.time, answers.issuedMs⟩
            message service,
          .sendChallenge identity (.obj
            (challengeMessage answers.nonce answers.issuedMs (.str targetId) signature))) := by
  obtain ⟨message, built⟩ := signedMessage_isOk_iff.mpr
    ⟨.inl rfl, isNonce, enrolled.deviceMatches, enrolled.targetMatches⟩
  refine ⟨message, built, ?_⟩
  have target : item service.data "target_id" = .ok (.str targetId) := isData ▸ enrolled.target
  have body : (do
      let message ← Py.ofExcept (.ok hello)
      afterHello platform answers peer identity.toAdmission message) service =
        (.ok (.sendChallenge identity
            (.obj (challengeMessage answers.nonce answers.issuedMs (.str targetId) signature))),
          challenged kept answers.nonce ⟨identity.deviceId, service.time, answers.issuedMs⟩ message
            service) := by
    rw [Py.bind_of_ok (Py.ofExcept_apply _ _)]
    simp only [afterHello, names, isHello, ne_eq, not_true_eq_false, if_false]
    rw [Py.bind_of_ok (lookupDevice_finds enrolled isData)]
    simp only [enrolled.traced.identifier]
    rw [Py.bind_of_ok (Py.ofExcept_apply _ _), if_neg (not_not_intro rfl), challengeDevice,
      Py.bind_of_ok (locked_of_left unlocked), if_neg Bool.false_ne_true,
      Py.bind_of_ok (issueChallenge_challenges room target built signs)]
    rfl
  have arrived : received (.text raw) = some (.ok hello) := by
    simp only [received, parsed]
  simp only [resume, sessionBody, arrived, Option.map_some, Option.some.injEq]
  exact finished_of_ok body (by simp)

theorem deadlineAfter_of_limit (limit : IsLimit ttl) (now extra : ℚ) :
    ∃ deadline, deadlineAfter now extra ttl = .ok deadline := by
  have compares := limit.compares 0
  unfold deadlineAfter
  unfold Json.exceeds at compares
  split
  · exact ⟨_, rfl⟩
  · exact ⟨_, rfl⟩
  · cases seconds : ttl.number with
    | some number => exact ⟨_, rfl⟩
    | none =>
        split at compares
        · simp_all
        · simp_all
        · simp [seconds] at compares

/-- A challenge that is sent is followed by a wait for the response. -/
theorem challenge_sent (enrolled : Enrolled platform peer identity targetId key ttl)
    (session : ℕ) (challenge : Json) (isData : service.data = identity.data) :
    ∃ deadline, resume platform answers session peer (.sendChallenge identity challenge)
      (.finished none) service = some (service, .recvResponse identity deadline) := by
  obtain ⟨deadline, ends⟩ := deadlineAfter_of_limit enrolled.limit service.time 2
  have timed : item service.data "challenge_ttl" = .ok ttl := isData ▸ enrolled.timed
  have body : (do
      sent none
      afterChallenge identity) service = (.ok (.recvResponse identity deadline), service) := by
    have isSent : sent none service = (.ok (), service) := rfl
    rw [Py.bind_of_ok isSent, afterChallenge,
      Py.bind_of_ok (configItem_eq_iff.mpr ⟨timed, rfl⟩), Py.bind_of_ok (Py.read_apply _ _), ends]
    rfl
  refine ⟨deadline, ?_⟩
  simp only [resume, sessionBody, Option.map_some, Option.some.injEq]
  exact finished_of_ok body (by simp)

/-- A challenge that has not expired accepts a response that verifies. -/
theorem checkResponse_accepts (enrolled : Enrolled platform peer identity targetId key ttl)
    {nonce : PyStr} {entry : Pending} {message : Bytes} {signature : Option Json}
    (isData : service.data = identity.data)
    (found : service.pending.get nonce = some entry) (own : entry.deviceId = identity.deviceId)
    (young : Json.exceeds (service.time - entry.issued) ttl = some false)
    (built : signedMessage (py "response") nonce entry.issuedMs identity.deviceId targetId =
      .ok message)
    (verified : verifySig platform.crypto key message signature = true) :
    checkResponse platform identity.device (some (.str nonce)) signature service =
      (.ok (.accepted nonce entry), popped nonce service) := by
  obtain ⟨_, isNonce, _⟩ := signedMessage_checked built
  obtain ⟨pem, hasPem, isKey⟩ := enrolled.loads
  have timed : configItem "challenge_ttl" (popped nonce service) =
      (.ok ttl, popped nonce service) :=
    configItem_eq_iff.mpr ⟨isData ▸ enrolled.timed, rfl⟩
  have target : configItem "target_id" (popped nonce service) =
      (.ok (.str targetId), popped nonce service) :=
    configItem_eq_iff.mpr ⟨isData ▸ enrolled.target, rfl⟩
  have isMessage : signedMessageFor (py "response") nonce entry.issuedMs entry.deviceId
      (.str targetId) = .ok message := by
    rw [own]
    exact built
  have isYoung : compared (Json.exceeds ((popped nonce service).time - entry.issued) ttl) =
      .ok false := by
    have same : (popped nonce service).time = service.time := rfl
    rw [same, young]
    rfl
  simp only [checkResponse, isNonce, Bool.true_eq_false, if_false]
  rw [Py.bind_of_ok (Py.read_apply _ _), Py.bind_of_ok (Py.modify_apply _ _), found]
  simp only [checkEntry]
  rw [enrolled.traced.identifier, Py.bind_of_ok (Py.ofExcept_apply _ _), own,
    if_neg (not_not_intro rfl), Py.bind_of_ok (Py.read_apply _ _), Py.bind_of_ok timed, isYoung,
    Py.bind_of_ok (Py.ofExcept_apply _ _), if_neg Bool.false_ne_true, Py.bind_of_ok target,
    ← own, isMessage, Py.bind_of_ok (Py.ofExcept_apply _ _), hasPem,
    Py.bind_of_ok (Py.ofExcept_apply _ _), isKey, Py.bind_of_ok (Py.ofExcept_apply _ _),
    if_pos verified]
  rfl

/-- An accepted response ends with the result that is sent, if its success can be recorded. -/
theorem succeed_returns {target : Json} (session : ℕ) (nonce : PyStr) (signature : Option Json)
    (entry : Pending) (configured : item service.data "target_id" = .ok target)
    (calm : (answers.disk service.audit.log.seq).1.raises = false) :
    ∃ after, succeed platform answers session peer identity nonce signature entry
      (popped nonce service) = (.ok .sendResult, after) := by
  have isTarget : configItem "target_id"
      (granted session peer identity nonce signature entry service) =
        (.ok target, granted session peer identity nonce signature entry service) :=
    configItem_eq_iff.mpr ⟨configured, rfl⟩
  have calmAfter : (answers.disk
      (granted session peer identity nonce signature entry service).audit.log.seq).1.raises =
        false := calm
  obtain ⟨written, final, recorded⟩ := record_returns platform calmAfter "unlock_authorized"
    (some "Unlock AUTHORIZED") "high" ["unlock"]
    [(py "ip", .str peer.ip), (py "device", .str identity.deviceId), (py "target", target)]
  unfold succeed
  rw [Py.bind_of_ok (Py.read_apply _ _), clearFailures, Py.bind_of_ok (Py.modify_apply _ _),
    issueGrant, Py.bind_of_ok (Py.modify_apply _ _)]
  rw [granted] at isTarget recorded
  exact ⟨_, (Py.bind_of_ok isTarget).trans (Py.bind_of_ok recorded)⟩

/-- A response that verifies is granted. -/
theorem response_granted (enrolled : Enrolled platform peer identity targetId key ttl)
    {raw : Text} {response : Dict} {nonce : PyStr} {entry : Pending} {message : Bytes}
    (session : ℕ) (deadline : Option ℚ)
    (parsed : Json.loads raw = some (.obj response))
    (isResponse : lookup (py "type") response = some (.str (py "response")))
    (names : lookup (py "nonce") response = some (.str nonce))
    (isData : service.data = identity.data)
    (found : service.pending.get nonce = some entry) (own : entry.deviceId = identity.deviceId)
    (young : Json.exceeds (service.time - entry.issued) ttl = some false)
    (built : signedMessage (py "response") nonce entry.issuedMs identity.deviceId targetId =
      .ok message)
    (verified : verifySig platform.crypto key message (lookup (py "signature") response) = true)
    (calm : (answers.disk service.audit.log.seq).1.raises = false) :
    ∃ after, resume platform answers session peer (.recvResponse identity deadline) (.text raw)
        service = some (after, .sendResult) ∧
      after.broker = service.broker.issue service.time ∧
      .grant session (grantFor peer identity nonce (lookup (py "signature") response) entry
        (popped nonce service)) ∈ after.history := by
  have accepted := checkResponse_accepts enrolled isData found own young built verified
  have returns : ∃ after, succeed platform answers session peer identity nonce
      (lookup (py "signature") response) entry (popped nonce service) = (.ok .sendResult, after) :=
    succeed_returns session nonce _ entry (isData ▸ enrolled.target) calm
  obtain ⟨after, succeeded⟩ := returns
  have checked := (checkResponse_accepted accepted).2.2
  obtain ⟨recorded, issues, _⟩ := succeed_issues found checked succeeded
  have body : (do
      let message ← Py.ofExcept (.ok response)
      afterResponse platform answers session peer identity message) service =
        (.ok .sendResult, after) := by
    rw [Py.bind_of_ok (Py.ofExcept_apply _ _)]
    simp only [afterResponse, isResponse, ne_eq, not_true_eq_false, if_false, names]
    rw [Py.bind_of_ok accepted]
    exact succeeded
  have arrived : received (.text raw) = some (.ok response) := by
    simp only [received, parsed]
  refine ⟨after, ?_, issues.broker, ?_⟩
  · simp only [resume, sessionBody, arrived, Option.map_some, Option.some.injEq]
    exact finished_of_ok body (by simp)
  · rw [issues.history]
    exact List.mem_append_right _ List.mem_cons_self

/-- A result that is sent ends the session. -/
theorem result_sent (session : ℕ) :
    resume platform answers session peer .sendResult (.finished none) service =
      some ({ service with active := service.active - 1 }, .done) := rfl

end Course

/-! ## While others go on -/

section Others

variable {own : LockKind → PyStr → Bool} {ttl : Json}

/-- A challenge of one of the devices is pending until it expires. -/
def Held (own : LockKind → PyStr → Bool) (ttl : Json) (nonce : PyStr) (entry : Pending)
    (service : UnlockService) : Prop :=
  Live own ttl service.time entry → service.pending.get nonce = some entry

/-- The label is about time or the configuration file, or about others that keep to what is
asked of them. -/
def World.Aside (own : LockKind → PyStr → Bool) (ttl : Json) (world : World platform) :
    Label → Prop
  | .tick _ => True
  | .change _ => True
  | label => world.concerns own label = false ∧ world.Considerate own ttl label

/-- The sessions from the addresses stand where they stood, with the same configuration, and
their devices have lost nothing they had. -/
structure LeftAlone (own : LockKind → PyStr → Bool) (ttl : Json) (before after : World platform) :
    Prop where
  views : ∀ session, after.view own session = before.view own session
  data : after.service.data = before.service.data
  unlocked : ∀ kind key, own kind key = true → before.service.left kind key = 0 →
    after.service.left kind key = 0
  held : ∀ nonce entry, Held own ttl nonce entry before.service →
    Held own ttl nonce entry after.service
  history : before.service.history <+: after.service.history

theorem TwinWorlds.leftAlone {before after : World platform}
    (twins : TwinWorlds own ttl after before)
    (history : before.service.history <+: after.service.history) :
    LeftAlone own ttl before after where
  views := twins.views
  data := twins.services.data
  unlocked _ _ isOwn unlocked := (twins.services.left_eq isOwn).trans unlocked
  held nonce entry held live :=
    (twins.services.pending nonce entry live).mpr (held (twins.services.time ▸ live))
  history := history

theorem Live.earlier (limit : IsLimit ttl) {now later : ℚ} (order : now ≤ later) {entry : Pending}
    (live : Live own ttl later entry) : Live own ttl now entry := by
  refine ⟨live.1, (exceeds_eq_false_iff limit.ordered).mpr ?_⟩
  exact atMost_of_le (sub_le_sub_right order entry.issued)
    ((exceeds_eq_false_iff limit.ordered).mp live.2)

/-- A step aside disturbs nothing. -/
theorem step_aside (limit : IsLimit ttl) {world : World platform} {label : Label}
    (aside : world.Aside own ttl label) : LeftAlone own ttl world (step world label) := by
  have history := (step_cases world label).history
  have others : world.concerns own label = false ∧ world.Considerate own ttl label →
      LeftAlone own ttl world (step world label) := by
    rintro ⟨foreign, considerate⟩
    have same : TwinWorlds own ttl world world := ⟨Twins.refl own ttl _, fun _ => rfl⟩
    exact ((step_cases world label).avoided limit considerate foreign same).leftAlone history
  cases label with
  | tick duration =>
      have later := time_le_elapsed duration world.service
      refine ⟨fun _ => rfl, rfl, ?_, ?_, history⟩
      · intro kind key _ unlocked
        have shorter := (world.service.backoff kind).remaining_antitone later key
        exact le_antisymm (shorter.trans unlocked.le) (Backoff.remaining_nonneg _ _ _)
      · exact fun nonce entry held live => held (live.earlier limit later)
  | change change =>
      exact ⟨fun _ => rfl, rfl, fun _ _ _ unlocked => unlocked, fun _ _ held => held, history⟩
  | hangUp request => exact others aside
  | connect session peer access answers => exact others aside
  | resume session awaited answers => exact others aside
  | pamConnect request credentials answers => exact others aside
  | pamResume request awaited answers => exact others aside

end Others

/-! ## Steps of the session -/

/-- A step of a waiting session goes on as its code does. -/
theorem step_resume_of_ran {world : World platform} {session : ℕ} {current : Session platform}
    {awaited : Awaited} {answers : Answers} {service : UnlockService} {next : Place}
    (found : world.sessions session = some current)
    (allowed : possible world.service.time current.place awaited = true)
    (ran : resume platform answers session current.peer current.place awaited world.service =
      some (service, next)) :
    ∃ known account, step world (.resume session awaited answers) =
      (world.reach service).setSession session ⟨current.peer, next, known, account⟩ := by
  rcases step_resume found awaited answers with ⟨_, impossible | stopped⟩ |
    ⟨_, other, place, known, goes, stepped⟩
  · rw [allowed] at impossible
    contradiction
  · rw [ran] at stopped
    contradiction
  · rw [ran, Option.some.injEq, Prod.mk.injEq] at goes
    obtain ⟨rfl, rfl⟩ := goes
    exact ⟨known, _, stepped⟩

end RemoteUnlock.Listener
