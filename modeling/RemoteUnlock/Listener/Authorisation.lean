import RemoteUnlock.Library.Matching
import RemoteUnlock.Listener.World

/-!
# Authorisation is sound

Every pending challenge has the latest event about its nonce as its origin, so every
grant maps to the challenge it used up, and two grants never to the same one.  What a
grant is issued for was checked against the configurations the service had loaded.
-/

namespace RemoteUnlock.Listener

open Python Python.Items Common Audit Library

variable {Key : Type} {platform : Platform Key}

/-! ## What a step does to challenges and grants -/

/-- A configuration the service has worked with at the places a session has passed. -/
def Dated (loaded : List Dict) : Place → Prop
  | .recvHello admission _ => admission.data ∈ loaded
  | .sendChallenge identity _ => identity.data ∈ loaded ∧ identity.lookupData ∈ loaded
  | .recvResponse identity _ => identity.data ∈ loaded ∧ identity.lookupData ∈ loaded
  | _ => True

theorem Dated.mono {loaded later : List Dict} (subset : loaded ⊆ later) {place : Place}
    (dated : Dated loaded place) : Dated later place := by
  cases place with
  | recvHello => exact subset dated
  | sendChallenge => exact ⟨subset dated.1, subset dated.2⟩
  | recvResponse => exact ⟨subset dated.1, subset dated.2⟩
  | _ => trivial

theorem Resting.dated {next : Place} (resting : Resting (.ok next)) (loaded : List Dict) :
    Dated loaded next := by
  cases next with
  | recvHello => exact resting.elim
  | sendChallenge => exact resting.elim
  | recvResponse => exact resting.elim
  | _ => trivial

theorem ConnectEffect.dated {peer : Peer} {before after : UnlockService} {next : Place}
    (effect : ConnectEffect platform peer before after (.ok next)) (loaded : List Dict) :
    Dated (loaded ++ [after.data]) next := by
  cases effect with
  | quiet _ resting => exact resting.dated _
  | hello admitted => simp [Dated, admitted.data]

theorem connect_dated {answers : Answers} {peer : Peer} {access : FileAccess} {next : Place}
    {before after : UnlockService}
    (ran : connect platform answers peer access before = (after, next)) (loaded : List Dict) :
    Dated (loaded ++ [after.data]) next := by
  rcases connect_effect ran with ⟨_, resting⟩ | effect
  · exact resting.dated _
  · exact effect.dated loaded

theorem SessionEffect.dated {session : ℕ} {peer : Peer} {answers : Answers} {awaited : Awaited}
    {before after : UnlockService} {place next : Place} {loaded : List Dict}
    (effect : SessionEffect platform session peer answers awaited before place after (.ok next))
    (known : Known platform peer place) (dated : Dated loaded place) :
    Dated (loaded ++ [after.data]) next := by
  have subset : loaded ⊆ loaded ++ [after.data] := List.subset_append_left _ _
  cases effect with
  | quiet _ resting => exact resting.dated _
  | challenge identity challenge signed admitted identified opens =>
      subst admitted
      refine ⟨subset dated, ?_⟩
      rcases identified.source with ⟨_, same⟩ | ⟨_, same, _⟩
      · rw [same]
        exact subset dated
      · simp [same, UnlockService.data, opens.config]
  | unsent _ _ resting => exact resting.dated _
  | await => exact Dated.mono subset dated
  | grant _ _ _ _ _ _ _ resting => exact resting.dated _

/-- Every session is dated. -/
def World.AllDated (world : World platform) : Prop :=
  ∀ session current, world.sessions session = some current → Dated world.loaded current.place

theorem World.AllDated.reach {world : World platform} (dated : world.AllDated)
    (service : UnlockService) : (world.reach service).AllDated :=
  fun session current found =>
    Dated.mono (List.subset_append_left _ _) (dated session current found)

theorem World.AllDated.setSession {world : World platform} (dated : world.AllDated)
    {session : ℕ} {current : Session platform} (fresh : Dated world.loaded current.place) :
    (world.setSession session current).AllDated := by
  intro other found isFound
  rw [World.sessions_setSession] at isFound
  split at isFound
  · rw [Option.some.injEq] at isFound
    exact isFound ▸ fresh
  · exact dated other found isFound

theorem StepCase.allDated {before after : World platform} {label : Label}
    (moved : StepCase before label after) (dated : before.AllDated) : after.AllDated := by
  cases moved with
  | idle => exact dated
  | tick => exact dated.reach _
  | change => exact dated.reach _
  | hangUp => exact dated.reach _
  | connect session peer access answers service next known account fresh ran =>
      exact (dated.reach service).setSession (connect_dated ran before.loaded)
  | resume session awaited answers current service next known account found allowed ran =>
      exact (dated.reach service).setSession
        ((resume_effect ran).dated current.known (dated session current found))
  | pamConnect => exact dated.reach _
  | pamResume => exact dated.reach _

/-- The nonce an event makes pending. -/
def opensNonce : Event → Option PyStr
  | .challenge nonce _ => some nonce
  | _ => none

/-- The nonce a grant uses up. -/
def closesNonce : Event → Option PyStr
  | .grant _ grant => some grant.nonce
  | _ => none

/-- Events of which no challenge and no grant are. -/
def Silent (events : List Event) : Prop :=
  ∀ event ∈ events, opensNonce event = none ∧ closesNonce event = none

/-- What a step does to the challenges and grants of a service. -/
inductive Progress (platform : Platform Key) (loaded : List Dict) (before after : UnlockService) :
    Prop where
  | silent (events : List Event) (silent : Silent events) (time : before.now ≤ after.now)
      (history : after.history = before.history ++ events)
      (pending : ∀ nonce entry, after.pending.get nonce = some entry →
        before.pending.get nonce = some entry) : Progress platform loaded before after
  | opens (nonce : PyStr) (deviceId : PyStr) (issuedMs : ℤ) (signed : Option Bytes)
      (opens : Opens nonce ⟨deviceId, before.time, issuedMs⟩ signed before after) :
      Progress platform loaded before after
  | grants (session : ℕ) (peer : Peer) (identity : Identity) (nonce : PyStr)
      (signature : Option Json) (entry : Pending) (recorded : Bool)
      (traced : Traced platform peer identity)
      (dated : identity.data ∈ loaded ∧ identity.lookupData ∈ loaded)
      (issues : Issues platform session peer identity nonce signature entry recorded
        before after) : Progress platform loaded before after

theorem Steady.progress {before after : UnlockService} (steady : Steady before after)
    (platform : Platform Key) (loaded : List Dict) : Progress platform loaded before after :=
  .silent [] (by simp [Silent]) steady.now.ge (by simp [steady.history]) steady.pending

theorem SessionEffect.progress {session : ℕ} {peer : Peer} {answers : Answers}
    {awaited : Awaited} {before after : UnlockService} {place : Place}
    {next : Except PyExc Place} {loaded : List Dict}
    (effect : SessionEffect platform session peer answers awaited before place after next)
    (known : Known platform peer place) (dated : Dated loaded place) :
    Progress platform loaded before after := by
  cases effect with
  | quiet calm => exact calm.steady.progress platform loaded
  | challenge identity challenge signed admitted identified opens =>
      exact .opens _ _ _ signed opens
  | unsent deviceId opens => exact .opens _ _ _ none opens
  | await => exact (Quiet.refl _).steady.progress platform loaded
  | grant nonce signature entry recorded accepts issues =>
      exact .grants session peer _ nonce signature entry recorded known dated issues

theorem PamEffect.progress {request : ℕ} {datas : List Dict} {before after : UnlockService}
    {loaded : List Dict} (effect : PamEffect request datas before after) :
    Progress platform loaded before after := by
  cases effect with
  | spares middle events spared silent final =>
      subst final
      refine .silent events ?_ spared.now.ge ?_ spared.pending
      · rcases silent with rfl | rfl <;> simp [Silent, opensNonce, closesNonce]
      · simp [said, spared.history]
  | takes middle events taking takes cleared dated replies final =>
      subst final
      refine .silent (.taken request taking :: events) ?_ takes.now.ge ?_ takes.pending
      · rcases replies with rfl | rfl | rfl <;> simp [Silent, opensNonce, closesNonce]
      · simp [said, takes.history]

theorem StepCase.progress {before after : World platform} {label : Label}
    (moved : StepCase before label after) (dated : before.AllDated) :
    Progress platform before.loaded before.service after.service := by
  cases moved with
  | idle => exact (Quiet.refl _).steady.progress platform _
  | tick duration =>
      refine .silent [] (by simp [Silent]) ?_ (by simp [World.reach, elapsed])
        fun _ _ found => found
      exact le_add_of_nonneg_right duration.2
  | change =>
      exact .silent [] (by simp [Silent]) (le_refl _) (by simp [World.reach, fileChanged])
        fun _ _ found => found
  | hangUp request =>
      exact .silent [.hungUp request] (by simp [Silent, opensNonce, closesNonce]) (le_refl _) rfl
        fun _ _ found => found
  | connect session peer access answers service next known account fresh ran =>
      exact (connect_steady ran).progress platform _
  | resume session awaited answers current service next known account found allowed ran =>
      exact (resume_effect ran).progress current.known (dated session current found)
  | pamConnect request credentials answers service next passed fresh ran =>
      exact (pamConnect_effect ran).1.progress
  | pamResume request awaited answers current service next passed found allowed ran =>
      exact (pamResume_effect current.passed ran).1.progress

/-! ## Sound grants -/

/-- What a grant was issued for, checked against configurations the service had loaded. -/
structure Sound (platform : Platform Key) (loaded : List Dict) (grant : Grant) : Prop where
  device : grant.entry.deviceId = grant.identity.deviceId
  issued : grant.entry.issued ≤ grant.time
  inTime : ∃ ttl, item grant.data "challenge_ttl" = .ok ttl ∧
    Json.exceeds (grant.time - grant.entry.issued) ttl = some false ∧
    ∀ limit, ttl.number = some limit → grant.time - grant.entry.issued ≤ limit
  used : grant.pending.get grant.nonce = none
  verified : ∃ target message pem key, item grant.data "target_id" = .ok (.str target) ∧
    signedMessage (py "response") grant.nonce grant.entry.issuedMs grant.identity.deviceId
      target = .ok message ∧
    item grant.identity.device "public_key_pem" = .ok pem ∧ loadKey platform pem = .ok key ∧
    verifySig platform.crypto key message grant.signature = true
  enabled : EnabledIn grant.identity.lookupData grant.identity.device
  identifier : item grant.identity.device "id" = .ok (.str grant.identity.deviceId)
  certified : ∃ required, item grant.identity.data "require_mtls" = .ok required ∧
    (required.truthy = true → ∃ der, grant.peer.certificate = .ok (some der) ∧
      lookup (py "cert_sha256") grant.identity.device =
        some (.str (ofText (platform.sha.hexdigest der))))
  loaded : grant.data ∈ loaded ∧ grant.identity.data ∈ loaded ∧
    grant.identity.lookupData ∈ loaded

theorem Sound.mono {loaded later : List Dict} (subset : loaded ⊆ later) {grant : Grant}
    (sound : Sound platform loaded grant) : Sound platform later grant :=
  { sound with
    loaded := ⟨subset sound.loaded.1, subset sound.loaded.2.1, subset sound.loaded.2.2⟩ }

theorem certDevice_eq_some {data : Dict} {certificate : Option Bytes} {device : Dict}
    (found : certDevice platform data certificate = .ok (some device)) :
    ∃ der, certificate = some der ∧
      deviceByFp data (ofText (platform.sha.hexdigest der)) = .ok (some device) := by
  unfold certDevice at found
  split at found
  next first rest => exact ⟨first :: rest, rfl, found⟩
  · simp at found

/-- The record of a traced identity was enabled where it was looked up. -/
theorem Traced.enabled {peer : Peer} {identity : Identity}
    (traced : Traced platform peer identity) :
    EnabledIn identity.lookupData identity.device := by
  rcases traced.source with ⟨named, same⟩ | ⟨_, found⟩
  · rcases traced.vouched.certificate with ⟨certificate, _, named'⟩
    rw [named] at named'
    rcases certDevice_eq_some named' with ⟨der, _, found⟩
    rw [same]
    exact (deviceByFp_spec found).1
  · exact (deviceById_spec found).1

/-- Where a certificate was required, it is the one the record pins. -/
theorem Traced.certified {peer : Peer} {identity : Identity}
    (traced : Traced platform peer identity) :
    ∃ required, item identity.data "require_mtls" = .ok required ∧
      (required.truthy = true → ∃ der, peer.certificate = .ok (some der) ∧
        lookup (py "cert_sha256") identity.device =
          some (.str (ofText (platform.sha.hexdigest der)))) := by
  rcases traced.vouched.required with ⟨required, configured, admits⟩
  refine ⟨required, configured, ?_⟩
  intro isRequired
  rcases traced.vouched.certificate with ⟨certificate, presented, named⟩
  cases pinned : identity.certDevice with
  | none => exact (admits isRequired pinned).elim
  | some device =>
      rw [pinned] at named
      rcases certDevice_eq_some named with ⟨der, rfl, found⟩
      have field := (deviceByFp_spec found).2
      refine ⟨der, presented, ?_⟩
      rcases traced.source with ⟨same, _⟩ | ⟨unnamed, _⟩
      · rw [pinned, Option.some.injEq] at same
        rwa [← same]
      · rw [pinned, Option.getD_some] at unnamed
        rw [unnamed] at field
        contradiction

theorem signedMessageFor_eq_ok {role nonce deviceId : PyStr} {issuedMs : ℤ} {target : Json}
    {message : Bytes} (built : signedMessageFor role nonce issuedMs deviceId target = .ok message) :
    ∃ targetId, target = .str targetId ∧
      signedMessage role nonce issuedMs deviceId targetId = .ok message := by
  unfold signedMessageFor at built
  split at built
  next targetId => exact ⟨targetId, rfl, built⟩
  · split at built <;> contradiction

theorem Issues.sound {session : ℕ} {peer : Peer} {identity : Identity} {nonce : PyStr}
    {signature : Option Json} {entry : Pending} {recorded : Bool}
    {before after : UnlockService} {loaded : List Dict}
    (issues : Issues platform session peer identity nonce signature entry recorded before after)
    (traced : Traced platform peer identity)
    (dated : identity.data ∈ loaded ∧ identity.lookupData ∈ loaded)
    (issued : entry.issued ≤ before.time) (current : before.data ∈ loaded) :
    Sound platform loaded
      (grantFor peer identity nonce signature entry (Listener.popped nonce before)) := by
  have checked := issues.checked
  have same : identity.deviceId = entry.deviceId := by
    have identifier := checked.identifier
    rw [traced.identifier, Except.ok.injEq, Json.str.injEq] at identifier
    exact identifier
  refine ⟨same.symm, issued, ?_, ?_, ?_, traced.enabled, traced.identifier, traced.certified,
    current, dated⟩
  · rcases checked.inTime with ⟨ttl, configured, inTime⟩
    refine ⟨ttl, configured, inTime, ?_⟩
    intro limit isNumber
    rw [Json.exceeds_of_number isNumber, Option.some.injEq, decide_eq_false_iff_not] at inTime
    exact not_lt.mp inTime
  · exact (PyDict.get_pop _ _ _).trans (if_pos rfl)
  · rcases checked.verified with ⟨target, message, pem, key, configured, built, hasPem, isKey,
      verified⟩
    rcases signedMessageFor_eq_ok built with ⟨targetId, rfl, isMessage⟩
    exact ⟨targetId, message, pem, key, configured, same ▸ isMessage, hasPem, isKey, verified⟩

/-! ## The invariant -/

/-- A challenge and a grant that used it up. -/
def Warranted (platform : Platform Key) (loaded : List Dict) (origin event : Event) : Prop :=
  ∃ session grant, origin = .challenge grant.nonce grant.entry ∧ event = .grant session grant ∧
    Sound platform loaded grant

/-- Every pending challenge stands open in the history, and every grant is warranted. -/
structure Warrants (platform : Platform Key) (loaded : List Dict) (service : UnlockService) :
    Prop where
  current : service.data ∈ loaded
  issued : ∀ nonce entry, service.pending.get nonce = some entry → entry.issued ≤ service.time
  opened : ∀ nonce entry, service.pending.get nonce = some entry →
    LatestOpen opensNonce closesNonce nonce (.challenge nonce entry) service.history
  matched : Matched opensNonce closesNonce (Warranted platform loaded) service.history

theorem Warrants.mono {loaded later : List Dict} {service : UnlockService}
    (warrants : Warrants platform loaded service) (subset : loaded ⊆ later) :
    Warrants platform later service where
  current := subset warrants.current
  issued := warrants.issued
  opened := warrants.opened
  matched := warrants.matched.imp fun _ _ ⟨session, grant, opening, closing, sound⟩ =>
    ⟨session, grant, opening, closing, sound.mono subset⟩

theorem Warrants.silent {loaded : List Dict} {before after : UnlockService}
    (warrants : Warrants platform loaded before) (current : after.data ∈ loaded)
    {events : List Event} (silent : Silent events) (time : before.now ≤ after.now)
    (history : after.history = before.history ++ events)
    (pending : ∀ nonce entry, after.pending.get nonce = some entry →
      before.pending.get nonce = some entry) : Warrants platform loaded after := by
  refine ⟨current, ?_, ?_, ?_⟩
  · intro nonce entry found
    exact (warrants.issued nonce entry (pending nonce entry found)).trans (time_le_time time)
  · intro nonce entry found
    rw [history]
    apply (warrants.opened nonce entry (pending nonce entry found)).append
    intro event membership
    simp [silent event membership]
  · rw [history]
    exact warrants.matched.append fun event membership => (silent event membership).2

/-- A new challenge is the latest with its nonce, and there is no grant for it yet. -/
theorem Warrants.opens {loaded : List Dict} {before after : UnlockService}
    (warrants : Warrants platform loaded before) (current : after.data ∈ loaded)
    {nonce deviceId : PyStr} {issuedMs : ℤ} {signed : Option Bytes}
    (opens : Opens nonce ⟨deviceId, before.time, issuedMs⟩ signed before after) :
    Warrants platform loaded after := by
  have silentSigned : ∀ event ∈ (signed.map Event.signed).toList,
      opensNonce event = none ∧ closesNonce event = none := by
    cases signed <;> simp [opensNonce, closesNonce]
  have time : after.time = before.time := time_of_now opens.now
  have history : after.history = (before.history ++
      [.challenge nonce ⟨deviceId, before.time, issuedMs⟩]) ++
        (signed.map Event.signed).toList := by
    rw [opens.history, List.append_assoc, List.singleton_append]
  refine ⟨current, ?_, ?_, ?_⟩
  · intro other entry found
    have old := opens.pending other entry found
    split at old
    · rw [old, time]
    · exact time ▸ warrants.issued other entry old
  · intro other entry found
    have old := opens.pending other entry found
    rw [history]
    apply LatestOpen.append
    · split at old
      next same =>
        rw [old, same]
        have opening : opensNonce (.challenge nonce ⟨deviceId, before.time, issuedMs⟩) =
            some nonce := rfl
        exact LatestOpen.of_opens opening _
      next different =>
        apply (warrants.opened other entry old).append
        simp [opensNonce, closesNonce, Ne.symm different]
    · intro event membership
      simp [silentSigned event membership]
  · rw [history]
    refine Matched.append (warrants.matched.append ?_) fun event membership =>
      (silentSigned event membership).2
    simp [closesNonce]

/-- A grant uses up the challenge that stands open under its nonce. -/
theorem Warrants.grants {loaded : List Dict} {before after : UnlockService}
    (warrants : Warrants platform loaded before) (current : after.data ∈ loaded) {session : ℕ}
    {peer : Peer} {identity : Identity} {nonce : PyStr} {signature : Option Json}
    {entry : Pending} {recorded : Bool} (traced : Traced platform peer identity)
    (dated : identity.data ∈ loaded ∧ identity.lookupData ∈ loaded)
    (issues : Issues platform session peer identity nonce signature entry recorded before after) :
    Warrants platform loaded after := by
  have time : after.time = before.time := time_of_now issues.now
  have silentRecord : ∀ event ∈ (if recorded then [Event.authorized session] else []),
      opensNonce event = none ∧ closesNonce event = none := by
    cases recorded <;> simp [opensNonce, closesNonce]
  have issued := warrants.issued nonce entry issues.popped
  have sound := issues.sound traced dated issued warrants.current
  have history : after.history = (before.history ++ [.grant session
      (grantFor peer identity nonce signature entry (popped nonce before))]) ++
        (if recorded then [.authorized session] else []) := by
    rw [issues.history, List.append_assoc, List.singleton_append]
  refine ⟨current, ?_, ?_, ?_⟩
  · intro other found there
    exact time ▸ warrants.issued other found (issues.pending other found there).2
  · intro other found there
    rcases issues.pending other found there with ⟨different, old⟩
    rw [history]
    apply LatestOpen.append
    · apply (warrants.opened other found old).append
      simp [opensNonce, closesNonce, grantFor, Ne.symm different]
    · intro event membership
      simp [silentRecord event membership]
  · rw [history]
    refine Matched.append (warrants.matched.append_singleton ?_) fun event membership =>
      (silentRecord event membership).2
    intro key closing
    rw [closesNonce, Option.some.injEq] at closing
    subst closing
    exact ⟨.challenge nonce entry, warrants.opened nonce entry issues.popped, session, _, rfl,
      rfl, sound⟩

theorem Progress.warrants {loaded later : List Dict} {before after : UnlockService}
    (progress : Progress platform loaded before after) (subset : loaded ⊆ later)
    (current : after.data ∈ later) (warrants : Warrants platform loaded before) :
    Warrants platform later after := by
  have wider := warrants.mono subset
  cases progress with
  | silent events silent time history pending =>
      exact wider.silent current silent time history pending
  | opens nonce deviceId issuedMs signed opens => exact wider.opens current opens
  | grants session peer identity nonce signature entry recorded traced dated issues =>
      exact wider.grants current traced ⟨subset dated.1, subset dated.2⟩ issues

/-- The sessions are dated and the grants warranted. -/
def World.Authorised (world : World platform) : Prop :=
  world.AllDated ∧ Warrants platform world.loaded world.service

theorem step_authorised (world : World platform) (label : Label)
    (authorised : world.Authorised) : (step world label).Authorised := by
  have moved := step_cases world label
  exact ⟨moved.allDated authorised.1, (moved.progress authorised.1).warrants moved.loaded
    (moved.current authorised.2.current) authorised.2⟩

theorem start_authorised (platform : Platform Key) (setup : Setup) :
    (World.start platform setup).Authorised := by
  rcases setup.service_eq with ⟨threshold, base, maximum, ttl, _, same⟩
  refine ⟨fun session current found => by contradiction, List.mem_singleton_self _, ?_, ?_, ?_⟩
  · simp [World.start, same]
  · simp [World.start, same]
  · simp [World.start, same]

theorem after_authorised (platform : Platform Key) (setup : Setup) (labels : List Label) :
    (World.after platform setup labels).Authorised :=
  run_invariant step_authorised (start_authorised platform setup) labels

/-- The grants map to earlier challenges, no two of them to the same one. -/
theorem Warrants.origin {loaded : List Dict} {service : UnlockService}
    (warrants : Warrants platform loaded service) :
    ∃ origin : ℕ → ℕ,
      (∀ (position session : ℕ) (grant : Grant),
        service.history[position]? = some (.grant session grant) →
        origin position < position ∧
          service.history[origin position]? = some (.challenge grant.nonce grant.entry) ∧
          Sound platform loaded grant) ∧
      ∀ (first second firstSession secondSession : ℕ) (firstGrant secondGrant : Grant),
        service.history[first]? = some (.grant firstSession firstGrant) →
        service.history[second]? = some (.grant secondSession secondGrant) →
        origin first = origin second → first = second := by
  obtain ⟨origin, warranted, injective⟩ := warrants.matched.injection
  refine ⟨origin, ?_, ?_⟩
  · intro position session grant found
    obtain ⟨earlier, opening, inHistory, _, otherSession, other, rfl, same, sound⟩ :=
      warranted position _ grant.nonce found rfl
    rw [Event.grant.injEq] at same
    obtain ⟨_, rfl⟩ := same
    exact ⟨earlier, inHistory, sound⟩
  · intro first second firstSession secondSession firstGrant secondGrant firstFound secondFound
    exact injective first second _ _ firstGrant.nonce secondGrant.nonce firstFound rfl
      secondFound rfl

/-! ## The session of a grant -/

/-- The session connects from this peer. -/
def Connecting (session : ℕ) (peer : Peer) (world : World platform) (label : Label) : Prop :=
  world.sessions session = none ∧ ∃ access answers, label = .connect session peer access answers

/-- The session, which waits for it, gets a hello that names this device. -/
def Greeting (session : ℕ) (deviceId : PyStr) (world : World platform) (label : Label) : Prop :=
  ∃ current admission deadline awaited answers, world.sessions session = some current ∧
    current.place = .recvHello admission deadline ∧ label = .resume session awaited answers ∧
    Greets awaited deviceId

/-- The session, which waits for it, gets the response the grant is issued for. -/
def Responding (session : ℕ) (grant : Grant) (world : World platform) (label : Label) : Prop :=
  ∃ current identity deadline awaited answers response, world.sessions session = some current ∧
    current.place = .recvResponse identity deadline ∧ label = .resume session awaited answers ∧
    received awaited = some (.ok response) ∧
    lookup (py "type") response = some (.str (py "response")) ∧
    lookup (py "nonce") response = some (.str grant.nonce) ∧
    lookup (py "signature") response = grant.signature

/-- The device a session has been greeted for where it waits. -/
def Place.greeted : Place → Option PyStr
  | .sendChallenge identity _ => some identity.deviceId
  | .recvResponse identity _ => some identity.deviceId
  | _ => none

theorem Resting.greeted {next : Place} (resting : Resting (.ok next)) : next.greeted = none := by
  cases next with
  | sendChallenge => exact resting.elim
  | recvResponse => exact resting.elim
  | _ => rfl

/-- In a run a session has connected from its peer, and its hello named its device. -/
structure Heard (platform : Platform Key) (setup : Setup) (labels : List Label) (session : ℕ)
    (peer : Peer) (device : Option PyStr) : Prop where
  connected : Sometime step (Connecting session peer) (World.start platform setup) labels
  greeted : ∀ deviceId ∈ device,
    Sometime step (Greeting session deviceId) (World.start platform setup) labels

/-- The labels of a run in which the session of a grant has got to it. -/
structure Unlocking (platform : Platform Key) (setup : Setup) (labels : List Label) (session : ℕ)
    (grant : Grant) : Prop where
  heard : Heard platform setup labels session grant.peer (some grant.identity.deviceId)
  responded : Sometime step (Responding session grant) (World.start platform setup) labels

section Heard

variable {setup : Setup} {labels : List Label} {label : Label} {session : ℕ}

theorem Heard.snoc {peer : Peer} {device : Option PyStr}
    (heard : Heard platform setup labels session peer device) :
    Heard platform setup (labels ++ [label]) session peer device :=
  ⟨sometime_snoc.mpr (.inl heard.connected),
    fun deviceId isDevice => sometime_snoc.mpr (.inl (heard.greeted deviceId isDevice))⟩

theorem Heard.resting {peer : Peer} {device : Option PyStr} {next : Place}
    (heard : Heard platform setup labels session peer device) (resting : Resting (.ok next)) :
    Heard platform setup labels session peer next.greeted := by
  refine ⟨heard.connected, fun deviceId isDevice => ?_⟩
  rw [resting.greeted] at isDevice
  contradiction

/-- What a session has heard of where it waits. -/
theorem SessionEffect.heard {peer : Peer} {answers : Answers} {awaited : Awaited}
    {before after : UnlockService} {place next : Place}
    (effect : SessionEffect platform session peer answers awaited before place after (.ok next))
    (heard : Heard platform setup labels session peer place.greeted)
    (greeting : ∀ admission deadline deviceId, place = .recvHello admission deadline →
      Greets awaited deviceId →
      Sometime step (Greeting session deviceId) (World.start platform setup) labels) :
    Heard platform setup labels session peer next.greeted := by
  cases effect with
  | quiet _ resting => exact heard.resting resting
  | challenge identity challenge signed admitted identified opens message locks greets =>
      refine ⟨heard.connected, ?_⟩
      rintro deviceId ⟨⟩
      exact greeting _ _ _ rfl greets
  | unsent _ _ resting => exact heard.resting resting
  | await => exact heard
  | grant _ _ _ _ _ _ _ resting => exact heard.resting resting

end Heard

/-- The sessions and the grants of a world come from the labels of its run. -/
structure World.Documented (setup : Setup) (labels : List Label) (world : World platform) :
    Prop where
  sessions : ∀ session current, world.sessions session = some current →
    Heard platform setup labels session current.peer current.place.greeted
  grants : ∀ session grant, .grant session grant ∈ world.service.history →
    Unlocking platform setup labels session grant

theorem World.Documented.others {setup : Setup} {labels : List Label} {label : Label}
    {before after : World platform} (documented : before.Documented setup labels)
    {acting : ℕ} {current : Session platform}
    (sessions : after.sessions = Function.update before.sessions acting (some current))
    (heard : Heard platform setup (labels ++ [label]) acting current.peer
      current.place.greeted) :
    ∀ session found, after.sessions session = some found →
      Heard platform setup (labels ++ [label]) session found.peer found.place.greeted := by
  intro session found isFound
  rw [sessions, Function.update_apply] at isFound
  split at isFound
  next same =>
    cases isFound
    exact same ▸ heard
  · exact (documented.sessions session found isFound).snoc

/-- A step is documented by its label. -/
theorem StepCase.documented {setup : Setup} {labels : List Label} {label : Label}
    {after : World platform}
    (moved : StepCase (World.after platform setup labels) label after)
    (documented : (World.after platform setup labels).Documented setup labels) :
    after.Documented setup (labels ++ [label]) := by
  have last : ∀ {condition : World platform → Label → Prop},
      condition (World.after platform setup labels) label →
        Sometime step condition (World.start platform setup) (labels ++ [label]) :=
    fun holds => sometime_snoc.mpr (.inr holds)
  constructor
  · cases moved with
    | connect acting peer access answers service next known account fresh ran =>
        have connected : Sometime step (Connecting acting peer) (World.start platform setup)
            (labels ++ [.connect acting peer access answers]) :=
          last ⟨fresh, access, answers, rfl⟩
        refine documented.others rfl ⟨connected, fun deviceId isDevice => ?_⟩
        rcases connect_effect ran with ⟨_, resting⟩ | effect
        · rw [resting.greeted] at isDevice
          contradiction
        · cases effect with
          | quiet _ resting =>
              rw [resting.greeted] at isDevice
              contradiction
          | hello => contradiction
    | resume acting awaited answers current service next known account found allowed ran =>
        refine documented.others rfl
          ((resume_effect ran).heard (documented.sessions acting current found).snoc ?_)
        intro admission deadline deviceId isPlace greets
        exact last ⟨current, admission, deadline, awaited, answers, found, isPlace, rfl, greets⟩
    | _ =>
        exact fun session current found => (documented.sessions session current found).snoc
  · intro session grant issued
    rcases moved.grant_mem issued with old | granting
    · have unlocking := documented.grants session grant old
      exact ⟨unlocking.heard.snoc, sometime_snoc.mpr (.inl unlocking.responded)⟩
    · obtain ⟨current, identity, deadline, awaited, answers, nonce, signature, entry, rfl, found,
        isPlace, ⟨response, arrived, isResponse, rfl, accepted⟩, rfl⟩ := granting.resumes
      have heard : Heard platform setup (labels ++ [.resume session awaited answers]) session
          current.peer current.place.greeted := (documented.sessions session current found).snoc
      rw [isPlace] at heard
      exact ⟨heard, last ⟨current, identity, deadline, awaited, answers, response, found, isPlace,
        rfl, arrived, isResponse, checkResponse_names accepted, rfl⟩⟩

theorem after_documented (platform : Platform Key) (setup : Setup) (labels : List Label) :
    (World.after platform setup labels).Documented setup labels := by
  induction labels using List.reverseRecOn with
  | nil =>
      obtain ⟨_, _, _, _, _, same⟩ := setup.service_eq
      refine ⟨fun session current found => by contradiction, fun session grant found => ?_⟩
      rw [World.after, run_nil, World.start, same] at found
      exact absurd found List.not_mem_nil
  | append_singleton labels label inductionHypothesis =>
      have moved := (step_cases (World.after platform setup labels) label).documented
        inductionHypothesis
      rw [World.after, run_append, run_cons, run_nil]
      exact moved

/-- The grants of a run map to earlier challenges for the same device, no two of them to the
same one; each was issued for a response that passed all checks, and its peer, its device and
its response are those of its session. -/
theorem grants_sound (platform : Platform Key) (setup : Setup) (labels : List Label) :
    ∃ origin : ℕ → ℕ,
      (∀ (position session : ℕ) (grant : Grant),
        (World.after platform setup labels).service.history[position]? =
          some (.grant session grant) →
        origin position < position ∧
          (World.after platform setup labels).service.history[origin position]? =
            some (.challenge grant.nonce grant.entry) ∧
          Sound platform (World.after platform setup labels).loaded grant ∧
          Unlocking platform setup labels session grant) ∧
      ∀ (first second firstSession secondSession : ℕ) (firstGrant secondGrant : Grant),
        (World.after platform setup labels).service.history[first]? =
          some (.grant firstSession firstGrant) →
        (World.after platform setup labels).service.history[second]? =
          some (.grant secondSession secondGrant) →
        origin first = origin second → first = second := by
  obtain ⟨origin, warranted, injective⟩ := (after_authorised platform setup labels).2.origin
  refine ⟨origin, fun position session grant found => ?_, injective⟩
  obtain ⟨earlier, opened, sound⟩ := warranted position session grant found
  have documented := after_documented platform setup labels
  exact ⟨earlier, opened, sound, documented.grants session grant (List.mem_of_getElem? found)⟩

end RemoteUnlock.Listener
