import Mathlib.Logic.Function.Basic
import RemoteUnlock.Audit.Runs
import RemoteUnlock.Library.Runs
import RemoteUnlock.Listener.PamEffect
import RemoteUnlock.Listener.SessionEffect

/-!
# The service in its world

Sessions and PAM requests run from await to await in any order, while time passes,
other processes change the configuration file and helpers hang up.  A session carries
what its place lets it know about its peer, a request the checks it has passed.  `step`
runs one label; what a label does is read off `step_cases`, which says it with the effects
of the sessions and the requests instead of their code.
-/

namespace RemoteUnlock.Listener

open Python Python.Items Common Audit Library

/-! ## What a session knows -/

section Known

variable {Key : Type} (platform : Platform Key) (peer : Peer)

/-- What was checked of a peer in front of the hello. -/
structure Vouched (admission : Admission) : Prop where
  certificate : ∃ certificate, peer.certificate = .ok certificate ∧
    certDevice platform admission.data certificate = .ok admission.certDevice
  required : ∃ required, item admission.data "require_mtls" = .ok required ∧
    (required.truthy = true → admission.certDevice ≠ none)

/-- What is known of the device record a session goes on with. -/
structure Traced (identity : Identity) : Prop where
  vouched : Vouched platform peer identity.toAdmission
  identifier : item identity.device "id" = .ok (.str identity.deviceId)
  source : identity.certDevice = some identity.device ∧ identity.lookupData = identity.data ∨
    identity.certDevice.getD [] = [] ∧
      deviceById identity.lookupData identity.deviceId = .ok (some identity.device)

/-- What a session knows where it waits. -/
def Known : Place → Prop
  | .recvHello admission _ => Vouched platform peer admission
  | .sendChallenge identity _ => Traced platform peer identity
  | .recvResponse identity _ => Traced platform peer identity
  | _ => True

variable {platform peer}

theorem Resting.known {next : Place} (resting : Resting (.ok next)) : Known platform peer next := by
  cases next with
  | recvHello => exact resting.elim
  | sendChallenge => exact resting.elim
  | recvResponse => exact resting.elim
  | _ => trivial

theorem SessionEffect.known {session : ℕ} {answers : Answers} {awaited : Awaited}
    {before after : UnlockService} {place next : Place}
    (effect : SessionEffect platform session peer answers awaited before place after (.ok next))
    (known : Known platform peer place) : Known platform peer next := by
  cases effect with
  | quiet _ resting => exact resting.known
  | challenge identity challenge signed admitted identified =>
      subst admitted
      exact ⟨known, identified.identifier, identified.source.imp_right
        fun ⟨unnamed, searched, found⟩ => ⟨unnamed, searched ▸ found⟩⟩
  | unsent _ _ resting => exact resting.known
  | await => exact known
  | grant _ _ _ _ _ _ _ resting => exact resting.known

theorem ConnectEffect.known {before after : UnlockService} {next : Place}
    (effect : ConnectEffect platform peer before after (.ok next)) :
    Known platform peer next := by
  cases effect with
  | quiet _ resting => exact resting.known
  | hello admitted =>
      exact ⟨admitted.data ▸ admitted.certificate, admitted.data ▸ admitted.required⟩

theorem connect_known {answers : Answers} {access : FileAccess} {next : Place}
    {before after : UnlockService}
    (ran : connect platform answers peer access before = (after, next)) :
    Known platform peer next := by
  rcases connect_effect ran with ⟨_, resting⟩ | effect
  · exact resting.known
  · exact effect.known

end Known

/-! ## The world -/

variable {Key : Type}

/-- A session, with the calls of the counters it has made. -/
structure Session (platform : Platform Key) where
  peer : Peer
  place : Place
  known : Known platform peer place
  account : List Account

/-- A PAM request. -/
structure Request where
  place : PamPlace
  passed : place.Passed

/-- The service, its sessions and requests by their numbers, and the configurations it has
worked with. -/
structure World (platform : Platform Key) where
  service : UnlockService
  sessions : ℕ → Option (Session platform)
  requests : ℕ → Option Request
  loaded : List Dict

variable {platform : Platform Key}

namespace World

/-- The service changes. -/
def reach (world : World platform) (service : UnlockService) : World platform :=
  { world with service := service, loaded := world.loaded ++ [service.data] }

def setSession (world : World platform) (session : ℕ) (current : Session platform) :
    World platform :=
  { world with sessions := Function.update world.sessions session (some current) }

def setRequest (world : World platform) (request : ℕ) (current : Request) : World platform :=
  { world with requests := Function.update world.requests request (some current) }

/-- The calls of the counters between two states. -/
def charges (world : World platform) (service : UnlockService) : List Account :=
  service.accounts.drop world.service.accounts.length

end World

/-- What happens in the world. -/
inductive Label where
  | tick (duration : ℚ≥0)
  | change (change : FileChange)
  | hangUp (request : ℕ)
  | connect (session : ℕ) (peer : Peer) (access : FileAccess) (answers : Answers)
  | resume (session : ℕ) (awaited : Awaited) (answers : Answers)
  | pamConnect (request : ℕ) (credentials : Except PyExc Credentials) (answers : Answers)
  | pamResume (request : ℕ) (awaited : PamAwaited) (answers : Answers)

/-- The session a label is a step of. -/
def Label.session : Label → Option ℕ
  | .connect session _ _ _ => some session
  | .resume session _ _ => some session
  | _ => none

/-- The service when time passes. -/
def elapsed (duration : ℚ≥0) (service : UnlockService) : UnlockService :=
  { service with now := service.now + duration }

/-- The service when its configuration file changes. -/
def fileChanged (change : FileChange) (service : UnlockService) : UnlockService :=
  { service with config := service.config.changed [change] }

def hungUp (request : ℕ) (service : UnlockService) : UnlockService :=
  { service with history := service.history ++ [.hungUp request] }

/-- One step of the world; a label that cannot happen leaves it as it is. -/
def step (world : World platform) : Label → World platform
  | .tick duration => world.reach (elapsed duration world.service)
  | .change change => world.reach (fileChanged change world.service)
  | .hangUp request => world.reach (hungUp request world.service)
  | .connect session peer access answers =>
      match world.sessions session with
      | some _ => world
      | none =>
          match ran : connect platform answers peer access world.service with
          | (service, place) =>
              (world.reach service).setSession session
                ⟨peer, place, connect_known ran, world.charges service⟩
  | .resume session awaited answers =>
      match world.sessions session with
      | none => world
      | some current =>
          if possible world.service.time current.place awaited then
            match ran : resume platform answers session current.peer current.place awaited
                world.service with
            | none => world
            | some (service, place) =>
                (world.reach service).setSession session
                  ⟨current.peer, place, (resume_effect ran).known current.known,
                    current.account ++ world.charges service⟩
          else world
  | .pamConnect request credentials answers =>
      match world.requests request with
      | some _ => world
      | none =>
          match ran : pamConnect platform answers request credentials world.service with
          | (service, place) =>
              (world.reach service).setRequest request ⟨place, (pamConnect_effect ran).2.1⟩
  | .pamResume request awaited answers =>
      match world.requests request with
      | none => world
      | some current =>
          if pamPossible request world.service current.place awaited then
            match ran : pamResume platform answers request current.place awaited
                world.service with
            | none => world
            | some (service, place) =>
                (world.reach service).setRequest request
                  ⟨place, (pamResume_effect current.passed ran).2.1⟩
          else world

/-- What one step does. -/
inductive StepCase (before : World platform) : Label → World platform → Prop where
  | idle (label : Label) : StepCase before label before
  | tick (duration : ℚ≥0) :
      StepCase before (.tick duration) (before.reach (elapsed duration before.service))
  | change (change : FileChange) :
      StepCase before (.change change) (before.reach (fileChanged change before.service))
  | hangUp (request : ℕ) :
      StepCase before (.hangUp request) (before.reach (hungUp request before.service))
  | connect (session : ℕ) (peer : Peer) (access : FileAccess) (answers : Answers)
      (service : UnlockService) (next : Place) (known : Known platform peer next)
      (account : List Account) (fresh : before.sessions session = none)
      (ran : connect platform answers peer access before.service = (service, next))
      (charged : account = before.charges service) :
      StepCase before (.connect session peer access answers)
        ((before.reach service).setSession session ⟨peer, next, known, account⟩)
  | resume (session : ℕ) (awaited : Awaited) (answers : Answers) (current : Session platform)
      (service : UnlockService) (next : Place) (known : Known platform current.peer next)
      (account : List Account) (found : before.sessions session = some current)
      (allowed : possible before.service.time current.place awaited = true)
      (ran : resume platform answers session current.peer current.place awaited
        before.service = some (service, next))
      (charged : account = current.account ++ before.charges service) :
      StepCase before (.resume session awaited answers)
        ((before.reach service).setSession session ⟨current.peer, next, known, account⟩)
  | pamConnect (request : ℕ) (credentials : Except PyExc Credentials) (answers : Answers)
      (service : UnlockService) (next : PamPlace) (passed : next.Passed)
      (fresh : before.requests request = none)
      (ran : pamConnect platform answers request credentials before.service = (service, next)) :
      StepCase before (.pamConnect request credentials answers)
        ((before.reach service).setRequest request ⟨next, passed⟩)
  | pamResume (request : ℕ) (awaited : PamAwaited) (answers : Answers) (current : Request)
      (service : UnlockService) (next : PamPlace) (passed : next.Passed)
      (found : before.requests request = some current)
      (allowed : pamPossible request before.service current.place awaited = true)
      (ran : pamResume platform answers request current.place awaited before.service =
        some (service, next)) :
      StepCase before (.pamResume request awaited answers)
        ((before.reach service).setRequest request ⟨next, passed⟩)

theorem step_cases (world : World platform) (label : Label) :
    StepCase world label (step world label) := by
  cases label with
  | tick duration => exact .tick duration
  | change change => exact .change change
  | hangUp request => exact .hangUp request
  | connect session peer access answers =>
      cases fresh : world.sessions session with
      | some current =>
          simp only [step, fresh]
          exact .idle _
      | none =>
          simp only [step, fresh]
          exact .connect session peer access answers _ _ _ _ fresh rfl rfl
  | resume session awaited answers =>
      cases found : world.sessions session with
      | none =>
          simp only [step, found]
          exact .idle _
      | some current =>
          simp only [step, found]
          split
          next allowed =>
            split
            · exact .idle _
            next service place ran =>
              exact .resume session awaited answers current _ _ _ _ found allowed ran rfl
          · exact .idle _
  | pamConnect request credentials answers =>
      cases fresh : world.requests request with
      | some current =>
          simp only [step, fresh]
          exact .idle _
      | none =>
          simp only [step, fresh]
          exact .pamConnect request credentials answers _ _ _ fresh rfl
  | pamResume request awaited answers =>
      cases found : world.requests request with
      | none =>
          simp only [step, found]
          exact .idle _
      | some current =>
          simp only [step, found]
          split
          next allowed =>
            split
            · exact .idle _
            next service place ran =>
              exact .pamResume request awaited answers current _ _ _ found allowed ran
          · exact .idle _

/-! ## Who does what -/

theorem World.sessions_setSession (world : World platform) (session : ℕ)
    (current : Session platform) (other : ℕ) :
    (world.setSession session current).sessions other =
      if other = session then some current else world.sessions other :=
  Function.update_apply _ _ _ _

theorem World.requests_setRequest (world : World platform) (request : ℕ) (current : Request)
    (other : ℕ) :
    (world.setRequest request current).requests other =
      if other = request then some current else world.requests other :=
  Function.update_apply _ _ _ _

/-- A step in which a session issues a grant. -/
structure Granting (before : World platform) (label : Label) (session : ℕ) (grant : Grant) :
    Prop where
  resumes : ∃ current identity deadline awaited answers nonce signature entry,
    label = .resume session awaited answers ∧ before.sessions session = some current ∧
      current.place = .recvResponse identity deadline ∧
      Accepts platform identity awaited before.service nonce signature entry ∧
      grant = grantFor current.peer identity nonce signature entry (popped nonce before.service)

theorem Granting.session_eq {before : World platform} {label : Label} {session : ℕ}
    {grant : Grant} (granting : Granting before label session grant) :
    label.session = some session := by
  rcases granting.resumes with ⟨_, _, _, _, _, _, _, _, rfl, _⟩
  rfl

theorem SessionEffect.grant_mem {session other : ℕ} {peer : Peer} {answers : Answers}
    {awaited : Awaited} {before after : UnlockService} {place : Place}
    {next : Except PyExc Place} {grant : Grant}
    (effect : SessionEffect platform session peer answers awaited before place after next)
    (found : .grant other grant ∈ after.history) :
    .grant other grant ∈ before.history ∨ other = session ∧
      ∃ identity deadline nonce signature entry, place = .recvResponse identity deadline ∧
        Accepts platform identity awaited before nonce signature entry ∧
        grant = grantFor peer identity nonce signature entry (popped nonce before) := by
  cases effect with
  | quiet calm => exact .inl (calm.history ▸ found)
  | challenge identity challenge signed admitted identified opens =>
      rw [opens.history] at found
      left
      cases signed <;> simpa using found
  | unsent deviceId opens =>
      rw [opens.history] at found
      exact .inl (by simpa using found)
  | await => exact .inl found
  | @grant identity deadline _ _ nonce signature entry recorded accepts issues =>
      rw [issues.history] at found
      rcases List.mem_append.mp found with old | fresh
      · exact .inl old
      · right
        have here : other = session ∧
            grant = grantFor peer identity nonce signature entry (popped nonce before) := by
          cases recorded <;> simpa using fresh
        exact ⟨here.1, identity, deadline, nonce, signature, entry, rfl, accepts, here.2⟩

theorem PamEffect.grant_mem {request other : ℕ} {datas : List Dict}
    {before after : UnlockService} {grant : Grant} (effect : PamEffect request datas before after)
    (found : .grant other grant ∈ after.history) : .grant other grant ∈ before.history := by
  cases effect with
  | spares middle events spared silent final =>
      rw [final, said, spared.history] at found
      rcases silent with rfl | rfl <;> simpa using found
  | takes middle events taking takes cleared dated replies final =>
      rw [final, said, takes.history] at found
      rcases replies with rfl | rfl | rfl <;> simpa using found

/-! ## Loaded configurations -/

theorem StepCase.loaded {before after : World platform} {label : Label}
    (moved : StepCase before label after) : before.loaded ⊆ after.loaded := by
  cases moved with
  | idle => exact List.Subset.refl _
  | _ => exact List.subset_append_left _ _

theorem StepCase.current {before after : World platform} {label : Label}
    (moved : StepCase before label after) (current : before.service.data ∈ before.loaded) :
    after.service.data ∈ after.loaded := by
  cases moved with
  | idle => exact current
  | _ => exact List.mem_append_right _ (List.mem_singleton_self _)

/-! ## The configuration -/

theorem SessionEffect.config {session : ℕ} {peer : Peer} {answers : Answers}
    {awaited : Awaited} {before after : UnlockService} {place : Place}
    {next : Except PyExc Place}
    (effect : SessionEffect platform session peer answers awaited before place after next) :
    after.config = before.config := by
  cases effect with
  | quiet calm => exact calm.config
  | challenge identity challenge signed admitted identified opens => exact opens.config
  | unsent deviceId opens => exact opens.config
  | await => rfl
  | grant nonce signature entry recorded accepts issues => exact issues.config

theorem PamEffect.config {request : ℕ} {datas : List Dict} {before after : UnlockService}
    (effect : PamEffect request datas before after) : after.config = before.config := by
  cases effect with
  | spares middle events spared silent final => exact final ▸ spared.config
  | takes middle events taking takes cleared dated replies final => exact final ▸ takes.config

theorem connect_config {answers : Answers} {peer : Peer} {access : FileAccess} {next : Place}
    {before after : UnlockService}
    (ran : connect platform answers peer access before = (after, next)) :
    after.config = before.config ∧ Resting (.ok next) ∨
      after.config = (reloadIfChanged access before.config).2 := by
  rcases connect_effect ran with ⟨calm, resting⟩ | effect
  · exact .inl ⟨calm.config, resting⟩
  · cases effect with
    | quiet calm => exact .inr calm.config
    | hello => exact .inr rfl

/-- How a step changes the configuration: not at all, or its file changes, or it is
reloaded. -/
inductive ConfigStep (label : Label) (before after : ConfigState) : Prop where
  | same (equal : after = before) : ConfigStep label before after
  | change (change : FileChange) (isChange : label = .change change)
      (changed : after = before.changed [change]) : ConfigStep label before after
  | reload (session : ℕ) (peer : Peer) (access : FileAccess) (answers : Answers)
      (connects : label = .connect session peer access answers)
      (reloaded : after = (reloadIfChanged access before).2) : ConfigStep label before after

theorem StepCase.config {before after : World platform} {label : Label}
    (moved : StepCase before label after) :
    ConfigStep label before.service.config after.service.config := by
  cases moved with
  | idle => exact .same rfl
  | tick => exact .same rfl
  | change change => exact .change change rfl rfl
  | hangUp => exact .same rfl
  | connect session peer access answers service next known account fresh ran =>
      rcases connect_config ran with ⟨same, _⟩ | reloaded
      · exact .same same
      · exact .reload session peer access answers rfl reloaded
  | resume session awaited answers current service next known account found allowed ran =>
      exact .same (resume_effect ran).config
  | pamConnect request credentials answers service next passed fresh ran =>
      exact .same (pamConnect_effect ran).1.config
  | pamResume request awaited answers waiting service next passed found allowed ran =>
      exact .same (pamResume_effect waiting.passed ran).1.config

/-! ## Steady steps -/

/-- Challenge and grant are as before, no lockout is shortened, and no challenge is new. -/
structure Steady (before after : UnlockService) : Prop where
  broker : after.broker = before.broker
  now : after.now = before.now
  left : ∀ kind key, before.left kind key ≤ after.left kind key
  history : after.history = before.history
  pending : ∀ nonce entry, after.pending.get nonce = some entry →
    before.pending.get nonce = some entry

theorem Quiet.steady {before after : UnlockService} (calm : Quiet before after) :
    Steady before after :=
  ⟨calm.broker, calm.now, calm.left, calm.history, calm.pending⟩

theorem begun_steady (access : FileAccess) (before : UnlockService) :
    Steady before (begun access before) :=
  ⟨rfl, rfl, fun _ _ => le_refl _, rfl, fun _ _ found => found⟩

theorem Steady.trans {first second third : UnlockService} (start : Steady first second)
    (rest : Steady second third) : Steady first third where
  broker := rest.broker.trans start.broker
  now := rest.now.trans start.now
  left kind key := (start.left kind key).trans (rest.left kind key)
  history := rest.history.trans start.history
  pending nonce entry found := start.pending nonce entry (rest.pending nonce entry found)

theorem connect_steady {answers : Answers} {peer : Peer} {access : FileAccess} {next : Place}
    {before after : UnlockService}
    (ran : connect platform answers peer access before = (after, next)) : Steady before after := by
  rcases connect_effect ran with ⟨calm, _⟩ | effect
  · exact calm.steady
  · cases effect with
    | quiet calm _ => exact (begun_steady access before).trans calm.steady
    | hello => exact begun_steady access before

theorem time_le_time {before after : UnlockService} (order : before.now ≤ after.now) :
    before.time ≤ after.time := by
  unfold UnlockService.time
  exact_mod_cast order

/-! ## Runs -/

/-- A service as it is started: the configuration file, how it was read, and what came of
it. -/
structure Setup where
  file : ConfigFile
  access : FileAccess
  audit : LogState
  now : ℚ≥0
  service : UnlockService
  opened : (openConfig access file).1 = .ok ()
  started : UnlockService.new (openConfig access file).2 audit now = some service

/-- A service starts with its configuration and nothing else. -/
theorem Setup.service_eq (setup : Setup) :
    ∃ threshold base maximum ttl,
      UnlockService.number (openConfig setup.access setup.file).2.config.data "grant_ttl" =
        some ttl ∧
      setup.service = ⟨(openConfig setup.access setup.file).2, .empty,
        .new threshold base maximum, .new threshold base maximum, .new ttl, 0, .empty,
        setup.audit, [], setup.now, [], [], []⟩ := by
  have started := setup.started
  simp only [UnlockService.new, bind, Option.bind_eq_some_iff] at started
  rcases started with ⟨value, _, started⟩
  split at started
  next lockout =>
    simp only [Option.bind_eq_some_iff, Option.some.injEq] at started
    rcases started with ⟨threshold, _, base, _, maximum, _, ttl, isTtl, same⟩
    exact ⟨threshold, base, maximum, ttl, isTtl, same.symm⟩
  · contradiction

/-- The world in which the service starts. -/
def World.start (platform : Platform Key) (setup : Setup) : World platform :=
  ⟨setup.service, fun _ => none, fun _ => none, [setup.service.data]⟩

/-- The world after a sequence of labels. -/
def World.after (platform : Platform Key) (setup : Setup) (labels : List Label) :
    World platform :=
  run step (World.start platform setup) labels

/-- What has happened stays in the history. -/
theorem StepCase.history {before after : World platform} {label : Label}
    (moved : StepCase before label after) : before.service.history <+: after.service.history := by
  have ofSession : ∀ {session peer answers awaited place next} {first last : UnlockService},
      SessionEffect platform session peer answers awaited first place last next →
        first.history <+: last.history := by
    intro session peer answers awaited place next first last effect
    cases effect with
    | quiet calm => rw [calm.history]
    | challenge identity challenge signed admitted identified opens =>
        exact opens.history ▸ List.prefix_append _ _
    | unsent deviceId opens => exact opens.history ▸ List.prefix_append _ _
    | await => exact List.prefix_refl _
    | grant nonce signature entry recorded accepts issues =>
        exact issues.history ▸ List.prefix_append _ _
  have ofPam : ∀ {request datas} {first last : UnlockService},
      PamEffect request datas first last → first.history <+: last.history := by
    intro request datas first last effect
    cases effect with
    | spares middle events spared silent final =>
        rw [final, said, spared.history]
        exact List.prefix_append _ _
    | takes middle events taking takes cleared dated replies final =>
        rw [final, said, takes.history, List.append_assoc]
        exact List.prefix_append _ _
  cases moved with
  | idle => exact List.prefix_refl _
  | tick => exact List.prefix_refl _
  | change => exact List.prefix_refl _
  | hangUp => exact List.prefix_append _ _
  | connect session peer access answers service next known account fresh ran =>
      rw [show ((before.reach service).setSession _ _).service = service from rfl,
        (connect_steady ran).history]
  | resume session awaited answers current service next known account found allowed ran =>
      exact ofSession (resume_effect ran)
  | pamConnect request credentials answers service next passed fresh ran =>
      exact ofPam (pamConnect_effect ran).1
  | pamResume request awaited answers waiting service next passed found allowed ran =>
      exact ofPam (pamResume_effect waiting.passed ran).1

/-- Only a session whose response is accepted issues a grant. -/
theorem StepCase.grant_mem {before after : World platform} {label : Label} {session : ℕ}
    (moved : StepCase before label after) {grant : Grant}
    (found : .grant session grant ∈ after.service.history) :
    .grant session grant ∈ before.service.history ∨ Granting before label session grant := by
  cases moved with
  | idle => exact .inl found
  | tick => exact .inl found
  | change => exact .inl found
  | hangUp request => exact .inl (by simpa [World.reach, hungUp] using found)
  | connect acting peer access answers service next known account fresh ran =>
      exact .inl ((connect_steady ran).history ▸ found)
  | resume acting awaited answers current service next known account isSession allowed ran =>
      rcases (resume_effect ran).grant_mem found with old | ⟨rfl, identity, deadline, nonce,
        signature, entry, isPlace, accepts, isGrant⟩
      · exact .inl old
      · exact .inr ⟨current, identity, deadline, awaited, answers, nonce, signature, entry, rfl,
          isSession, isPlace, accepts, isGrant⟩
  | pamConnect request credentials answers service next passed fresh ran =>
      exact .inl ((pamConnect_effect ran).1.grant_mem found)
  | pamResume request awaited answers waiting service next passed isRequest allowed ran =>
      exact .inl ((pamResume_effect waiting.passed ran).1.grant_mem found)

theorem run_history (world : World platform) (labels : List Label) :
    world.service.history <+: (run step world labels).service.history := by
  induction labels generalizing world with
  | nil => exact List.prefix_refl _
  | cons label labels inductionHypothesis =>
      exact (step_cases world label).history.trans (inductionHypothesis _)

theorem run_loaded (world : World platform) (labels : List Label) :
    world.loaded ⊆ (run step world labels).loaded := by
  induction labels generalizing world with
  | nil => exact List.Subset.refl _
  | cons label labels inductionHypothesis =>
      exact List.Subset.trans (step_cases world label).loaded (inductionHypothesis _)

/-! ## A world to run -/

/-- A configuration with one device and without certificates, in which one failure starts a
lockout. -/
def sampleText (enabled : Text) : Text :=
  "\x7b\"target_id\": \"laptop\", \"unlock_user\": \"alice\", \"require_mtls\": false, ".toList ++
  "\"lockout\": \x7b\"threshold\": 1, \"base_seconds\": 30, \"max_seconds\": 3600\x7d, ".toList ++
  "\"devices\": [\x7b\"id\": \"phone\", \"public_key_pem\": \"BEGIN\", ".toList ++
  "\"cert_sha256\": \"\", \"enabled\": ".toList ++ enabled ++ "\x7d]\x7d".toList

/-- What it says. -/
def sampleMembers (enabled : Bool) : Dict :=
  [(py "target_id", .str (py "laptop")), (py "unlock_user", .str (py "alice")),
    (py "require_mtls", .bool false),
    (py "lockout", .obj [(py "threshold", .int 1), (py "base_seconds", .int 30),
      (py "max_seconds", .int 3600)]),
    (py "devices", .arr [.obj [(py "id", .str (py "phone")),
      (py "public_key_pem", .str (py "BEGIN")), (py "cert_sha256", .str []),
      (py "enabled", .bool enabled)]])]

def sampleFile : ConfigFile := ⟨encode (sampleText "true".toList), 1, [1], by simp⟩

theorem parseConfig_sampleFile :
    parseConfig sampleFile.content = .ok (update defaults (sampleMembers true)) := by
  decide +kernel

/-- A service that has just loaded a configuration like this. -/
def sampleService (config : ConfigState) : UnlockService :=
  ⟨config, .empty, .new 1 30 3600, .new 1 30 3600, .new 20, 0, .empty, .fresh, [], 100, [], [], []⟩

def sampleSetup : Setup where
  file := sampleFile
  access := .calm
  audit := .fresh
  now := 100
  service := sampleService (.loaded sampleFile (update defaults (sampleMembers true)))
  opened := by rw [openConfig_calm parseConfig_sampleFile]
  started := by
    rw [openConfig_calm parseConfig_sampleFile]
    rfl

def sampleNonce : PyStr := py "00112233445566778899aabbccddeeff"

/-- The message whose signature is `01`. -/
def sampleMessage : Bytes :=
  encode "remote-unlock/v2|response|00112233445566778899aabbccddeeff|1|phone|laptop|unlock".toList

/-- A platform with one signature: `01`, of `sampleMessage`, under any key. -/
def samplePlatform : Platform Unit where
  sha := .table ⟨[], List.nodup_nil, by simp, by simp⟩
  crypto :=
    { loadPem := fun _ => .ok ()
      b64decode := fun _ => .error .valueError
      loadDer := fun _ => .error .valueError
      isP256 := fun _ => true
      encodeDss := fun _ _ => []
      verify := fun _ sig message => sig = [1] ∧ message = sampleMessage }
  str := fun _ => []
  loadsBytes := fun _ => .error .valueError

def samplePeer : Peer := ⟨py "100.64.0.2", .ok none⟩

/-- Surroundings in which everything works. -/
def calmAnswers : Answers :=
  ⟨fun _ => (.complete, py "2026-01-01T00:00:00.000+00:00"), sampleNonce, 1, .ok "00".toList,
    none⟩

def sampleHello : Text := "\x7b\"type\": \"hello\", \"device_id\": \"phone\"\x7d".toList

def sampleResponse : Text :=
  ("\x7b\"type\": \"response\", \"nonce\": \"00112233445566778899aabbccddeeff\", " ++
    "\"signature\": \"01\"\x7d").toList

/-- A session up to where it waits for the response. -/
def openSession (session : ℕ) : List Label :=
  [.connect session samplePeer .calm calmAnswers,
    .resume session (.text sampleHello) calmAnswers,
    .resume session (.finished none) calmAnswers]

end RemoteUnlock.Listener
