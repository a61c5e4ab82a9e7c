import RemoteUnlock.Listener.Raising

/-!
# Every rejection is charged

A session that is rejected charges its address once, and once the device its hello has
identified, as long as nothing is raised behind the hello: what the `except` clauses of
`handle` catch is charged to the address alone, and where a result could not be sent, for a
second time.
-/

namespace RemoteUnlock.Listener

open Python Python.Items Common Audit Library

variable {Key : Type} {platform : Platform Key}

/-! ## What a step raises -/

/-- The exception a program ends with. -/
def raisedBy (body : Py UnlockService Place) (service : UnlockService) : Option PyExc :=
  match (body service).1 with
  | .ok _ => none
  | .error exc => some exc

/-- What the code in the `try` of `handle` raises in a step. -/
def World.raised (world : World platform) : Label → Option PyExc
  | .connect _ peer access answers =>
      raisedBy (do
          reloadConfig access
          sessionStart platform answers peer)
        { world.service with active := world.service.active + 1 }
  | .resume session awaited answers =>
      (world.sessions session).bind fun current =>
        (sessionBody platform answers session current.peer current.place awaited).bind
          fun body => raisedBy body world.service
  | _ => none

/-- The device a session knows of in a step. -/
def World.device (world : World platform) (session : ℕ) : Label → Option PyStr
  | .resume acting awaited _ =>
      if acting = session then
        (world.sessions session).bind fun current =>
          current.place.device world.service.data awaited
      else none
  | _ => none

/-- The device the hello of a session identifies in a run. -/
def identified (session : ℕ) : World platform → List Label → Option PyStr
  | _, [] => none
  | world, label :: labels =>
      (world.device session label).or (identified session (step world label) labels)

/-- In a step of the session nothing keeps a rejection from the device it has identified: what
its surroundings raise in front of the hello is an `Exception`, and behind it nothing is
raised. -/
def World.Unspoiled (limits : Limits) (session : ℕ) (world : World platform) : Label → Prop
  | .connect acting peer access _ => acting = session → access.Caught ∧ peer.Caught
  | .resume acting awaited answers => acting = session → ∀ current ∈ world.sessions session,
      current.place.Unspoiled limits platform answers world.service awaited
  | _ => True

instance (limits : Limits) (session : ℕ) (world : World platform) :
    (label : Label) → Decidable (world.Unspoiled limits session label)
  | .connect acting peer access _ =>
      inferInstanceAs (Decidable (acting = session → access.Caught ∧ peer.Caught))
  | .resume acting awaited answers =>
      inferInstanceAs (Decidable (acting = session → ∀ current ∈ world.sessions session,
        current.place.Unspoiled limits platform answers world.service awaited))
  | .tick _ | .change _ | .hangUp _ | .pamConnect _ _ _ | .pamResume _ _ _ => isTrue trivial

/-- A connection is below the cap. -/
def World.Below (world : World platform) : Label → Prop
  | .connect _ _ _ _ =>
      (item world.service.data "max_connections").map (Json.atLeast world.service.active) =
        .ok (some false)
  | _ => True

/-- A step of a session that is admitted, not refused because of a lockout and not closed by
its peer, while the appends succeed. -/
structure World.Proper (world : World platform) (session : ℕ) (label : Label) : Prop where
  recorded : label.Recorded
  below : world.Below label
  unlocked : ∀ current, (step world label).sessions session = some current →
    current.place ≠ .closing true
  opened : ∀ exc ∈ world.raised label, exc.kind ≠ .connectionClosed

def World.Regular (session : ℕ) (world : World platform) (label : Label) : Prop :=
  label.session = some session → world.Proper session label

/-- The calls a rejection has to make. -/
def rejections (peer : Peer) (device : Option PyStr) : List Account :=
  .failed .ip peer.ip :: device.toList.map (.failed .device)

theorem failures_eq_rejections (peer : Peer) {device : Option PyStr} (named : device ≠ some []) :
    failures peer device = rejections peer device := by
  cases device with
  | none => rfl
  | some deviceId =>
      cases deviceId with
      | nil => contradiction
      | cons first rest => rfl

/-! ## Steps of a session -/

/-- A session begins. -/
theorem step_connect {world : World platform} {session : ℕ}
    (fresh : world.sessions session = none) (peer : Peer) (access : FileAccess)
    (answers : Answers) :
    ∃ service next known,
      connect platform answers peer access world.service = (service, next) ∧
      step world (.connect session peer access answers) =
        (world.reach service).setSession session
          ⟨peer, next, known, world.charges service⟩ := by
  rcases ran : connect platform answers peer access world.service with ⟨service, next⟩
  refine ⟨service, next, connect_known ran, rfl, ?_⟩
  simp only [step, fresh, ran]

/-- A step of a waiting session is idle, or it goes on. -/
theorem step_resume {world : World platform} {session : ℕ} {current : Session platform}
    (found : world.sessions session = some current) (awaited : Awaited) (answers : Answers) :
    step world (.resume session awaited answers) = world ∧
        (possible world.service.time current.place awaited = false ∨
          resume platform answers session current.peer current.place awaited world.service =
            none) ∨
      possible world.service.time current.place awaited = true ∧
        ∃ service next known,
          resume platform answers session current.peer current.place awaited world.service =
            some (service, next) ∧
          step world (.resume session awaited answers) =
            (world.reach service).setSession session
              ⟨current.peer, next, known, current.account ++ world.charges service⟩ := by
  simp only [step, found]
  split
  next allowed =>
    split
    next none => exact .inl ⟨rfl, .inr none⟩
    next service place ran =>
      exact .inr ⟨allowed, service, place, (resume_effect ran).known current.known, ran, rfl⟩
  next impossible => exact .inl ⟨rfl, .inl (Bool.eq_false_of_not_eq_true impossible)⟩

/-- In an idle step a session learns of no device it does not know. -/
theorem device_of_idle {now : ℚ} {place : Place} {awaited : Awaited} {answers : Answers}
    {session : ℕ} {peer : Peer} {service : UnlockService}
    (idle : possible now place awaited = false ∨
      resume platform answers session peer place awaited service = none)
    {admission : Admission} {deadline : Option ℚ} (isPlace : place = .recvHello admission deadline)
    (data : Dict) : place.device data awaited = none := by
  subst isPlace
  cases awaited with
  | text raw =>
      rcases idle with impossible | stuck
      · simp [possible] at impossible
      · simp [resume, sessionBody, received] at stuck
  | _ => rfl

theorem raisedBy_of_error {body : Py UnlockService Place} {before after : UnlockService}
    {exc : PyExc} (ran : body before = (.error exc, after)) :
    exc ∈ raisedBy body before := by
  rw [raisedBy, ran]
  exact Option.mem_some_self exc

theorem error_of_raisedBy {body : Py UnlockService Place} {before : UnlockService} {exc : PyExc}
    (isRaised : exc ∈ raisedBy body before) : ∃ after, body before = (.error exc, after) := by
  rcases ran : body before with ⟨outcome, after⟩
  rw [raisedBy, ran] at isRaised
  cases outcome with
  | ok place => exact nomatch isRaised
  | error raised => exact ⟨after, by rw [Option.mem_some_iff.mp isRaised]⟩

theorem kind_ne_base {exc : PyExc} (isException : exc.isException = true) :
    exc.kind ≠ .base := of_decide_eq_true isException

/-- With the appends succeeding and only exceptions that `handle` answers with a rejection, a
session ends as its code between the awaits says, or it is rejected by `handle`. -/
theorem handled_charged {answers : Answers} {peer : Peer} {session : ℕ} {device : Option PyStr}
    {named : Prop} {body : Py UnlockService Place} {before after : UnlockService} {next : Place}
    (calm : ¬ answers.Faulty)
    (charges : ∀ outcome middle, body before = (outcome, middle) →
      Charged peer session device named answers.Faulty before middle outcome)
    (caught : ∀ exc ∈ raisedBy body before,
      exc.kind ≠ .connectionClosed ∧ exc.kind ≠ .base)
    (ran : finished (handled platform answers peer body) before = (after, next)) :
    Charged peer session device named False before after (.ok next) ∨
      (raisedBy body before).isSome = true ∧
        after.accounts = before.accounts ++ failures peer none ∧
        (∀ other, .authorized other ∈ after.history → .authorized other ∈ before.history) ∧
        ∃ hits, next = .sendRejection hits true := by
  unfold finished handled Py.tryExcept at ran
  rcases ended : body before with ⟨outcome, middle⟩
  have start := charges _ _ ended
  rw [ended] at ran
  cases outcome with
  | ok place =>
      left
      cases start with
      | hello kept unknown =>
          cases ran
          exact .hello kept unknown
      | challenge kept known =>
          cases ran
          exact .challenge kept known
      | response kept known =>
          cases ran
          exact .response kept known
      | locked kept =>
          cases ran
          exact .locked kept
      | failed accounts unauthorized unnamed =>
          cases ran
          exact .failed accounts unauthorized unnamed
      | succeeded known accounts authorized =>
          cases ran
          exact .succeeded known accounts authorized
  | error exc =>
      have isRaised := raisedBy_of_error ended
      obtain ⟨notClosed, notBase⟩ := caught exc isRaised
      have kept : Uncharged before middle := by
        cases start with
        | raised _ kept => exact kept
        | faulted faulty => exact (calm faulty).elim
      rcases recovered : recover platform answers peer exc middle with ⟨result, final⟩
      simp only [recovered] at ran
      rcases recover_charged recovered with ⟨closed, _⟩ | ⟨base, _⟩ |
        ⟨_, _, accounts, unauthorized, hits, rfl⟩ | ⟨faulty, _⟩
      · exact (notClosed closed).elim
      · exact (notBase base).elim
      · cases ran
        refine .inr ⟨?_, kept.accounts ▸ accounts, fun other found => ?_, hits, rfl⟩
        · rw [Option.mem_def.mp isRaised]
          rfl
        · exact kept.authorized other (unauthorized other found)
      · exact (calm faulty).elim

/-! ## The books of a session -/

/-- It is authorised, and has cleared the counters of its address and its device. -/
def Accepted (authorized : Prop) (peer : Peer) (account : List Account)
    (device : Option PyStr) : Prop :=
  authorized ∧ ∃ deviceId, device = some deviceId ∧ account = successes peer deviceId

/-- It is not, and has charged its address and the device it is from. -/
def Rejected (authorized : Prop) (peer : Peer) (account : List Account)
    (device : Option PyStr) : Prop :=
  ¬ authorized ∧ account = rejections peer device

/-- What a session has called where it waits, if it is from this device. -/
def Balanced (authorized : Prop) (peer : Peer) (account : List Account) (device : Option PyStr) :
    Place → Prop
  | .recvHello _ _ => device = none ∧ account = [] ∧ ¬ authorized
  | .sendChallenge identity _ => device = some identity.deviceId ∧ account = [] ∧ ¬ authorized
  | .recvResponse identity _ => device = some identity.deviceId ∧ account = [] ∧ ¬ authorized
  | .sendRejection _ _ => Rejected authorized peer account device
  | .sendResult => Accepted authorized peer account device
  | .done => Accepted authorized peer account device ∨ Rejected authorized peer account device
  | .closing _ => False

/-- The same for a session of the world, which is named where it waits for its device. -/
def World.Books (world : World platform) (session : ℕ) (device : Option PyStr) : Prop :=
  match world.sessions session with
  | none => device = none ∧ .authorized session ∉ world.service.history
  | some current =>
      Balanced (.authorized session ∈ world.service.history) current.peer current.account device
        current.place ∧ current.place.Named

theorem Uncharged.charges {before after : UnlockService} (calm : Uncharged before after) :
    after.accounts.drop before.accounts.length = [] := by
  rw [calm.accounts, List.drop_length]

theorem charges_append {before after : UnlockService} {accounts : List Account}
    (charged : after.accounts = before.accounts ++ accounts) :
    after.accounts.drop before.accounts.length = accounts := by
  rw [charged, List.drop_left]

/-- The code between two awaits of a session that has no outcome yet keeps its books. -/
theorem Charged.balanced {peer : Peer} {session : ℕ} {device : Option PyStr} {named : Prop}
    {before after : UnlockService} {next : Place}
    (charged : Charged peer session device named False before after (.ok next))
    (unauthorized : .authorized session ∉ before.history) (isNamed : named)
    (unlocked : next ≠ .closing true) :
    Balanced (.authorized session ∈ after.history) peer
      (after.accounts.drop before.accounts.length) device next := by
  have still : Uncharged before after → .authorized session ∉ after.history :=
    fun calm found => unauthorized (calm.authorized _ found)
  cases charged with
  | hello calm unknown => exact ⟨unknown, calm.charges, still calm⟩
  | challenge calm known => exact ⟨known, calm.charges, still calm⟩
  | response calm known => exact ⟨known, calm.charges, still calm⟩
  | locked => exact (unlocked rfl).elim
  | failed accounts stays unnamed =>
      refine ⟨fun found => unauthorized (stays _ found), ?_⟩
      rw [charges_append accounts]
      exact failures_eq_rejections peer fun isEmpty => unnamed isEmpty isNamed
  | succeeded known accounts authorized =>
      exact ⟨authorized, _, known, charges_append accounts⟩

/-- A session without an outcome has called nothing and knows of the device it waits for. -/
theorem Balanced.working {authorized : Prop} {peer : Peer} {account : List Account}
    {device : Option PyStr} {place : Place}
    (balanced : Balanced authorized peer account device place) (working : ¬ place.Over)
    (data : Dict) (awaited : Awaited) :
    device.or (place.device data awaited) = place.device data awaited ∧ account = [] ∧
      ¬ authorized := by
  cases place with
  | recvHello => exact ⟨by rw [balanced.1, Option.none_or], balanced.2⟩
  | sendChallenge => exact ⟨by rw [balanced.1]; rfl, balanced.2⟩
  | recvResponse => exact ⟨by rw [balanced.1]; rfl, balanced.2⟩
  | _ => exact (working trivial).elim

theorem Place.device_of_over {place : Place} (isOver : place.Over) (data : Dict)
    (awaited : Awaited) : place.device data awaited = none := by
  cases place with
  | recvHello => exact isOver.elim
  | sendChallenge => exact isOver.elim
  | recvResponse => exact isOver.elim
  | _ => rfl

/-- A session with an outcome keeps it to its end. -/
theorem Balanced.ended {authorized : Prop} {peer : Peer} {account : List Account}
    {device : Option PyStr} {place : Place}
    (balanced : Balanced authorized peer account device place) (isOver : place.Over) :
    Balanced authorized peer account device .done := by
  cases place with
  | closing => exact balanced.elim
  | sendRejection => exact .inr balanced
  | sendResult => exact .inl balanced
  | done => exact balanced
  | _ => exact isOver.elim

theorem signedMessageFor_named {role nonce deviceId : PyStr} {issuedMs : ℤ} {target : Json}
    {message : Bytes}
    (built : signedMessageFor role nonce issuedMs deviceId target = .ok message) :
    deviceId ≠ [] := by
  rintro rfl
  have unmatched : idMatches [] = false := rfl
  unfold signedMessageFor at built
  split at built
  · have isDevice := (signedMessage_checked built).2.2.1
    rw [unmatched] at isDevice
    contradiction
  · split_ifs at built

theorem SessionEffect.named {session : ℕ} {peer : Peer} {answers : Answers} {awaited : Awaited}
    {before after : UnlockService} {place next : Place}
    (effect : SessionEffect platform session peer answers awaited before place after (.ok next))
    (named : place.Named) : next.Named := by
  have ofResting : ∀ {next : Place}, Resting (.ok next) → next.Named := by
    intro next resting
    cases next with
    | sendChallenge => exact resting.elim
    | recvResponse => exact resting.elim
    | _ => trivial
  cases effect with
  | quiet _ resting => exact ofResting resting
  | challenge identity challenge signed admitted identified opens message =>
      cases signed with
      | none =>
          obtain ⟨exc, wrong⟩ := message
          contradiction
      | some bytes =>
          obtain ⟨_, target, _, built⟩ := message
          exact signedMessageFor_named built
  | unsent _ _ resting => exact ofResting resting
  | await => exact named
  | grant _ _ _ _ _ _ _ resting => exact ofResting resting

/-! ## Steps of the others -/

theorem PamEffect.authorized_mem {request session : ℕ} {datas : List Dict}
    {before after : UnlockService} (effect : PamEffect request datas before after)
    (found : .authorized session ∈ after.history) : .authorized session ∈ before.history := by
  cases effect with
  | spares middle events spared silent final =>
      rw [final, said, spared.history] at found
      rcases silent with rfl | rfl <;> simpa using found
  | takes middle events taking takes cleared dated replies final =>
      rw [final, said, takes.history] at found
      rcases replies with rfl | rfl | rfl <;> simpa using found

/-- Another session, a request or the world leave a session and its success alone. -/
theorem StepCase.others {before after : World platform} {label : Label} {session : ℕ}
    (moved : StepCase before label after) (other : label.session ≠ some session) :
    after.sessions session = before.sessions session ∧
      (.authorized session ∈ after.service.history ↔
        .authorized session ∈ before.service.history) := by
  have grown := moved.history
  refine ⟨?_, fun found => ?_, fun found => grown.subset found⟩
  · cases moved with
    | connect acting peer access answers service next known account fresh ran =>
        rw [World.sessions_setSession, if_neg]
        · rfl
        · rintro rfl
          exact other rfl
    | resume acting awaited answers current service next known account isSession allowed ran =>
        rw [World.sessions_setSession, if_neg]
        · rfl
        · rintro rfl
          exact other rfl
    | _ => rfl
  · cases moved with
    | idle => exact found
    | tick => exact found
    | change => exact found
    | hangUp request => simpa [World.reach, hungUp] using found
    | connect acting peer access answers service next known account fresh ran =>
        exact (connect_steady ran).history ▸ found
    | resume acting awaited answers current service next known account isSession allowed ran =>
        have different : session ≠ acting := by
          rintro rfl
          exact other rfl
        have effect := resume_effect ran
        change .authorized session ∈ service.history at found
        generalize current.place = place at effect
        cases effect with
        | quiet calm => rwa [calm.history] at found
        | challenge identity challenge signed admitted identified opens =>
            rw [opens.history] at found
            cases signed <;> simpa using found
        | unsent deviceId opens =>
            rw [opens.history] at found
            simpa using found
        | await => exact found
        | grant nonce signature entry recorded accepts issues =>
            rw [issues.history] at found
            cases recorded <;> simpa [different] using found
    | pamConnect request credentials answers service next passed fresh ran =>
        exact (pamConnect_effect ran).1.authorized_mem found
    | pamResume request awaited answers current service next passed isRequest allowed ran =>
        exact (pamResume_effect current.passed ran).1.authorized_mem found

/-! ## Steps of the session -/

/-- A session that begins below the cap. -/
theorem connect_balanced {session : ℕ} {peer : Peer} {access : FileAccess} {answers : Answers}
    {before after : UnlockService} {next : Place} (recorded : ¬ answers.Faulty)
    (below : (item before.data "max_connections").map (Json.atLeast before.active) =
      .ok (some false))
    (caught : ∀ exc ∈ raisedBy (do
          reloadConfig access
          sessionStart platform answers peer) { before with active := before.active + 1 },
      exc.kind ≠ .connectionClosed ∧ exc.kind ≠ .base)
    (unauthorized : .authorized session ∉ before.history) (unlocked : next ≠ .closing true)
    (ran : connect platform answers peer access before = (after, next)) :
    Balanced (.authorized session ∈ after.history) peer
      (after.accounts.drop before.accounts.length) none next := by
  unfold connect at ran
  rw [below] at ran
  rcases handled_charged recorded (fun _ _ => connectBody_charged session) caught ran with
    charged | ⟨_, accounts, stays, hits, rfl⟩
  · exact charged.balanced unauthorized trivial unlocked
  · exact ⟨fun found => unauthorized (stays _ found), charges_append accounts⟩

/-- Where nothing is left to do but to end, a session ends. -/
theorem finished_over {body : Py UnlockService Place} {before after : UnlockService} {next : Place}
    (calm : Py.Keeps Uncharged body)
    (ends : ∀ outcome middle, body before = (outcome, middle) →
      outcome = .ok .done ∨ ∃ exc, outcome = .error exc)
    (ran : finished body before = (after, next)) : Uncharged before after ∧ next = .done := by
  unfold finished at ran
  rcases ended : body before with ⟨outcome, middle⟩
  have kept : Uncharged before middle := calm.after ended
  rw [ended] at ran
  rcases ends _ _ ended with rfl | ⟨exc, rfl⟩
  · cases ran
    exact ⟨⟨kept.accounts, kept.authorized⟩, rfl⟩
  · cases ran
    exact ⟨⟨kept.accounts, kept.authorized⟩, rfl⟩

theorem Balanced.uncharged {session : ℕ} {peer : Peer} {before after : UnlockService}
    {account : List Account} {device : Option PyStr} {place : Place}
    (balanced : Balanced (.authorized session ∈ before.history) peer account device place)
    (calm : Uncharged before after) (grown : before.history <+: after.history) :
    Balanced (.authorized session ∈ after.history) peer
      (account ++ after.accounts.drop before.accounts.length) device place := by
  have same : (.authorized session ∈ after.history) = (.authorized session ∈ before.history) :=
    propext ⟨calm.authorized session, fun found => grown.subset found⟩
  rwa [same, calm.charges, List.append_nil]

/-- A session that goes on. -/
theorem resume_balanced {session : ℕ} {peer : Peer} {answers : Answers} {awaited : Awaited}
    {before after : UnlockService} {place next : Place} {account : List Account}
    {device : Option PyStr} (recorded : ¬ answers.Faulty)
    (caught : ∀ body, sessionBody platform answers session peer place awaited = some body →
      ∀ exc ∈ raisedBy body before, exc.kind ≠ .connectionClosed ∧ exc.kind ≠ .base ∧
        place.device before.data awaited = none ∧
        ∃ admission deadline, place = .recvHello admission deadline)
    (balanced : Balanced (.authorized session ∈ before.history) peer account device place)
    (named : place.Named) (unlocked : next ≠ .closing true)
    (grown : before.history <+: after.history)
    (ran : resume platform answers session peer place awaited before = some (after, next)) :
    Balanced (.authorized session ∈ after.history) peer
      (account ++ after.accounts.drop before.accounts.length)
      (device.or (place.device before.data awaited)) next := by
  unfold resume at ran
  split at ran
  · exact balanced.elim
  next hits raises =>
    rw [Option.some.injEq] at ran
    have calm : Py.Keeps Uncharged (do
        sent raises
        failRest platform answers hits
        pure Place.done) := by
      refine Py.Keeps.bind (sent_uncharged raises) fun _ => ?_
      exact Py.Keeps.bind (failRest_uncharged answers hits) fun _ => Py.Keeps.pure _
    have ends : ∀ outcome middle, (do
        sent raises
        failRest platform answers hits
        pure Place.done) before = (outcome, middle) →
        outcome = .ok .done ∨ ∃ exc, outcome = .error exc := by
      intro outcome middle ended
      rcases Py.of_bind ended with ⟨exc, _, failed⟩ | ⟨_, _, _, rest⟩
      · exact .inr ⟨exc, failed⟩
      rcases Py.of_bind rest with ⟨exc, _, failed⟩ | ⟨_, _, _, finish⟩
      · exact .inr ⟨exc, failed⟩
      · cases finish
        exact .inl rfl
    obtain ⟨kept, rfl⟩ := finished_over calm ends ran
    have isOver : (Place.sendRejection hits true).Over := trivial
    rw [Place.device_of_over isOver, Option.or_none]
    exact (balanced.uncharged kept grown).ended trivial
  · obtain ⟨body, runs, ended⟩ := Option.map_eq_some_iff.mp ran
    rcases first : body before with ⟨outcome, middle⟩
    rcases sessionBody_charged runs first with ⟨isOver, calm, ends⟩ | ⟨working, charged⟩
    · rw [Place.device_of_over isOver, Option.or_none]
      rcases ends with rfl | ⟨exc, rfl⟩
      · unfold finished handled Py.tryExcept at ended
        rw [first] at ended
        cases ended
        have kept : Uncharged before { middle with active := middle.active - 1 } :=
          ⟨calm.accounts, calm.authorized⟩
        exact (balanced.uncharged kept grown).ended isOver
      · obtain ⟨_, _, _, admission, deadline, rfl⟩ := caught body runs exc (raisedBy_of_error first)
        exact isOver.elim
    · obtain ⟨learned, rfl, unauthorized⟩ := balanced.working working before.data awaited
      have charges : ∀ outcome middle, body before = (outcome, middle) →
          Charged peer session (place.device before.data awaited) place.Named answers.Faulty
            before middle outcome := by
        intro outcome middle ran
        rw [first] at ran
        cases ran
        exact charged
      have mild : ∀ exc ∈ raisedBy body before,
          exc.kind ≠ .connectionClosed ∧ exc.kind ≠ .base := by
        intro exc isRaised
        exact ⟨(caught body runs exc isRaised).1, (caught body runs exc isRaised).2.1⟩
      rw [learned, List.nil_append]
      rcases handled_charged recorded charges mild ended with
        again | ⟨isRaised, accounts, stays, hits, rfl⟩
      · exact again.balanced unauthorized named unlocked
      · obtain ⟨exc, isRaised⟩ := Option.isSome_iff_exists.mp isRaised
        obtain ⟨_, _, unknown, _⟩ := caught body runs exc isRaised
        rw [unknown]
        exact ⟨fun found => unauthorized (stays _ found), charges_append accounts⟩

/-! ## Runs -/

theorem World.device_of_other {world : World platform} {session : ℕ} {label : Label}
    (other : label.session ≠ some session) : world.device session label = none := by
  cases label with
  | resume acting awaited answers =>
      apply if_neg
      rintro rfl
      exact other rfl
  | _ => rfl

theorem World.device_resume {world : World platform} {session : ℕ} {current : Session platform}
    (found : world.sessions session = some current) (awaited : Awaited) (answers : Answers) :
    world.device session (.resume session awaited answers) =
      current.place.device world.service.data awaited := by
  simp [World.device, found]

theorem World.mem_raised {world : World platform} {session : ℕ} {current : Session platform}
    (found : world.sessions session = some current) {awaited : Awaited} {answers : Answers}
    {body : Py UnlockService Place}
    (runs : sessionBody platform answers session current.peer current.place awaited = some body)
    {exc : PyExc} (isRaised : exc ∈ raisedBy body world.service) :
    exc ∈ world.raised (.resume session awaited answers) := by
  rw [World.raised, found, Option.bind_some, runs, Option.bind_some]
  exact isRaised

theorem World.books_setSession (world : World platform) (session : ℕ)
    (current : Session platform) (device : Option PyStr) :
    (world.setSession session current).Books session device ↔
      Balanced (.authorized session ∈ world.service.history) current.peer current.account device
        current.place ∧ current.place.Named := by
  rw [World.Books, World.sessions_setSession, if_pos rfl]
  rfl

/-- A session that knows of no device waits for none. -/
theorem Balanced.named {authorized : Prop} {peer : Peer} {account : List Account} {place : Place}
    (balanced : Balanced authorized peer account none place) : place.Named := by
  cases place with
  | sendChallenge => exact nomatch balanced.1
  | recvResponse => exact nomatch balanced.1
  | _ => trivial

/-- A session that is idle learns nothing it would have to charge. -/
theorem Balanced.idle {authorized : Prop} {peer : Peer} {account : List Account}
    {device : Option PyStr} {place : Place}
    (balanced : Balanced authorized peer account device place) {data : Dict} {awaited : Awaited}
    (silent : ∀ admission deadline, place = .recvHello admission deadline →
      place.device data awaited = none) :
    device.or (place.device data awaited) = device := by
  cases place with
  | recvHello admission deadline => rw [silent admission deadline rfl, Option.or_none]
  | sendChallenge => rw [balanced.1]; rfl
  | recvResponse => rw [balanced.1]; rfl
  | _ => exact Option.or_none

/-- A session is not closed while it has books. -/
theorem Balanced.unclosed {authorized : Prop} {peer : Peer} {account : List Account}
    {device : Option PyStr} {place : Place}
    (balanced : Balanced authorized peer account device place) (admitted : Bool) :
    place ≠ .closing admitted := by
  rintro rfl
  exact balanced

theorem step_books {world : World platform} {session : ℕ} {label : Label} {limits : Limits}
    {device : Option PyStr} (regular : World.Regular session world label)
    (unspoiled : World.Unspoiled limits session world label)
    (books : world.Books session device) :
    (step world label).Books session (device.or (world.device session label)) := by
  by_cases own : label.session = some session
  · have proper := regular own
    cases label with
    | connect acting peer access answers =>
        obtain rfl : acting = session := Option.some.inj own
        cases fresh : world.sessions acting with
        | some current =>
            have idle : step world (.connect acting peer access answers) = world := by
              simp [step, fresh]
            rw [idle]
            exact (Option.or_none (o := device)).symm ▸ books
        | none =>
            obtain ⟨rfl, unauthorized⟩ :
                device = none ∧ .authorized acting ∉ world.service.history := by
              simpa [World.Books, fresh] using books
            obtain ⟨service, next, known, ran, goes⟩ := step_connect fresh peer access answers
            have unlocked := proper.unlocked
            rw [goes] at unlocked ⊢
            obtain ⟨reads, asks⟩ := unspoiled rfl
            have balanced := connect_balanced proper.recorded proper.below (fun exc isRaised => by
              obtain ⟨after, failed⟩ := error_of_raisedBy isRaised
              exact ⟨proper.opened exc isRaised,
                kind_ne_base (connectBody_throws proper.recorded reads asks _ _ _ failed)⟩)
              unauthorized (unlocked _ (Function.update_self ..)) ran
            rw [World.books_setSession]
            exact ⟨balanced, balanced.named⟩
    | resume acting awaited answers =>
        obtain rfl : acting = session := Option.some.inj own
        cases found : world.sessions acting with
        | none =>
            have idle : step world (.resume acting awaited answers) = world := by
              simp [step, found]
            have unknown : world.device acting (.resume acting awaited answers) = none := by
              simp [World.device, found]
            rw [idle, unknown, Option.or_none]
            exact books
        | some current =>
            obtain ⟨balanced, named⟩ : Balanced (.authorized acting ∈ world.service.history)
                current.peer current.account device current.place ∧ current.place.Named := by
              simpa [World.Books, found] using books
            rw [World.device_resume found]
            rcases step_resume found awaited answers with
              ⟨idle, reason⟩ | ⟨allowed, service, next, known, ran, goes⟩
            · rw [idle, balanced.idle fun _ _ isHello => device_of_idle reason isHello _]
              exact books
            · have unlocked := proper.unlocked
              rw [goes] at unlocked ⊢
              have effect := resume_effect ran
              rw [World.books_setSession]
              refine ⟨resume_balanced proper.recorded ?_ balanced named
                (unlocked _ (Function.update_self ..)) ?_ ran, effect.named named⟩
              · intro body runs exc isRaised
                have opened := proper.opened exc (World.mem_raised found runs isRaised)
                obtain ⟨after, failed⟩ := error_of_raisedBy isRaised
                obtain ⟨isException, unknown, isHello⟩ := sessionBody_raises proper.recorded
                  current.known balanced.unclosed allowed (unspoiled rfl current found) runs
                  failed opened
                exact ⟨opened, kind_ne_base isException, unknown, isHello⟩
              · have moved := step_cases world (.resume acting awaited answers)
                rw [goes] at moved
                exact moved.history
    | _ => simp [Label.session] at own
  · have moved := step_cases world label
    obtain ⟨sameSession, sameHistory⟩ := moved.others own
    rw [World.device_of_other own, Option.or_none]
    unfold World.Books at books ⊢
    rw [sameSession]
    cases found : world.sessions session with
    | none =>
        rw [found] at books
        exact ⟨books.1, fun there => books.2 (sameHistory.mp there)⟩
    | some current =>
        rw [found] at books
        simp only [propext sameHistory]
        exact books

theorem run_books {world : World platform} {session : ℕ} {device : Option PyStr}
    {labels : List Label} {limits : Limits}
    (regular : Along step (World.Regular session) world labels)
    (unspoiled : Along step (World.Unspoiled limits session) world labels)
    (books : world.Books session device) :
    (run step world labels).Books session (device.or (identified session world labels)) := by
  induction labels generalizing world device with
  | nil =>
      rw [identified, Option.or_none]
      exact books
  | cons label labels inductionHypothesis =>
      rw [identified, ← Option.or_assoc]
      exact inductionHypothesis regular.2 unspoiled.2 (step_books regular.1 unspoiled.1 books)

/-- A session that is admitted, not refused because of a lockout and not closed by its peer has
called the counters as it has to when it is done. -/
def ChargedOnce (platform : Platform Key) (setup : Setup) (labels : List Label)
    (session : ℕ) : Prop :=
  Along step (World.Regular session) (World.start platform setup) labels →
    ∀ current, (World.after platform setup labels).sessions session = some current →
      current.place = .done →
        Accepted (.authorized session ∈ (World.after platform setup labels).service.history)
            current.peer current.account
            (identified session (World.start platform setup) labels) ∨
          Rejected (.authorized session ∈ (World.after platform setup labels).service.history)
            current.peer current.account
            (identified session (World.start platform setup) labels)

/-- Where nothing is raised behind a hello or an outcome, every session is charged as it has to
be. -/
theorem chargedOnce_of_unspoiled (platform : Platform Key) (setup : Setup) (limits : Limits)
    (labels : List Label) (session : ℕ)
    (unspoiled : Along step (World.Unspoiled limits session) (World.start platform setup)
      labels) :
    ChargedOnce platform setup labels session := by
  intro regular current found isDone
  have start : (World.start platform setup).Books session none := by
    obtain ⟨threshold, base, maximum, ttl, _, same⟩ := setup.service_eq
    refine ⟨rfl, ?_⟩
    simp [World.start, same]
  have books := run_books regular unspoiled start
  rw [World.Books, show (run step (World.start platform setup) labels).sessions session =
    some current from found, Option.none_or] at books
  have balanced := books.1
  rw [isDone] at balanced
  exact balanced

/-- The rest of a session that has been opened. -/
def closeSession (session : ℕ) (response : Text) : List Label :=
  [.resume session (.text response) calmAnswers, .resume session (.finished none) calmAnswers]

/-- A response to the challenge with another signature. -/
def forgedResponse : Text :=
  ("\x7b\"type\": \"response\", \"nonce\": \"00112233445566778899aabbccddeeff\", " ++
    "\"signature\": \"02\"\x7d").toList

/-- An unlock, and behind it a session that is rejected. -/
def refusedLabels : List Label :=
  openSession 0 ++ closeSession 0 sampleResponse ++
    (openSession 1 ++ closeSession 1 forgedResponse)

/-- A peer that has closed its connection raises this. -/
def isClosed (exc : PyExc) : Bool :=
  match exc.kind with
  | .connectionClosed => true
  | _ => false

/-- The place of a session, as far as it says how it ended. -/
def Place.isLocked : Place → Bool
  | .closing true => true
  | _ => false

def Place.isDone : Place → Bool
  | .done => true
  | _ => false

theorem eq_done_of_isDone {place : Place} (isDone : place.isDone = true) : place = .done := by
  cases place with
  | done => rfl
  | _ => exact nomatch isDone

/-- What can be seen of a regular step. -/
def World.seemsRegular (session : ℕ) (world : World samplePlatform) (label : Label) : Bool :=
  !((world.raised label).any isClosed) &&
    !(((step world label).sessions session).any fun current => current.place.isLocked) &&
      match item world.service.data "max_connections" with
      | .ok cap => Json.atLeast world.service.active cap == some false
      | .error _ => false

theorem regular_of_seems {session : ℕ} {labels : List Label}
    (recorded : ∀ label ∈ labels, label.Recorded)
    (checked : Along step (fun world label => world.seemsRegular session label = true)
      (World.start samplePlatform sampleSetup) labels) :
    Along step (World.Regular session) (World.start samplePlatform sampleSetup) labels := by
  apply checked.imp
  intro world label membership regular _
  simp only [World.seemsRegular, Bool.and_eq_true, Bool.not_eq_true'] at regular
  obtain ⟨⟨opened, unlocked⟩, below⟩ := regular
  refine ⟨recorded label membership, ?_, ?_, ?_⟩
  · cases label with
    | connect =>
        rw [World.Below]
        cases cap : item world.service.data "max_connections" with
        | ok value =>
            rw [cap] at below
            exact congrArg Except.ok (eq_of_beq below)
        | error exc => simp [cap] at below
    | _ => trivial
  · intro current found isLocked
    rw [found, Option.any_some, isLocked] at unlocked
    exact nomatch unlocked
  · intro exc isRaised closed
    rw [Option.mem_def.mp isRaised, Option.any_some, isClosed, closed] at opened
    exact nomatch opened

theorem calmAnswers_calm : ¬ calmAnswers.Faulty := by
  rintro ⟨seq, raises⟩
  exact nomatch raises

theorem session_recorded (session : ℕ) (response : Text) :
    ∀ label ∈ openSession session ++ closeSession session response, label.Recorded := by
  intro label membership
  simp only [openSession, closeSession, List.cons_append, List.nil_append, List.mem_cons,
    List.not_mem_nil, or_false] at membership
  rcases membership with rfl | rfl | rfl | rfl | rfl <;> exact calmAnswers_calm

/-- The session has been authorised. -/
def Event.authorizes (session : ℕ) : Event → Bool
  | .authorized other => other = session
  | _ => false

theorem mem_authorized_iff {history : List Event} {session : ℕ} :
    .authorized session ∈ history ↔ history.any (·.authorizes session) = true := by
  rw [List.any_eq_true]
  constructor
  · exact fun found => ⟨_, found, decide_eq_true rfl⟩
  · rintro ⟨event, found, same⟩
    cases event with
    | authorized other => exact of_decide_eq_true same ▸ found
    | _ => exact nomatch same

theorem after_refusedLabels :
    let after := World.after samplePlatform sampleSetup refusedLabels
    [0, 1].map (fun session => (after.sessions session).map (·.place.isDone)) =
        [some true, some true] ∧
      [0, 1].map (fun session => after.service.history.any (·.authorizes session)) =
        [true, false] ∧
      [0, 1].map (fun session =>
          identified session (World.start samplePlatform sampleSetup) refusedLabels) =
        [some (py "phone"), some (py "phone")] := by
  decide +kernel

/-- The unlock clears the address and the phone, and the rejection charges both. -/
theorem chargedOnce_refusedLabels :
    (∃ current, (World.after samplePlatform sampleSetup refusedLabels).sessions 0 = some current ∧
      current.account = successes current.peer (py "phone")) ∧
    ∃ current, (World.after samplePlatform sampleSetup refusedLabels).sessions 1 = some current ∧
      current.account = rejections current.peer (some (py "phone")) := by
  obtain ⟨ended, authorized, isPhone⟩ := after_refusedLabels
  simp only [List.map_cons, List.map_nil, List.cons.injEq, and_true] at ended authorized isPhone
  have recorded : ∀ label ∈ refusedLabels, label.Recorded :=
    List.forall_mem_append.mpr ⟨session_recorded 0 _, session_recorded 1 _⟩
  constructor
  · obtain ⟨current, found, isDone⟩ := Option.map_eq_some_iff.mp ended.1
    have charged := chargedOnce_of_unspoiled samplePlatform sampleSetup initialLimits
      refusedLabels 0 (by decide +kernel)
      (regular_of_seems recorded (by decide +kernel)) current found (eq_done_of_isDone isDone)
    rw [isPhone.1, mem_authorized_iff, authorized.1] at charged
    rcases charged with ⟨_, deviceId, same, account⟩ | ⟨unauthorized, _⟩
    · exact ⟨current, found, Option.some.inj same ▸ account⟩
    · exact (unauthorized rfl).elim
  · obtain ⟨current, found, isDone⟩ := Option.map_eq_some_iff.mp ended.2
    have charged := chargedOnce_of_unspoiled samplePlatform sampleSetup initialLimits
      refusedLabels 1 (by decide +kernel)
      (regular_of_seems recorded (by decide +kernel)) current found (eq_done_of_isDone isDone)
    rw [isPhone.2, mem_authorized_iff, authorized.2] at charged
    rcases charged with ⟨isAuthorized, _⟩ | ⟨_, account⟩
    · exact nomatch isAuthorized
    · exact ⟨current, found, account⟩

/-- A session that sends no object in the place of its response. -/
def malformedLabels : List Label := openSession 0 ++ closeSession 0 "[]".toList

theorem malformedLabels_regular :
    Along step (World.Regular 0) (World.start samplePlatform sampleSetup) malformedLabels :=
  regular_of_seems (session_recorded 0 _) (by decide +kernel)

theorem after_malformedLabels :
    ((World.after samplePlatform sampleSetup malformedLabels).sessions 0).map
        (fun current => (current.place.isDone, current.account)) =
      some (true, [.failed .ip (py "100.64.0.2")]) ∧
    identified 0 (World.start samplePlatform sampleSetup) malformedLabels =
      some (py "phone") := by
  decide +kernel

/-- The device the hello has identified is not charged for the malformed response. -/
theorem not_chargedOnce_malformedLabels :
    ¬ ChargedOnce samplePlatform sampleSetup malformedLabels 0 := by
  intro charged
  obtain ⟨shown, isPhone⟩ := after_malformedLabels
  obtain ⟨current, found, same⟩ := Option.map_eq_some_iff.mp shown
  rw [Prod.mk.injEq] at same
  rcases charged malformedLabels_regular current found (eq_done_of_isDone same.1) with
    ⟨_, deviceId, _, account⟩ | ⟨_, account⟩
  · rw [same.2] at account
    simp [successes] at account
  · rw [same.2, isPhone] at account
    simp [rejections] at account

end RemoteUnlock.Listener
