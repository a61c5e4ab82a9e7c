import RemoteUnlock.Listener.Strain

/-!
# What a step can lock

A step in which nothing is wrong with what a session meets calls no `fail` and raises nothing
that `handle` answers with a rejection (`sessionBody_endsWell`), so it locks no key.  Any
other step can lock a key of its session that does not withstand the failures it may call
(`StepCase.unlocked`).
-/

namespace RemoteUnlock.Listener

open Python Python.Items Common Audit

/-! ## Steps without a failure -/

section Harmless

variable {Key : Type} {platform : Platform Key} {answers : Answers} {peer : Peer} {session : ℕ}

/-- The certificate of a peer is one the configuration asks for, or asking for it fails in a
way that is not answered. -/
def Certified (platform : Platform Key) (data : Dict) (peer : Peer) : Prop :=
  match peer.certificate with
  | .error exc => Unanswered exc
  | .ok certificate =>
      ∃ device, certDevice platform data certificate = .ok device ∧
        ∃ required, item data "require_mtls" = .ok required ∧
          (required.truthy = true → device ≠ none)

/-- With the configuration a connection has reloaded, its address is locked out or its
certificate is in order. -/
def Presented (platform : Platform Key) (service : UnlockService) (peer : Peer) :
    Except PyExc Unit × ConfigState → Prop
  | (.error exc, _) => Unanswered exc
  | (.ok _, config) =>
      0 < service.left .ip peer.ip ∨ Certified platform config.config.data peer

/-- Nothing is wrong with a peer that connects. -/
def Presentable (platform : Platform Key) (service : UnlockService) (peer : Peer)
    (access : FileAccess) : Prop :=
  (item service.data "max_connections").map (Json.atLeast service.active) = .ok (some false) →
    Presented platform service peer (reloadIfChanged access service.config)

def CheckResult.isAccepted : CheckResult → Bool
  | .refused _ => false
  | .accepted _ _ => true

/-- `check_response` accepts the response. -/
def Accepting (platform : Platform Key) (service : UnlockService) (device response : Dict) :
    Prop :=
  lookup (py "type") response = some (.str (py "response")) ∧
    ∃ verdict, (checkResponse platform device (lookup (py "nonce") response)
      (lookup (py "signature") response) service).1 = .ok verdict ∧ verdict.isAccepted = true

/-- A message is there that a session can take, or waiting for it ends in a way that is not
answered. -/
def Awaited.Received (takes : Text → Prop) : Awaited → Prop
  | .text raw => takes raw
  | .raised exc => Unanswered exc
  | .binary | .timedOut => False
  | .finished _ => True

/-- An operation has not raised what is answered, and meets a condition where it is over. -/
def Awaited.Passed (condition : Option PyExc → Prop) : Awaited → Prop
  | .finished raises => (∀ exc ∈ raises, Unanswered exc) ∧ condition raises
  | .text _ | .raised _ | .binary | .timedOut => True

/-- Nothing is wrong with what a session waits for: the hello is of a device that is locked out
or can be sent a challenge, the response is accepted, what is to be sent is sent; or what goes
wrong is not answered. -/
def Place.Harmless (limits : Limits) (platform : Platform Key) (answers : Answers)
    (service : UnlockService) (awaited : Awaited) : Place → Prop
  | .recvHello admission _ => awaited.Received fun raw =>
      ∃ hello, readObject limits raw = .ok hello ∧
        ∃ deviceId ∈ helloDevice admission service.data hello,
          0 < service.left .device deviceId ∨ Challengeable answers service deviceId
  | .recvResponse identity _ => awaited.Received fun raw =>
      ∃ response, readObject limits raw = .ok response ∧
        Accepting platform service identity.device response
  | .sendChallenge _ _ => awaited.Passed fun raises => Sends raises → Timed service
  | .closing true | .sendRejection _ false | .sendResult => awaited.Passed fun _ => True
  | .closing false | .sendRejection _ true | .done => True

instance (data : Dict) : Decidable (Certified platform data peer) := by
  unfold Certified
  split <;> infer_instance

instance (service : UnlockService) :
    (loaded : Except PyExc Unit × ConfigState) → Decidable (Presented platform service peer loaded)
  | (.error exc, _) => inferInstanceAs (Decidable (Unanswered exc))
  | (.ok _, config) => inferInstanceAs
      (Decidable (0 < service.left .ip peer.ip ∨ Certified platform config.config.data peer))

instance (service : UnlockService) (access : FileAccess) :
    Decidable (Presentable platform service peer access) := by
  unfold Presentable
  infer_instance

instance (service : UnlockService) (device response : Dict) :
    Decidable (Accepting platform service device response) := by
  unfold Accepting
  infer_instance

instance (takes : Text → Prop) [DecidablePred takes] :
    (awaited : Awaited) → Decidable (awaited.Received takes)
  | .text raw => inferInstanceAs (Decidable (takes raw))
  | .raised exc => inferInstanceAs (Decidable (Unanswered exc))
  | .binary | .timedOut => isFalse id
  | .finished _ => isTrue trivial

instance (condition : Option PyExc → Prop) [DecidablePred condition] :
    (awaited : Awaited) → Decidable (awaited.Passed condition)
  | .finished raises =>
      inferInstanceAs (Decidable ((∀ exc ∈ raises, Unanswered exc) ∧ condition raises))
  | .text _ | .raised _ | .binary | .timedOut => isTrue trivial

instance (limits : Limits) (service : UnlockService) (awaited : Awaited) :
    (place : Place) → Decidable (place.Harmless limits platform answers service awaited)
  | .recvHello admission _ => inferInstanceAs (Decidable (awaited.Received fun raw =>
      ∃ hello, readObject limits raw = .ok hello ∧
        ∃ deviceId ∈ helloDevice admission service.data hello,
          0 < service.left .device deviceId ∨ Challengeable answers service deviceId))
  | .recvResponse identity _ => inferInstanceAs (Decidable (awaited.Received fun raw =>
      ∃ response, readObject limits raw = .ok response ∧
        Accepting platform service identity.device response))
  | .sendChallenge _ _ => inferInstanceAs
      (Decidable (awaited.Passed fun raises => Sends raises → Timed service))
  | .closing true | .sendRejection _ false | .sendResult =>
      inferInstanceAs (Decidable (awaited.Passed fun _ => True))
  | .closing false | .sendRejection _ true | .done => isTrue trivial

/-- The code can have locked no key and raised nothing that is answered. -/
def EndsWell (before after : UnlockService) (outcome : Except PyExc Place) : Prop :=
  Eased before after ∧ ∀ exc, outcome = .error exc → Unanswered exc

theorem endsWell_ok {before after : UnlockService} {place : Place} (eased : Eased before after) :
    EndsWell before after (.ok place) := ⟨eased, fun _ failed => nomatch failed⟩

theorem endsWell_error {before : UnlockService} {exc : PyExc} (unanswered : Unanswered exc) :
    EndsWell before before (.error exc) :=
  ⟨refl before, fun _ same => Except.error.inj same ▸ unanswered⟩

theorem sessionStart_endsWell {before after : UnlockService} {outcome : Except PyExc Place}
    (calm : ¬ answers.Faulty)
    (certified : 0 < before.left .ip peer.ip ∨ Certified platform before.data peer)
    (ran : sessionStart platform answers peer before = (outcome, after)) :
    EndsWell before after outcome := by
  unfold sessionStart at ran
  rcases Py.of_bind ran with ⟨exc, failed, _⟩ | ⟨isLocked, middle, tested, rest⟩
  · exact (calm (locked_throws _ _ _ _ _ failed)).elim
  cases isLocked with
  | true =>
      cases rest
      exact endsWell_ok ((locked_eased _ _).after tested)
  | false =>
      obtain ⟨rfl, unlocked⟩ := locked_false platform answers tested
      have inOrder := certified.resolve_left unlocked.not_gt
      rw [if_neg Bool.false_ne_true] at rest
      unfold Certified at inOrder
      cases asked : peer.certificate with
      | error exc =>
          rw [asked] at rest inOrder
          cases rest
          exact endsWell_error inOrder
      | ok certificate =>
          rw [asked] at rest inOrder
          obtain ⟨device, named, required, configured, satisfied⟩ := inOrder
          rw [Py.bind_of_ok (Py.ofExcept_apply _ _), Py.bind_of_ok (Py.read_apply _ _), named,
            Py.bind_of_ok (Py.ofExcept_apply _ _),
            Py.bind_of_ok (configItem_eq_iff.mpr ⟨configured, rfl⟩),
            if_neg fun refused => satisfied refused.1 refused.2] at rest
          cases rest
          exact endsWell_ok (refl _)

theorem connectBody_endsWell {access : FileAccess} {before after : UnlockService}
    {outcome : Except PyExc Place} (calm : ¬ answers.Faulty)
    (presented : Presented platform before peer (reloadIfChanged access before.config))
    (ran : (do
      reloadConfig access
      sessionStart platform answers peer) before = (outcome, after)) :
    EndsWell before after outcome := by
  rcases reloaded : reloadIfChanged access before.config with ⟨loaded, config⟩
  rw [reloaded] at presented
  have loads : reloadConfig access before = (loaded, { before with config := config }) := by
    rw [reloadConfig, Py.zoom_apply, reloaded]
  cases loaded with
  | error exc =>
      rw [Py.bind_of_error loads] at ran
      cases ran
      exact ⟨Eased.of_backoff rfl rfl, fun _ same => Except.error.inj same ▸ presented⟩
  | ok _ =>
      rw [Py.bind_of_ok loads] at ran
      have certified : 0 < before.left .ip peer.ip ∨
        Certified platform config.config.data peer := presented
      obtain ⟨eased, unanswered⟩ := sessionStart_endsWell calm certified ran
      have loading : Eased before { before with config := config } := Eased.of_backoff rfl rfl
      exact ⟨Trans.trans loading eased, unanswered⟩

theorem challengeDevice_endsWell {identity : Identity} {before after : UnlockService}
    {outcome : Except PyExc Place} (calm : ¬ answers.Faulty)
    (ready : 0 < before.left .device identity.deviceId ∨
      Challengeable answers before identity.deviceId)
    (ran : challengeDevice platform answers identity before = (outcome, after)) :
    EndsWell before after outcome := by
  refine ⟨(challengeDevice_eased identity).after ran, ?_⟩
  rintro exc rfl
  rcases ready with isLocked | ready
  · unfold challengeDevice at ran
    rcases Py.of_bind ran with ⟨raised, failed, _⟩ | ⟨passes, middle, tested, rest⟩
    · exact (calm (locked_throws _ _ _ _ _ failed)).elim
    cases passes with
    | true => cases rest
    | false => exact absurd (locked_false platform answers tested).2 isLocked.ne'
  · exact (challengeDevice_returns calm ready ran).elim

/-- A hello that identifies a device goes on to its challenge. -/
theorem afterHello_eq {admission : Admission} {hello : Dict} {deviceId : PyStr}
    {service : UnlockService}
    (identifies : helloDevice admission service.data hello = some deviceId) :
    ∃ identity : Identity, identity.deviceId = deviceId ∧
      afterHello platform answers peer admission hello service =
        challengeDevice platform answers identity service := by
  unfold helloDevice at identifies
  cases field : lookup (py "device_id") hello with
  | none => simp [field] at identifies
  | some value =>
      cases value with
      | str named =>
          simp only [field] at identifies
          split at identifies
          · contradiction
          next isHello =>
            split at identifies
            next device searched =>
              split at identifies
              next hasId =>
                rw [Option.some.injEq] at identifies
                subst identifies
                have looked : ∃ lookupData, lookupDevice admission named service =
                    (.ok (some device, lookupData), service) := by
                  by_cases known : admission.certDevice.getD [] ≠ []
                  · rw [if_pos known, Except.ok.injEq] at searched
                    refine ⟨admission.data, lookupDevice_eq_iff.mpr ⟨rfl, ?_⟩⟩
                    rw [if_pos known, searched]
                  · rw [if_neg known] at searched
                    refine ⟨service.data, lookupDevice_eq_iff.mpr ⟨rfl, ?_⟩⟩
                    rw [if_neg known, searched]
                    rfl
                obtain ⟨lookupData, looked⟩ := looked
                refine ⟨⟨admission, named, device, lookupData⟩, rfl, ?_⟩
                simp only [afterHello, field]
                rw [if_neg isHello, Py.bind_of_ok looked]
                simp only [hasId]
                rw [Py.bind_of_ok (Py.ofExcept_apply _ _), if_neg (not_not_intro rfl)]
              · contradiction
            · contradiction
      | _ => simp [field] at identifies

theorem afterHello_endsWell {admission : Admission} {hello : Dict} {deviceId : PyStr}
    {before after : UnlockService} {outcome : Except PyExc Place} (calm : ¬ answers.Faulty)
    (identifies : helloDevice admission before.data hello = some deviceId)
    (ready : 0 < before.left .device deviceId ∨ Challengeable answers before deviceId)
    (ran : afterHello platform answers peer admission hello before = (outcome, after)) :
    EndsWell before after outcome := by
  have found : ∃ identity : Identity, identity.deviceId = deviceId ∧
      afterHello platform answers peer admission hello before =
        challengeDevice platform answers identity before := afterHello_eq identifies
  obtain ⟨identity, rfl, same⟩ := found
  rw [same] at ran
  exact challengeDevice_endsWell calm ready ran

/-- An accepted response locks no key. -/
theorem afterResponse_endsWell {identity : Identity} {response : Dict}
    {before after : UnlockService} {outcome : Except PyExc Place} (calm : ¬ answers.Faulty)
    (accepting : Accepting platform before identity.device response)
    (ran : afterResponse platform answers session peer identity response before =
      (outcome, after)) : EndsWell before after outcome := by
  obtain ⟨isResponse, verdict, returned, accepted⟩ := accepting
  unfold afterResponse at ran
  rw [if_neg (not_not_intro isResponse)] at ran
  rcases judged : checkResponse platform identity.device (lookup (py "nonce") response)
    (lookup (py "signature") response) before with ⟨outcome, middle⟩
  rw [judged] at returned
  cases returned
  cases verdict with
  | refused reason => contradiction
  | accepted nonce entry =>
      have popping : Eased before middle := (checkResponse_eased _ _ _).after judged
      rw [Py.bind_of_ok judged] at ran
      refine ⟨Trans.trans popping ((succeed_eased _ _ _ _).after ran), ?_⟩
      rintro exc rfl
      obtain ⟨_, rfl, checked⟩ := checkResponse_accepted judged
      obtain ⟨target, _, _, _, configured, _⟩ := checked.verified
      refine (calm (succeed_faulty ?_ ran)).elim
      exact ⟨target, configured⟩

theorem sent_endsWell {raises : Option PyExc} (passes : ∀ exc ∈ raises, Unanswered exc) :
    Py.Throws Unanswered (sent raises) :=
  Py.Throws.raiseIf fun exc isRaised => passes exc (Option.mem_filter_iff.mp isRaised).1

theorem sends_of_sent {raises : Option PyExc} {before after : UnlockService} {value : Unit}
    (ended : sent raises before = (.ok value, after)) : Sends raises := by
  intro exc isRaised
  by_contra opened
  have kept : raises.filter (fun exc => exc.kind ≠ .connectionClosed) = some exc := by
    rw [Option.mem_def.mp isRaised, Option.filter_some, if_pos (decide_eq_true opened)]
  rw [sent, kept] at ended
  cases ended

/-- What waiting for a message comes to: one that is taken, or what is not answered. -/
theorem Awaited.Received.message {limits : Limits} {takes : Dict → Prop} {awaited : Awaited}
    {message : Except PyExc Dict}
    (harmless : awaited.Received fun raw => ∃ members, readObject limits raw = .ok members ∧
      takes members)
    (arrived : received awaited = some message) :
    (∃ members, message = .ok members ∧ takes members) ∨
      ∃ exc, message = .error exc ∧ Unanswered exc := by
  cases awaited with
  | finished => contradiction
  | text raw =>
      obtain ⟨members, read, taken⟩ := harmless
      rw [received_of_readObject read] at arrived
      exact .inl ⟨members, (Option.some.inj arrived).symm, taken⟩
  | raised exc => exact .inr ⟨exc, (Option.some.inj arrived).symm, harmless⟩
  | binary => exact harmless.elim
  | timedOut => exact harmless.elim

/-- The code between two awaits. -/
theorem sessionBody_endsWell {limits : Limits} {place : Place} {awaited : Awaited}
    {body : Py UnlockService Place} {before after : UnlockService} {outcome : Except PyExc Place}
    (calm : ¬ answers.Faulty)
    (harmless : place.Harmless limits platform answers before awaited)
    (runs : sessionBody platform answers session peer place awaited = some body)
    (ran : body before = (outcome, after)) : EndsWell before after outcome := by
  have ends : ∀ {program : Py UnlockService Place}, Py.Keeps Eased program →
      Py.Throws Unanswered program → program before = (outcome, after) →
        EndsWell before after outcome := by
    intro program keeps throws ended
    refine ⟨keeps.after ended, ?_⟩
    rintro exc rfl
    exact throws _ _ _ ended
  unfold sessionBody at runs
  split at runs
  next raises =>
    cases runs
    apply ends _ _ ran
    · exact Py.Keeps.bind (Py.Keeps.raiseIf _) fun _ => Py.Keeps.pure _
    · exact Py.Throws.bind (Py.Throws.raiseIf harmless.1) fun _ => Py.Throws.pure _
  next admission deadline =>
    obtain ⟨message, arrived, rfl⟩ := Option.map_eq_some_iff.mp runs
    rcases Awaited.Received.message harmless arrived with
      ⟨hello, rfl, deviceId, identifies, ready⟩ | ⟨exc, rfl, unanswered⟩
    · exact afterHello_endsWell calm identifies ready ran
    · cases ran
      exact endsWell_error unanswered
  next identity challenge raises =>
    cases runs
    obtain ⟨passes, timed⟩ := harmless
    rcases Py.of_bind ran with ⟨exc, failed, same⟩ | ⟨_, middle, ended, rest⟩
    · cases same
      have kept : Py.Keeps Eased (sent raises) := sent_keeps _
      refine ⟨kept.after failed, ?_⟩
      rintro _ ⟨⟩
      exact sent_endsWell passes _ _ _ failed
    · have same : before = middle := (Py.Keeps.raiseIf _).after ended
      subst same
      refine ⟨(afterChallenge_keeps identity).after rest, ?_⟩
      rintro exc rfl
      exact (afterChallenge_returns (timed (sends_of_sent ended)) rest).elim
  next identity deadline =>
    obtain ⟨message, arrived, rfl⟩ := Option.map_eq_some_iff.mp runs
    rcases Awaited.Received.message harmless arrived with
      ⟨response, rfl, accepting⟩ | ⟨exc, rfl, unanswered⟩
    · exact afterResponse_endsWell calm accepting ran
    · cases ran
      exact endsWell_error unanswered
  next hits raises =>
    cases runs
    apply ends _ _ ran
    · refine Py.Keeps.bind (sent_keeps _) fun _ => ?_
      exact Py.Keeps.bind (failRest_eased _) fun _ => Py.Keeps.pure _
    · refine Py.Throws.bind (sent_endsWell harmless.1) fun _ => ?_
      refine Py.Throws.bind ?_ fun _ => Py.Throws.pure _
      exact (failRest_throws _).imp fun _ faulty => (calm faulty).elim
  next raises =>
    cases runs
    apply ends _ _ ran
    · exact Py.Keeps.bind (sent_keeps _) fun _ => Py.Keeps.pure _
    · exact Py.Throws.bind (sent_endsWell harmless.1) fun _ => Py.Throws.pure _
  · contradiction

end Harmless

/-! ## Steps of the world -/

section World

variable {Key : Type} {platform : Platform Key}

/-- The keys a step may call `fail` for. -/
def World.failing (world : World platform) : Label → List (LockKind × PyStr)
  | .connect session peer _ _ =>
      if (world.sessions session).isNone then [(.ip, peer.ip)] else []
  | .resume session awaited _ =>
      match world.sessions session with
      | none => []
      | some current =>
          if possible world.service.time current.place awaited then
            current.place.failing current.peer.ip awaited
          else []
  | _ => []

/-- Nothing is wrong with what a session meets in a step. -/
def World.Harmless (limits : Limits) (world : World platform) : Label → Prop
  | .connect _ peer access _ => Presentable platform world.service peer access
  | .resume session awaited answers => ∀ current ∈ world.sessions session,
      current.place.Harmless limits platform answers world.service awaited
  | _ => True

instance (limits : Limits) (world : World platform) :
    (label : Label) → Decidable (world.Harmless limits label)
  | .connect _ peer access _ =>
      inferInstanceAs (Decidable (Presentable platform world.service peer access))
  | .resume session awaited answers =>
      inferInstanceAs (Decidable (∀ current ∈ world.sessions session,
        current.place.Harmless limits platform answers world.service awaited))
  | .tick _ | .change _ | .hangUp _ | .pamConnect _ _ _ | .pamResume _ _ _ => isTrue trivial

/-- A step may call `fail` so often for one of its keys. -/
def World.MayFail (limits : Limits) (world : World platform) (label : Label) (failures : ℕ) :
    Prop :=
  failures = 1 ∧ ¬ world.Harmless limits label ∨ failures = 2 ∧ ¬ label.Recorded

/-- What a step can lock: so many failures of its keys. -/
def World.Locks (limits : Limits) (world : World platform) (label : Label)
    (after : UnlockService) : Prop :=
  Strained (world.failing label) 2 world.service after ∧
    (label.Recorded → Strained (world.failing label) 1 world.service after) ∧
      (label.Recorded → world.Harmless limits label → Eased world.service after)

variable {limits : Limits}

theorem Eased.locks {world : World platform} {label : Label} {after : UnlockService}
    (eased : Eased world.service after) : world.Locks limits label after :=
  ⟨eased.strained, fun _ => eased.strained, fun _ _ => eased⟩

theorem connect_locks {world : World platform} {session : ℕ} {peer : Peer} {access : FileAccess}
    {answers : Answers} {after : UnlockService} {next : Place}
    (fresh : world.sessions session = none)
    (ran : connect platform answers peer access world.service = (after, next)) :
    world.Locks limits (.connect session peer access answers) after := by
  unfold connect at ran
  split at ran
  · cases ran
    exact Eased.locks (refl _)
  next below =>
    have entering : Eased world.service { world.service with active := world.service.active + 1 } :=
      Eased.of_backoff rfl rfl
    have strains : Strains answers [(.ip, peer.ip)] (do
        reloadConfig access
        sessionStart platform answers peer) :=
      Strains.bind (reloadConfig_eased access) fun _ => sessionStart_strains
    obtain ⟨twice, once⟩ := handled_strained strains (List.mem_singleton_self _) ran
    rw [World.Locks, World.failing, if_pos (by rw [fresh]; rfl)]
    refine ⟨entering.behind twice, fun calm => entering.behind (once calm),
      fun calm presentable => ?_⟩
    have eased : Eased { world.service with active := world.service.active + 1 } after :=
      handled_eased (fun outcome middle ended =>
        connectBody_endsWell calm (presentable below) ended) ran
    exact Trans.trans entering eased
  · cases ran
    exact Eased.locks (refl _)

theorem resume_locks {world : World platform} {session : ℕ} {awaited : Awaited}
    {answers : Answers} {current : Session platform} {after : UnlockService} {next : Place}
    (found : world.sessions session = some current)
    (allowed : possible world.service.time current.place awaited = true)
    (ran : resume platform answers session current.peer current.place awaited world.service =
      some (after, next)) : world.Locks limits (.resume session awaited answers) after := by
  unfold resume at ran
  split at ran
  · cases ran
    exact Eased.locks (refl _)
  next hits raises isPlace =>
    rw [Option.some.injEq] at ran
    have keeps : Py.Keeps Eased (do
        sent raises
        failRest platform answers hits
        pure Place.done) := by
      refine Py.Keeps.bind (sent_keeps _) fun _ => ?_
      exact Py.Keeps.bind (failRest_eased _) fun _ => Py.Keeps.pure _
    exact Eased.locks (Trans.trans (keeps world.service) (finished_eased rfl ran))
  · obtain ⟨body, runs, ended⟩ := Option.map_eq_some_iff.mp ran
    obtain ⟨twice, once⟩ := handled_strained (sessionBody_strains runs)
      (Place.ip_mem_failing _ _ _) ended
    simp only [World.Locks, World.failing, found, if_pos allowed]
    refine ⟨twice, once, fun calm harmless => handled_eased (fun outcome middle ran => ?_) ended⟩
    exact sessionBody_endsWell calm (harmless current found) runs ran

/-- What one step can lock. -/
theorem StepCase.locks {before after : World platform} {label : Label}
    (moved : StepCase before label after) (calm : ∀ duration, label ≠ .tick duration) :
    before.Locks limits label after.service := by
  cases moved with
  | idle => exact Eased.locks (refl _)
  | tick duration => exact (calm duration rfl).elim
  | change => exact Eased.locks (Eased.of_backoff rfl rfl)
  | hangUp => exact Eased.locks (Eased.of_backoff rfl rfl)
  | connect session peer access answers service next known account fresh ran =>
      exact connect_locks fresh ran
  | resume session awaited answers current service next known account found allowed ran =>
      exact resume_locks found allowed ran
  | pamConnect request credentials answers service next passed fresh ran =>
      have eased := (eased_requests platform).pamConnect answers request credentials before.service
      rw [ran] at eased
      exact Eased.locks eased
  | pamResume request awaited answers current service next passed found allowed ran =>
      exact Eased.locks ((eased_requests platform).pamResume ran)

/-- A key that is not locked stays so in a step that does not fail it, or that it withstands. -/
theorem StepCase.unlocked {before after : World platform} {label : Label}
    (moved : StepCase before label after) {kind : LockKind} {key : PyStr}
    (unlocked : before.service.left kind key = 0)
    (withstands : (kind, key) ∈ before.failing label → ∀ failures,
      before.MayFail limits label failures →
        (before.service.backoff kind).Withstands before.service.time key failures) :
    after.service.left kind key = 0 := by
  by_cases isTick : ∃ duration, label = .tick duration
  · obtain ⟨duration, rfl⟩ := isTick
    cases moved with
    | idle => exact unlocked
    | tick =>
        have later := time_le_elapsed duration before.service
        have shorter := (before.service.backoff kind).remaining_antitone later key
        exact le_antisymm (shorter.trans unlocked.le) (Backoff.remaining_nonneg _ _ _)
  · have locks : before.Locks limits label after.service :=
      moved.locks fun duration same => isTick ⟨duration, same⟩
    by_cases recorded : label.Recorded
    · by_cases harmless : before.Harmless limits label
      · exact (locks.2.2 recorded harmless).unlocked unlocked fun listed => nomatch listed
      · exact (locks.2.1 recorded).unlocked unlocked fun listed =>
          withstands listed 1 (.inl ⟨rfl, harmless⟩)
    · exact locks.1.unlocked unlocked fun listed => withstands listed 2 (.inr ⟨rfl, recorded⟩)

end World

end RemoteUnlock.Listener
