import RemoteUnlock.Listener.Pam
import RemoteUnlock.Listener.Quiet

/-!
# What one step of a PAM request does

Between two awaits a request leaves the grant as it was, also to the other requests, or
it takes a grant that is alive; and it takes one only when its user id and its user have
passed their checks.  `pamConnect_effect` and `pamResume_effect` say so for the code, the
reply included.
-/

namespace RemoteUnlock.Listener

open Python Python.Items Common Audit

/-! ## Effects -/

/-- Nothing changes for the sessions. -/
structure Aside (before after : UnlockService) : Prop where
  config : after.config = before.config
  now : after.now = before.now
  left : ∀ kind key, before.left kind key ≤ after.left kind key
  pending : ∀ nonce entry, after.pending.get nonce = some entry →
    before.pending.get nonce = some entry

theorem Quiet.aside {before after : UnlockService} (calm : Quiet before after) :
    Aside before after := ⟨calm.config, calm.now, calm.left, calm.pending⟩

theorem Aside.trans {first second third : UnlockService} (start : Aside first second)
    (rest : Aside second third) : Aside first third where
  config := rest.config.trans start.config
  now := rest.now.trans start.now
  left kind key := (start.left kind key).trans (rest.left kind key)
  pending nonce entry found := start.pending nonce entry (rest.pending nonce entry found)

/-- A request leaves the grant as it was. -/
structure Spared (request : ℕ) (before after : UnlockService) : Prop
    extends Aside before after where
  broker : before.broker.Spares request before.time after.broker
  history : after.history = before.history

theorem Quiet.spared {before after : UnlockService} (calm : Quiet before after) (request : ℕ) :
    Spared request before after :=
  { calm.aside with
    broker := by
      rw [calm.broker]
      exact GrantBroker.Spares.refl _ _ _
    history := calm.history }

theorem time_of_now {before after : UnlockService} (same : after.now = before.now) :
    after.time = before.time := by
  unfold UnlockService.time
  rw [same]

theorem Spared.trans {request : ℕ} {first second third : UnlockService}
    (start : Spared request first second) (rest : Spared request second third) :
    Spared request first third :=
  { start.toAside.trans rest.toAside with
    broker := start.broker.trans (time_of_now start.now ▸ rest.broker)
    history := rest.history.trans start.history }

/-- A request takes a grant that is alive. -/
structure Takes (request : ℕ) (taking : Taking) (before after : UnlockService) : Prop
    extends Aside before after where
  live : before.time < before.broker.expires
  ttl : after.broker.ttl = before.broker.ttl
  expires : after.broker.expires = 0
  history : after.history = before.history ++ [.taken request taking]
  time : taking.time = before.time

theorem Takes.quiet {request : ℕ} {taking : Taking} {first second third : UnlockService}
    (takes : Takes request taking first second) (rest : Quiet second third) :
    Takes request taking first third :=
  { takes.toAside.trans rest.aside with
    live := takes.live
    ttl := by rw [rest.broker, takes.ttl]
    expires := by rw [rest.broker, takes.expires]
    history := rest.history.trans takes.history
    time := takes.time }

theorem Spared.takes {request : ℕ} {taking : Taking} {first second third : UnlockService}
    (start : Spared request first second) (takes : Takes request taking second third) :
    Takes request taking first third :=
  { start.toAside.trans takes.toAside with
    live := by
      have live := takes.live
      rwa [time_of_now start.now, start.broker.expires] at live
    ttl := takes.ttl.trans start.broker.ttl
    expires := takes.expires
    history := by rw [takes.history, start.history]
    time := takes.time.trans (time_of_now start.now) }

/-- The state in which a request has got some answers. -/
def said (service : UnlockService) (events : List Event) : UnlockService :=
  { service with history := service.history ++ events }

/-- What a request has passed when it is let through to the grant. -/
structure Cleared (taking : Taking) : Prop where
  uid : uidAllowed taking.uid taking.uidData = .ok true
  user : userMatches taking.request taking.userData = .ok true

/-- The checks a request has passed in the place where it waits. -/
def PamPlace.Passed : PamPlace → Prop
  | .readline credentials uidData _ => uidAllowed credentials.uid uidData = .ok true
  | .consuming credentials uidData message userData _ =>
      uidAllowed credentials.uid uidData = .ok true ∧ userMatches message userData = .ok true
  | _ => True

/-- The configurations the checks of a waiting request were made in. -/
def PamPlace.datas : PamPlace → List Dict
  | .readline _ uidData _ => [uidData]
  | .consuming _ uidData _ userData _ => [uidData, userData]
  | _ => []

/-- Those of the checks of a request that has taken a grant. -/
def Taking.datas (taking : Taking) : List Dict := [taking.uidData, taking.userData]

/-- How the code in front of the `finally` clause can end: the grant is spared, or taken
with everything checked in the given configurations. -/
inductive PamCase (request : ℕ) (datas : List Dict) (before after : UnlockService) :
    Except PyExc PamStep → Prop where
  | waits (place : PamPlace) (spared : Spared request before after) (passed : place.Passed)
      (dated : place.datas ⊆ datas) : PamCase request datas before after (.ok (.waits place))
  | refused (spared : Spared request before after) :
      PamCase request datas before after (.ok (.ends none))
  | raised (exc : PyExc) (spared : Spared request before after) :
      PamCase request datas before after (.error exc)
  | takes (taking : Taking) (takes : Takes request taking before after)
      (cleared : Cleared taking) (dated : taking.datas ⊆ datas) :
      PamCase request datas before after (.ok (.ends (some taking)))
  | lost (taking : Taking) (exc : PyExc) (takes : Takes request taking before after)
      (cleared : Cleared taking) (dated : taking.datas ⊆ datas) :
      PamCase request datas before after (.error exc)

theorem Spared.case {request : ℕ} {datas : List Dict} {first second third : UnlockService}
    {outcome : Except PyExc PamStep} (start : Spared request first second)
    (rest : PamCase request datas second third outcome) :
    PamCase request datas first third outcome := by
  cases rest with
  | waits place spared passed dated => exact .waits place (start.trans spared) passed dated
  | refused spared => exact .refused (start.trans spared)
  | raised exc spared => exact .raised exc (start.trans spared)
  | takes taking takes cleared dated => exact .takes taking (start.takes takes) cleared dated
  | lost taking exc takes cleared dated =>
      exact .lost taking exc (start.takes takes) cleared dated

/-! ## The code in front of the `finally` clause -/

section HandlePam

variable {Key : Type} {platform : Platform Key} {answers : Answers} {request : ℕ}
  {datas : List Dict}

theorem recordConsume_quiet (platform : Platform Key) (answers : Answers)
    (credentials : Credentials) (message : Dict) (ok : Bool) :
    Py.Keeps Quiet (recordConsume platform answers credentials message ok) := by
  unfold recordConsume
  refine Py.Keeps.bind (Py.Keeps.ofExcept _) fun user => ?_
  exact Py.Keeps.bind (record_quiet platform answers _ _ _ _ _) fun _ => Py.Keeps.pure _

theorem afterRefused_case {credentials : Credentials} {message : Dict}
    {before after : UnlockService} {outcome : Except PyExc PamStep}
    (ran : afterRefused platform answers credentials message before = (outcome, after)) :
    PamCase request datas before after outcome := by
  have calm := recordConsume_quiet platform answers credentials message false
  unfold afterRefused at ran
  rcases Py.of_bind ran with ⟨exc, ended, rfl⟩ | ⟨value, middle, ended, rest⟩
  · exact .raised exc ((calm.after ended).spared request)
  · cases rest
    exact .refused ((calm.after ended).spared request)

theorem afterTaken_case {credentials : Credentials} {taking : Taking}
    {before middle after : UnlockService} {outcome : Except PyExc PamStep}
    (takes : Takes request taking before
      { middle with history := middle.history ++ [.taken request taking] })
    (cleared : Cleared taking) (dated : taking.datas ⊆ datas)
    (ran : afterTaken platform answers request credentials taking middle = (outcome, after)) :
    PamCase request datas before after outcome := by
  have calm := recordConsume_quiet platform answers credentials taking.request true
  unfold afterTaken at ran
  rw [Py.bind_of_ok (Py.modify_apply _ _)] at ran
  rcases Py.of_tryExcept ran with ⟨step, ended, rfl⟩ | ⟨exc, final, ended, handles⟩
  · rcases Py.of_bind ended with ⟨exc, _, failed⟩ | ⟨value, final, recorded, rest⟩
    · contradiction
    · cases rest
      exact .takes taking (takes.quiet (calm.after recorded)) cleared dated
  · rcases Py.of_bind ended with ⟨exc, recorded, same⟩ | ⟨value, final, recorded, rest⟩
    · split at handles
      · cases handles
        exact .lost taking _ (takes.quiet (calm.after recorded)) cleared dated
      · cases handles
        exact .takes taking (takes.quiet (calm.after recorded)) cleared dated
    · cases rest

theorem consumeTurn_case {credentials : Credentials} {uidData message userData : Dict}
    {deadline : Option ℚ} {before after : UnlockService} {outcome : Except PyExc PamStep}
    (uid : uidAllowed credentials.uid uidData = .ok true)
    (user : userMatches message userData = .ok true) (dated : [uidData, userData] ⊆ datas)
    (ran : consumeTurn platform answers request credentials uidData message userData deadline
      before = (outcome, after)) : PamCase request datas before after outcome := by
  unfold consumeTurn at ran
  rw [Py.bind_of_ok (Py.read_apply _ _), Py.bind_of_ok (Py.zoom_apply _ _ _ _)] at ran
  rcases before.broker.turn_cases before.time deadline request with
    ⟨taken, live, turned⟩ | ⟨other, _, spares⟩
  · simp only [taken, turned] at ran
    have takes : Takes request ⟨credentials.uid, message, uidData, userData, before.time⟩ before
        (said { before with
          broker := { before.broker with expires := 0, event := before.broker.event.clear } }
          [.taken request ⟨credentials.uid, message, uidData, userData, before.time⟩]) :=
      ⟨⟨rfl, rfl, fun _ _ => le_refl _, fun _ _ found => found⟩, live, rfl, rfl, rfl, rfl⟩
    exact afterTaken_case takes ⟨uid, user⟩ dated ran
  · have spared : Spared request before { before with
        broker := (before.broker.turn before.time deadline request).2 } :=
      ⟨⟨rfl, rfl, fun _ _ => le_refl _, fun _ _ found => found⟩, spares, rfl⟩
    cases turned : (before.broker.turn before.time deadline request).1 with
    | taken => exact (other turned).elim
    | refused =>
        simp only [turned] at ran
        exact spared.case (afterRefused_case ran)
    | waits =>
        simp only [turned] at ran
        cases ran
        exact .waits _ spared ⟨uid, user⟩ dated

theorem afterLine_case {credentials : Credentials} {uidData : Dict} {raw : Bytes}
    {before after : UnlockService} {outcome : Except PyExc PamStep}
    (uid : uidAllowed credentials.uid uidData = .ok true)
    (dated : [uidData, before.data] ⊆ datas)
    (ran : afterLine platform answers request credentials uidData raw before =
      (outcome, after)) : PamCase request datas before after outcome := by
  unfold afterLine at ran
  rcases Py.of_bind ran with ⟨exc, ended, rfl⟩ | ⟨message, _, parsed, rest⟩
  · rcases Py.ofExcept_eq_iff.mp ended with ⟨_, rfl⟩
    exact .raised exc ((Quiet.refl _).spared request)
  rcases Py.ofExcept_eq_iff.mp parsed with ⟨_, rfl⟩
  rw [Py.bind_of_ok (Py.read_apply _ _)] at rest
  rcases Py.of_bind rest with ⟨exc, ended, rfl⟩ | ⟨same, _, compares, rest⟩
  · rcases Py.ofExcept_eq_iff.mp ended with ⟨_, rfl⟩
    exact .raised exc ((Quiet.refl _).spared request)
  rcases Py.ofExcept_eq_iff.mp compares with ⟨isSame, rfl⟩
  cases same with
  | true =>
      rcases Py.of_bind rest with ⟨exc, ended, rfl⟩ | ⟨wait, _, configured, rest⟩
      · exact .raised exc (((configItem_quiet _).after ended).spared request)
      rcases configItem_eq_iff.mp configured with ⟨_, rfl⟩
      rw [Py.bind_of_ok (Py.read_apply _ _)] at rest
      rcases Py.of_bind rest with ⟨exc, ended, rfl⟩ | ⟨deadline, _, computed, rest⟩
      · rcases Py.ofExcept_eq_iff.mp ended with ⟨_, rfl⟩
        exact .raised exc ((Quiet.refl _).spared request)
      rcases Py.ofExcept_eq_iff.mp computed with ⟨_, rfl⟩
      exact consumeTurn_case uid isSame dated rest
  | false =>
      have calm := record_quiet platform answers "pam_denied" none "default" []
        [(py "user", .str ((platform.str ((lookup (py "user") message).getD .null)).take 64)),
          (py "uid", .int credentials.uid)]
      rcases Py.of_bind rest with ⟨exc, ended, rfl⟩ | ⟨value, middle, ended, rest⟩
      · exact .raised exc ((calm.after ended).spared request)
      · cases rest
        exact .refused ((calm.after ended).spared request)

theorem pamStart_case {credentials : Except PyExc Credentials} {before after : UnlockService}
    {outcome : Except PyExc PamStep}
    (dated : before.data ∈ datas)
    (ran : pamStart platform answers credentials before = (outcome, after)) :
    PamCase request datas before after outcome := by
  unfold pamStart at ran
  rcases Py.of_bind ran with ⟨exc, ended, rfl⟩ | ⟨credentials, _, known, rest⟩
  · rcases Py.ofExcept_eq_iff.mp ended with ⟨_, rfl⟩
    exact .raised exc ((Quiet.refl _).spared request)
  rcases Py.ofExcept_eq_iff.mp known with ⟨_, rfl⟩
  rw [Py.bind_of_ok (Py.read_apply _ _)] at rest
  rcases Py.of_bind rest with ⟨exc, ended, rfl⟩ | ⟨allowed, _, tested, rest⟩
  · rcases Py.ofExcept_eq_iff.mp ended with ⟨_, rfl⟩
    exact .raised exc ((Quiet.refl _).spared request)
  rcases Py.ofExcept_eq_iff.mp tested with ⟨isAllowed, rfl⟩
  cases allowed with
  | true =>
      rw [if_pos rfl, Py.bind_of_ok (Py.read_apply _ _)] at rest
      cases rest
      exact .waits _ ((Quiet.refl _).spared request) isAllowed (by simpa [PamPlace.datas])
  | false =>
      have calm := record_quiet platform answers "pam_denied"
        (some "PAM request from disallowed uid") "high" ["no_entry"]
        [(py "uid", .int credentials.uid), (py "pid", .int credentials.pid)]
      rcases Py.of_bind rest with ⟨exc, ended, rfl⟩ | ⟨value, middle, ended, rest⟩
      · exact .raised exc ((calm.after ended).spared request)
      · cases rest
        exact .refused ((calm.after ended).spared request)

theorem leaveWait_spared (request : ℕ) (service : UnlockService) :
    Spared request service { service with broker := service.broker.leave request } :=
  ⟨⟨rfl, rfl, fun _ _ => le_refl _, fun _ _ found => found⟩,
    GrantBroker.leave_spares request service.broker service.time, rfl⟩

theorem pamBody_case {place : PamPlace} {awaited : PamAwaited}
    {body : Py UnlockService PamStep} (passed : place.Passed)
    (runs : pamBody platform answers request place awaited = some body)
    {before after : UnlockService} {outcome : Except PyExc PamStep}
    (dated : place.datas ⊆ datas) (current : before.data ∈ datas)
    (ran : body before = (outcome, after)) : PamCase request datas before after outcome := by
  unfold pamBody at runs
  split at runs
  next credentials uidData deadline raw =>
    cases runs
    exact afterLine_case passed (by simpa [PamPlace.datas, current] using dated) ran
  next credentials uidData deadline exc =>
    cases runs
    cases ran
    exact .raised exc ((Quiet.refl _).spared request)
  next credentials uidData deadline =>
    cases runs
    cases ran
    exact .raised _ ((Quiet.refl _).spared request)
  next credentials uidData message userData deadline =>
    cases runs
    rw [leaveWait, Py.bind_of_ok (Py.modify_apply _ _)] at ran
    exact (leaveWait_spared request before).case (consumeTurn_case passed.1 passed.2 dated ran)
  next credentials uidData message userData deadline exc =>
    cases runs
    cases ran
    exact .raised exc (leaveWait_spared request before)
  next credentials uidData message userData deadline =>
    cases runs
    rw [leaveWait, Py.bind_of_ok (Py.modify_apply _ _)] at ran
    exact (leaveWait_spared request before).case (afterRefused_case ran)
  · contradiction

/-! ## The reply -/

/-- What a request can do between two awaits, with its reply. -/
inductive PamEffect (request : ℕ) (datas : List Dict) (before after : UnlockService) :
    Prop where
  | spares (middle : UnlockService) (events : List Event) (spared : Spared request before middle)
      (silent : events = [] ∨ events = [.denied request]) (final : after = said middle events) :
      PamEffect request datas before after
  | takes (middle : UnlockService) (events : List Event) (taking : Taking)
      (takes : Takes request taking before middle) (cleared : Cleared taking)
      (dated : taking.datas ⊆ datas)
      (replies : events = [] ∨ events = [.denied request] ∨ events = [.granted request taking])
      (final : after = said middle events) : PamEffect request datas before after

theorem said_nil (service : UnlockService) : said service [] = service := by
  simp [said]

theorem reply_denied {before after : UnlockService} {next : PamPlace}
    (ran : reply answers request none before = (after, next)) :
    (next.Passed ∧ next.datas = []) ∧ ∃ events, (events = [] ∨ events = [.denied request]) ∧
      after = said before events := by
  unfold reply at ran
  split at ran
  · cases ran
    exact ⟨⟨trivial, rfl⟩, [], .inl rfl, (said_nil _).symm⟩
  · cases ran
    exact ⟨⟨trivial, rfl⟩, _, .inr rfl, rfl⟩

theorem reply_granted {taking : Taking} {before after : UnlockService} {next : PamPlace}
    (ran : reply answers request (some taking) before = (after, next)) :
    (next.Passed ∧ next.datas = []) ∧ ∃ events, (events = [] ∨ events = [.granted request taking]) ∧
      after = said before events := by
  unfold reply at ran
  split at ran
  · cases ran
    exact ⟨⟨trivial, rfl⟩, [], .inl rfl, (said_nil _).symm⟩
  · cases ran
    exact ⟨⟨trivial, rfl⟩, _, .inr rfl, rfl⟩

/-- The first step of a request, or one behind an await, with its reply. -/
theorem concluded_effect {body : Py UnlockService PamStep} {before after : UnlockService}
    {next : PamPlace}
    (holds : ∀ outcome middle, body before = (outcome, middle) →
      PamCase request datas before middle outcome)
    (ran : concluded answers request body before = (after, next)) :
    PamEffect request datas before after ∧ next.Passed ∧ next.datas ⊆ datas := by
  unfold concluded at ran
  rcases first : body before with ⟨outcome, middle⟩
  have start := holds _ _ first
  rw [first] at ran
  cases start with
  | waits place spared passed dated =>
      cases ran
      exact ⟨.spares _ [] spared (.inl rfl) (said_nil _).symm, passed, dated⟩
  | refused spared =>
      rcases reply_denied ran with ⟨⟨passed, ended⟩, events, silent, final⟩
      exact ⟨.spares _ events spared silent final, passed, by simp [ended]⟩
  | raised exc spared =>
      rcases reply_denied ran with ⟨⟨passed, ended⟩, events, silent, final⟩
      exact ⟨.spares _ events spared silent final, passed, by simp [ended]⟩
  | takes taking takes cleared dated =>
      rcases reply_granted ran with ⟨⟨passed, ended⟩, events, replies, final⟩
      exact ⟨.takes _ events taking takes cleared dated (replies.imp_right .inr) final, passed,
        by simp [ended]⟩
  | lost taking exc takes cleared dated =>
      rcases reply_denied ran with ⟨⟨passed, ended⟩, events, replies, final⟩
      exact ⟨.takes _ events taking takes cleared dated (replies.imp_right .inl) final, passed,
        by simp [ended]⟩

theorem pamConnect_effect {credentials : Except PyExc Credentials}
    {before after : UnlockService} {next : PamPlace}
    (ran : pamConnect platform answers request credentials before = (after, next)) :
    PamEffect request [before.data] before after ∧ next.Passed ∧ next.datas ⊆ [before.data] :=
  concluded_effect (fun _ _ => pamStart_case (List.mem_singleton_self _)) ran

theorem pamResume_effect {place next : PamPlace} {awaited : PamAwaited}
    {before after : UnlockService} (passed : place.Passed)
    (ran : pamResume platform answers request place awaited before = some (after, next)) :
    PamEffect request (place.datas ++ [before.data]) before after ∧ next.Passed ∧
      next.datas ⊆ place.datas ++ [before.data] := by
  unfold pamResume at ran
  split at ran
  · cases ran
    exact ⟨.spares _ [] ((Quiet.refl _).spared request) (.inl rfl) (said_nil _).symm, trivial,
      by simp [PamPlace.datas]⟩
  · rcases Option.map_eq_some_iff.mp ran with ⟨body, runs, ended⟩
    exact concluded_effect (fun _ _ => pamBody_case passed runs
      (List.subset_append_left _ _) (by simp)) ended

end HandlePam

end RemoteUnlock.Listener
