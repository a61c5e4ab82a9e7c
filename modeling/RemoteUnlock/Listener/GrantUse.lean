import RemoteUnlock.Library.Matching
import RemoteUnlock.Listener.World

/-!
# Grants are used once

While the broker holds a grant that can be taken, the latest issuing or taking is the
issuing of that grant.  So every taking maps to a grant of its own, and every reply `1`
to the taking directly in front of it.  A request that is denied (`PamPlace.Denied`), or
that takes no grant in a step for whatever reason, leaves the grant as it was.
-/

namespace RemoteUnlock.Listener

open Python Python.Items Common Audit Library

variable {Key : Type} {platform : Platform Key}

/-! ## What a step does to the grant -/

def issuesGrant : Event → Option Unit
  | .grant _ _ => some ()
  | _ => none

def takesGrant : Event → Option Unit
  | .taken _ _ => some ()
  | _ => none

/-- The request that takes the grant. -/
def takenBy : Event → Option ℕ
  | .taken request _ => some request
  | _ => none

/-- The request that is answered with `1`. -/
def repliesTo : Event → Option ℕ
  | .granted request _ => some request
  | _ => none

/-- Events that are neither grants nor takings nor replies `1`. -/
def Idle (events : List Event) : Prop :=
  ∀ event ∈ events, issuesGrant event = none ∧ takesGrant event = none ∧
    takenBy event = none ∧ repliesTo event = none

/-- What a step does to the grant. -/
inductive Handling (loaded : List Dict) (before after : UnlockService) : Prop where
  | spares (events : List Event) (idle : Idle events) (time : before.now ≤ after.now)
      (history : after.history = before.history ++ events)
      (ttl : after.broker.ttl = before.broker.ttl)
      (expires : after.broker.expires = before.broker.expires) : Handling loaded before after
  | issues (session : ℕ) (grant : Grant) (events : List Event) (idle : Idle events)
      (time : after.now = before.now) (issued : grant.time = before.time)
      (history : after.history = before.history ++ .grant session grant :: events)
      (broker : after.broker = before.broker.issue before.time) : Handling loaded before after
  | takes (request : ℕ) (taking : Taking) (events : List Event) (time : after.now = before.now)
      (taken : taking.time = before.time)
      (history : after.history = before.history ++ .taken request taking :: events)
      (replies : events = [] ∨ events = [.denied request] ∨ events = [.granted request taking])
      (live : before.time < before.broker.expires) (ttl : after.broker.ttl = before.broker.ttl)
      (expires : after.broker.expires = 0) (cleared : Cleared taking)
      (dated : taking.datas ⊆ loaded) : Handling loaded before after

theorem Steady.handling {before after : UnlockService} (steady : Steady before after)
    (loaded : List Dict) : Handling loaded before after :=
  .spares [] (by simp [Idle]) steady.now.ge (by simp [steady.history]) (by rw [steady.broker])
    (by rw [steady.broker])

theorem SessionEffect.handling {session : ℕ} {peer : Peer} {answers : Answers}
    {awaited : Awaited} {before after : UnlockService} {place : Place}
    {next : Except PyExc Place} (loaded : List Dict)
    (effect : SessionEffect platform session peer answers awaited before place after next) :
    Handling loaded before after := by
  have ofOpens : ∀ {later nonce entry signed}, Opens nonce entry signed before later →
      Handling loaded before later := fun {later nonce entry signed} opens =>
    .spares (.challenge nonce entry :: (signed.map Event.signed).toList)
      (by cases signed <;> simp [Idle, issuesGrant, takesGrant, takenBy, repliesTo])
      opens.now.ge opens.history (by rw [opens.broker]) (by rw [opens.broker])
  cases effect with
  | quiet calm => exact calm.steady.handling loaded
  | challenge identity challenge signed admitted identified opens => exact ofOpens opens
  | unsent deviceId opens => exact ofOpens opens
  | await => exact (Quiet.refl _).steady.handling loaded
  | grant nonce signature entry recorded accepts issues =>
      refine .issues session _ _ ?_ issues.now rfl issues.history issues.broker
      cases recorded <;> simp [Idle, issuesGrant, takesGrant, takenBy, repliesTo]

theorem PamEffect.handling {request : ℕ} {datas loaded : List Dict}
    {before after : UnlockService} (effect : PamEffect request datas before after)
    (subset : datas ⊆ loaded) : Handling loaded before after := by
  cases effect with
  | spares middle events spared silent final =>
      subst final
      refine .spares events ?_ spared.now.ge ?_ spared.broker.ttl spared.broker.expires
      · rcases silent with rfl | rfl <;>
          simp [Idle, issuesGrant, takesGrant, takenBy, repliesTo]
      · simp [said, spared.history]
  | takes middle events taking takes cleared dated replies final =>
      subst final
      refine .takes request taking events takes.now takes.time ?_ replies takes.live takes.ttl
        takes.expires cleared (List.Subset.trans dated subset)
      simp [said, takes.history]

/-- The configurations in which the waiting requests were checked have been loaded. -/
def World.RequestsDated (world : World platform) : Prop :=
  ∀ request current, world.requests request = some current →
    current.place.datas ⊆ world.loaded

theorem World.RequestsDated.reach {world : World platform} (dated : world.RequestsDated)
    (service : UnlockService) : (world.reach service).RequestsDated :=
  fun request current found =>
    List.Subset.trans (dated request current found) (List.subset_append_left _ _)

theorem World.RequestsDated.setRequest {world : World platform} (dated : world.RequestsDated)
    {request : ℕ} {current : Request} (fresh : current.place.datas ⊆ world.loaded) :
    (world.setRequest request current).RequestsDated := by
  intro other found isFound
  rw [World.requests_setRequest] at isFound
  split at isFound
  · rw [Option.some.injEq] at isFound
    exact isFound ▸ fresh
  · exact dated other found isFound

theorem StepCase.requestsDated {before after : World platform} {label : Label}
    (moved : StepCase before label after) (current : before.service.data ∈ before.loaded)
    (dated : before.RequestsDated) : after.RequestsDated := by
  cases moved with
  | idle => exact dated
  | tick => exact dated.reach _
  | change => exact dated.reach _
  | hangUp => exact dated.reach _
  | connect => exact dated.reach _
  | resume => exact dated.reach _
  | pamConnect request credentials answers service next passed fresh ran =>
      refine (dated.reach service).setRequest ?_
      have subset : next.datas ⊆ [before.service.data] := (pamConnect_effect ran).2.2
      exact List.Subset.trans subset
        (List.Subset.trans (by simpa using current) (List.subset_append_left _ _))
  | pamResume request awaited answers waiting service next passed found allowed ran =>
      refine (dated.reach service).setRequest ?_
      have subset : next.datas ⊆ waiting.place.datas ++ [before.service.data] :=
        (pamResume_effect waiting.passed ran).2.2
      refine List.Subset.trans subset
        (List.Subset.trans ?_ (List.subset_append_left _ _))
      exact List.append_subset.mpr ⟨dated request waiting found, by simpa using current⟩

theorem StepCase.handling {before after : World platform} {label : Label}
    (moved : StepCase before label after) (current : before.service.data ∈ before.loaded)
    (dated : before.RequestsDated) :
    Handling before.loaded before.service after.service := by
  cases moved with
  | idle => exact .spares [] (by simp [Idle]) (le_refl _) (by simp) rfl rfl
  | tick duration =>
      refine .spares [] (by simp [Idle]) ?_ (by simp [World.reach, elapsed]) rfl rfl
      exact le_add_of_nonneg_right duration.2
  | change change =>
      exact .spares [] (by simp [Idle]) (le_refl before.service.now)
        (by simp [World.reach, fileChanged]) rfl rfl
  | hangUp request =>
      exact .spares [.hungUp request]
        (by simp [Idle, issuesGrant, takesGrant, takenBy, repliesTo]) (le_refl _) rfl rfl rfl
  | connect session peer access answers service next known account fresh ran =>
      exact (connect_steady ran).handling before.loaded
  | resume session awaited answers current service next known account found allowed ran =>
      exact (resume_effect ran).handling before.loaded
  | pamConnect request credentials answers service next passed fresh ran =>
      exact (pamConnect_effect ran).1.handling (by simpa using current)
  | pamResume request awaited answers waiting service next passed found allowed ran =>
      exact (pamResume_effect waiting.passed ran).1.handling
        (List.append_subset.mpr ⟨dated request waiting found, by simpa using current⟩)

/-! ## The invariant -/

/-- A grant and a taking that used it up in time, by a request that had passed its checks. -/
def Spent (ttl : ℚ) (loaded : List Dict) (origin event : Event) : Prop :=
  ∃ session grant request taking, origin = .grant session grant ∧
    event = .taken request taking ∧ grant.time ≤ taking.time ∧ taking.time - grant.time < ttl ∧
    Cleared taking ∧ taking.datas ⊆ loaded

/-- A taking and the reply to it. -/
def Replied (origin event : Event) : Prop :=
  ∃ request taking, origin = .taken request taking ∧ event = .granted request taking

/-- A grant that stands was the latest to be issued, and every taking and every reply has its
origin. -/
structure Redeemed (ttl : ℚ) (loaded : List Dict) (service : UnlockService) : Prop where
  sameTtl : service.broker.ttl = ttl
  standing : 0 < service.broker.expires → ∃ session grant,
    LatestOpen issuesGrant takesGrant () (.grant session grant) service.history ∧
      grant.time ≤ service.time ∧ service.broker.expires = grant.time + ttl
  takings : Matched issuesGrant takesGrant (Spent ttl loaded) service.history
  replies : Matched takenBy repliesTo Replied service.history

theorem Spent.mono {ttl : ℚ} {loaded later : List Dict} (subset : loaded ⊆ later)
    {origin event : Event} (spent : Spent ttl loaded origin event) :
    Spent ttl later origin event := by
  rcases spent with ⟨session, grant, request, taking, opening, closing, order, inTime, cleared,
    dated⟩
  exact ⟨session, grant, request, taking, opening, closing, order, inTime, cleared,
    List.Subset.trans dated subset⟩

theorem Handling.redeemed {ttl : ℚ} {loaded later : List Dict} {before after : UnlockService}
    (handling : Handling loaded before after) (subset : loaded ⊆ later)
    (redeemed : Redeemed ttl loaded before) : Redeemed ttl later after := by
  have takings : Matched issuesGrant takesGrant (Spent ttl later) before.history :=
    redeemed.takings.imp fun _ _ spent => spent.mono subset
  cases handling with
  | spares events idle time history sameTtl expires =>
      refine ⟨sameTtl.trans redeemed.sameTtl, ?_, ?_, ?_⟩
      · intro stands
        rw [expires] at stands ⊢
        rcases redeemed.standing stands with ⟨session, grant, latest, order, deadline⟩
        refine ⟨session, grant, ?_, order.trans (time_le_time time), deadline⟩
        rw [history]
        exact latest.append fun event membership => by simp [idle event membership]
      · rw [history]
        exact takings.append fun event membership => (idle event membership).2.1
      · rw [history]
        exact redeemed.replies.append fun event membership => (idle event membership).2.2.2
  | issues session grant events idle time issued history broker =>
      have grown : after.history = (before.history ++ [.grant session grant]) ++ events := by
        rw [history, List.append_assoc, List.singleton_append]
      have sameTime : after.time = before.time := time_of_now time
      refine ⟨?_, ?_, ?_, ?_⟩
      · rw [broker, ← redeemed.sameTtl]
        rfl
      · intro _
        refine ⟨session, grant, ?_, ?_, ?_⟩
        · rw [grown]
          have opening : issuesGrant (.grant session grant) = some () := rfl
          exact (LatestOpen.of_opens opening _).append
            fun event membership => by simp [idle event membership]
        · rw [issued, sameTime]
        · rw [broker, issued, ← redeemed.sameTtl]
          rfl
      · rw [grown]
        exact (takings.append (by simp [takesGrant])).append
          fun event membership => (idle event membership).2.1
      · rw [grown]
        exact (redeemed.replies.append (by simp [repliesTo])).append
          fun event membership => (idle event membership).2.2.2
  | takes request taking events time taken history replies live sameTtl expires cleared dated =>
      have grown : after.history = (before.history ++ [.taken request taking]) ++ events := by
        rw [history, List.append_assoc, List.singleton_append]
      have stands : 0 < before.broker.expires := before.time_nonneg.trans_lt live
      rcases redeemed.standing stands with ⟨session, grant, latest, order, deadline⟩
      refine ⟨sameTtl.trans redeemed.sameTtl, ?_, ?_, ?_⟩
      · intro positive
        rw [expires] at positive
        exact (lt_irrefl _ positive).elim
      · rw [grown]
        refine (takings.append_singleton ?_).append ?_
        · intro key closing
          refine ⟨.grant session grant, latest, session, grant, request, taking, rfl, rfl, ?_, ?_,
            cleared, List.Subset.trans dated subset⟩
          · rw [taken]
            exact order
          · rw [deadline] at live
            rw [taken]
            linarith
        · rcases replies with rfl | rfl | rfl <;> simp [takesGrant]
      · rw [grown]
        have extended : Matched takenBy repliesTo Replied
            (before.history ++ [.taken request taking]) :=
          redeemed.replies.append (by simp [repliesTo])
        rcases replies with rfl | rfl | rfl
        · simpa using extended
        · exact extended.append (by simp [repliesTo])
        · apply extended.append_singleton
          intro key closing
          rw [repliesTo, Option.some.injEq] at closing
          subst closing
          have opening : takenBy (.taken request taking) = some request := rfl
          exact ⟨_, LatestOpen.of_opens opening _, request, taking, rfl, rfl⟩

/-- What holds of the requests and of the grant. -/
def World.Redeems (ttl : ℚ) (world : World platform) : Prop :=
  world.service.data ∈ world.loaded ∧ world.RequestsDated ∧
    Redeemed ttl world.loaded world.service

theorem after_redeemed (platform : Platform Key) (setup : Setup) (labels : List Label) {ttl : ℚ}
    (isTtl : UnlockService.number (openConfig setup.access setup.file).2.config.data "grant_ttl" =
      some ttl) :
    Redeemed ttl (World.after platform setup labels).loaded
      (World.after platform setup labels).service := by
  have keeps : ∀ (world : World platform) (label : Label), world.Redeems ttl →
      (step world label).Redeems ttl := by
    rintro world label ⟨current, dated, redeemed⟩
    have moved := step_cases world label
    exact ⟨moved.current current, moved.requestsDated current dated,
      (moved.handling current dated).redeemed moved.loaded redeemed⟩
  have start : (World.start platform setup).Redeems ttl := by
    rcases setup.service_eq with ⟨threshold, base, maximum, found, isFound, same⟩
    rw [isTtl, Option.some.injEq] at isFound
    subst isFound
    refine ⟨List.mem_singleton_self _, fun request current found => by contradiction, ?_, ?_, ?_,
      ?_⟩
    · simp [World.start, same, GrantBroker.new]
    · simp [World.start, same, GrantBroker.new]
    · simp [World.start, same]
    · simp [World.start, same]
  exact (run_invariant keeps start labels).2.2

/-! ## Denied requests -/

/-- A request is denied: its line is malformed or names another user, or its wait is over or
broken. -/
def PamPlace.Denied (platform : Platform Key) (service : UnlockService) :
    PamPlace → PamAwaited → Prop
  | .readline _ _ _, .line raw => ∀ message, parseRequest platform raw = .ok message →
      userMatches message service.data ≠ .ok true
  | .consuming _ _ _ _ _, .woken => False
  | _, _ => True

section Denied

variable {answers : Answers} {request : ℕ}

theorem pamStart_quiet (platform : Platform Key) (answers : Answers)
    (credentials : Except PyExc Credentials) :
    Py.Keeps Quiet (pamStart platform answers credentials) := by
  unfold pamStart
  refine Py.Keeps.bind (Py.Keeps.ofExcept _) fun credentials => ?_
  refine Py.Keeps.bind (Py.Keeps.read _) fun data => ?_
  refine Py.Keeps.bind (Py.Keeps.ofExcept _) fun allowed => ?_
  split
  · exact Py.Keeps.bind (Py.Keeps.read _) fun now => Py.Keeps.pure _
  · exact Py.Keeps.bind (record_quiet platform answers _ _ _ _ _) fun _ => Py.Keeps.pure _

/-- A line that is malformed or names another user costs nothing. -/
theorem afterLine_quiet {credentials : Credentials} {uidData : Dict} {raw : Bytes}
    {before after : UnlockService} {outcome : Except PyExc PamStep}
    (denied : ∀ message, parseRequest platform raw = .ok message →
      userMatches message before.data ≠ .ok true)
    (ran : afterLine platform answers request credentials uidData raw before =
      (outcome, after)) : Quiet before after := by
  unfold afterLine at ran
  rcases Py.of_bind ran with ⟨exc, ended, rfl⟩ | ⟨message, _, parsed, rest⟩
  · exact (Py.Keeps.ofExcept _).after ended
  rcases Py.ofExcept_eq_iff.mp parsed with ⟨isMessage, rfl⟩
  rw [Py.bind_of_ok (Py.read_apply _ _)] at rest
  rcases Py.of_bind rest with ⟨exc, ended, rfl⟩ | ⟨same, _, compares, rest⟩
  · exact (Py.Keeps.ofExcept _).after ended
  rcases Py.ofExcept_eq_iff.mp compares with ⟨isSame, rfl⟩
  cases same with
  | true => exact (denied message isMessage isSame).elim
  | false =>
      rcases Py.of_bind rest with ⟨exc, ended, rfl⟩ | ⟨value, middle, ended, rest⟩
      · exact (record_quiet platform answers _ _ _ _ _).after ended
      · cases rest
        exact (record_quiet platform answers _ _ _ _ _).after ended

theorem pamBody_spared {place : PamPlace} {awaited : PamAwaited}
    {body : Py UnlockService PamStep} {before after : UnlockService}
    {outcome : Except PyExc PamStep} (denied : place.Denied platform before awaited)
    (runs : pamBody platform answers request place awaited = some body)
    (ran : body before = (outcome, after)) : Spared request before after := by
  unfold pamBody at runs
  split at runs
  next credentials uidData deadline raw =>
    cases runs
    exact (afterLine_quiet denied ran).spared request
  next credentials uidData deadline exc =>
    cases runs
    cases ran
    exact (Quiet.refl _).spared request
  next credentials uidData deadline =>
    cases runs
    cases ran
    exact (Quiet.refl _).spared request
  next => exact denied.elim
  next credentials uidData message userData deadline exc =>
    cases runs
    cases ran
    exact leaveWait_spared request before
  next credentials uidData message userData deadline =>
    cases runs
    rw [leaveWait, Py.bind_of_ok (Py.modify_apply _ _)] at ran
    refine (leaveWait_spared request before).trans (Quiet.spared ?_ request)
    rcases Py.of_bind ran with ⟨exc, ended, rfl⟩ | ⟨value, middle, ended, rest⟩
    · exact (recordConsume_quiet platform answers credentials message false).after ended
    · cases rest
      exact (recordConsume_quiet platform answers credentials message false).after ended
  · contradiction

theorem reply_broker (answers : Answers) (request : ℕ) (ok : Option Taking)
    (service : UnlockService) : (reply answers request ok service).1.broker = service.broker := by
  unfold reply
  split
  · rfl
  · split <;> rfl

/-- The reply leaves the grant alone. -/
theorem concluded_broker (answers : Answers) (request : ℕ)
    (body : Py UnlockService PamStep) (service : UnlockService) :
    (concluded answers request body service).1.broker = (body service).2.broker := by
  unfold concluded
  split
  next place after ran => rw [ran]
  next ok after ran => rw [ran, reply_broker]
  next exc after ran => rw [ran, reply_broker]

theorem pamConnect_spares {credentials : Except PyExc Credentials}
    {before after : UnlockService} {next : PamPlace}
    (ran : pamConnect platform answers request credentials before = (after, next)) :
    before.broker.Spares request before.time after.broker := by
  have broker := concluded_broker answers request
    (pamStart platform answers credentials) before
  unfold pamConnect at ran
  rw [ran] at broker
  rw [broker]
  exact ((pamStart_quiet platform answers credentials before).spared request).broker

theorem pamResume_spares {place next : PamPlace} {awaited : PamAwaited}
    {before after : UnlockService} (denied : place.Denied platform before awaited)
    (ran : pamResume platform answers request place awaited before = some (after, next)) :
    before.broker.Spares request before.time after.broker := by
  unfold pamResume at ran
  split at ran
  · cases ran
    exact GrantBroker.Spares.refl _ _ _
  · rcases Option.map_eq_some_iff.mp ran with ⟨body, runs, ended⟩
    have broker := concluded_broker answers request body before
    rw [ended] at broker
    rw [broker]
    exact (pamBody_spared denied runs rfl).broker

end Denied

/-- The request a label is a step of. -/
def Label.request : Label → Option ℕ
  | .pamConnect request _ _ => some request
  | .pamResume request _ _ => some request
  | _ => none

/-- The label is a step of the request that denies it, or its first. -/
def World.Denies (world : World platform) (request : ℕ) : Label → Prop
  | .pamConnect other _ _ => other = request
  | .pamResume other awaited _ => other = request ∧ ∀ current,
      world.requests request = some current →
        current.place.Denied platform world.service awaited
  | _ => False

/-- The request takes no grant between two states of the service. -/
def TakesNone (request : ℕ) (before after : UnlockService) : Prop :=
  ∀ taking, .taken request taking ∉ after.history.drop before.history.length

theorem PamEffect.spared {request : ℕ} {datas : List Dict} {before after : UnlockService}
    (effect : PamEffect request datas before after) (none : TakesNone request before after) :
    before.broker.Spares request before.time after.broker := by
  cases effect with
  | spares middle events spared silent final =>
      subst final
      exact spared.broker
  | takes middle events taking takes cleared dated replies final =>
      subst final
      refine (none taking ?_).elim
      simp [said, takes.history]

theorem StepCase.spares {before after : World platform} {label : Label} {request : ℕ}
    (moved : StepCase before label after) (denies : before.Denies request label) :
    before.service.broker.Spares request before.service.time after.service.broker := by
  cases moved with
  | idle => exact GrantBroker.Spares.refl _ _ _
  | pamConnect other credentials answers service next passed fresh ran =>
      subst denies
      exact pamConnect_spares ran
  | pamResume other awaited answers waiting service next passed found allowed ran =>
      rcases denies with ⟨rfl, denied⟩
      exact pamResume_spares (denied waiting found) ran
  | _ => exact denies.elim

/-- Whatever a request does, also where it goes on waiting or gives up after a wake-up: if it
takes no grant, it leaves the grant as it was. -/
theorem StepCase.spares_of_takesNone {before after : World platform} {label : Label}
    {request : ℕ} (moved : StepCase before label after) (own : label.request = some request)
    (none : TakesNone request before.service after.service) :
    before.service.broker.Spares request before.service.time after.service.broker := by
  cases moved with
  | idle => exact GrantBroker.Spares.refl _ _ _
  | pamConnect other credentials answers service next passed fresh ran =>
      obtain rfl := Option.some.inj own
      exact pamConnect_spares ran
  | pamResume other awaited answers waiting service next passed found allowed ran =>
      obtain rfl := Option.some.inj own
      exact (pamResume_effect waiting.passed ran).1.spared none
  | _ => contradiction

end RemoteUnlock.Listener
