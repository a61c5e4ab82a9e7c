import RemoteUnlock.Listener.GrantUse

/-!
# Grants that are taken for nothing

A request that takes the grant is answered with `1` where its helper is still there, the
request names a user, and neither the record nor the reply raises.  `handle_pam` does not
look at its connection while it waits, and what is raised behind `consume` makes the reply
a `0`: then the grant is lost.
-/

namespace RemoteUnlock.Listener

open Python Python.Items Common Audit Library

variable {Key : Type} {platform : Platform Key}

/-! ## A request that gets to the grant -/

/-- The request with which a step gets to the loop of `consume`. -/
def PamPlace.reaches (platform : Platform Key) (data : Dict) (now : ℚ) :
    PamPlace → PamAwaited → Option Dict
  | .readline _ _ _, .line raw =>
      match parseRequest platform raw with
      | .ok message =>
          match userMatches message data, (item data "pam_wait").bind (deadlineAfter now 0) with
          | .ok true, .ok _ => some message
          | _, _ => none
      | .error _ => none
  | .consuming _ _ message _ _, .woken => some message
  | _, _ => none

/-- Nothing an `except Exception` catches is raised behind `consume`. -/
structure Recorded (answers : Answers) (message : Dict) (service : UnlockService) : Prop where
  user : ∃ user, item message "user" = .ok user
  disk : ∀ exc ∈ (answers.disk service.audit.log.seq).1.raised, exc.isException = false

variable {answers : Answers} {request : ℕ}

theorem recordConsume_raises {credentials : Credentials} {message : Dict} {ok : Bool}
    {before after : UnlockService} {exc : PyExc} (recorded : Recorded answers message before)
    (ran : recordConsume platform answers credentials message ok before = (.error exc, after)) :
    exc.isException = false := by
  obtain ⟨user, isUser⟩ := recorded.user
  unfold recordConsume at ran
  rw [isUser, Py.bind_of_ok (Py.ofExcept_apply _ _)] at ran
  rcases Py.of_bind ran with ⟨_, failed, same⟩ | ⟨entry, middle, _, rest⟩
  · cases same
    unfold record at failed
    rcases Py.of_bind failed with ⟨_, appended, same⟩ | ⟨entry, middle, _, rest⟩
    · cases same
      apply recorded.disk
      unfold auditAppend at appended
      rw [Py.bind_of_ok (Py.read_apply _ _), Py.zoom_apply, Prod.mk.injEq] at appended
      exact append_raises (Prod.ext appended.1 rfl)
    · cases ok <;> cases rest
  · cases rest

/-- With nothing raised behind it, `consume` gives the grant to a request that is answered with
`1`. -/
theorem afterTaken_ends {credentials : Credentials} {taking : Taking}
    {before after : UnlockService} {outcome : Except PyExc PamStep}
    (recorded : Recorded answers taking.request before)
    (ran : afterTaken platform answers request credentials taking before = (outcome, after)) :
    outcome = .ok (.ends (some taking)) ∧
      after.history = before.history ++ [.taken request taking] := by
  have calm := recordConsume_quiet platform answers credentials taking.request true
  unfold afterTaken at ran
  rw [Py.bind_of_ok (Py.modify_apply _ _)] at ran
  rcases Py.of_tryExcept ran with ⟨step, ended, rfl⟩ | ⟨exc, final, ended, handles⟩
  · rcases Py.of_bind ended with ⟨exc, _, failed⟩ | ⟨value, final, recording, rest⟩
    · contradiction
    · cases rest
      exact ⟨rfl, (calm.after recording).history⟩
  · rcases Py.of_bind ended with ⟨exc, recording, same⟩ | ⟨value, final, recording, rest⟩
    · cases same
      have there : Recorded answers taking.request
          { before with history := before.history ++ [.taken request taking] } :=
        ⟨recorded.user, recorded.disk⟩
      rw [if_neg (by rw [recordConsume_raises there recording]; exact Bool.false_ne_true)]
        at handles
      cases handles
      exact ⟨rfl, (calm.after recording).history⟩
    · cases rest

/-- The request is not answered yet. -/
def PamPlace.Working : PamPlace → Prop
  | .readline _ _ _ => True
  | .consuming _ _ _ _ _ => True
  | _ => False

/-- What a step does in which a request may take the grant: nothing, or it takes a grant that is
alive and is answered for it if nothing is raised. -/
inductive Turned (answers : Answers) (request : ℕ) (message : Option Dict)
    (before after : UnlockService) : Except PyExc PamStep → Prop where
  | waits (place : PamPlace) (working : place.Working) (history : after.history = before.history) :
      Turned answers request message before after (.ok (.waits place))
  | refused (history : after.history = before.history) :
      Turned answers request message before after (.ok (.ends none))
  | raised (exc : PyExc) (history : after.history = before.history) :
      Turned answers request message before after (.error exc)
  | taken (named : Dict) (isNamed : message = some named)
      (live : before.time < before.broker.expires) (outcome : Except PyExc PamStep)
      (ends : Recorded answers named before → ∃ taking, outcome = .ok (.ends (some taking)) ∧
        after.history = before.history ++ [.taken request taking]) :
      Turned answers request message before after outcome

theorem afterRefused_turned {credentials : Credentials} {message : Dict} {named : Option Dict}
    {before after : UnlockService} {outcome : Except PyExc PamStep}
    (ran : afterRefused platform answers credentials message before = (outcome, after)) :
    Turned answers request named before after outcome := by
  have calm := recordConsume_quiet platform answers credentials message false
  unfold afterRefused at ran
  rcases Py.of_bind ran with ⟨exc, ended, rfl⟩ | ⟨value, middle, ended, rest⟩
  · exact .raised exc (calm.after ended).history
  · cases rest
    exact .refused (calm.after ended).history

/-- A change of the waiters alone does not matter. -/
theorem Turned.behind {named : Option Dict} {first second third : UnlockService}
    {outcome : Except PyExc PamStep} (turned : Turned answers request named second third outcome)
    (history : second.history = first.history) (log : second.audit = first.audit)
    (now : second.now = first.now) (expires : second.broker.expires = first.broker.expires) :
    Turned answers request named first third outcome := by
  cases turned with
  | waits place working same => exact .waits place working (same.trans history)
  | refused same => exact .refused (same.trans history)
  | raised exc same => exact .raised exc (same.trans history)
  | taken message isMessage live outcome ends =>
      refine .taken message isMessage ?_ outcome fun recorded => ?_
      · rwa [expires, time_of_now now] at live
      · rw [← history]
        exact ends ⟨recorded.user, log ▸ recorded.disk⟩

theorem consumeTurn_turned {credentials : Credentials} {uidData message userData : Dict}
    {deadline : Option ℚ} {before after : UnlockService} {outcome : Except PyExc PamStep}
    (ran : consumeTurn platform answers request credentials uidData message userData deadline
      before = (outcome, after)) :
    Turned answers request (some message) before after outcome := by
  unfold consumeTurn at ran
  rw [Py.bind_of_ok (Py.read_apply _ _), Py.bind_of_ok (Py.zoom_apply _ _ _ _)] at ran
  rcases before.broker.turn_cases before.time deadline request with
    ⟨taken, live, turned⟩ | ⟨other, _, spares⟩
  · simp only [taken, turned] at ran
    refine .taken message rfl live outcome fun recorded => ?_
    have there : Recorded answers message { before with
        broker := { before.broker with expires := 0, event := before.broker.event.clear } } :=
      ⟨recorded.user, recorded.disk⟩
    obtain ⟨ended, history⟩ := afterTaken_ends there ran
    exact ⟨_, ended, history⟩
  · cases turned : (before.broker.turn before.time deadline request).1 with
    | taken => exact (other turned).elim
    | refused =>
        simp only [turned] at ran
        exact (afterRefused_turned ran).behind rfl rfl rfl spares.expires
    | waits =>
        simp only [turned] at ran
        cases ran
        exact .waits _ trivial rfl

theorem afterLine_turned {credentials : Credentials} {uidData : Dict} {deadline : ℚ} {raw : Bytes}
    {before after : UnlockService} {outcome : Except PyExc PamStep}
    (ran : afterLine platform answers request credentials uidData raw before =
      (outcome, after)) :
    Turned answers request ((PamPlace.readline credentials uidData deadline).reaches platform
      before.data before.time (.line raw)) before after outcome := by
  unfold afterLine at ran
  rcases Py.of_bind ran with ⟨exc, ended, rfl⟩ | ⟨message, _, parsed, rest⟩
  · obtain ⟨_, rfl⟩ := Py.ofExcept_eq_iff.mp ended
    exact .raised exc rfl
  obtain ⟨isMessage, rfl⟩ := Py.ofExcept_eq_iff.mp parsed
  rw [Py.bind_of_ok (Py.read_apply _ _)] at rest
  rcases Py.of_bind rest with ⟨exc, ended, rfl⟩ | ⟨same, _, compares, rest⟩
  · obtain ⟨_, rfl⟩ := Py.ofExcept_eq_iff.mp ended
    exact .raised exc rfl
  obtain ⟨isSame, rfl⟩ := Py.ofExcept_eq_iff.mp compares
  cases same with
  | true =>
      rcases Py.of_bind rest with ⟨exc, ended, rfl⟩ | ⟨wait, _, configured, rest⟩
      · exact .raised exc ((configItem_quiet _).after ended).history
      obtain ⟨isWait, rfl⟩ := configItem_eq_iff.mp configured
      rw [Py.bind_of_ok (Py.read_apply _ _)] at rest
      rcases Py.of_bind rest with ⟨exc, ended, rfl⟩ | ⟨limit, _, computed, rest⟩
      · obtain ⟨_, rfl⟩ := Py.ofExcept_eq_iff.mp ended
        exact .raised exc rfl
      obtain ⟨isLimit, rfl⟩ := Py.ofExcept_eq_iff.mp computed
      have reached : (PamPlace.readline credentials uidData deadline).reaches platform before.data
          before.time (.line raw) = some message := by
        simp only [PamPlace.reaches, isMessage, isSame, isWait, Except.bind, isLimit]
      rw [reached]
      exact consumeTurn_turned rest
  | false =>
      have calm := record_quiet platform answers "pam_denied" none "default" []
        [(py "user", .str ((platform.str ((lookup (py "user") message).getD .null)).take 64)),
          (py "uid", .int credentials.uid)]
      rcases Py.of_bind rest with ⟨exc, ended, rfl⟩ | ⟨value, middle, ended, rest⟩
      · exact .raised exc (calm.after ended).history
      · cases rest
        exact .refused (calm.after ended).history

theorem pamStart_turned {credentials : Except PyExc Credentials} {before after : UnlockService}
    {outcome : Except PyExc PamStep}
    (ran : pamStart platform answers credentials before = (outcome, after)) :
    Turned answers request none before after outcome := by
  have calm := (pamStart_quiet platform answers credentials).after ran
  unfold pamStart at ran
  rcases Py.of_bind ran with ⟨exc, ended, rfl⟩ | ⟨credentials, _, known, rest⟩
  · exact .raised exc calm.history
  rcases Py.of_bind rest with ⟨exc, ended, rfl⟩ | ⟨data, _, _, rest⟩
  · exact .raised exc calm.history
  rcases Py.of_bind rest with ⟨exc, ended, rfl⟩ | ⟨allowed, _, tested, rest⟩
  · exact .raised exc calm.history
  cases allowed with
  | true =>
      rw [if_pos rfl, Py.bind_of_ok (Py.read_apply _ _)] at rest
      cases rest
      exact .waits _ trivial calm.history
  | false =>
      rcases Py.of_bind rest with ⟨exc, ended, rfl⟩ | ⟨value, middle, ended, rest⟩
      · exact .raised exc calm.history
      · cases rest
        exact .refused calm.history

theorem pamBody_turned {place : PamPlace} {awaited : PamAwaited}
    {body : Py UnlockService PamStep}
    (runs : pamBody platform answers request place awaited = some body)
    {before after : UnlockService} {outcome : Except PyExc PamStep}
    (ran : body before = (outcome, after)) :
    Turned answers request (place.reaches platform before.data before.time awaited) before after
      outcome := by
  unfold pamBody at runs
  split at runs
  next credentials uidData deadline raw =>
    cases runs
    exact afterLine_turned ran
  next credentials uidData deadline exc =>
    cases runs
    cases ran
    exact .raised exc rfl
  next credentials uidData deadline =>
    cases runs
    cases ran
    exact .raised _ rfl
  next credentials uidData message userData deadline =>
    cases runs
    rw [leaveWait, Py.bind_of_ok (Py.modify_apply _ _)] at ran
    exact (consumeTurn_turned ran).behind rfl rfl rfl rfl
  next credentials uidData message userData deadline exc =>
    cases runs
    cases ran
    exact .raised exc rfl
  next credentials uidData message userData deadline =>
    cases runs
    rw [leaveWait, Py.bind_of_ok (Py.modify_apply _ _)] at ran
    exact (afterRefused_turned ran).behind rfl rfl rfl rfl
  · contradiction

/-! ## A step with its reply -/

/-- What a step of a request adds to the history, when it waits or when it is over. -/
inductive Answering (request : ℕ) (named : Option Dict) (before after : UnlockService) :
    PamPlace → Prop where
  | waits (place : PamPlace) (working : place.Working) (history : after.history = before.history) :
      Answering request named before after place
  | ends (place : PamPlace) (isOver : ¬ place.Working) (events : List Event)
      (history : after.history = before.history ++ events)
      (replies : events = [] ∨ events = [.denied request] ∨
        (∃ message ∈ named, before.time < before.broker.expires) ∧
          ∃ taking, events = [.taken request taking, .granted request taking]) :
      Answering request named before after place

theorem Answering.denied {named : Option Dict} {before middle after : UnlockService}
    {next : PamPlace} (history : middle.history = before.history)
    (ran : reply answers request none middle = (after, next)) :
    Answering request named before after next := by
  unfold reply at ran
  split at ran
  · cases ran
    exact .ends _ id [] (by rw [history, List.append_nil]) (.inl rfl)
  · cases ran
    exact .ends _ id [.denied request] (by rw [history]) (.inr (.inl rfl))

theorem concluded_answering {named : Option Dict} {body : Py UnlockService PamStep}
    {before after : UnlockService} {next : PamPlace}
    (turned : ∀ outcome middle, body before = (outcome, middle) →
      Turned answers request named before middle outcome)
    (secure : ∀ message ∈ named, before.time < before.broker.expires →
      Recorded answers message before ∧ answers.writeRaises = none)
    (ran : concluded answers request body before = (after, next)) :
    Answering request named before after next := by
  unfold concluded at ran
  rcases first : body before with ⟨outcome, middle⟩
  have start := turned _ _ first
  rw [first] at ran
  cases start with
  | waits place working history =>
      cases ran
      exact .waits _ working history
  | refused history => exact .denied history ran
  | raised exc history => exact .denied history ran
  | taken message isMessage live outcome ends =>
      obtain ⟨recorded, writes⟩ := secure message isMessage live
      obtain ⟨taking, rfl, history⟩ := ends recorded
      simp only [reply, writes] at ran
      cases ran
      refine .ends _ id [.taken request taking, .granted request taking] ?_
        (.inr (.inr ⟨⟨message, isMessage, live⟩, taking, rfl⟩))
      rw [history, List.append_assoc]
      rfl

theorem pamConnect_answering {credentials : Except PyExc Credentials}
    {before after : UnlockService} {next : PamPlace}
    (ran : pamConnect platform answers request credentials before = (after, next)) :
    Answering request none before after next :=
  concluded_answering (fun _ _ => pamStart_turned) (by simp) ran

theorem pamResume_answering {place next : PamPlace} {awaited : PamAwaited}
    {before after : UnlockService}
    (secure : ∀ message ∈ place.reaches platform before.data before.time awaited,
      before.time < before.broker.expires →
        Recorded answers message before ∧ answers.writeRaises = none)
    (ran : pamResume platform answers request place awaited before = some (after, next)) :
    place.Working ∧ Answering request (place.reaches platform before.data before.time awaited)
        before after next ∨
      ¬ next.Working ∧ after.history = before.history := by
  unfold pamResume at ran
  split at ran
  · cases ran
    exact .inr ⟨id, rfl⟩
  · obtain ⟨body, runs, ended⟩ := Option.map_eq_some_iff.mp ran
    have answering := concluded_answering (fun _ _ => pamBody_turned runs) secure ended
    cases place with
    | readline => exact .inl ⟨trivial, answering⟩
    | consuming => exact .inl ⟨trivial, answering⟩
    | _ => contradiction

/-! ## Runs -/

/-- The request a grant is taken for or refused to. -/
def Event.settled : Event → Option ℕ
  | .taken request _ => some request
  | .denied request => some request
  | _ => none

/-- Every grant that is taken is answered with `1` to a helper that has not hung up, and none is
taken for a request that is answered with `0`. -/
structure NeverWasted (history : List Event) : Prop where
  answered : ∀ (position request : ℕ) (taking : Taking),
    history[position]? = some (.taken request taking) →
      history[position + 1]? = some (.granted request taking) ∧
        .hungUp request ∉ history.take position
  spared : ∀ request, .denied request ∈ history → ∀ taking, .taken request taking ∉ history

theorem NeverWasted.nil : NeverWasted [] := ⟨by simp, by simp⟩

theorem NeverWasted.answered_append {history events : List Event} (wasted : NeverWasted history)
    (fresh : ∀ (position request : ℕ) (taking : Taking),
      events[position]? = some (.taken request taking) →
        events[position + 1]? = some (.granted request taking) ∧
          .hungUp request ∉ history ++ events.take position)
    {position request : ℕ} {taking : Taking}
    (found : (history ++ events)[position]? = some (.taken request taking)) :
    (history ++ events)[position + 1]? = some (.granted request taking) ∧
      .hungUp request ∉ (history ++ events).take position := by
  by_cases old : position < history.length
  · rw [List.getElem?_append_left old] at found
    obtain ⟨next, connected⟩ := wasted.answered position request taking found
    have inside := (List.getElem?_eq_some_iff.mp next).1
    rw [List.getElem?_append_left inside, List.take_append_of_le_length old.le]
    exact ⟨next, connected⟩
  · have behind : history.length ≤ position := not_lt.mp old
    rw [List.getElem?_append_right behind] at found
    obtain ⟨next, connected⟩ := fresh _ request taking found
    rw [List.getElem?_append_right (Nat.le_succ_of_le behind), List.take_append,
      List.take_of_length_le behind, Nat.succ_sub behind]
    exact ⟨next, connected⟩

/-- What settles nothing wastes nothing. -/
theorem NeverWasted.append {history events : List Event} (wasted : NeverWasted history)
    (unsettled : ∀ event ∈ events, event.settled = none) : NeverWasted (history ++ events) where
  answered position request taking found := by
    refine wasted.answered_append (fun position request taking found => ?_) found
    exact nomatch unsettled _ (List.mem_of_getElem? found)
  spared request denied taking taken := by
    rcases List.mem_append.mp denied with denied | isNew
    · rcases List.mem_append.mp taken with taken | isNew
      · exact wasted.spared request denied taking taken
      · exact nomatch unsettled _ isNew
    · exact nomatch unsettled _ isNew

/-- A request that has taken nothing is denied. -/
theorem NeverWasted.denied {history : List Event} (wasted : NeverWasted history) {request : ℕ}
    (untaken : ∀ taking, .taken request taking ∉ history) :
    NeverWasted (history ++ [.denied request]) where
  answered position other taking found := by
    refine wasted.answered_append (fun position request taking found => ?_) found
    exact nomatch List.mem_singleton.mp (List.mem_of_getElem? found)
  spared other denied taking taken := by
    have old : .taken other taking ∈ history := by simpa using taken
    rcases List.mem_append.mp denied with denied | isNew
    · exact wasted.spared other denied taking old
    · cases List.mem_singleton.mp isNew
      exact untaken taking old

/-- A request that has not been denied and whose helper has not hung up takes the grant and is
answered. -/
theorem NeverWasted.granted {history : List Event} (wasted : NeverWasted history) {request : ℕ}
    (undenied : .denied request ∉ history) (connected : .hungUp request ∉ history)
    (taking : Taking) :
    NeverWasted (history ++ [.taken request taking, .granted request taking]) where
  answered position other found := by
    refine wasted.answered_append fun position other found isTaken => ?_
    cases position with
    | zero =>
        cases isTaken
        exact ⟨rfl, by simpa using connected⟩
    | succ position =>
        cases position with
        | zero => cases isTaken
        | succ position => cases isTaken
  spared other denied found taken := by
    have old : .denied other ∈ history := by simpa using denied
    rcases List.mem_append.mp taken with taken | isNew
    · exact wasted.spared other old found taken
    · simp only [List.mem_cons, Event.taken.injEq, reduceCtorEq, List.not_mem_nil, or_false]
        at isNew
      exact undenied (isNew.1 ▸ old)

/-- The request with which a step gets to a grant that is alive. -/
def World.reaches (world : World platform) (request : ℕ) (awaited : PamAwaited) : Option Dict :=
  (world.requests request).bind fun current =>
    if pamPossible request world.service current.place awaited ∧
        world.service.time < world.service.broker.expires then
      current.place.reaches platform world.service.data world.service.time awaited
    else none

/-- A request that gets to a grant that is alive still has its helper, names a user, and neither
its record nor its reply raises. -/
def World.Unwasted (world : World platform) : Label → Prop
  | .pamResume request awaited answers => ∀ message ∈ world.reaches request awaited,
      .hungUp request ∉ world.service.history ∧ Recorded answers message world.service ∧
        answers.writeRaises = none
  | _ => True

/-- Nothing is settled for a request that is not over. -/
def World.Unsettled (world : World platform) : Prop :=
  ∀ request, (∀ current, world.requests request = some current → current.place.Working) →
    ∀ event ∈ world.service.history, event.settled ≠ some request

theorem SessionEffect.unsettled {session : ℕ} {peer : Peer} {answers : Answers}
    {awaited : Awaited} {before after : UnlockService} {place : Place}
    {next : Except PyExc Place}
    (effect : SessionEffect platform session peer answers awaited before place after next) :
    ∃ events, after.history = before.history ++ events ∧
      ∀ event ∈ events, event.settled = none := by
  cases effect with
  | quiet calm => exact ⟨[], by rw [calm.history, List.append_nil], by simp⟩
  | challenge identity challenge signed admitted identified opens =>
      refine ⟨_, opens.history, ?_⟩
      cases signed <;> simp [Event.settled]
  | unsent deviceId opens => exact ⟨_, opens.history, by simp [Event.settled]⟩
  | await => exact ⟨[], by rw [List.append_nil], by simp⟩
  | @grant identity deadline _ _ nonce signature entry recorded accepts issues =>
      refine ⟨_, issues.history, ?_⟩
      cases recorded <;> simp [Event.settled]

/-- A step that settles nothing. -/
theorem World.Unsettled.extend {before after : World platform} (unsettled : before.Unsettled)
    (wasted : NeverWasted before.service.history) (same : after.requests = before.requests)
    (grown : ∃ events, after.service.history = before.service.history ++ events ∧
      ∀ event ∈ events, event.settled = none) :
    after.Unsettled ∧ NeverWasted after.service.history := by
  obtain ⟨events, history, idle⟩ := grown
  constructor
  · intro request working event membership
    rw [same] at working
    rw [history] at membership
    rcases List.mem_append.mp membership with old | isNew
    · exact unsettled request working event old
    · rw [idle event isNew]
      exact nofun
  · rw [history]
    exact wasted.append idle

theorem Answering.settled {named : Option Dict} {before after : UnlockService} {next : PamPlace}
    (answering : Answering request named before after next) :
    ∃ events, after.history = before.history ++ events ∧
      (∀ event ∈ events, event.settled = none ∨ event.settled = some request) ∧
      (next.Working → events = []) := by
  cases answering with
  | waits working history =>
      exact ⟨[], by rw [history, List.append_nil], by simp, fun _ => rfl⟩
  | ends isOver events history replies =>
      refine ⟨events, history, ?_, fun working => (isOver working).elim⟩
      rcases replies with rfl | rfl | ⟨_, taking, rfl⟩ <;> simp [Event.settled]

/-- A step of a request for which nothing was settled. -/
theorem Answering.unsettled {before : World platform} {service : UnlockService}
    {named : Option Dict} {next : PamPlace} (passed : next.Passed)
    (answering : Answering request named before.service service next)
    (idle : ∀ event ∈ before.service.history, event.settled ≠ some request)
    (unsettled : before.Unsettled) :
    ((before.reach service).setRequest request ⟨next, passed⟩).Unsettled := by
  obtain ⟨events, history, own, silent⟩ := answering.settled
  intro other working event membership
  change event ∈ service.history at membership
  rw [history] at membership
  by_cases same : other = request
  · subst same
    have isWorking := working ⟨next, passed⟩ (by rw [World.requests_setRequest, if_pos rfl])
    rw [silent isWorking, List.append_nil] at membership
    exact idle event membership
  · rcases List.mem_append.mp membership with old | isNew
    · refine unsettled other (fun current found => working current ?_) event old
      rw [World.requests_setRequest, if_neg same]
      exact found
    · rcases own event isNew with nothing | isOwn
      · rw [nothing]
        exact nofun
      · rw [isOwn]
        exact fun isOther => same (Option.some.inj isOther).symm

theorem Answering.neverWasted {named : Option Dict} {before after : UnlockService}
    {next : PamPlace} (answering : Answering request named before after next)
    (connected : ∀ message ∈ named, before.time < before.broker.expires →
      .hungUp request ∉ before.history)
    (idle : ∀ event ∈ before.history, event.settled ≠ some request)
    (wasted : NeverWasted before.history) : NeverWasted after.history := by
  cases answering with
  | waits _ history => rwa [history]
  | ends _ events history replies =>
      rw [history]
      rcases replies with rfl | rfl | ⟨⟨message, isNamed, live⟩, taking, rfl⟩
      · rwa [List.append_nil]
      · exact wasted.denied fun taking taken => idle _ taken rfl
      · exact wasted.granted (fun denied => idle _ denied rfl) (connected message isNamed live)
          taking

theorem StepCase.neverWasted {before after : World platform} {label : Label}
    (moved : StepCase before label after) (unwasted : before.Unwasted label)
    (unsettled : before.Unsettled) (wasted : NeverWasted before.service.history) :
    after.Unsettled ∧ NeverWasted after.service.history := by
  cases moved with
  | idle => exact ⟨unsettled, wasted⟩
  | tick => exact unsettled.extend wasted rfl ⟨[], by simp [World.reach, elapsed], by simp⟩
  | change => exact unsettled.extend wasted rfl ⟨[], by simp [World.reach, fileChanged], by simp⟩
  | hangUp request =>
      exact unsettled.extend wasted rfl ⟨_, rfl, by simp [Event.settled]⟩
  | connect session peer access answers service next known account fresh ran =>
      refine unsettled.extend wasted rfl ⟨[], ?_, by simp⟩
      rw [List.append_nil]
      exact (connect_steady ran).history
  | resume session awaited answers current service next known account found allowed ran =>
      exact unsettled.extend wasted rfl (resume_effect ran).unsettled
  | pamConnect request credentials answers service next passed fresh ran =>
      have answering := pamConnect_answering ran
      have idle := unsettled request (by simp [fresh])
      exact ⟨answering.unsettled passed idle unsettled,
        answering.neverWasted (by simp) idle wasted⟩
  | pamResume request awaited answers waiting service next passed found allowed ran =>
      have reached : ∀ message ∈ waiting.place.reaches platform before.service.data
          before.service.time awaited, before.service.time < before.service.broker.expires →
            message ∈ before.reaches request awaited := by
        intro message isMessage live
        rw [World.reaches, found, Option.bind_some, if_pos ⟨allowed, live⟩]
        exact isMessage
      rcases pamResume_answering
          (fun message isMessage live => (unwasted message (reached message isMessage live)).2) ran
        with ⟨working, answering⟩ | ⟨isOver, history⟩
      · have idle : ∀ event ∈ before.service.history, event.settled ≠ some request := by
          apply unsettled request
          intro current isCurrent
          obtain rfl := Option.some.inj (found.symm.trans isCurrent)
          exact working
        exact ⟨answering.unsettled passed idle unsettled, answering.neverWasted
          (fun message isMessage live => (unwasted message (reached message isMessage live)).1)
          idle wasted⟩
      · constructor
        · intro other working event membership
          change event ∈ service.history at membership
          rw [history] at membership
          by_cases same : other = request
          · subst same
            exact (isOver (working ⟨next, passed⟩
              (by rw [World.requests_setRequest, if_pos rfl]))).elim
          · refine unsettled other (fun current isCurrent => working current ?_) event membership
            rw [World.requests_setRequest, if_neg same]
            exact isCurrent
        · change NeverWasted service.history
          rwa [history]

/-- In a run whose steps all meet the condition no grant is wasted. -/
theorem neverWasted_of_unwasted (platform : Platform Key) (setup : Setup) (labels : List Label)
    (unwasted : Along step World.Unwasted (World.start platform setup) labels) :
    NeverWasted (World.after platform setup labels).service.history := by
  have keeps : ∀ (world : World platform) (label : Label),
      world.Unsettled ∧ NeverWasted world.service.history → world.Unwasted label →
        (step world label).Unsettled ∧ NeverWasted (step world label).service.history :=
    fun world label invariant unwasted =>
      (step_cases world label).neverWasted unwasted invariant.1 invariant.2
  have nothing : (World.start platform setup).service.history = [] := by
    obtain ⟨threshold, base, maximum, ttl, _, same⟩ := setup.service_eq
    simp [World.start, same]
  refine (run_invariant_along keeps ⟨?_, ?_⟩ unwasted).2
  · intro request _ event membership
    rw [nothing] at membership
    contradiction
  · rw [nothing]
    exact NeverWasted.nil

/-- The line of a helper. -/
def pamLine : Bytes := encode "\x7b\"user\": \"alice\"\x7d\n".toList

/-- The sample platform, where the line of a helper can be read. -/
def pamPlatform : Platform Unit :=
  { samplePlatform with
    loadsBytes := fun raw =>
      if raw = pamLine then .ok (.obj [(py "user", .str (py "alice"))]) else .error .valueError }

/-- A helper that asks while the grant is there. -/
def promptLabels : List Label :=
  openSession 0 ++ [.resume 0 (.text sampleResponse) calmAnswers] ++
    [.pamConnect 0 (.ok ⟨1, 0⟩) calmAnswers, .pamResume 0 (.line pamLine) calmAnswers]

/-- A helper that is gone when the grant is issued it has waited for. -/
def goneLabels : List Label :=
  [.pamConnect 0 (.ok ⟨1, 0⟩) calmAnswers, .pamResume 0 (.line pamLine) calmAnswers, .hangUp 0] ++
    openSession 0 ++ [.resume 0 (.text sampleResponse) calmAnswers,
      .pamResume 0 .woken calmAnswers]

/-- The request whose helper has hung up. -/
def Event.hangsUp : Event → Option ℕ
  | .hungUp request => some request
  | _ => none

/-- What can be seen of a step that wastes nothing. -/
def World.seemsUnwasted (world : World pamPlatform) : Label → Bool
  | .pamResume request awaited _ => (world.reaches request awaited).all fun message =>
      !(world.service.history.any fun event => event.hangsUp == some request) &&
        (lookup (py "user") message).isSome
  | _ => true

theorem promptLabels_seemUnwasted :
    Along step (fun world label => world.seemsUnwasted label = true)
      (World.start pamPlatform sampleSetup) promptLabels := by
  apply Along.append.mpr
  constructor
  · decide +kernel
  · simp only [Along, and_true]
    constructor
    · decide +kernel
    · decide +kernel

theorem neverWasted_promptLabels :
    NeverWasted (World.after pamPlatform sampleSetup promptLabels).service.history := by
  apply neverWasted_of_unwasted
  apply promptLabels_seemUnwasted.imp
  intro world label membership seen
  cases label with
  | pamResume request awaited answers =>
      have isCalm : answers = calmAnswers := by
        simp only [promptLabels, openSession, List.cons_append, List.nil_append, List.mem_cons,
          List.not_mem_nil, or_false, reduceCtorEq, Label.pamResume.injEq, false_or] at membership
        exact membership.2.2
      subst isCalm
      intro message isMessage
      rw [World.seemsUnwasted, Option.mem_def.mp isMessage, Option.all_some, Bool.and_eq_true,
        Bool.not_eq_true', List.any_eq_false] at seen
      obtain ⟨user, isUser⟩ := Option.isSome_iff_exists.mp seen.2
      refine ⟨fun gone => seen.1 _ gone (beq_self_eq_true _), ⟨⟨user, ?_⟩, nofun⟩, rfl⟩
      rw [item, isUser]
  | _ => trivial

theorem goneLabels_shown :
    ((World.after pamPlatform sampleSetup goneLabels).service.history[5]?).bind takenBy = some 0 ∧
      ((World.after pamPlatform sampleSetup goneLabels).service.history.take 5).any
        (fun event => event.hangsUp == some 0) = true := by
  decide +kernel

/-- The helper that took the grant had hung up. -/
theorem not_neverWasted_goneLabels :
    ¬ NeverWasted (World.after pamPlatform sampleSetup goneLabels).service.history := by
  intro wasted
  obtain ⟨taken, gone⟩ := goneLabels_shown
  obtain ⟨event, found, isTaken⟩ := Option.bind_eq_some_iff.mp taken
  obtain ⟨other, isBefore, isGone⟩ := List.any_eq_true.mp gone
  cases event with
  | taken request taking =>
      cases isTaken
      apply (wasted.answered 5 0 taking found).2
      cases other with
      | hungUp helper =>
          obtain rfl := Option.some.inj (eq_of_beq isGone)
          exact isBefore
      | _ => exact nomatch eq_of_beq isGone
  | _ => contradiction

end RemoteUnlock.Listener
