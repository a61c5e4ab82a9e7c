import RemoteUnlock.Listener.GrantUse

/-!
# What is asked for on a connection

A request goes on with the process at the other end and the line it has read, whatever
happens between two awaits: what it takes, and what it is answered for, is asked for by
this process with this line (`StepCase.asks`).
-/

namespace RemoteUnlock.Listener

open Python Python.Items Common Audit Library

variable {Key : Type} {platform : Platform Key}

/-- Who asks, by the user id of the process, and for what, once the line has been read. -/
structure Petition where
  uid : ℤ
  message : Option Dict

/-- What a waiting request goes on with. -/
def PamPlace.petition : PamPlace → Option Petition
  | .readline credentials _ _ => some ⟨credentials.uid, none⟩
  | .consuming credentials _ message _ _ => some ⟨credentials.uid, some message⟩
  | _ => none

/-- What a request goes on with when its wait ends. -/
def PamPlace.asks (platform : Platform Key) : PamPlace → PamAwaited → Option Petition
  | .readline credentials _ _, .line raw =>
      some ⟨credentials.uid, (parseRequest platform raw).toOption⟩
  | place, _ => place.petition

def Taking.petition (taking : Taking) : Petition := ⟨taking.uid, some taking.request⟩

/-- What an event on the connection of a request was asked for with. -/
def Event.asked (request : ℕ) : Event → Option Petition
  | .taken other taking => if other = request then some taking.petition else none
  | .granted other taking => if other = request then some taking.petition else none
  | _ => none

/-- Events on the connection of a request alone, for what it has asked for. -/
def AskedOn (request : ℕ) (petition : Option Petition) (events : List Event) : Prop :=
  ∀ event ∈ events, ∀ other asked, event.asked other = some asked →
    other = request ∧ petition = some asked

/-- What the code in front of the `finally` clause goes on or ends with was asked for. -/
def PamStep.AskedOn (petition : Option Petition) : PamStep → Prop
  | .waits place => ∀ asked ∈ place.petition, petition = some asked
  | .ends (some taking) => petition = some taking.petition
  | .ends none => True

/-- What the code in front of the `finally` clause does was asked for. -/
structure Asking (request : ℕ) (petition : Option Petition) (before after : UnlockService)
    (outcome : Except PyExc PamStep) : Prop where
  events : ∃ events, after.history = before.history ++ events ∧ AskedOn request petition events
  step : ∀ step, outcome = .ok step → step.AskedOn petition

section Asking

variable {answers : Answers} {request : ℕ} {petition : Option Petition}
  {before middle after : UnlockService} {outcome : Except PyExc PamStep}

theorem askedOn_nil : AskedOn request petition [] :=
  fun _ absent => absurd absent List.not_mem_nil

/-- A request that is over waits for nothing. -/
theorem mem_petition_of_none {place : PamPlace} (silent : place.petition = none) :
    ∀ asked ∈ place.petition, petition = some asked := by
  rw [silent]
  exact fun _ absent => nomatch absent

theorem AskedOn.append {first second : List Event} (start : AskedOn request petition first)
    (rest : AskedOn request petition second) : AskedOn request petition (first ++ second) := by
  intro event membership
  rcases List.mem_append.mp membership with old | isNew
  · exact start event old
  · exact rest event isNew

theorem askedOn_taken {taking : Taking} (asked : petition = some taking.petition) :
    AskedOn request petition [.taken request taking] := by
  intro event membership other found isFound
  rw [List.mem_singleton.mp membership, Event.asked] at isFound
  split at isFound
  next same => exact ⟨same.symm, asked.trans isFound⟩
  · contradiction

theorem askedOn_granted {taking : Taking} (asked : petition = some taking.petition) :
    AskedOn request petition [.granted request taking] := by
  intro event membership other found isFound
  rw [List.mem_singleton.mp membership, Event.asked] at isFound
  split at isFound
  next same => exact ⟨same.symm, asked.trans isFound⟩
  · contradiction

theorem askedOn_denied : AskedOn request petition [.denied request] := by
  intro event membership other found isFound
  rw [List.mem_singleton.mp membership] at isFound
  contradiction

theorem Asking.of_same (same : after.history = before.history)
    (step : ∀ step, outcome = .ok step → step.AskedOn petition) :
    Asking request petition before after outcome :=
  ⟨⟨[], by rw [same, List.append_nil], askedOn_nil⟩, step⟩

theorem Asking.of_raised {exc : PyExc} (same : after.history = before.history) :
    Asking request petition before after (.error exc) := .of_same same nofun

theorem Asking.of_refused (same : after.history = before.history) :
    Asking request petition before after (.ok (.ends none)) := by
  refine .of_same same ?_
  rintro step ⟨⟩
  trivial

theorem Asking.behind (asking : Asking request petition middle after outcome)
    (same : middle.history = before.history) : Asking request petition before after outcome :=
  ⟨same ▸ asking.events, asking.step⟩

theorem afterTaken_asking {credentials : Credentials} {taking : Taking}
    (ran : afterTaken platform answers request credentials taking before = (outcome, after)) :
    Asking request (some taking.petition) before after outcome := by
  have calm := recordConsume_quiet platform answers credentials taking.request true
  unfold afterTaken at ran
  rw [Py.bind_of_ok (Py.modify_apply _ _)] at ran
  rcases Py.of_tryExcept ran with ⟨step, ended, rfl⟩ | ⟨exc, final, ended, handles⟩
  · rcases Py.of_bind ended with ⟨exc, _, failed⟩ | ⟨value, final, recorded, rest⟩
    · contradiction
    · cases rest
      refine ⟨⟨_, (calm.after recorded).history, askedOn_taken rfl⟩, ?_⟩
      rintro step ⟨⟩
      rfl
  · rcases Py.of_bind ended with ⟨exc, recorded, same⟩ | ⟨value, final, recorded, rest⟩
    · cases same
      split at handles
      · cases handles
        exact ⟨⟨_, (calm.after recorded).history, askedOn_taken rfl⟩, nofun⟩
      · cases handles
        refine ⟨⟨_, (calm.after recorded).history, askedOn_taken rfl⟩, ?_⟩
        rintro step ⟨⟩
        rfl
    · cases rest

theorem afterRefused_asking {credentials : Credentials} {named : Dict}
    (ran : afterRefused platform answers credentials named before = (outcome, after)) :
    Asking request petition before after outcome := by
  have calm := recordConsume_quiet platform answers credentials named false
  unfold afterRefused at ran
  rcases Py.of_bind ran with ⟨exc, ended, rfl⟩ | ⟨value, final, ended, rest⟩
  · exact .of_raised (calm.after ended).history
  · cases rest
    exact .of_refused (calm.after ended).history

theorem consumeTurn_asking {credentials : Credentials} {uidData named userData : Dict}
    {deadline : Option ℚ}
    (ran : consumeTurn platform answers request credentials uidData named userData deadline
      before = (outcome, after)) :
    Asking request (some ⟨credentials.uid, some named⟩) before after outcome := by
  unfold consumeTurn at ran
  rw [Py.bind_of_ok (Py.read_apply _ _), Py.bind_of_ok (Py.zoom_apply _ _ _ _)] at ran
  cases turned : (before.broker.turn before.time deadline request).1 with
  | taken =>
      simp only [turned] at ran
      exact (afterTaken_asking ran).behind rfl
  | refused =>
      simp only [turned] at ran
      exact (afterRefused_asking ran).behind rfl
  | waits =>
      simp only [turned] at ran
      cases ran
      refine .of_same rfl ?_
      rintro step ⟨⟩ asked ⟨⟩
      rfl

theorem afterLine_asking {credentials : Credentials} {uidData : Dict} {raw : Bytes}
    (ran : afterLine platform answers request credentials uidData raw before =
      (outcome, after)) :
    Asking request (some ⟨credentials.uid, (parseRequest platform raw).toOption⟩) before after
      outcome := by
  unfold afterLine at ran
  rcases Py.of_bind ran with ⟨exc, ended, rfl⟩ | ⟨named, _, parsed, rest⟩
  · obtain ⟨_, rfl⟩ := Py.ofExcept_eq_iff.mp ended
    exact .of_raised rfl
  obtain ⟨isNamed, rfl⟩ := Py.ofExcept_eq_iff.mp parsed
  rw [Py.bind_of_ok (Py.read_apply _ _)] at rest
  rcases Py.of_bind rest with ⟨exc, ended, rfl⟩ | ⟨same, _, compares, rest⟩
  · obtain ⟨_, rfl⟩ := Py.ofExcept_eq_iff.mp ended
    exact .of_raised rfl
  obtain ⟨_, rfl⟩ := Py.ofExcept_eq_iff.mp compares
  cases same with
  | true =>
      rcases Py.of_bind rest with ⟨exc, ended, rfl⟩ | ⟨wait, _, configured, rest⟩
      · exact .of_raised ((configItem_quiet _).after ended).history
      obtain ⟨_, rfl⟩ := configItem_eq_iff.mp configured
      rw [Py.bind_of_ok (Py.read_apply _ _)] at rest
      rcases Py.of_bind rest with ⟨exc, ended, rfl⟩ | ⟨deadline, _, computed, rest⟩
      · obtain ⟨_, rfl⟩ := Py.ofExcept_eq_iff.mp ended
        exact .of_raised rfl
      obtain ⟨_, rfl⟩ := Py.ofExcept_eq_iff.mp computed
      rw [isNamed]
      exact consumeTurn_asking rest
  | false =>
      have calm := record_quiet platform answers "pam_denied" none "default" []
        [(py "user", .str ((platform.str ((lookup (py "user") named).getD .null)).take 64)),
          (py "uid", .int credentials.uid)]
      rcases Py.of_bind rest with ⟨exc, ended, rfl⟩ | ⟨value, final, ended, rest⟩
      · exact .of_raised (calm.after ended).history
      · cases rest
        exact .of_refused (calm.after ended).history

theorem pamStart_asking {credentials : Except PyExc Credentials}
    (ran : pamStart platform answers credentials before = (outcome, after)) :
    Asking request (credentials.toOption.map fun peer => ⟨peer.uid, none⟩) before after
      outcome := by
  have calm := (pamStart_quiet platform answers credentials).after ran
  refine .of_same calm.history ?_
  rintro step rfl
  unfold pamStart at ran
  rcases Py.of_bind ran with ⟨exc, _, failed⟩ | ⟨peer, _, known, rest⟩
  · contradiction
  obtain ⟨rfl, rfl⟩ := Py.ofExcept_eq_iff.mp known
  rcases Py.of_bind rest with ⟨exc, _, failed⟩ | ⟨data, _, _, rest⟩
  · contradiction
  rcases Py.of_bind rest with ⟨exc, _, failed⟩ | ⟨allowed, _, tested, rest⟩
  · contradiction
  cases allowed with
  | true =>
      rw [if_pos rfl, Py.bind_of_ok (Py.read_apply _ _)] at rest
      cases rest
      rintro asked ⟨⟩
      rfl
  | false =>
      rcases Py.of_bind rest with ⟨exc, _, failed⟩ | ⟨value, final, ended, rest⟩
      · contradiction
      · cases rest
        trivial

theorem pamBody_asking {place : PamPlace} {awaited : PamAwaited}
    {body : Py UnlockService PamStep}
    (runs : pamBody platform answers request place awaited = some body)
    (ran : body before = (outcome, after)) :
    Asking request (place.asks platform awaited) before after outcome := by
  unfold pamBody at runs
  split at runs
  next credentials uidData deadline raw =>
    cases runs
    exact afterLine_asking ran
  next credentials uidData deadline exc =>
    cases runs
    cases ran
    exact .of_raised rfl
  next credentials uidData deadline =>
    cases runs
    cases ran
    exact .of_raised rfl
  next credentials uidData named userData deadline =>
    cases runs
    rw [leaveWait, Py.bind_of_ok (Py.modify_apply _ _)] at ran
    exact (consumeTurn_asking ran).behind rfl
  next credentials uidData named userData deadline exc =>
    cases runs
    cases ran
    exact .of_raised rfl
  next credentials uidData named userData deadline =>
    cases runs
    rw [leaveWait, Py.bind_of_ok (Py.modify_apply _ _)] at ran
    exact (afterRefused_asking ran).behind rfl
  · contradiction

/-- What a step of a request does was asked for. -/
structure Asked (request : ℕ) (petition : Option Petition) (before after : UnlockService)
    (next : PamPlace) : Prop where
  place : ∀ asked ∈ next.petition, petition = some asked
  events : ∃ events, after.history = before.history ++ events ∧ AskedOn request petition events

theorem reply_asked {ok : Option Taking} {next : PamPlace}
    (asked : ∀ taking ∈ ok, petition = some taking.petition)
    (ran : reply answers request ok before = (after, next)) :
    Asked request petition before after next := by
  unfold reply at ran
  split at ran
  · cases ran
    exact ⟨mem_petition_of_none rfl, [], (List.append_nil _).symm, askedOn_nil⟩
  · split at ran
    next taking =>
      cases ran
      exact ⟨mem_petition_of_none rfl, _, rfl, askedOn_granted (asked taking rfl)⟩
    · cases ran
      exact ⟨mem_petition_of_none rfl, _, rfl, askedOn_denied⟩

theorem concluded_asked {body : Py UnlockService PamStep} {next : PamPlace}
    (asking : ∀ outcome middle, body before = (outcome, middle) →
      Asking request petition before middle outcome)
    (ran : concluded answers request body before = (after, next)) :
    Asked request petition before after next := by
  unfold concluded at ran
  rcases first : body before with ⟨outcome, middle⟩
  obtain ⟨⟨events, history, start⟩, step⟩ := asking _ _ first
  rw [first] at ran
  have replies : ∀ ok, (∀ taking ∈ ok, petition = some taking.petition) →
      reply answers request ok middle = (after, next) →
        Asked request petition before after next := by
    intro ok asked ran
    obtain ⟨place, replied, final, rest⟩ := reply_asked asked ran
    refine ⟨place, events ++ replied, ?_, start.append rest⟩
    rw [final, history, List.append_assoc]
  match outcome with
  | .ok (.waits place) =>
      cases ran
      exact ⟨step _ rfl, events, history, start⟩
  | .ok (.ends none) => exact replies none (by simp) ran
  | .ok (.ends (some taking)) =>
      refine replies (some taking) ?_ ran
      rintro other ⟨⟩
      exact step _ rfl
  | .error exc => exact replies none (by simp) ran

theorem pamConnect_asked {credentials : Except PyExc Credentials} {next : PamPlace}
    (ran : pamConnect platform answers request credentials before = (after, next)) :
    Asked request (credentials.toOption.map fun peer => ⟨peer.uid, none⟩) before after next :=
  concluded_asked (fun _ _ => pamStart_asking) ran

theorem pamResume_asked {place next : PamPlace} {awaited : PamAwaited}
    (ran : pamResume platform answers request place awaited before = some (after, next)) :
    Asked request (place.asks platform awaited) before after next := by
  unfold pamResume at ran
  split at ran
  · cases ran
    exact ⟨mem_petition_of_none rfl, [], (List.append_nil _).symm, askedOn_nil⟩
  · obtain ⟨body, runs, ended⟩ := Option.map_eq_some_iff.mp ran
    exact concluded_asked (fun _ _ => pamBody_asking runs) ended

end Asking

/-! ## Runs -/

/-- What happened on the connection of a request, and what it waits with, is for something that
may be asked for. -/
structure World.Asks (request : ℕ) (allowed : Petition → Prop) (world : World platform) :
    Prop where
  waiting : ∀ current, world.requests request = some current →
    ∀ asked ∈ current.place.petition, allowed asked
  history : ∀ event ∈ world.service.history, ∀ asked, event.asked request = some asked →
    allowed asked

/-- The request has passed its first check and waits for its line. -/
def World.Listens (world : World platform) (request : ℕ) : Prop :=
  ∃ current credentials uidData deadline, world.requests request = some current ∧
    current.place = .readline credentials uidData deadline

/-- What the request begins with and the line that it reads may be asked for. -/
def World.Reads (request : ℕ) (allowed : Petition → Prop) (world : World platform) :
    Label → Prop
  | .pamConnect other credentials _ => other = request → world.requests request = none →
      ∀ peer, credentials = .ok peer → allowed ⟨peer.uid, none⟩
  | .pamResume other (.line raw) _ => other = request → world.Listens request →
      ∀ uid, allowed ⟨uid, none⟩ → allowed ⟨uid, (parseRequest platform raw).toOption⟩
  | _ => True

theorem SessionEffect.asked {session : ℕ} {peer : Peer} {answers : Answers}
    {awaited : Awaited} {before after : UnlockService} {place : Place}
    {next : Except PyExc Place}
    (effect : SessionEffect platform session peer answers awaited before place after next) :
    ∃ events, after.history = before.history ++ events ∧
      ∀ event ∈ events, ∀ request, event.asked request = none := by
  cases effect with
  | quiet calm => exact ⟨[], by rw [calm.history, List.append_nil], by simp⟩
  | challenge identity challenge signed admitted identified opens =>
      refine ⟨_, opens.history, ?_⟩
      cases signed <;> simp [Event.asked]
  | unsent deviceId opens => exact ⟨_, opens.history, by simp [Event.asked]⟩
  | await => exact ⟨[], by rw [List.append_nil], by simp⟩
  | @grant identity deadline _ _ nonce signature entry recorded accepts issues =>
      refine ⟨_, issues.history, ?_⟩
      cases recorded <;> simp [Event.asked]

section Asks

variable {request : ℕ} {allowed : Petition → Prop} {before : World platform}

/-- A step on no connection. -/
theorem World.Asks.extend {after : World platform} (asks : before.Asks request allowed)
    (same : after.requests = before.requests)
    (grown : ∃ events, after.service.history = before.service.history ++ events ∧
      ∀ event ∈ events, ∀ request, event.asked request = none) : after.Asks request allowed := by
  obtain ⟨events, history, idle⟩ := grown
  refine ⟨same ▸ asks.waiting, ?_⟩
  intro event membership asked isAsked
  rw [history] at membership
  rcases List.mem_append.mp membership with old | isNew
  · exact asks.history event old asked isAsked
  · rw [idle event isNew] at isAsked
    contradiction

theorem World.Asks.of_same {after : World platform} (asks : before.Asks request allowed)
    (same : after.requests = before.requests)
    (history : after.service.history = before.service.history) : after.Asks request allowed :=
  asks.extend same ⟨[], by rw [history, List.append_nil], by simp⟩

/-- A step of a request that does what it was asked for. -/
theorem World.Asks.asked {other : ℕ} {petition : Option Petition} {service : UnlockService}
    {next : PamPlace}
    (asks : before.Asks request allowed) (passed : next.Passed)
    (reads : other = request → ∀ asked ∈ petition, allowed asked)
    (asked : Asked other petition before.service service next) :
    ((before.reach service).setRequest other ⟨next, passed⟩).Asks request allowed := by
  obtain ⟨place, events, history, askedOn⟩ := asked
  constructor
  · intro current found named isNamed
    rw [World.requests_setRequest] at found
    split at found
    next same =>
      obtain rfl := Option.some.inj found
      exact reads same.symm named (place named isNamed)
    · exact asks.waiting current found named isNamed
  · intro event membership named isNamed
    change event ∈ service.history at membership
    rw [history] at membership
    rcases List.mem_append.mp membership with old | isNew
    · exact asks.history event old named isNamed
    · obtain ⟨same, isMessage⟩ := askedOn event isNew request named isNamed
      exact reads same.symm named isMessage

theorem World.Asks.mono {later : Petition → Prop} (asks : before.Asks request allowed)
    (weaker : ∀ asked, allowed asked → later asked) : before.Asks request later :=
  ⟨fun current found asked isAsked => weaker asked (asks.waiting current found asked isAsked),
    fun event membership asked isAsked =>
      weaker asked (asks.history event membership asked isAsked)⟩

theorem StepCase.asks {after : World platform} {label : Label}
    (moved : StepCase before label after) (reads : before.Reads request allowed label)
    (asks : before.Asks request allowed) : after.Asks request allowed := by
  cases moved with
  | idle => exact asks
  | tick => exact asks.of_same rfl rfl
  | change => exact asks.of_same rfl rfl
  | hangUp => exact asks.extend rfl ⟨_, rfl, by simp [Event.asked]⟩
  | connect session peer access answers service next known account fresh ran =>
      have steady := connect_steady ran
      exact asks.of_same rfl steady.history
  | resume session awaited answers current service next known account found allowed ran =>
      exact asks.extend rfl (resume_effect ran).asked
  | pamConnect other credentials answers service next passed fresh ran =>
      refine asks.asked passed ?_ (pamConnect_asked ran)
      rintro rfl asked isAsked
      cases credentials with
      | error exc => contradiction
      | ok peer =>
          obtain rfl := Option.some.inj isAsked
          exact reads rfl fresh peer rfl
  | pamResume other awaited answers current service next passed found possible ran =>
      refine asks.asked passed ?_ (pamResume_asked ran)
      rintro rfl asked isAsked
      have waiting := asks.waiting current found
      cases place : current.place with
      | readline credentials uidData deadline =>
          rw [place] at isAsked waiting
          cases awaited with
          | line raw =>
              obtain rfl := Option.some.inj isAsked
              exact reads rfl ⟨current, credentials, uidData, deadline, found, place⟩ _
                (waiting _ rfl)
          | _ => exact waiting asked isAsked
      | consuming credentials uidData message userData deadline =>
          rw [place] at isAsked waiting
          exact waiting asked isAsked
      | draining => rw [place] at isAsked; contradiction
      | done => rw [place] at isAsked; contradiction

/-- Nothing happens on a connection that is not served. -/
def World.Unserved (world : World platform) : Prop :=
  ∀ request, world.requests request = none → world.Asks request fun _ => False

theorem StepCase.unserved {after : World platform} {label : Label}
    (moved : StepCase before label after) (unserved : before.Unserved) : after.Unserved := by
  intro request isNone
  have idle : before.requests request = none ∧
      (after = before ∨ before.Reads request (fun _ => False) label) := by
    cases moved with
    | idle => exact ⟨isNone, .inl rfl⟩
    | pamConnect other credentials answers service next passed fresh ran =>
        rw [World.requests_setRequest] at isNone
        split at isNone
        · contradiction
        next different => exact ⟨isNone, .inr fun same => (different same.symm).elim⟩
    | pamResume other awaited answers current service next passed found possible ran =>
        rw [World.requests_setRequest] at isNone
        split at isNone
        · contradiction
        next different =>
          refine ⟨isNone, .inr ?_⟩
          cases awaited with
          | line raw => exact fun same => (different same.symm).elim
          | _ => trivial
    | _ => exact ⟨isNone, .inr trivial⟩
  obtain ⟨was, rfl | reads⟩ := idle
  · exact unserved request was
  · exact moved.asks reads (unserved request was)

end Asks

theorem after_unserved (platform : Platform Key) (setup : Setup) (labels : List Label) :
    (World.after platform setup labels).Unserved := by
  have keeps : ∀ (world : World platform) (label : Label), world.Unserved →
      (step world label).Unserved := fun world label => (step_cases world label).unserved
  refine run_invariant keeps ?_ labels
  obtain ⟨_, _, _, _, _, same⟩ := setup.service_eq
  intro request _
  refine ⟨fun current found => by contradiction, fun event membership => ?_⟩
  rw [World.start, same] at membership
  exact absurd membership List.not_mem_nil

/-! ## Where a reply comes from -/

/-- Who asks and for what, by the labels of a run: the request began with this process, and has
read a line that asks for this. -/
structure Petitioned (platform : Platform Key) (setup : Setup) (labels : List Label)
    (request : ℕ) (petition : Petition) : Prop where
  uid : ∃ before credentials answers after,
    labels = before ++ .pamConnect request (.ok credentials) answers :: after ∧
      (World.after platform setup before).requests request = none ∧
      petition.uid = credentials.uid
  message : ∀ asked ∈ petition.message, ∃ before raw answers after,
    labels = before ++ .pamResume request (.line raw) answers :: after ∧
      (World.after platform setup before).Listens request ∧
      parseRequest platform raw = .ok asked

theorem Petitioned.snoc {setup : Setup} {labels : List Label} {request : ℕ}
    {petition : Petition} (asked : Petitioned platform setup labels request petition)
    (label : Label) : Petitioned platform setup (labels ++ [label]) request petition := by
  constructor
  · obtain ⟨before, credentials, answers, after, rfl, fresh⟩ := asked.uid
    exact ⟨before, credentials, answers, after ++ [label], by simp, fresh⟩
  · intro message isMessage
    obtain ⟨before, raw, answers, after, rfl, listens⟩ := asked.message message isMessage
    exact ⟨before, raw, answers, after ++ [label], by simp, listens⟩

/-- What happens on a connection is asked for by the labels of the run. -/
theorem after_asks (platform : Platform Key) (setup : Setup) (labels : List Label)
    (request : ℕ) :
    (World.after platform setup labels).Asks request
      (Petitioned platform setup labels request) := by
  induction labels using List.reverseRecOn with
  | nil =>
      obtain ⟨_, _, _, _, _, same⟩ := setup.service_eq
      refine ⟨fun current found => by contradiction, fun event membership => ?_⟩
      rw [World.after, run_nil, World.start, same] at membership
      exact absurd membership List.not_mem_nil
  | append_singleton labels label inductionHypothesis =>
      have asks := inductionHypothesis.mono fun _ asked => asked.snoc label
      rw [World.after, run_append, run_cons, run_nil]
      refine (step_cases _ label).asks ?_ asks
      cases label with
      | pamConnect other credentials answers =>
          rintro rfl fresh peer rfl
          exact ⟨⟨labels, peer, answers, [], rfl, fresh, rfl⟩, by simp⟩
      | pamResume other awaited answers =>
          cases awaited with
          | line raw =>
              rintro rfl listens uid begun
              refine ⟨begun.uid, fun message isMessage => ?_⟩
              refine ⟨labels, raw, answers, [], rfl, listens, ?_⟩
              cases parsed : parseRequest platform raw with
              | ok asked =>
                  rw [parsed] at isMessage
                  exact congrArg Except.ok (Option.some.inj isMessage)
              | error exc =>
                  rw [parsed] at isMessage
                  contradiction
          | _ => trivial
      | _ => trivial

/-- Each reply `1` has a grant of its own, issued before it and taken in time by a request that
has passed its checks. -/
theorem Redeemed.origin {ttl : ℚ} {loaded : List Dict} {service : UnlockService}
    (redeemed : Redeemed ttl loaded service) :
    ∃ origin : ℕ → ℕ,
      (∀ (position request : ℕ) (taking : Taking),
        service.history[position]? = some (.granted request taking) →
          origin position < position ∧ .taken request taking ∈ service.history ∧
          ∃ session grant,
            service.history[origin position]? = some (.grant session grant) ∧
            grant.time ≤ taking.time ∧ taking.time - grant.time < ttl ∧ Cleared taking ∧
            taking.datas ⊆ loaded) ∧
      ∀ (first second firstRequest secondRequest : ℕ) (firstTaking secondTaking : Taking),
        service.history[first]? = some (.granted firstRequest firstTaking) →
        service.history[second]? = some (.granted secondRequest secondTaking) →
        origin first = origin second → first = second := by
  have links : ∀ origin event, Replied origin event → ∃ key, takesGrant origin = some key := by
    rintro origin event ⟨request, taking, rfl, _⟩
    exact ⟨(), rfl⟩
  obtain ⟨origin, found, injective⟩ := redeemed.takings.injection_trans redeemed.replies links
  refine ⟨origin, ?_, ?_⟩
  · intro position request taking isGranted
    obtain ⟨earlier, middle, opening, inHistory, ⟨other, otherTaking, rfl, same⟩, isOpening,
      session, grant, taker, taken, rfl, isTaken, order, inTime, cleared, dated⟩ :=
        found position _ request isGranted rfl
    obtain ⟨rfl, rfl⟩ := Event.granted.inj same
    obtain ⟨rfl, rfl⟩ := Event.taken.inj isTaken
    exact ⟨earlier, inHistory, session, grant, isOpening, order, inTime, cleared, dated⟩
  · intro first second firstRequest secondRequest firstTaking secondTaking isFirst isSecond same
    exact injective first second _ _ _ _ isFirst rfl isSecond rfl same

/-! ## Single use -/

/-- The replies `1` of a run map to earlier grants, no two of them to the same one, each taken
in time by a request that had passed its checks, by the process and the line of its labels; and
a request that is denied, or takes no grant in a step, leaves the grant as it was. -/
theorem grants_used_once (platform : Platform Key) (setup : Setup) (labels : List Label) :
    ∃ ttl, UnlockService.number (openConfig setup.access setup.file).2.config.data "grant_ttl" =
        some ttl ∧
      (∃ origin : ℕ → ℕ,
        (∀ (position request : ℕ) (taking : Taking),
          (World.after platform setup labels).service.history[position]? =
            some (.granted request taking) →
          origin position < position ∧
          Petitioned platform setup labels request taking.petition ∧
          .taken request taking ∈ (World.after platform setup labels).service.history ∧
          ∃ session grant,
            (World.after platform setup labels).service.history[origin position]? =
              some (.grant session grant) ∧
            grant.time ≤ taking.time ∧ taking.time - grant.time < ttl ∧ Cleared taking ∧
            taking.datas ⊆ (World.after platform setup labels).loaded) ∧
        ∀ (first second firstRequest secondRequest : ℕ) (firstTaking secondTaking : Taking),
          (World.after platform setup labels).service.history[first]? =
            some (.granted firstRequest firstTaking) →
          (World.after platform setup labels).service.history[second]? =
            some (.granted secondRequest secondTaking) →
          origin first = origin second → first = second) ∧
      Along step (fun world label => ∀ request,
        (world.Denies request label ∨ label.request = some request ∧
          TakesNone request world.service (step world label).service) →
        world.service.broker.Spares request world.service.time
          (step world label).service.broker) (World.start platform setup) labels := by
  obtain ⟨_, _, _, ttl, isTtl, _⟩ := setup.service_eq
  obtain ⟨origin, found, injective⟩ := (after_redeemed platform setup labels isTtl).origin
  refine ⟨ttl, isTtl, ⟨origin, ?_, injective⟩, ?_⟩
  · intro position request taking isGranted
    obtain ⟨earlier, behind⟩ := found position request taking isGranted
    have asks := after_asks platform setup labels request
    exact ⟨earlier, asks.history _ (List.mem_of_getElem? isGranted) _ (if_pos rfl), behind⟩
  · refine Along.of_forall (fun world label request idle => ?_) _ _
    have moved := step_cases world label
    rcases idle with denies | ⟨own, none⟩
    · exact moved.spares denies
    · exact moved.spares_of_takesNone own none

end RemoteUnlock.Listener
