import RemoteUnlock.Listener.Twins

/-!
# Sessions on twins

What a session does between two awaits does not depend on which of two twins it runs on, as
long as its address and its device are among the keys that cannot tell them apart.
-/

namespace RemoteUnlock.Listener

open Python Python.Items Common Audit Library

section Sessions

variable {Key : Type} {platform : Platform Key} {own : LockKind → PyStr → Bool} {ttl : Json}
  {first second : Answers} {peer : Peer} {left right : UnlockService}

theorem sessionStart_paired (isPeer : own .ip peer.ip = true)
    (twins : TwinsIn own ttl first second left right) :
    Py.Paired (TwinsIn own ttl first second) Eq (sessionStart platform first peer)
      (sessionStart platform second peer) left right := by
  unfold sessionStart
  refine Py.Paired.bind (locked_paired isPeer twins) ?_
  rintro isLocked _ middle between rfl twins
  split
  · exact Py.Paired.pure rfl twins
  · refine Py.Paired.bind (Py.Paired.ofExcept _ twins) ?_
    rintro certificate _ middle between rfl twins
    refine Py.Paired.bind (data_paired twins) ?_
    rintro data _ middle between rfl twins
    refine Py.Paired.bind (Py.Paired.ofExcept _ twins) ?_
    rintro device _ middle between rfl twins
    refine Py.Paired.bind (configItem_paired _ twins) ?_
    rintro required _ middle between rfl twins
    split
    · exact fail_paired isPeer (by simp) _ _ _ twins
    · refine Py.Paired.bind (time_paired twins) ?_
      rintro now _ middle between rfl twins
      exact Py.Paired.pure rfl twins

theorem lookupDevice_paired (admission : Admission) (deviceId : PyStr)
    (twins : TwinsIn own ttl first second left right) :
    Py.Paired (TwinsIn own ttl first second) Eq (lookupDevice admission deviceId)
      (lookupDevice admission deviceId) left right := by
  unfold lookupDevice
  refine Py.Paired.bind (data_paired twins) ?_
  rintro data _ middle between rfl twins
  split
  · exact Py.Paired.pure rfl twins
  · refine Py.Paired.bind (Py.Paired.ofExcept _ twins) ?_
    rintro device _ middle between rfl twins
    exact Py.Paired.pure rfl twins

/-- A session of a device that finds room for its challenge in both tables. -/
structure Welcome (own : LockKind → PyStr → Bool) (ttl : Json) (deviceId : PyStr)
    (left right : UnlockService) : Prop where
  isOwn : own .device deviceId = true
  timed : item left.data "challenge_ttl" = .ok ttl
  room : ∃ kept, Room left kept
  otherRoom : ∃ kept, Room right kept

theorem challengeDevice_paired (draws : SameDraws first second) (limit : IsLimit ttl)
    {identity : Identity} (welcome : Welcome own ttl identity.deviceId left right)
    (twins : TwinsIn own ttl first second left right) :
    Py.Paired (TwinsIn own ttl first second) Eq (challengeDevice platform first identity)
      (challengeDevice platform second identity) left right := by
  unfold challengeDevice
  refine Py.Paired.bind_ran (locked_paired welcome.isOwn twins) ?_
  rintro isLocked _ middle between ran otherRan rfl twins
  cases isLocked with
  | true => exact Py.Paired.pure rfl twins
  | false =>
      obtain ⟨rfl, _⟩ := locked_false _ _ ran
      obtain ⟨rfl, _⟩ := locked_false _ _ otherRan
      obtain ⟨_, room⟩ := welcome.room
      obtain ⟨_, otherRoom⟩ := welcome.otherRoom
      refine Py.Paired.bind
        (issueChallenge_paired draws limit _ welcome.timed room otherRoom twins) ?_
      rintro challenge _ middle between rfl twins
      exact Py.Paired.pure rfl twins

/-- The device a hello names and a lookup finds. -/
theorem helloDevice_of_lookup {admission : Admission} {hello : Dict} {deviceId : PyStr}
    {device data : Dict} {before after : UnlockService}
    (named : lookup (py "device_id") hello = some (.str deviceId))
    (isHello : lookup (py "type") hello = some (.str (py "hello")))
    (found : lookupDevice admission deviceId before = (.ok (some device, data), after))
    (identifier : item device "id" = .ok (.str deviceId)) :
    helloDevice admission before.data hello = some deviceId := by
  obtain ⟨_, source⟩ := lookupDevice_eq_iff.mp found
  have search : (if admission.certDevice.getD [] ≠ [] then .ok admission.certDevice
      else deviceById before.data deviceId) = .ok (some device) := by
    by_cases certified : admission.certDevice.getD [] ≠ []
    · rw [if_pos certified, Except.ok.injEq, Prod.mk.injEq] at source
      rw [if_pos certified, source.1]
    · rw [if_neg certified] at source ⊢
      cases searched : deviceById before.data deviceId with
      | error exc => simp [searched, Except.map] at source
      | ok other =>
          simp only [searched, Except.map, Except.ok.injEq, Prod.mk.injEq] at source
          rw [source.1]
  unfold helloDevice
  simp only [named, isHello, search, identifier, ne_eq, not_true_eq_false, if_false, if_true]

theorem afterHello_paired (draws : SameDraws first second) (limit : IsLimit ttl)
    (isPeer : own .ip peer.ip = true) {admission : Admission} {hello : Dict}
    (welcome : ∀ deviceId, helloDevice admission left.data hello = some deviceId →
      Welcome own ttl deviceId left right)
    (twins : TwinsIn own ttl first second left right) :
    Py.Paired (TwinsIn own ttl first second) Eq
      (afterHello platform first peer admission hello)
      (afterHello platform second peer admission hello) left right := by
  unfold afterHello
  split
  next deviceId named =>
    split
    · exact fail_paired isPeer (by simp) _ _ _ twins
    next isHello =>
      refine Py.Paired.bind_ran (lookupDevice_paired admission deviceId twins) ?_
      rintro ⟨found, lookupData⟩ _ middle between ran otherRan rfl twins
      obtain ⟨rfl, _⟩ := lookupDevice_eq_iff.mp ran
      obtain ⟨rfl, _⟩ := lookupDevice_eq_iff.mp otherRan
      cases found with
      | none => exact fail_paired isPeer (by simp) _ _ _ twins
      | some device =>
          refine Py.Paired.bind_ran (Py.Paired.ofExcept _ twins) ?_
          rintro identifier _ middle between has otherHas rfl twins
          obtain ⟨hasId, rfl⟩ := Py.ofExcept_eq_iff.mp has
          obtain ⟨_, rfl⟩ := Py.ofExcept_eq_iff.mp otherHas
          split
          · exact fail_paired isPeer (by simp) _ _ _ twins
          next same =>
            rw [not_not.mp same] at hasId
            exact challengeDevice_paired draws limit
              (welcome deviceId (helloDevice_of_lookup named (not_not.mp isHello) ran hasId)) twins
  · exact fail_paired isPeer (by simp) _ _ _ twins

theorem sent_paired (raises : Option PyExc) (twins : TwinsIn own ttl first second left right) :
    Py.Paired (TwinsIn own ttl first second) Eq (sent raises) (sent raises) left right :=
  Py.Paired.raiseIf _ twins

theorem rejected_paired (raises : Option PyExc) (hits : List (LockKind × PyStr))
    (twins : TwinsIn own ttl first second left right) :
    Py.Paired (TwinsIn own ttl first second) Eq
      (do
        sent raises
        failRest platform first hits
        pure Place.done)
      (do
        sent raises
        failRest platform second hits
        pure Place.done) left right := by
  refine Py.Paired.bind (sent_paired _ twins) fun _ _ _ _ _ twins => ?_
  exact Py.Paired.bind (failRest_paired hits twins) fun _ _ _ _ _ twins =>
    Py.Paired.pure rfl twins

theorem afterChallenge_paired (identity : Identity)
    (twins : TwinsIn own ttl first second left right) :
    Py.Paired (TwinsIn own ttl first second) Eq (afterChallenge identity)
      (afterChallenge identity) left right := by
  unfold afterChallenge
  refine Py.Paired.bind (configItem_paired _ twins) ?_
  rintro limit _ middle between rfl twins
  refine Py.Paired.bind (time_paired twins) ?_
  rintro now _ middle between rfl twins
  refine Py.Paired.bind (Py.Paired.ofExcept _ twins) ?_
  rintro deadline _ middle between rfl twins
  exact Py.Paired.pure rfl twins

theorem succeed_paired (session : ℕ) (peer : Peer) (identity : Identity) (nonce : PyStr)
    (signature : Option Json) (entry : Pending)
    (twins : TwinsIn own ttl first second left right) :
    Py.Paired (TwinsIn own ttl first second) Eq
      (succeed platform first session peer identity nonce signature entry)
      (succeed platform second session peer identity nonce signature entry) left right := by
  unfold succeed
  refine Py.Paired.bind (read_paired _ _ twins) fun grant otherGrant _ _ _ twins => ?_
  refine Py.Paired.bind (clearFailures_paired _ _ twins) fun _ _ _ _ _ twins => ?_
  refine Py.Paired.bind (Py.Paired.modify { twins with }) fun _ _ _ _ _ twins => ?_
  refine Py.Paired.bind (configItem_paired _ twins) fun _ _ _ _ _ twins => ?_
  refine Py.Paired.bind (record_paired _ _ _ _ _ _ _ twins) fun _ _ _ _ _ twins => ?_
  exact Py.Paired.bind (Py.Paired.modify { twins with }) fun _ _ _ _ _ twins =>
    Py.Paired.pure rfl twins

theorem afterResponse_paired (limit : IsLimit ttl) (isPeer : own .ip peer.ip = true)
    (session : ℕ) {identity : Identity} (response : Dict)
    (identifier : item identity.device "id" = .ok (.str identity.deviceId))
    (isOwn : own .device identity.deviceId = true)
    (timed : item left.data "challenge_ttl" = .ok ttl)
    (twins : TwinsIn own ttl first second left right) :
    Py.Paired (TwinsIn own ttl first second) Eq
      (afterResponse platform first session peer identity response)
      (afterResponse platform second session peer identity response) left right := by
  have known : ∀ device ∈ some identity.deviceId, own .device device = true := by simpa
  unfold afterResponse
  split
  · exact fail_paired isPeer known _ _ _ twins
  · refine Py.Paired.bind (checkResponse_paired limit identifier isOwn timed twins) ?_
    rintro verdict otherVerdict middle between same twins
    cases same with
    | refused reason other => exact fail_paired isPeer known _ _ _ twins
    | accepted nonce entry => exact succeed_paired session peer identity nonce _ entry twins

/-- What a session of an own address has to bring along at a place. -/
structure Ready (own : LockKind → PyStr → Bool) (ttl : Json) (place : Place) (awaited : Awaited)
    (left right : UnlockService) : Prop where
  timed : item left.data "challenge_ttl" = .ok ttl
  isOwn : ∀ deviceId, place.device left.data awaited = some deviceId →
    own .device deviceId = true
  room : ∀ admission deadline deviceId, place = .recvHello admission deadline →
    place.device left.data awaited = some deviceId →
      (∃ kept, Room left kept) ∧ ∃ kept, Room right kept

theorem Ready.welcome {admission : Admission} {deadline : Option ℚ} {awaited : Awaited}
    {hello : Dict}
    (ready : Ready own ttl (.recvHello admission deadline) awaited left right)
    (message : received awaited = some (.ok hello)) {deviceId : PyStr}
    (named : helloDevice admission left.data hello = some deviceId) :
    Welcome own ttl deviceId left right := by
  have known : (Place.recvHello admission deadline).device left.data awaited = some deviceId := by
    simp only [Place.device, message, named]
  obtain ⟨room, otherRoom⟩ := ready.room admission deadline deviceId rfl known
  exact ⟨ready.isOwn deviceId known, ready.timed, room, otherRoom⟩

theorem sessionBody_paired (draws : SameDraws first second) (limit : IsLimit ttl)
    (isPeer : own .ip peer.ip = true) {session : ℕ} {place : Place} {awaited : Awaited}
    (known : Known platform peer place) (ready : Ready own ttl place awaited left right)
    {body : Py UnlockService Place}
    (runs : sessionBody platform first session peer place awaited = some body)
    (twins : TwinsIn own ttl first second left right) :
    ∃ other, sessionBody platform second session peer place awaited = some other ∧
      Py.Paired (TwinsIn own ttl first second) Eq body other left right := by
  unfold sessionBody at runs
  split at runs
  next raises =>
    cases runs
    exact ⟨_, rfl, Py.Paired.bind (Py.Paired.raiseIf _ twins) fun _ _ _ _ _ twins =>
      Py.Paired.pure rfl twins⟩
  next admission deadline =>
    obtain ⟨message, isMessage, rfl⟩ := Option.map_eq_some_iff.mp runs
    refine ⟨_, by rw [sessionBody, isMessage, Option.map_some], ?_⟩
    refine Py.Paired.bind_ran (Py.Paired.ofExcept message twins) ?_
    rintro hello _ middle between ran otherRan rfl twins
    obtain ⟨rfl, rfl⟩ := Py.ofExcept_eq_iff.mp ran
    obtain ⟨_, rfl⟩ := Py.ofExcept_eq_iff.mp otherRan
    exact afterHello_paired draws limit isPeer (fun _ => ready.welcome isMessage) twins
  next identity challenge raises =>
    cases runs
    exact ⟨_, rfl, Py.Paired.bind (sent_paired _ twins) fun _ _ _ _ _ twins =>
      afterChallenge_paired identity twins⟩
  next identity deadline =>
    obtain ⟨message, isMessage, rfl⟩ := Option.map_eq_some_iff.mp runs
    refine ⟨_, by rw [sessionBody, isMessage, Option.map_some], ?_⟩
    refine Py.Paired.bind_ran (Py.Paired.ofExcept message twins) ?_
    rintro response _ middle between ran otherRan rfl twins
    obtain ⟨_, rfl⟩ := Py.ofExcept_eq_iff.mp ran
    obtain ⟨_, rfl⟩ := Py.ofExcept_eq_iff.mp otherRan
    exact afterResponse_paired limit isPeer session response known.identifier
      (ready.isOwn _ rfl) ready.timed twins
  next hits raises =>
    cases runs
    exact ⟨_, rfl, rejected_paired raises hits twins⟩
  next raises =>
    cases runs
    exact ⟨_, rfl, Py.Paired.bind (sent_paired _ twins) fun _ _ _ _ _ twins =>
      Py.Paired.pure rfl twins⟩
  · contradiction

theorem handled_paired (platform : Platform Key) (isPeer : own .ip peer.ip = true)
    {body other : Py UnlockService Place}
    (paired : Py.Paired (TwinsIn own ttl first second) Eq body other left right) :
    Py.Paired (TwinsIn own ttl first second) Eq (handled platform first peer body)
      (handled platform second peer other) left right := by
  apply Py.Paired.tryExcept paired
  intro exc middle between twins
  unfold recover
  split
  · exact Py.Paired.pure rfl twins
  all_goals first
    | exact Py.Paired.raise exc twins
    | exact fail_paired isPeer (by simp) _ _ _ twins

theorem finished_paired {body other : Py UnlockService Place}
    (paired : Py.Paired (TwinsIn own ttl first second) Eq body other left right) :
    Twins own ttl (finished body left).1 (finished other right).1 ∧
      (finished body left).2 = (finished other right).2 := by
  obtain ⟨outcomes, states⟩ := paired
  unfold finished
  rcases ran : body left with ⟨outcome, middle⟩
  rcases otherRan : other right with ⟨otherOutcome, between⟩
  rw [ran, otherRan] at outcomes states
  have twins : Twins own ttl middle between := states.toTwins
  have ended : Twins own ttl { middle with active := middle.active - 1 }
    { between with active := between.active - 1 } := { twins with }
  cases outcomes with
  | error exc => exact ⟨ended, rfl⟩
  | @ok place _ same =>
      subst same
      cases place with
      | done => exact ⟨ended, rfl⟩
      | _ => exact ⟨twins, rfl⟩

/-- Whether an await can end in some way does not depend on the surroundings. -/
theorem sessionBody_eq_none {session : ℕ} {place : Place} {awaited : Awaited}
    (stuck : sessionBody platform first session peer place awaited = none)
    (second : Answers) : sessionBody platform second session peer place awaited = none := by
  cases place with
  | recvHello admission deadline =>
      rw [sessionBody, Option.map_eq_none_iff] at stuck ⊢
      exact stuck
  | recvResponse identity deadline =>
      rw [sessionBody, Option.map_eq_none_iff] at stuck ⊢
      exact stuck
  | closing admitted =>
      cases admitted <;> cases awaited <;> first | rfl | simp [sessionBody] at stuck
  | sendRejection hits handling =>
      cases handling <;> cases awaited <;> first | rfl | simp [sessionBody] at stuck
  | _ => cases awaited <;> first | rfl | simp [sessionBody] at stuck

/-- A session goes on alike in twins. -/
theorem resume_paired (draws : SameDraws first second) (limit : IsLimit ttl)
    (isPeer : own .ip peer.ip = true) (session : ℕ) {place : Place} {awaited : Awaited}
    (known : Known platform peer place) (ready : Ready own ttl place awaited left right)
    (twins : TwinsIn own ttl first second left right) :
    Option.Rel (fun one other => Twins own ttl one.1 other.1 ∧ one.2 = other.2)
      (resume platform first session peer place awaited left)
      (resume platform second session peer place awaited right) := by
  have goesOn : Option.Rel (fun one other => Twins own ttl one.1 other.1 ∧ one.2 = other.2)
      ((sessionBody platform first session peer place awaited).map fun body =>
        finished (handled platform first peer body) left)
      ((sessionBody platform second session peer place awaited).map fun body =>
        finished (handled platform second peer body) right) := by
    cases runs : sessionBody platform first session peer place awaited with
    | none =>
        rw [sessionBody_eq_none runs second]
        exact .none
    | some body =>
        obtain ⟨other, otherRuns, paired⟩ :=
          sessionBody_paired draws limit isPeer known ready runs twins
        rw [otherRuns]
        exact .some (finished_paired (handled_paired platform isPeer paired))
  unfold resume
  split
  · exact .some ⟨twins.toTwins, rfl⟩
  next hits raises => exact .some (finished_paired (rejected_paired raises hits twins))
  · exact goesOn

theorem reloadConfig_paired (access : FileAccess)
    (twins : TwinsIn own ttl first second left right) :
    Py.Paired (TwinsIn own ttl first second) Eq (reloadConfig access) (reloadConfig access) left
      right := by
  refine ⟨?_, { twins with config := ?_ }⟩
  · simp only [reloadConfig, Py.zoom_apply, twins.config]
    exact .refl _
  · simp only [reloadConfig, Py.zoom_apply, twins.config]

theorem atLeast_eq_none {number other : ℚ} {limit : Json}
    (incomparable : Json.atLeast number limit = none) : Json.atLeast other limit = none := by
  revert incomparable
  unfold Json.atLeast
  split
  · exact id
  · exact id
  · rw [Option.map_eq_none_iff, Option.map_eq_none_iff]
    exact id

/-- The connection cap is not reached. -/
def UnlockService.Uncapped (service : UnlockService) : Prop :=
  (item service.data "max_connections").map (Json.atLeast service.active) ≠ .ok (some true)

instance (service : UnlockService) : Decidable service.Uncapped :=
  inferInstanceAs (Decidable (_ ≠ _))

/-- A session begins alike on twins. -/
theorem connect_paired (platform : Platform Key) (isPeer : own .ip peer.ip = true)
    (access : FileAccess)
    (uncapped : left.Uncapped) (otherUncapped : right.Uncapped)
    (twins : TwinsIn own ttl first second left right) :
    Twins own ttl (connect platform first peer access left).1
        (connect platform second peer access right).1 ∧
      (connect platform first peer access left).2 =
        (connect platform second peer access right).2 := by
  have begins : TwinsIn own ttl first second { left with active := left.active + 1 }
    { right with active := right.active + 1 } := { twins with }
  have body : Py.Paired (TwinsIn own ttl first second) Eq
      (do
        reloadConfig access
        sessionStart platform first peer)
      (do
        reloadConfig access
        sessionStart platform second peer)
      { left with active := left.active + 1 } { right with active := right.active + 1 } :=
    Py.Paired.bind (reloadConfig_paired access begins) fun _ _ _ _ _ twins =>
      sessionStart_paired isPeer twins
  have admitted := finished_paired (handled_paired platform isPeer body)
  have unchanged : Twins own ttl left right ∧ Place.done = Place.done := ⟨twins.toTwins, rfl⟩
  unfold UnlockService.Uncapped at uncapped otherUncapped
  unfold connect
  rw [← twins.data] at otherUncapped ⊢
  cases configured : item left.data "max_connections" with
  | error exc => exact unchanged
  | ok limit =>
      rw [configured] at uncapped otherUncapped
      cases compared : Json.atLeast left.active limit with
      | none =>
          have otherCompared : Json.atLeast right.active limit = none := atLeast_eq_none compared
          simp only [Except.map, compared, otherCompared, and_true]
          exact unchanged.1
      | some reached =>
          cases otherCompared : Json.atLeast right.active limit with
          | none =>
              have wrong : Json.atLeast left.active limit = none := atLeast_eq_none otherCompared
              rw [compared] at wrong
              contradiction
          | some otherReached =>
              simp only [Except.map, compared, otherCompared, ne_eq, Except.ok.injEq,
                Option.some.injEq, Bool.not_eq_true] at uncapped otherUncapped
              subst uncapped otherUncapped
              simp only [Except.map, compared, otherCompared]
              exact admitted

end Sessions

end RemoteUnlock.Listener
