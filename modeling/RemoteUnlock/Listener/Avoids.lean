import RemoteUnlock.Listener.TwinSessions

/-!
# What the other sessions leave alone

A session whose address and device are not among some keys leaves their counters alone, and
of the challenges of their devices it takes away none but those that have expired, unless it
draws or presents the nonce of one.  PAM requests leave both alone.
-/

namespace RemoteUnlock.Listener

open Python Python.Items Common Audit Library

/-- Some keys do not notice a change, as long as no challenge of theirs has one of the nonces
that were touched. -/
structure Avoids (own : LockKind → PyStr → Bool) (ttl : Json) (touched : List PyStr)
    (before after : UnlockService) : Prop where
  config : after.config = before.config
  now : after.now = before.now
  counts : ∀ kind other, (before.backoff kind).SameCounts (own kind) before.time other →
    (after.backoff kind).SameCounts (own kind) before.time other
  stamps : ∀ kind key, own kind key = true →
    after.lastLockAudit.get (kind, key) = before.lastLockAudit.get (kind, key)
  added : ∀ nonce entry, own .device entry.deviceId = true →
    after.pending.get nonce = some entry → before.pending.get nonce = some entry
  kept : ∀ nonce entry, Live own ttl before.time entry → nonce ∉ touched →
    item before.data "challenge_ttl" = .ok ttl → before.pending.get nonce = some entry →
      after.pending.get nonce = some entry

section Avoids

variable {own : LockKind → PyStr → Bool} {ttl : Json} {touched : List PyStr}

theorem Avoids.refl (own : LockKind → PyStr → Bool) (ttl : Json) (touched : List PyStr)
    (service : UnlockService) : Avoids own ttl touched service service :=
  ⟨rfl, rfl, fun _ _ same => same, fun _ _ _ => rfl, fun _ _ _ found => found,
    fun _ _ _ _ _ found => found⟩

theorem Avoids.time {before after : UnlockService} (avoids : Avoids own ttl touched before after) :
    after.time = before.time := by
  unfold UnlockService.time
  rw [avoids.now]

theorem Avoids.data {before after : UnlockService} (avoids : Avoids own ttl touched before after) :
    after.data = before.data := by
  unfold UnlockService.data
  rw [avoids.config]

theorem Avoids.trans {first second third : UnlockService}
    (start : Avoids own ttl touched first second) (rest : Avoids own ttl touched second third) :
    Avoids own ttl touched first third where
  config := rest.config.trans start.config
  now := rest.now.trans start.now
  counts kind other same := by
    have between := start.counts kind other same
    rw [← start.time] at between ⊢
    exact rest.counts kind other between
  stamps kind key isOwn := (rest.stamps kind key isOwn).trans (start.stamps kind key isOwn)
  added nonce entry isOwn found :=
    start.added nonce entry isOwn (rest.added nonce entry isOwn found)
  kept nonce entry live untouched timed found := by
    refine rest.kept nonce entry (start.time ▸ live) untouched ?_
      (start.kept nonce entry live untouched timed found)
    rwa [start.data]

instance : IsPreorder UnlockService (Avoids own ttl touched) where
  refl := Avoids.refl own ttl touched
  trans _ _ _ := Avoids.trans

/-- Nothing but the log, the alerts, the grant and what is noted about the run changes. -/
theorem Avoids.of_ledger (service : UnlockService) (audit : LogState) (alerts : List Alert)
    (active : ℤ) (broker : GrantBroker) (history : List Event) (accounts : List Account) :
    Avoids own ttl touched service
      { service with
        audit := audit, alerts := alerts, active := active, broker := broker
        history := history, accounts := accounts } :=
  ⟨rfl, rfl, fun _ _ same => same, fun _ _ _ => rfl, fun _ _ _ found => found,
    fun _ _ _ _ _ found => found⟩

/-- Twins stay twins where one of them is avoided. -/
theorem Twins.avoided {left after right : UnlockService} (twins : Twins own ttl left right)
    (avoids : Avoids own ttl touched left after)
    (timed : item left.data "challenge_ttl" = .ok ttl)
    (strange : ∀ nonce ∈ touched, ∀ entry, left.pending.get nonce = some entry →
      own .device entry.deviceId = false) : Twins own ttl after right where
  config := avoids.config.trans twins.config
  now := avoids.now.trans twins.now
  counts kind := avoids.time ▸ avoids.counts kind _ (twins.counts kind)
  stamps kind key isOwn := (avoids.stamps kind key isOwn).trans (twins.stamps kind key isOwn)
  pending nonce entry live := by
    rw [avoids.time] at live
    have same := twins.pending nonce entry live
    constructor
    · exact fun found => same.mp (avoids.added nonce entry live.1 found)
    · intro found
      have here := same.mpr found
      refine avoids.kept nonce entry live (fun isTouched => ?_) timed here
      exact Bool.false_ne_true ((strange nonce isTouched entry here).symm.trans live.1)

end Avoids

/-! ## Operations -/

section Operations

variable {Key : Type} {platform : Platform Key} {own : LockKind → PyStr → Bool} {ttl : Json}
  {touched : List PyStr} {answers : Answers}

theorem auditAppend_avoids (event : String) (data : Dict) :
    Py.Keeps (Avoids own ttl touched) (auditAppend platform answers event data) :=
  fun service => Avoids.of_ledger service _ _ _ _ _ _

theorem record_avoids (answers : Answers) (event : String) (title : Option String)
    (priority : String) (tags : List String) (data : Dict) :
    Py.Keeps (Avoids own ttl touched)
      (record platform answers event title priority tags data) := by
  unfold record
  refine Py.Keeps.bind (auditAppend_avoids _ _) fun entry => ?_
  cases title with
  | none => exact Py.Keeps.bind (Py.Keeps.pure ()) fun _ => Py.Keeps.pure _
  | some title =>
      refine Py.Keeps.bind (Py.Keeps.modify fun service => ?_) fun _ => Py.Keeps.pure _
      exact Avoids.of_ledger service _ _ _ _ _ _

/-- PAM requests are avoided by every key. -/
theorem avoids_requests (own : LockKind → PyStr → Bool) (ttl : Json) (touched : List PyStr)
    (platform : Platform Key) : RequestOperations platform (Avoids own ttl touched) where
  record := record_avoids
  broker service broker history := Avoids.of_ledger service _ _ _ broker history _

theorem locked_avoids {key : PyStr} {kind : LockKind} (foreign : own kind key = false) :
    Py.Keeps (Avoids own ttl touched) (locked platform answers key kind) := by
  unfold locked
  refine Py.Keeps.bind (Py.Keeps.read _) fun left => ?_
  split
  · refine Py.Keeps.bind (Py.Keeps.read _) fun now => ?_
    refine Py.Keeps.bind (Py.Keeps.read _) fun last => ?_
    split
    · refine Py.Keeps.bind (Py.Keeps.modify fun service => ?_) fun _ => ?_
      · refine { Avoids.refl own ttl touched service with stamps := fun other key isOwn => ?_ }
        rw [PyDict.get_set, if_neg]
        rintro ⟨⟩
        rw [isOwn] at foreign
        contradiction
      · exact Py.Keeps.bind (auditAppend_avoids _ _) fun _ => Py.Keeps.pure _
    · exact Py.Keeps.pure _
  · exact Py.Keeps.pure _

/-- A counter is called for another key. -/
theorem called_avoids (service : UnlockService) {kind : LockKind} {key : PyStr}
    (foreign : own kind key = false) (act : Backoff.Act) {other : Backoff}
    (same : (service.backoff kind).SameCounts (own kind) service.time other) :
    ((service.backoff kind).step ⟨service.time, key, act⟩).SameCounts (own kind) service.time
      other :=
  same.step_left rfl foreign

theorem countFailure_avoids {kind : LockKind} {key : PyStr} (foreign : own kind key = false) :
    Py.Keeps (Avoids own ttl touched) (countFailure kind key) := by
  intro service
  cases kind with
  | ip =>
      refine { Avoids.refl own ttl touched service with counts := fun kind other same => ?_ }
      cases kind with
      | ip => exact called_avoids service foreign .fail same
      | device => exact same
  | device =>
      refine { Avoids.refl own ttl touched service with counts := fun kind other same => ?_ }
      cases kind with
      | ip => exact same
      | device => exact called_avoids service foreign .fail same

theorem clearFailures_avoids {ip deviceId : PyStr} (foreignIp : own .ip ip = false)
    (foreignDevice : own .device deviceId = false) :
    Py.Keeps (Avoids own ttl touched) (clearFailures ip deviceId) := by
  intro service
  refine { Avoids.refl own ttl touched service with counts := fun kind other same => ?_ }
  cases kind with
  | ip => exact called_avoids service foreignIp .success same
  | device => exact called_avoids service foreignDevice .success same

/-- Nothing but the pending challenges changes, and what is noted about the run. -/
structure SameButPending (before after : UnlockService) : Prop where
  config : after.config = before.config
  now : after.now = before.now
  backoff : after.backoff = before.backoff
  stamps : after.lastLockAudit = before.lastLockAudit

instance : IsPreorder UnlockService SameButPending where
  refl _ := ⟨rfl, rfl, rfl, rfl⟩
  trans _ _ _ start rest := ⟨rest.config.trans start.config, rest.now.trans start.now,
    rest.backoff.trans start.backoff, rest.stamps.trans start.stamps⟩

theorem SameButPending.avoids {before after : UnlockService} (same : SameButPending before after)
    (added : ∀ nonce entry, own .device entry.deviceId = true →
      after.pending.get nonce = some entry → before.pending.get nonce = some entry)
    (kept : ∀ nonce entry, Live own ttl before.time entry → nonce ∉ touched →
      item before.data "challenge_ttl" = .ok ttl → before.pending.get nonce = some entry →
        after.pending.get nonce = some entry) : Avoids own ttl touched before after where
  config := same.config
  now := same.now
  counts kind other counted := by rwa [same.backoff]
  stamps kind key _ := by rw [same.stamps]
  added := added
  kept := kept

theorem issueChallenge_avoids (limit : IsLimit ttl) {deviceId : PyStr}
    (foreign : own .device deviceId = false) (drawn : answers.nonce ∈ touched) :
    Py.Keeps (Avoids own ttl touched) (issueChallenge answers deviceId) := by
  intro service
  have same : Py.Keeps SameButPending (issueChallenge answers deviceId) :=
    issueChallenge_keeps (fun _ _ => ⟨rfl, rfl, rfl, rfl⟩) (fun _ _ _ => ⟨rfl, rfl, rfl, rfl⟩)
      (fun _ _ => ⟨rfl, rfl, rfl, rfl⟩) answers deviceId
  apply (same service).avoids
  · intro nonce entry isOwn found
    rcases issueChallenge_source found with old | ⟨_, rfl, _⟩
    · exact old
    · rw [foreign] at isOwn
      contradiction
  · intro nonce entry live untouched timed found
    refine issueChallenge_retains found (fun isDrawn => untouched (isDrawn ▸ drawn)) ?_
    exact ⟨ttl, timed, (exceeds_eq_false_iff limit.ordered).mp live.2⟩

theorem checkResponse_avoids {device : Dict} {given signature : Option Json}
    (presented : ∀ nonce, given = some (.str nonce) → nonce ∈ touched) :
    Py.Keeps (Avoids own ttl touched) (checkResponse platform device given signature) := by
  intro service
  have same : Py.Keeps SameButPending (checkResponse platform device given signature) :=
    checkResponse_keeps (fun _ _ => ⟨rfl, rfl, rfl, rfl⟩) device given signature
  have leaves : (checkResponse platform device given signature service).2 = _ :=
    checkResponse_pending device given signature service
  apply (same service).avoids
  · intro nonce entry _ found
    rw [leaves] at found
    split at found
    next presentedNonce =>
      split at found
      · exact found
      · rw [popped, PyDict.get_pop] at found
        split at found
        · contradiction
        · exact found
    · exact found
  · intro nonce entry _ untouched _ found
    rw [leaves]
    split
    next presentedNonce =>
      split
      · exact found
      · rw [popped, PyDict.get_pop, if_neg]
        · exact found
        · rintro rfl
          exact untouched (presented _ rfl)
    · exact found

end Operations

/-! ## Sessions -/

/-- The nonce a message presents. -/
def presented (awaited : Awaited) : Option PyStr :=
  match received awaited with
  | some (.ok response) =>
      match lookup (py "nonce") response with
      | some (.str nonce) => some nonce
      | _ => none
  | _ => none

/-- The nonces a step of a session draws and presents. -/
def touchedBy (awaited : Awaited) (answers : Answers) : List PyStr :=
  answers.nonce :: (presented awaited).toList

section Sessions

variable {Key : Type} {platform : Platform Key} {own : LockKind → PyStr → Bool} {ttl : Json}
  {touched : List PyStr} {answers : Answers} {peer : Peer}

theorem fail_avoids {deviceId : Option PyStr} (foreign : own .ip peer.ip = false)
    (foreignDevice : ∀ device ∈ deviceId, own .device device = false) (reason : Text)
    (handling : Bool) :
    Py.Keeps (Avoids own ttl touched) (fail platform answers peer deviceId reason handling) := by
  unfold fail
  refine Py.Keeps.bind ?_ fun _ => Py.Keeps.pure _
  unfold failStart
  refine Py.Keeps.bind (countFailure_avoids foreign) fun lockIp => ?_
  apply Py.Keeps.bind
  · unfold countDeviceFailure
    split
    · exact Py.Keeps.pure _
    · exact Py.Keeps.pure _
    · exact countFailure_avoids (foreignDevice _ rfl)
  · intro lockDev
    exact Py.Keeps.bind (record_avoids _ _ _ _ _ _) fun _ => Py.Keeps.pure _

theorem failRest_avoids (hits : List (LockKind × PyStr)) :
    Py.Keeps (Avoids own ttl touched) (failRest platform answers hits) := by
  induction hits with
  | nil => exact Py.Keeps.pure _
  | cons hit hits inductionHypothesis =>
      unfold failRest
      refine Py.Keeps.bind (Py.Keeps.read _) fun left => ?_
      exact Py.Keeps.bind (record_avoids _ _ _ _ _ _) fun _ => inductionHypothesis

theorem sessionStart_avoids (foreign : own .ip peer.ip = false) :
    Py.Keeps (Avoids own ttl touched) (sessionStart platform answers peer) := by
  unfold sessionStart
  refine Py.Keeps.bind (locked_avoids foreign) fun isLocked => ?_
  split
  · exact Py.Keeps.pure _
  · refine Py.Keeps.bind (Py.Keeps.ofExcept _) fun certificate => ?_
    refine Py.Keeps.bind (Py.Keeps.read _) fun data => ?_
    refine Py.Keeps.bind (Py.Keeps.ofExcept _) fun device => ?_
    refine Py.Keeps.bind (configItem_keeps _) fun required => ?_
    split
    · exact fail_avoids foreign (by simp) _ _
    · exact Py.Keeps.bind (Py.Keeps.read _) fun _ => Py.Keeps.pure _

theorem challengeDevice_avoids (limit : IsLimit ttl) {identity : Identity}
    (foreignDevice : own .device identity.deviceId = false) (drawn : answers.nonce ∈ touched) :
    Py.Keeps (Avoids own ttl touched) (challengeDevice platform answers identity) := by
  unfold challengeDevice
  refine Py.Keeps.bind (locked_avoids foreignDevice) fun isLocked => ?_
  split
  · exact Py.Keeps.pure _
  · exact Py.Keeps.bind (issueChallenge_avoids limit foreignDevice drawn) fun _ =>
      Py.Keeps.pure _

theorem afterHello_avoids (limit : IsLimit ttl) (foreign : own .ip peer.ip = false)
    (drawn : answers.nonce ∈ touched) {admission : Admission} {hello : Dict}
    {service : UnlockService}
    (foreignDevice : ∀ deviceId, helloDevice admission service.data hello = some deviceId →
      own .device deviceId = false) :
    Avoids own ttl touched service
      (afterHello platform answers peer admission hello service).2 := by
  have fails : ∀ reason handling, Avoids own ttl touched service
      (fail platform answers peer none reason handling service).2 :=
    fun reason handling => fail_avoids foreign (by simp) reason handling service
  unfold afterHello
  cases named : lookup (py "device_id") hello with
  | none => exact fails _ _
  | some value =>
      cases value with
      | str deviceId =>
          dsimp only
          split
          · exact fails _ _
          next isHello =>
            rcases ran : lookupDevice admission deviceId service with ⟨outcome, middle⟩
            obtain ⟨rfl, _⟩ := lookupDevice_eq_iff.mp ran
            cases outcome with
            | error exc =>
                rw [Py.bind_of_error ran]
                exact Avoids.refl _ _ _ _
            | ok looked =>
                obtain ⟨found, lookupData⟩ := looked
                rw [Py.bind_of_ok ran]
                cases found with
                | none => exact fails _ _
                | some device =>
                    dsimp only
                    cases has : item device "id" with
                    | error exc =>
                        rw [Py.bind_of_error (Py.ofExcept_apply _ _)]
                        exact Avoids.refl _ _ _ _
                    | ok identifier =>
                        rw [Py.bind_of_ok (Py.ofExcept_apply _ _)]
                        split
                        · exact fails _ _
                        next same =>
                          rw [not_not.mp same] at has
                          have isForeign := foreignDevice deviceId
                            (helloDevice_of_lookup named (not_not.mp isHello) ran has)
                          exact challengeDevice_avoids limit isForeign drawn _
      | _ => exact fails _ _

theorem succeed_avoids {session : ℕ} {identity : Identity} (foreign : own .ip peer.ip = false)
    (foreignDevice : own .device identity.deviceId = false) (nonce : PyStr)
    (signature : Option Json) (entry : Pending) :
    Py.Keeps (Avoids own ttl touched)
      (succeed platform answers session peer identity nonce signature entry) := by
  unfold succeed
  refine Py.Keeps.bind (Py.Keeps.read _) fun grant => ?_
  refine Py.Keeps.bind (clearFailures_avoids foreign foreignDevice) fun _ => ?_
  refine Py.Keeps.bind (Py.Keeps.modify fun service => ?_) fun _ => ?_
  · exact Avoids.of_ledger service _ _ _ _ _ _
  refine Py.Keeps.bind (configItem_keeps _) fun target => ?_
  refine Py.Keeps.bind (record_avoids _ _ _ _ _ _) fun _ => ?_
  refine Py.Keeps.bind (Py.Keeps.modify fun service => ?_) fun _ => Py.Keeps.pure _
  exact Avoids.of_ledger service _ _ _ _ _ _

theorem afterResponse_avoids {session : ℕ} {identity : Identity} {response : Dict}
    (foreign : own .ip peer.ip = false) (foreignDevice : own .device identity.deviceId = false)
    (presents : ∀ nonce, lookup (py "nonce") response = some (.str nonce) → nonce ∈ touched) :
    Py.Keeps (Avoids own ttl touched)
      (afterResponse platform answers session peer identity response) := by
  have isForeign : ∀ device ∈ some identity.deviceId, own .device device = false := by simpa
  unfold afterResponse
  split
  · exact fail_avoids foreign isForeign _ _
  · refine Py.Keeps.bind (checkResponse_avoids presents) fun verdict => ?_
    cases verdict with
    | refused reason => exact fail_avoids foreign isForeign _ _
    | accepted nonce entry => exact succeed_avoids foreign foreignDevice _ _ _

/-- The code of a session between two awaits. -/
theorem sessionBody_avoids (limit : IsLimit ttl) (foreign : own .ip peer.ip = false)
    {session : ℕ} {place : Place} {awaited : Awaited} {service : UnlockService}
    (foreignDevice : ∀ deviceId, place.device service.data awaited = some deviceId →
      own .device deviceId = false)
    {body : Py UnlockService Place}
    (runs : sessionBody platform answers session peer place awaited = some body) :
    Avoids own ttl (touchedBy awaited answers) service (body service).2 := by
  have drawn : answers.nonce ∈ touchedBy awaited answers := List.mem_cons_self
  unfold sessionBody at runs
  split at runs
  next raises =>
    cases runs
    exact Py.Keeps.bind (Py.Keeps.raiseIf _) (fun _ => Py.Keeps.pure _) service
  next admission deadline =>
    obtain ⟨message, isMessage, rfl⟩ := Option.map_eq_some_iff.mp runs
    cases message with
    | error exc => exact Avoids.refl _ _ _ _
    | ok hello =>
        rw [Py.bind_of_ok (Py.ofExcept_apply _ _)]
        apply afterHello_avoids limit foreign drawn
        intro deviceId named
        apply foreignDevice
        simp only [Place.device, isMessage, named]
  next identity challenge raises =>
    cases runs
    exact Py.Keeps.bind (sent_keeps _) (fun _ => afterChallenge_keeps _) service
  next identity deadline =>
    obtain ⟨message, isMessage, rfl⟩ := Option.map_eq_some_iff.mp runs
    cases message with
    | error exc => exact Avoids.refl _ _ _ _
    | ok response =>
        rw [Py.bind_of_ok (Py.ofExcept_apply _ _)]
        apply afterResponse_avoids foreign (foreignDevice _ rfl)
        intro nonce isNonce
        apply List.mem_cons_of_mem
        simp only [presented, isMessage, isNonce, Option.toList_some, List.mem_singleton]
  next hits raises =>
    cases runs
    refine Py.Keeps.bind (sent_keeps _) (fun _ => ?_) service
    exact Py.Keeps.bind (failRest_avoids hits) fun _ => Py.Keeps.pure _
  next raises =>
    cases runs
    exact Py.Keeps.bind (sent_keeps _) (fun _ => Py.Keeps.pure _) service
  · contradiction

theorem recover_avoids (foreign : own .ip peer.ip = false) (exc : PyExc) :
    Py.Keeps (Avoids own ttl touched) (recover platform answers peer exc) := by
  unfold recover
  split
  · exact Py.Keeps.pure _
  all_goals first
    | exact Py.Keeps.raise exc
    | exact fail_avoids foreign (by simp) _ _

theorem finished_avoids (foreign : own .ip peer.ip = false) {body : Py UnlockService Place}
    {service : UnlockService} (avoids : Avoids own ttl touched service (body service).2) :
    Avoids own ttl touched service
      (finished (handled platform answers peer body) service).1 := by
  have handles : Avoids own ttl touched service
      (handled platform answers peer body service).2 := by
    unfold handled Py.tryExcept
    rcases ran : body service with ⟨outcome, middle⟩
    rw [ran] at avoids
    cases outcome with
    | ok place => exact avoids
    | error exc => exact avoids.trans (recover_avoids foreign exc middle)
  unfold finished
  rcases ran : handled platform answers peer body service with ⟨outcome, middle⟩
  rw [ran] at handles
  have counted : Avoids own ttl touched service { middle with active := middle.active - 1 } :=
    handles.trans (Avoids.of_ledger middle _ _ _ _ _ _)
  cases outcome with
  | error exc => exact counted
  | ok place =>
      cases place with
      | done => exact counted
      | _ => exact handles

theorem resume_avoids (limit : IsLimit ttl) (foreign : own .ip peer.ip = false) {session : ℕ}
    {place next : Place} {awaited : Awaited} {service after : UnlockService}
    (foreignDevice : ∀ deviceId, place.device service.data awaited = some deviceId →
      own .device deviceId = false)
    (ran : resume platform answers session peer place awaited service = some (after, next)) :
    Avoids own ttl (touchedBy awaited answers) service after := by
  unfold resume at ran
  split at ran
  · cases ran
    exact Avoids.refl _ _ _ _
  next hits raises =>
    have body : Py.Keeps (Avoids own ttl (touchedBy (.finished raises) answers)) (do
        sent raises
        failRest platform answers hits
        pure Place.done) := by
      refine Py.Keeps.bind (sent_keeps _) fun _ => ?_
      exact Py.Keeps.bind (failRest_avoids hits) fun _ => Py.Keeps.pure _
    have avoids := Operations.finished
      (fun service count => Avoids.of_ledger service _ _ count _ _ _) body service
    rw [Option.some.inj ran] at avoids
    exact avoids
  · obtain ⟨body, runs, ended⟩ := Option.map_eq_some_iff.mp ran
    have avoids := @finished_avoids _ platform own ttl _ answers peer foreign _ _
      (sessionBody_avoids limit foreign foreignDevice runs)
    rw [ended] at avoids
    exact avoids

/-- A connection that loads nothing is avoided. -/
theorem connect_avoids (foreign : own .ip peer.ip = false) {access : FileAccess}
    {service : UnlockService}
    (unloaded : (connect platform answers peer access service).1.config = service.config) :
    Avoids own ttl touched service (connect platform answers peer access service).1 := by
  unfold connect at unloaded ⊢
  split
  · exact Avoids.refl _ _ _ _
  next below =>
    rw [below] at unloaded
    -- What is run behind the reload of the configuration, and what it is run on.
    obtain ⟨rest, config, same, keeps⟩ : ∃ (rest : Py UnlockService Place) (config : ConfigState),
        finished (handled platform answers peer (do
            reloadConfig access
            sessionStart platform answers peer)) { service with active := service.active + 1 } =
          finished (handled platform answers peer rest)
            { service with active := service.active + 1, config := config } ∧
        Py.Keeps (Avoids own ttl touched) rest := by
      rcases reloaded : reloadConfig access { service with active := service.active + 1 } with
        ⟨outcome, middle⟩
      have isMiddle : middle = { service with
          active := service.active + 1, config := (reloadIfChanged access service.config).2 } :=
        (congrArg Prod.snd reloaded).symm
      subst isMiddle
      cases outcome with
      | error exc =>
          refine ⟨Py.raise exc, (reloadIfChanged access service.config).2, ?_, Py.Keeps.raise exc⟩
          simp only [finished, handled, Py.tryExcept, Py.bind_of_error reloaded, Py.raise_apply]
      | ok _ =>
          refine ⟨sessionStart platform answers peer, (reloadIfChanged access service.config).2, ?_,
            sessionStart_avoids foreign⟩
          simp only [finished, handled, Py.tryExcept, Py.bind_of_ok reloaded]
    dsimp only at unloaded ⊢
    rw [same] at unloaded ⊢
    have avoids := @finished_avoids _ platform own ttl touched answers peer foreign rest _ (keeps
      { service with active := service.active + 1, config := config })
    obtain rfl : config = service.config := avoids.config.symm.trans unloaded
    exact (Avoids.of_ledger service _ _ _ _ _ _).trans avoids
  · exact Avoids.refl _ _ _ _

end Sessions

end RemoteUnlock.Listener
