import RemoteUnlock.Listener.Operations

/-!
# What a session charges

Between two awaits the code of a session charges no counter, or it charges the address and
the device it knows of and goes on to send a rejection, or it clears both and goes on to
send the result (`sessionBody_charged`).  The `except` clauses of `handle` know no device,
so what they charge is the address alone.
-/

namespace RemoteUnlock.Listener

open Python Python.Items Common Audit

variable {Key : Type} {platform : Platform Key}

/-! ## Operations that charge nothing -/

/-- No counter is called, and no success is recorded. -/
structure Uncharged (before after : UnlockService) : Prop where
  accounts : after.accounts = before.accounts
  authorized : ∀ session, .authorized session ∈ after.history →
    .authorized session ∈ before.history

instance : IsPreorder UnlockService Uncharged where
  refl _ := ⟨rfl, fun _ found => found⟩
  trans _ _ _ start rest := ⟨rest.accounts.trans start.accounts,
    fun session found => start.authorized session (rest.authorized session found)⟩

theorem Uncharged.of_history {before after : UnlockService}
    (accounts : after.accounts = before.accounts) (history : after.history = before.history) :
    Uncharged before after := ⟨accounts, fun _ found => history ▸ found⟩

theorem auditAppend_uncharged (answers : Answers) (event : String) (data : Dict) :
    Py.Keeps Uncharged (auditAppend platform answers event data) :=
  fun _ => Uncharged.of_history rfl rfl

theorem record_uncharged (answers : Answers) (event : String) (title : Option String)
    (priority : String) (tags : List String) (data : Dict) :
    Py.Keeps Uncharged (record platform answers event title priority tags data) := by
  unfold record
  refine Py.Keeps.bind (auditAppend_uncharged answers event data) fun entry => ?_
  cases title with
  | none => exact Py.Keeps.bind (Py.Keeps.pure ()) fun _ => Py.Keeps.pure _
  | some title =>
      refine Py.Keeps.bind (Py.Keeps.modify fun service => ?_) fun _ => Py.Keeps.pure _
      exact Uncharged.of_history rfl rfl

theorem locked_uncharged (answers : Answers) (key : PyStr) (kind : LockKind) :
    Py.Keeps Uncharged (locked platform answers key kind) :=
  locked_keeps (auditAppend_uncharged answers)
    (fun _ _ => Uncharged.of_history rfl rfl) key kind

theorem issueChallenge_uncharged (answers : Answers) (deviceId : PyStr) :
    Py.Keeps Uncharged (issueChallenge answers deviceId) := by
  unfold issueChallenge
  refine Py.Keeps.bind (Py.Keeps.read _) fun now => ?_
  refine Py.Keeps.bind (configItem_keeps _) fun ttl => ?_
  refine Py.Keeps.bind (Py.Keeps.read _) fun pending => ?_
  refine Py.Keeps.bind (Py.Keeps.ofExcept _) fun kept => ?_
  refine Py.Keeps.bind (Py.Keeps.modify fun _ => Uncharged.of_history rfl rfl) fun _ => ?_
  split
  · exact Py.Keeps.raise _
  · unfold openChallenge
    refine Py.Keeps.bind (fun service => ⟨rfl, fun _ found => ?_⟩) fun _ => ?_
    · exact by simpa [insertPending] using found
    refine Py.Keeps.bind (configItem_keeps _) fun target => ?_
    refine Py.Keeps.bind (Py.Keeps.ofExcept _) fun message => ?_
    refine Py.Keeps.bind ?_ fun signature => Py.Keeps.pure _
    refine Py.Keeps.bind (Py.Keeps.ofExcept _) fun signature => ?_
    refine Py.Keeps.bind (Py.Keeps.modify fun service => ⟨rfl, fun _ found => ?_⟩)
      fun _ => Py.Keeps.pure _
    simpa using found

theorem checkResponse_uncharged (device : Dict) (nonce signature : Option Json) :
    Py.Keeps Uncharged (checkResponse platform device nonce signature) :=
  checkResponse_keeps (fun _ _ => Uncharged.of_history rfl rfl) device nonce signature

theorem failRest_uncharged (answers : Answers) (hits : List (LockKind × PyStr)) :
    Py.Keeps Uncharged (failRest platform answers hits) := by
  induction hits with
  | nil => exact Py.Keeps.pure _
  | cons hit hits inductionHypothesis =>
      unfold failRest
      refine Py.Keeps.bind (Py.Keeps.read _) fun left => ?_
      exact Py.Keeps.bind (record_uncharged answers _ _ _ _ _) fun _ => inductionHypothesis

/-! ## Failures and successes -/

/-- The calls of `_fail` for a device, or for none. -/
def failures (peer : Peer) : Option PyStr → List Account
  | some (first :: rest) => [.failed .ip peer.ip, .failed .device (first :: rest)]
  | _ => [.failed .ip peer.ip]

/-- The calls of a session whose response is accepted. -/
def successes (peer : Peer) (deviceId : PyStr) : List Account :=
  [.cleared .ip peer.ip, .cleared .device deviceId]

/-- Some append would raise. -/
def Answers.Faulty (answers : Answers) : Prop := ∃ seq, (answers.disk seq).1.raises = true

/-- The device the code between two awaits knows of, when it starts or once it has read a
hello. -/
def helloDevice (admission : Admission) (data : Dict) (hello : Dict) : Option PyStr :=
  match lookup (py "device_id") hello with
  | some (.str deviceId) =>
      if lookup (py "type") hello ≠ some (.str (py "hello")) then none
      else
        match (if admission.certDevice.getD [] ≠ [] then .ok admission.certDevice
          else deviceById data deviceId) with
        | .ok (some device) =>
            if item device "id" = .ok (.str deviceId) then some deviceId else none
        | _ => none
  | _ => none

def Place.device (data : Dict) : Place → Awaited → Option PyStr
  | .recvHello admission _, awaited =>
      match received awaited with
      | some (.ok hello) => helloDevice admission data hello
      | _ => none
  | .sendChallenge identity _, _ => some identity.deviceId
  | .recvResponse identity _, _ => some identity.deviceId
  | _, _ => none

/-- The device a session waits for has a name. -/
def Place.Named : Place → Prop
  | .sendChallenge identity _ => identity.deviceId ≠ []
  | .recvResponse identity _ => identity.deviceId ≠ []
  | _ => True

/-- The session has nothing left to do but to end. -/
def Place.Over : Place → Prop
  | .closing _ => True
  | .sendRejection _ _ => True
  | .sendResult => True
  | .done => True
  | _ => False

/-- How the code between two awaits ends, and what it has charged where it knows of this
device. -/
inductive Charged (peer : Peer) (session : ℕ) (device : Option PyStr) (named faulty : Prop)
    (before after : UnlockService) : Except PyExc Place → Prop where
  | hello {admission deadline} (calm : Uncharged before after) (unknown : device = none) :
      Charged peer session device named faulty before after (.ok (.recvHello admission deadline))
  | challenge {identity challenge} (calm : Uncharged before after)
      (known : device = some identity.deviceId) :
      Charged peer session device named faulty before after
        (.ok (.sendChallenge identity challenge))
  | response {identity deadline} (calm : Uncharged before after)
      (known : device = some identity.deviceId) :
      Charged peer session device named faulty before after
        (.ok (.recvResponse identity deadline))
  | locked (calm : Uncharged before after) :
      Charged peer session device named faulty before after (.ok (.closing true))
  | raised (exc : PyExc) (calm : Uncharged before after) :
      Charged peer session device named faulty before after (.error exc)
  | failed {hits} (accounts : after.accounts = before.accounts ++ failures peer device)
      (unauthorized : ∀ other, .authorized other ∈ after.history →
        .authorized other ∈ before.history)
      (unnamed : device = some [] → ¬ named) :
      Charged peer session device named faulty before after (.ok (.sendRejection hits false))
  | succeeded {deviceId} (known : device = some deviceId)
      (accounts : after.accounts = before.accounts ++ successes peer deviceId)
      (authorized : .authorized session ∈ after.history) :
      Charged peer session device named faulty before after (.ok .sendResult)
  | faulted {exc} (isFaulty : faulty) :
      Charged peer session device named faulty before after (.error exc)

variable {answers : Answers} {peer : Peer} {session : ℕ}

/-- A record raises only where an append does. -/
theorem record_faulty {event : String} {title : Option String} {priority : String}
    {tags : List String} {data : Dict} {before after : UnlockService} {exc : PyExc}
    (ran : record platform answers event title priority tags data before = (.error exc, after)) :
    answers.Faulty := by
  by_contra calm
  have returns : (answers.disk before.audit.log.seq).1.raises = false := by
    by_contra raises
    exact calm ⟨_, Bool.eq_true_of_not_eq_false raises⟩
  obtain ⟨entry, middle, returned⟩ :=
    record_returns platform returns event title priority tags data
  rw [returned] at ran
  cases ran

/-- `_fail` charges the address and the device, if it is told one. -/
theorem fail_cases {deviceId : Option PyStr} {reason : Text} {handling : Bool}
    {before after : UnlockService} {next : Except PyExc Place}
    (ran : fail platform answers peer deviceId reason handling before = (next, after)) :
    (after.accounts = before.accounts ++ failures peer deviceId ∧
      (∀ other, .authorized other ∈ after.history → .authorized other ∈ before.history) ∧
      ∃ hits, next = .ok (.sendRejection hits handling)) ∨
    answers.Faulty ∧ ∃ exc, next = .error exc := by
  obtain ⟨lockIp, first, ipCounted, ipAccounts, ipHistory⟩ :
      ∃ lockIp first, countFailure .ip peer.ip before = (.ok lockIp, first) ∧
        first.accounts = before.accounts ++ [.failed .ip peer.ip] ∧
        first.history = before.history := ⟨_, _, rfl, rfl, rfl⟩
  obtain ⟨lockDev, middle, counted, accounts, history⟩ :
      ∃ lockDev middle, countDeviceFailure deviceId first = (.ok lockDev, middle) ∧
        middle.accounts = before.accounts ++ failures peer deviceId ∧
        middle.history = before.history := by
    cases deviceId with
    | none => exact ⟨_, _, rfl, ipAccounts, ipHistory⟩
    | some deviceId =>
        cases deviceId with
        | nil => exact ⟨_, _, rfl, ipAccounts, ipHistory⟩
        | cons head tail =>
            refine ⟨_, _, rfl, ?_, ipHistory⟩
            simp [ipAccounts, failures]
  unfold fail failStart at ran
  rcases Py.of_bind ran with ⟨exc, ended, rfl⟩ | ⟨hits, final, ended, finish⟩
  · rw [Py.bind_of_ok ipCounted, Py.bind_of_ok counted] at ended
    rcases Py.of_bind ended with ⟨_, failed, _⟩ | ⟨entry, _, _, rest⟩
    · exact .inr ⟨record_faulty failed, exc, rfl⟩
    · cases rest
  · rw [Py.bind_of_ok ipCounted, Py.bind_of_ok counted] at ended
    rcases Py.of_bind ended with ⟨_, _, failed⟩ | ⟨entry, _, recorded, rest⟩
    · contradiction
    · cases rest
      cases finish
      have calm := (record_uncharged answers _ _ _ _ _).after recorded
      refine .inl ⟨calm.accounts.trans accounts, fun other found => ?_, _, rfl⟩
      rw [← history]
      exact calm.authorized other found

theorem Uncharged.fail {device : Option PyStr} {named : Prop} {reason : Text}
    {before middle after : UnlockService} {next : Except PyExc Place}
    (calm : Uncharged before middle) (unnamed : device = some [] → ¬ named)
    (ran : Listener.fail platform answers peer device reason false middle = (next, after)) :
    Charged peer session device named answers.Faulty before after next := by
  rcases fail_cases ran with ⟨accounts, unauthorized, hits, rfl⟩ | ⟨faulty, exc, rfl⟩
  · refine .failed (calm.accounts ▸ accounts) (fun other found => ?_) unnamed
    exact calm.authorized other (unauthorized other found)
  · exact .faulted faulty

/-- Behind what charges nothing a program ends as it does. -/
theorem Uncharged.charged {device : Option PyStr} {named faulty : Prop}
    {first second third : UnlockService} {next : Except PyExc Place} (calm : Uncharged first second)
    (rest : Charged peer session device named faulty second third next) :
    Charged peer session device named faulty first third next := by
  cases rest with
  | hello kept unknown => exact .hello (Trans.trans calm kept) unknown
  | challenge kept known => exact .challenge (Trans.trans calm kept) known
  | response kept known => exact .response (Trans.trans calm kept) known
  | locked kept => exact .locked (Trans.trans calm kept)
  | raised exc kept => exact .raised exc (Trans.trans calm kept)
  | failed accounts unauthorized unnamed =>
      refine .failed (calm.accounts ▸ accounts) (fun other found => ?_) unnamed
      exact calm.authorized other (unauthorized other found)
  | succeeded known accounts authorized =>
      exact .succeeded known (calm.accounts ▸ accounts) authorized
  | faulted isFaulty => exact .faulted isFaulty

/-! ## The code between two awaits -/

theorem sessionStart_charged {before after : UnlockService} {next : Except PyExc Place}
    (ran : sessionStart platform answers peer before = (next, after)) :
    Charged peer session none True answers.Faulty before after next := by
  unfold sessionStart at ran
  rcases Py.of_bind ran with ⟨exc, ended, rfl⟩ | ⟨isLocked, middle, tested, rest⟩
  · exact .raised exc ((locked_uncharged answers _ _).after ended)
  have calm := (locked_uncharged answers peer.ip .ip).after tested
  cases isLocked with
  | true =>
      cases rest
      exact .locked calm
  | false =>
      rcases Py.of_bind rest with ⟨exc, ended, rfl⟩ | ⟨certificate, _, asked, rest⟩
      · obtain ⟨_, rfl⟩ := Py.ofExcept_eq_iff.mp ended
        exact .raised exc calm
      obtain ⟨_, rfl⟩ := Py.ofExcept_eq_iff.mp asked
      rw [Py.bind_of_ok (Py.read_apply _ _)] at rest
      rcases Py.of_bind rest with ⟨exc, ended, rfl⟩ | ⟨device, _, searched, rest⟩
      · obtain ⟨_, rfl⟩ := Py.ofExcept_eq_iff.mp ended
        exact .raised exc calm
      obtain ⟨_, rfl⟩ := Py.ofExcept_eq_iff.mp searched
      rcases Py.of_bind rest with ⟨exc, ended, rfl⟩ | ⟨required, _, configured, rest⟩
      · obtain ⟨_, rfl⟩ := configItem_eq_iff.mp ended
        exact .raised exc calm
      obtain ⟨_, rfl⟩ := configItem_eq_iff.mp configured
      split at rest
      · exact calm.fail (by simp) rest
      · rw [Py.bind_of_ok (Py.read_apply _ _)] at rest
        cases rest
        exact .hello calm rfl

theorem challengeDevice_charged {identity : Identity} {named : Prop} {before after : UnlockService}
    {next : Except PyExc Place}
    (ran : challengeDevice platform answers identity before = (next, after)) :
    Charged peer session (some identity.deviceId) named answers.Faulty before after next := by
  unfold challengeDevice at ran
  rcases Py.of_bind ran with ⟨exc, ended, rfl⟩ | ⟨isLocked, middle, tested, rest⟩
  · exact .raised exc ((locked_uncharged answers _ _).after ended)
  have calm := (locked_uncharged answers identity.deviceId .device).after tested
  cases isLocked with
  | true =>
      cases rest
      exact .locked calm
  | false =>
      rcases Py.of_bind rest with ⟨exc, ended, rfl⟩ | ⟨challenge, final, issued, finish⟩
      · exact .raised exc (Trans.trans calm ((issueChallenge_uncharged _ _).after ended))
      · cases finish
        exact .challenge (Trans.trans calm ((issueChallenge_uncharged _ _).after issued)) rfl

/-- The device record that is found is the one the hello is about. -/
theorem looked_eq {admission : Admission} {data lookupData : Dict} {deviceId : PyStr}
    {found : Option Dict}
    (looked : .ok (found, lookupData) =
      if admission.certDevice.getD [] ≠ [] then .ok (admission.certDevice, admission.data)
      else (deviceById data deviceId).map fun device => (device, data)) :
    (if admission.certDevice.getD [] ≠ [] then .ok admission.certDevice
      else deviceById data deviceId) = .ok found := by
  by_cases named : admission.certDevice.getD [] ≠ []
  · rw [if_pos named, Except.ok.injEq, Prod.mk.injEq] at looked
    rw [if_pos named, looked.1]
  · rw [if_neg named] at looked ⊢
    cases searched : deviceById data deviceId with
    | error exc => simp [searched, Except.map] at looked
    | ok other =>
        simp only [searched, Except.map, Except.ok.injEq, Prod.mk.injEq] at looked
        rw [looked.1]

theorem afterHello_charged {admission : Admission} {hello : Dict} {before after : UnlockService}
    {next : Except PyExc Place}
    (ran : afterHello platform answers peer admission hello before = (next, after)) :
    Charged peer session (helloDevice admission before.data hello) True answers.Faulty before
      after next := by
  have start : Uncharged before before := refl before
  unfold afterHello at ran
  unfold helloDevice
  cases field : lookup (py "device_id") hello with
  | none =>
      rw [field] at ran
      exact start.fail (by simp) ran
  | some value =>
      rw [field] at ran
      cases value with
      | str deviceId =>
          simp only at ran ⊢
          split at ran
          next other =>
            rw [if_pos other]
            exact start.fail (by simp) ran
          next isHello =>
            rw [if_neg isHello]
            rcases Py.of_bind ran with
              ⟨exc, ended, rfl⟩ | ⟨⟨found, lookupData⟩, middle, looked, rest⟩
            · obtain ⟨rfl, _⟩ := lookupDevice_eq_iff.mp ended
              exact .raised exc start
            obtain ⟨rfl, source⟩ := lookupDevice_eq_iff.mp looked
            rw [looked_eq source]
            cases found with
            | none => exact start.fail (by simp) rest
            | some device =>
                simp only
                rcases Py.of_bind rest with ⟨exc, ended, rfl⟩ | ⟨identifier, final, has, finish⟩
                · obtain ⟨_, rfl⟩ := Py.ofExcept_eq_iff.mp ended
                  exact .raised exc start
                obtain ⟨hasId, rfl⟩ := Py.ofExcept_eq_iff.mp has
                split at finish
                next other =>
                  rw [if_neg (by rw [hasId, Except.ok.injEq]; exact other)]
                  exact start.fail (by simp) finish
                next same =>
                  rw [if_pos (by rw [hasId, not_not.mp same])]
                  exact challengeDevice_charged finish
      | _ => exact start.fail (by simp) ran

theorem afterChallenge_charged {identity : Identity} {named : Prop} {before after : UnlockService}
    {next : Except PyExc Place} (ran : afterChallenge identity before = (next, after)) :
    Charged peer session (some identity.deviceId) named answers.Faulty before after next := by
  have calm : Uncharged before after := (afterChallenge_keeps identity).after ran
  unfold afterChallenge at ran
  rcases Py.of_bind ran with ⟨exc, _, rfl⟩ | ⟨ttl, _, _, rest⟩
  · exact .raised exc calm
  rw [Py.bind_of_ok (Py.read_apply _ _)] at rest
  rcases Py.of_bind rest with ⟨exc, _, rfl⟩ | ⟨deadline, _, _, finish⟩
  · exact .raised exc calm
  · cases finish
    exact .response calm rfl

theorem succeed_charged {identity : Identity} {named : Prop} {nonce : PyStr}
    {signature : Option Json} {entry : Pending} {before middle after : UnlockService}
    {next : Except PyExc Place}
    (calm : Uncharged before middle)
    (configured : ∃ target, item middle.data "target_id" = .ok target)
    (ran : succeed platform answers session peer identity nonce signature entry middle =
      (next, after)) :
    Charged peer session (some identity.deviceId) named answers.Faulty before after next := by
  obtain ⟨target, hasTarget⟩ := configured
  unfold succeed at ran
  rw [Py.bind_of_ok (Py.read_apply _ _), clearFailures, Py.bind_of_ok (Py.modify_apply _ _),
    issueGrant, Py.bind_of_ok (Py.modify_apply _ _)] at ran
  rcases Py.of_bind ran with ⟨exc, ended, _⟩ | ⟨_, cleared, ended, rest⟩
  · have wrong := hasTarget.symm.trans (configItem_eq_iff.mp ended).1
    contradiction
  obtain ⟨_, same⟩ := configItem_eq_iff.mp ended
  have accounts : cleared.accounts = before.accounts ++ successes peer identity.deviceId := by
    rw [← same, ← calm.accounts]
    rfl
  rcases Py.of_bind rest with ⟨exc, failed, rfl⟩ | ⟨_, final, recorded, finish⟩
  · exact .faulted (record_faulty failed)
  · cases finish
    have kept := (record_uncharged answers _ _ _ _ _).after recorded
    exact .succeeded rfl (kept.accounts.trans accounts) (by simp)

theorem afterResponse_charged {identity : Identity} {response : Dict}
    {before after : UnlockService} {next : Except PyExc Place}
    (ran : afterResponse platform answers session peer identity response before =
      (next, after)) :
    Charged peer session (some identity.deviceId) (identity.deviceId ≠ []) answers.Faulty before
      after next := by
  have unnamed : some identity.deviceId = some [] → ¬ identity.deviceId ≠ [] := by simp
  have start : Uncharged before before := refl before
  unfold afterResponse at ran
  split at ran
  · exact start.fail unnamed ran
  · rcases Py.of_bind ran with ⟨exc, ended, rfl⟩ | ⟨verdict, middle, judged, rest⟩
    · exact .raised exc ((checkResponse_uncharged _ _ _).after ended)
    have calm := (checkResponse_uncharged _ _ _).after judged
    cases verdict with
    | refused reason => exact calm.fail unnamed rest
    | accepted nonce entry =>
        obtain ⟨_, rfl, checked⟩ := checkResponse_accepted judged
        obtain ⟨target, _, _, _, hasTarget, _⟩ := checked.verified
        exact succeed_charged calm ⟨target, hasTarget⟩ rest

theorem sent_uncharged (raises : Option PyExc) : Py.Keeps Uncharged (sent raises) :=
  sent_keeps raises

/-- The code of a session in front of its first await. -/
theorem connectBody_charged (session : ℕ) {access : FileAccess} {before after : UnlockService}
    {next : Except PyExc Place}
    (ran : (do
      reloadConfig access
      sessionStart platform answers peer) before = (next, after)) :
    Charged peer session none True answers.Faulty before after next := by
  have calm : Py.Keeps Uncharged (reloadConfig access) := fun _ => Uncharged.of_history rfl rfl
  rcases Py.of_bind ran with ⟨exc, failed, rfl⟩ | ⟨_, loaded, reloaded, rest⟩
  · exact .raised exc (calm.after failed)
  · exact (calm.after reloaded).charged (sessionStart_charged rest)

/-- The code of a session between two awaits. -/
theorem sessionBody_charged {place : Place} {awaited : Awaited} {body : Py UnlockService Place}
    (runs : sessionBody platform answers session peer place awaited = some body)
    {before after : UnlockService} {next : Except PyExc Place}
    (ran : body before = (next, after)) :
    place.Over ∧ Uncharged before after ∧ (next = .ok .done ∨ ∃ exc, next = .error exc) ∨
      ¬ place.Over ∧ Charged peer session (place.device before.data awaited) place.Named
        answers.Faulty before after next := by
  have finishes : ∀ {program : Py UnlockService Unit}, Py.Keeps Uncharged program →
      (do program; pure Place.done) before = (next, after) →
        Uncharged before after ∧ (next = .ok .done ∨ ∃ exc, next = .error exc) := by
    intro program keeps ended
    rcases Py.of_bind ended with ⟨exc, raised, rfl⟩ | ⟨_, middle, ended, rest⟩
    · exact ⟨keeps.after raised, .inr ⟨exc, rfl⟩⟩
    · cases rest
      exact ⟨keeps.after ended, .inl rfl⟩
  unfold sessionBody at runs
  split at runs
  next raises =>
    cases runs
    exact .inl ⟨trivial, finishes (Py.Keeps.raiseIf raises) ran⟩
  next admission deadline =>
    obtain ⟨message, arrived, rfl⟩ := Option.map_eq_some_iff.mp runs
    refine .inr ⟨id, ?_⟩
    cases message with
    | error exc =>
        cases ran
        exact .raised exc (refl _)
    | ok hello =>
        simp only [Place.device, arrived]
        exact afterHello_charged ran
  next identity challenge raises =>
    cases runs
    refine .inr ⟨id, ?_⟩
    rcases Py.of_bind ran with ⟨exc, ended, rfl⟩ | ⟨value, middle, ended, rest⟩
    · exact .raised exc ((sent_uncharged raises).after ended)
    · have same : before = middle := (Py.Keeps.raiseIf _).after ended
      subst same
      exact afterChallenge_charged rest
  next identity deadline =>
    obtain ⟨message, arrived, rfl⟩ := Option.map_eq_some_iff.mp runs
    refine .inr ⟨id, ?_⟩
    cases message with
    | error exc =>
        cases ran
        exact .raised exc (refl _)
    | ok response => exact afterResponse_charged ran
  next hits raises =>
    cases runs
    left
    refine ⟨trivial, ?_⟩
    rcases Py.of_bind ran with ⟨exc, ended, rfl⟩ | ⟨value, middle, ended, rest⟩
    · exact ⟨(sent_uncharged raises).after ended, .inr ⟨exc, rfl⟩⟩
    · have same : before = middle := (Py.Keeps.raiseIf _).after ended
      subst same
      exact finishes (failRest_uncharged answers hits) rest
  next raises =>
    cases runs
    exact .inl ⟨trivial, finishes (sent_uncharged raises) ran⟩
  · contradiction

/-- What the `except` clauses charge is charged to the address alone. -/
theorem recover_charged {exc : PyExc} {before after : UnlockService} {next : Except PyExc Place}
    (ran : recover platform answers peer exc before = (next, after)) :
    (exc.kind = .connectionClosed ∧ after = before ∧ next = .ok .done) ∨
      (exc.kind = .base ∧ after = before ∧ next = .error exc) ∨
      (exc.kind ≠ .connectionClosed ∧ exc.kind ≠ .base ∧
        after.accounts = before.accounts ++ failures peer none ∧
        (∀ other, .authorized other ∈ after.history → .authorized other ∈ before.history) ∧
        ∃ hits, next = .ok (.sendRejection hits true)) ∨
      answers.Faulty ∧ ∃ exc, next = .error exc := by
  unfold recover at ran
  cases kind : exc.kind with
  | connectionClosed =>
      simp only [kind] at ran
      cases ran
      exact .inl ⟨rfl, rfl, rfl⟩
  | base =>
      simp only [kind] at ran
      cases ran
      exact .inr (.inl ⟨rfl, rfl, rfl⟩)
  | _ =>
      simp only [kind] at ran
      rcases fail_cases ran with ⟨accounts, unauthorized, hits, rfl⟩ | faulty
      · exact .inr (.inr (.inl ⟨by simp, by simp, accounts, unauthorized, hits, rfl⟩))
      · exact .inr (.inr (.inr faulty))

end RemoteUnlock.Listener
