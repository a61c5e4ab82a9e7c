import RemoteUnlock.Listener.Raising

/-!
# What calls of `fail` can lock

A key that is far enough from the threshold withstands failures.  Between two awaits the code
of a session calls `fail` for its own keys, once where it returns; where it raises, `handle`
calls it for the address, for a second time only if an append has raised
(`handled_strained`).
-/

namespace RemoteUnlock.Listener

open Python Python.Items Common Audit

/-! ## Counters that withstand failures -/

namespace Backoff

/-- The key is not locked, and so many failures would not lock it. -/
structure Withstands (backoff : Backoff) (now : ℚ) (key : PyStr) (failures : ℕ) : Prop where
  unlocked : backoff.remaining now key = 0
  below : 0 < failures → (((backoff.takeUp now key).fails + failures : ℕ) : ℚ) < backoff.threshold

instance (backoff : Backoff) (now : ℚ) (key : PyStr) (failures : ℕ) :
    Decidable (backoff.Withstands now key failures) :=
  decidable_of_iff (backoff.remaining now key = 0 ∧ (0 < failures →
      (((backoff.takeUp now key).fails + failures : ℕ) : ℚ) < backoff.threshold))
    ⟨fun holds => ⟨holds.1, holds.2⟩, fun withstands => ⟨withstands.unlocked, withstands.below⟩⟩

variable {backoff : Backoff} {now : ℚ} {key other : PyStr} {failures fewer : ℕ}

theorem Withstands.mono (withstands : backoff.Withstands now key failures)
    (le : fewer ≤ failures) : backoff.Withstands now key fewer := by
  refine ⟨withstands.unlocked, fun positive => ?_⟩
  apply lt_of_le_of_lt _ (withstands.below (positive.trans_le le))
  exact_mod_cast Nat.add_le_add_left le _

/-- The failures `fail` takes up are at most those it has stored. -/
theorem takeUp_fails_le (backoff : Backoff) (now : ℚ) (key : PyStr) :
    (backoff.takeUp now key).fails ≤ ((backoff.state.get key).getD ⟨0, 0, 0, now⟩).fails := by
  unfold takeUp
  simp only
  split
  · exact Nat.zero_le _
  · exact le_refl _

/-- A state of the key that locks no more and counts so many more failures. -/
theorem Withstands.put (withstands : backoff.Withstands now key failures) {st : Failures}
    (ended : st.until_ ≤ now) {more : ℕ}
    (counts : st.fails ≤ (backoff.takeUp now key).fails + more) (le : fewer + more ≤ failures) :
    (backoff.put key st).Withstands now key fewer where
  unlocked := by
    rw [remaining_put_self]
    exact max_eq_left (sub_nonpos.mpr ended)
  below positive := by
    have stored : ((backoff.put key st).takeUp now key).fails ≤ st.fails := by
      apply ((backoff.put key st).takeUp_fails_le now key).trans
      rw [Backoff.put, PyDict.get_set_self, Option.getD_some]
    apply lt_of_le_of_lt _ (withstands.below (by omega))
    exact_mod_cast (by omega : ((backoff.put key st).takeUp now key).fails + fewer ≤
      (backoff.takeUp now key).fails + failures)

/-- Another key keeps its state. -/
theorem Withstands.put_of_ne (withstands : backoff.Withstands now key failures)
    (different : key ≠ other) (st : Failures) :
    (backoff.put other st).Withstands now key failures where
  unlocked := (remaining_put_of_ne _ _ different st).trans withstands.unlocked
  below := by
    have same : (backoff.put other st).takeUp now key = backoff.takeUp now key := by
      simp only [takeUp, Backoff.put, PyDict.get_set, if_neg different]
    rw [same]
    exact withstands.below

/-- What is pruned has no failures that count. -/
theorem Withstands.prune (withstands : backoff.Withstands now key failures) :
    (backoff.prune now).Withstands now key failures where
  unlocked := (remaining_prune _ _ _).trans withstands.unlocked
  below positive := by
    have fewer : ((backoff.prune now).takeUp now key).fails ≤ (backoff.takeUp now key).fails := by
      unfold takeUp Backoff.prune
      rw [PyDict.get_filter]
      cases found : backoff.state.get key with
      | none => exact le_refl _
      | some st =>
          cases stale : backoff.isStale now st with
          | false => simp [Option.filter, stale]
          | true => simp [Option.filter, stale]
    apply lt_of_le_of_lt _ (withstands.below positive)
    exact_mod_cast Nat.add_le_add_right fewer _

/-- A failure of the key takes one away, and leaves the other keys as they are. -/
theorem Withstands.fail
    (withstands : backoff.Withstands now key (failures + if key = other then 1 else 0))
    (started : 0 ≤ now) : (backoff.fail now other).2.Withstands now key failures := by
  by_cases same : key = other
  · subst same
    rw [if_pos rfl] at withstands
    have ended : (backoff.takeUp now key).until_ ≤ now := by
      have unlocked := withstands.unlocked
      rw [remaining_eq_takeUp _ started] at unlocked
      exact sub_nonpos.mp (max_eq_left_iff.mp unlocked)
    unfold Backoff.fail
    simp only
    rw [if_neg (not_lt.mpr ended), if_neg]
    · have counted : (backoff.put key { backoff.takeUp now key with
          fails := (backoff.takeUp now key).fails + 1 }).Withstands now key failures :=
        withstands.put ended (le_refl _) (le_refl _)
      split
      · exact counted.prune
      · exact counted
    · have below := withstands.below (Nat.succ_pos _)
      apply not_le.mpr (lt_of_le_of_lt _ below)
      exact_mod_cast (by omega : (backoff.takeUp now key).fails + 1 ≤
        (backoff.takeUp now key).fails + (failures + 1))
  · rw [if_neg same] at withstands
    unfold Backoff.fail
    simp only
    split
    · exact withstands.put_of_ne same _
    · split
      · exact withstands.put_of_ne same _
      · split
        · exact (withstands.put_of_ne same _).prune
        · exact withstands.put_of_ne same _

/-- A success leaves the key with no failures. -/
theorem Withstands.success (withstands : backoff.Withstands now key failures) :
    (backoff.success other).Withstands now key failures where
  unlocked := by
    rw [remaining_success, withstands.unlocked, ite_self]
  below positive := by
    have fewer : ((backoff.success other).takeUp now key).fails ≤
        (backoff.takeUp now key).fails := by
      unfold takeUp Backoff.success
      rw [PyDict.get_pop]
      by_cases same : key = other
      · simp [same]
      · simp [same]
    apply lt_of_le_of_lt _ (withstands.below positive)
    exact_mod_cast Nat.add_le_add_right fewer _

end Backoff

/-! ## Code that calls `fail` -/

/-- So many failures of these keys are all that can have locked a key. -/
structure Strained (keys : List (LockKind × PyStr)) (failures : ℕ)
    (before after : UnlockService) : Prop where
  now : after.now = before.now
  withstands : ∀ kind key spare,
    (before.backoff kind).Withstands before.time key
      (spare + if (kind, key) ∈ keys then failures else 0) →
    (after.backoff kind).Withstands before.time key spare

/-- No key can have been locked. -/
abbrev Eased : UnlockService → UnlockService → Prop := Strained [] 0

section Strained

variable {keys others : List (LockKind × PyStr)} {failures more : ℕ}
  {first second third : UnlockService}

theorem Strained.trans (start : Strained keys failures first second)
    (rest : Strained keys more second third) : Strained keys (failures + more) first third where
  now := rest.now.trans start.now
  withstands kind key spare withstands := by
    have same : second.time = first.time := by rw [UnlockService.time, start.now]; rfl
    have between := rest.withstands kind key spare
    rw [same] at between
    apply between
    apply start.withstands
    convert withstands using 1
    split <;> omega

/-- Failures of different keys. -/
theorem Strained.apart (start : Strained keys failures first second)
    (rest : Strained others failures second third)
    (apart : ∀ kind key, (kind, key) ∈ keys → (kind, key) ∉ others) :
    Strained (keys ++ others) failures first third where
  now := rest.now.trans start.now
  withstands kind key spare withstands := by
    have same : second.time = first.time := by rw [UnlockService.time, start.now]; rfl
    have between := rest.withstands kind key spare
    rw [same] at between
    apply between
    apply start.withstands
    apply withstands.mono
    rw [Nat.add_assoc]
    apply Nat.add_le_add_left
    by_cases early : (kind, key) ∈ keys
    · rw [if_neg (apart kind key early), if_pos early, if_pos (List.mem_append_left _ early),
        Nat.zero_add]
    · rw [if_neg early, Nat.add_zero]
      simp [early]

theorem Strained.mono (strained : Strained keys failures first second) (subset : keys ⊆ others)
    (le : failures ≤ more) : Strained others more first second where
  now := strained.now
  withstands kind key spare withstands := by
    apply strained.withstands
    apply withstands.mono
    apply Nat.add_le_add_left
    by_cases listed : (kind, key) ∈ keys
    · rw [if_pos listed, if_pos (subset listed)]
      exact le
    · rw [if_neg listed]
      exact Nat.zero_le _

theorem Eased.strained (eased : Eased first second) : Strained keys failures first second :=
  Strained.mono eased (List.nil_subset _) (Nat.zero_le _)

instance : IsPreorder UnlockService Eased where
  refl _ := ⟨rfl, fun _ _ _ withstands => withstands⟩
  trans _ _ _ start rest := Strained.trans start rest

theorem Strained.eased (strained : Strained keys failures first second)
    (eased : Eased second third) : Strained keys failures first third :=
  strained.trans (eased.strained : Strained keys 0 second third)

theorem Eased.behind (eased : Eased first second) (strained : Strained keys failures second third) :
    Strained keys failures first third := by
  have both := (eased.strained : Strained keys 0 first second).trans strained
  rwa [Nat.zero_add] at both

/-- The counters are as they were. -/
theorem Eased.of_backoff (backoff : second.backoff = first.backoff)
    (now : second.now = first.now) : Eased first second :=
  ⟨now, fun kind _ _ withstands => (congrFun backoff kind) ▸ withstands⟩

/-- What is not locked, and withstands the failures, is not locked behind them. -/
theorem Strained.unlocked (strained : Strained keys failures first second) {kind : LockKind}
    {key : PyStr} (unlocked : first.left kind key = 0)
    (withstands : (kind, key) ∈ keys →
      (first.backoff kind).Withstands first.time key failures) :
    second.left kind key = 0 := by
  have same : second.time = first.time := by rw [UnlockService.time, strained.now]; rfl
  rw [UnlockService.left, same]
  refine (strained.withstands kind key 0 ?_).unlocked
  rw [Nat.zero_add]
  split
  next listed => exact withstands listed
  · exact ⟨unlocked, fun positive => absurd positive (lt_irrefl 0)⟩

end Strained

section Code

variable {Key : Type} {platform : Platform Key} {answers : Answers}

theorem auditAppend_eased (event : String) (data : Dict) :
    Py.Keeps Eased (auditAppend platform answers event data) :=
  fun _ => Eased.of_backoff rfl rfl

theorem record_eased (answers : Answers) (event : String) (title : Option String)
    (priority : String) (tags : List String) (data : Dict) :
    Py.Keeps Eased (record platform answers event title priority tags data) := by
  unfold record
  refine Py.Keeps.bind (auditAppend_eased event data) fun entry => ?_
  cases title with
  | none => exact Py.Keeps.bind (Py.Keeps.pure ()) fun _ => Py.Keeps.pure _
  | some title =>
      refine Py.Keeps.bind (Py.Keeps.modify fun service => ?_) fun _ => Py.Keeps.pure _
      exact Eased.of_backoff rfl rfl

/-- PAM requests lock nothing. -/
theorem eased_requests (platform : Platform Key) : RequestOperations platform Eased where
  record := record_eased
  broker _ _ _ := Eased.of_backoff rfl rfl

theorem locked_eased (key : PyStr) (kind : LockKind) :
    Py.Keeps Eased (locked platform answers key kind) :=
  locked_keeps auditAppend_eased (fun _ _ => Eased.of_backoff rfl rfl) key kind

theorem challengeDevice_eased (identity : Identity) :
    Py.Keeps Eased (challengeDevice platform answers identity) := by
  have issues : Py.Keeps Eased (issueChallenge answers identity.deviceId) :=
    issueChallenge_keeps (fun _ _ => Eased.of_backoff rfl rfl)
      (fun _ _ _ => Eased.of_backoff rfl rfl) (fun _ _ => Eased.of_backoff rfl rfl) _ _
  unfold challengeDevice
  refine Py.Keeps.bind (locked_eased _ _) fun isLocked => ?_
  split
  · exact Py.Keeps.pure _
  · exact Py.Keeps.bind issues fun _ => Py.Keeps.pure _

theorem checkResponse_eased (device : Dict) (nonce signature : Option Json) :
    Py.Keeps Eased (checkResponse platform device nonce signature) :=
  checkResponse_keeps (fun _ _ => Eased.of_backoff rfl rfl) device nonce signature

theorem clearFailures_eased (ip deviceId : PyStr) : Py.Keeps Eased (clearFailures ip deviceId) := by
  refine fun service => ⟨rfl, fun kind key spare withstands => ?_⟩
  cases kind with
  | ip => exact withstands.success
  | device => exact withstands.success

theorem succeed_eased {session : ℕ} {peer : Peer} (identity : Identity) (nonce : PyStr)
    (signature : Option Json) (entry : Pending) :
    Py.Keeps Eased
      (succeed platform answers session peer identity nonce signature entry) := by
  unfold succeed
  refine Py.Keeps.bind (Py.Keeps.read _) fun grant => ?_
  refine Py.Keeps.bind (clearFailures_eased _ _) fun _ => ?_
  refine Py.Keeps.bind (Py.Keeps.modify fun _ => Eased.of_backoff rfl rfl) fun _ => ?_
  refine Py.Keeps.bind (configItem_keeps _) fun target => ?_
  refine Py.Keeps.bind (record_eased _ _ _ _ _ _) fun _ => ?_
  exact Py.Keeps.bind (Py.Keeps.modify fun _ => Eased.of_backoff rfl rfl) fun _ => Py.Keeps.pure _

theorem failRest_eased (hits : List (LockKind × PyStr)) :
    Py.Keeps Eased (failRest platform answers hits) := by
  induction hits with
  | nil => exact Py.Keeps.pure _
  | cons hit hits inductionHypothesis =>
      unfold failRest
      refine Py.Keeps.bind (Py.Keeps.read _) fun left => ?_
      exact Py.Keeps.bind (record_eased _ _ _ _ _ _) fun _ => inductionHypothesis

theorem countFailure_strained (kind : LockKind) (key : PyStr) (service : UnlockService) :
    Strained [(kind, key)] 1 service (countFailure kind key service).2 := by
  have started := service.time_nonneg
  have counts : ∀ (other : LockKind) (touched : PyStr) (spare : ℕ),
      (service.backoff other).Withstands service.time touched
        (spare + if (other, touched) ∈ [(kind, key)] then 1 else 0) →
      other = kind → ((service.backoff other).fail service.time key).2.Withstands service.time
        touched spare := by
    intro other touched spare withstands same
    apply Backoff.Withstands.fail _ started
    simpa [same] using withstands
  refine ⟨by cases kind <;> rfl, fun other touched spare withstands => ?_⟩
  have lasts : other ≠ kind →
      (service.backoff other).Withstands service.time touched spare := by
    intro different
    simpa [different] using withstands
  cases kind with
  | ip =>
      cases other with
      | ip => exact counts .ip touched spare withstands rfl
      | device => exact lasts (by simp)
  | device =>
      cases other with
      | ip => exact lasts (by simp)
      | device => exact counts .device touched spare withstands rfl

/-- The keys `_fail` charges for a device, or for none. -/
def failing (ip : PyStr) (device : Option PyStr) : List (LockKind × PyStr) :=
  [(.ip, ip)] ++ device.toList.map fun deviceId => (.device, deviceId)

/-- The code calls `fail` for these keys once where it returns, and where it raises not at all
or because of an append. -/
def Strains (answers : Answers) (keys : List (LockKind × PyStr))
    (program : Py UnlockService Place) : Prop :=
  ∀ before outcome after, program before = (outcome, after) →
    Strained keys 1 before after ∧
      ∀ exc, outcome = .error exc → answers.Faulty ∨ Eased before after

variable {keys : List (LockKind × PyStr)}

theorem Strains.of_eased {program : Py UnlockService Place} (keeps : Py.Keeps Eased program) :
    Strains answers keys program :=
  fun _ _ _ ran => ⟨(keeps.after ran).strained, fun _ _ => .inr (keeps.after ran)⟩

/-- Behind code that does not call it. -/
theorem Strains.bind {α : Type} {program : Py UnlockService α} {next : α → Py UnlockService Place}
    (keeps : Py.Keeps Eased program) (strains : ∀ value, Strains answers keys (next value)) :
    Strains answers keys (program >>= next) := by
  intro before outcome after ran
  rcases Py.of_bind ran with ⟨exc, ended, _⟩ | ⟨value, middle, ended, rest⟩
  · have eased := keeps.after ended
    exact ⟨eased.strained, fun _ _ => .inr eased⟩
  · have eased := keeps.after ended
    obtain ⟨strained, raised⟩ := strains value middle outcome after rest
    exact ⟨eased.behind strained, fun exc failed =>
      (raised exc failed).imp_right fun last => Trans.trans eased last⟩

theorem countDeviceFailure_returns (deviceId : Option PyStr) (service : UnlockService) :
    ∃ started, countDeviceFailure deviceId service =
      (.ok started, (countDeviceFailure deviceId service).2) := by
  cases deviceId with
  | none => exact ⟨false, rfl⟩
  | some deviceId =>
      cases deviceId with
      | nil => exact ⟨false, rfl⟩
      | cons first rest => exact ⟨_, rfl⟩

theorem fail_strains (peer : Peer) (deviceId : Option PyStr) (reason : Text) (handling : Bool) :
    Strains answers (failing peer.ip deviceId)
      (fail platform answers peer deviceId reason handling) := by
  intro before outcome after ran
  refine ⟨?_, fun exc failed => .inl (fail_throws _ _ _ _ _ _ (failed ▸ ran))⟩
  have device : ∀ service : UnlockService,
      Strained (deviceId.toList.map fun deviceId => (LockKind.device, deviceId)) 1 service
        (countDeviceFailure deviceId service).2 := by
    intro service
    cases deviceId with
    | none => exact Eased.strained (refl service)
    | some deviceId =>
        cases deviceId with
        | nil => exact Eased.strained (refl service)
        | cons first rest => exact countFailure_strained .device _ service
  have counted : Strained (failing peer.ip deviceId) 1 before
      (countDeviceFailure deviceId (countFailure .ip peer.ip before).2).2 := by
    apply (countFailure_strained .ip peer.ip before).apart (device _)
    intro kind key isIp isDevice
    rw [List.mem_singleton] at isIp
    rw [isIp] at isDevice
    simp at isDevice
  obtain ⟨lockIp, ip⟩ : ∃ started, countFailure .ip peer.ip before =
      (.ok started, (countFailure .ip peer.ip before).2) := ⟨_, rfl⟩
  obtain ⟨lockDev, middle⟩ :=
    countDeviceFailure_returns deviceId (countFailure .ip peer.ip before).2
  unfold fail failStart at ran
  have rest : Eased (countDeviceFailure deviceId (countFailure .ip peer.ip before).2).2 after := by
    rcases Py.of_bind ran with ⟨exc, ended, _⟩ | ⟨hits, final, ended, finish⟩
    · rw [Py.bind_of_ok ip, Py.bind_of_ok middle] at ended
      exact (Py.Keeps.bind (record_eased _ _ _ _ _ _) fun _ => Py.Keeps.pure _).after ended
    · cases finish
      rw [Py.bind_of_ok ip, Py.bind_of_ok middle] at ended
      exact (Py.Keeps.bind (record_eased _ _ _ _ _ _) fun _ => Py.Keeps.pure _).after ended
  exact counted.eased rest

variable {peer : Peer} {session : ℕ}

theorem sessionStart_strains :
    Strains answers [(.ip, peer.ip)] (sessionStart platform answers peer) := by
  unfold sessionStart
  refine Strains.bind (locked_eased _ _) fun isLocked => ?_
  split
  · exact Strains.of_eased (Py.Keeps.pure _)
  · refine Strains.bind (Py.Keeps.ofExcept _) fun certificate => ?_
    refine Strains.bind (Py.Keeps.read _) fun data => ?_
    refine Strains.bind (Py.Keeps.ofExcept _) fun device => ?_
    refine Strains.bind (configItem_keeps _) fun required => ?_
    split
    · exact fail_strains peer none _ _
    · exact Strains.bind (Py.Keeps.read _) fun now => Strains.of_eased (Py.Keeps.pure _)

theorem reloadConfig_eased (access : FileAccess) : Py.Keeps Eased (reloadConfig access) :=
  fun _ => Eased.of_backoff rfl rfl

theorem afterHello_strains (admission : Admission) (hello : Dict) :
    Strains answers [(.ip, peer.ip)] (afterHello platform answers peer admission hello) := by
  unfold afterHello
  split
  · split
    · exact fail_strains peer none _ _
    · refine Strains.bind (lookupDevice_keeps _ _) fun looked => ?_
      obtain ⟨found, lookupData⟩ := looked
      cases found with
      | none => exact fail_strains peer none _ _
      | some device =>
          refine Strains.bind (Py.Keeps.ofExcept _) fun identifier => ?_
          split
          · exact fail_strains peer none _ _
          · exact Strains.of_eased (challengeDevice_eased _)
  · exact fail_strains peer none _ _

theorem afterResponse_strains (identity : Identity) (response : Dict) :
    Strains answers (failing peer.ip (some identity.deviceId))
      (afterResponse platform answers session peer identity response) := by
  unfold afterResponse
  split
  · exact fail_strains peer _ _ _
  · refine Strains.bind (checkResponse_eased _ _ _) fun verdict => ?_
    cases verdict with
    | refused reason => exact fail_strains peer _ _ _
    | accepted nonce entry => exact Strains.of_eased (succeed_eased _ _ _ _)

end Code

/-- The keys a step may charge: the device is charged for its response alone, if this is an
object. -/
def Place.failing (ip : PyStr) : Place → Awaited → List (LockKind × PyStr)
  | .recvResponse identity _, awaited =>
      match received awaited with
      | some (.ok _) => Listener.failing ip (some identity.deviceId)
      | _ => [(.ip, ip)]
  | _, _ => [(.ip, ip)]

section Steps

variable {Key : Type} {platform : Platform Key} {answers : Answers} {peer : Peer} {session : ℕ}

theorem Place.ip_mem_failing (ip : PyStr) (place : Place) (awaited : Awaited) :
    (.ip, ip) ∈ place.failing ip awaited := by
  unfold Place.failing
  split
  · split <;> simp [Listener.failing]
  · simp

/-- The code between two awaits calls `fail` once. -/
theorem sessionBody_strains {place : Place} {awaited : Awaited} {body : Py UnlockService Place}
    (runs : sessionBody platform answers session peer place awaited = some body) :
    Strains answers (place.failing peer.ip awaited) body := by
  unfold sessionBody at runs
  split at runs
  next raises =>
    cases runs
    exact Strains.of_eased (Py.Keeps.bind (Py.Keeps.raiseIf _) fun _ => Py.Keeps.pure _)
  next admission deadline =>
    obtain ⟨message, _, rfl⟩ := Option.map_eq_some_iff.mp runs
    exact Strains.bind (Py.Keeps.ofExcept _) fun hello => afterHello_strains _ _
  next identity challenge raises =>
    cases runs
    exact Strains.of_eased (Py.Keeps.bind (sent_keeps _) fun _ => afterChallenge_keeps _)
  next identity deadline =>
    obtain ⟨message, arrived, rfl⟩ := Option.map_eq_some_iff.mp runs
    cases message with
    | error exc =>
        exact Strains.of_eased (Py.Keeps.raise exc)
    | ok response =>
        simp only [Place.failing, arrived]
        exact Strains.bind (Py.Keeps.ofExcept _) fun response => afterResponse_strains _ _
  next hits raises =>
    cases runs
    apply Strains.of_eased
    refine Py.Keeps.bind (sent_keeps _) fun _ => ?_
    exact Py.Keeps.bind (failRest_eased _) fun _ => Py.Keeps.pure _
  next raises =>
    cases runs
    exact Strains.of_eased (Py.Keeps.bind (sent_keeps _) fun _ => Py.Keeps.pure _)
  · contradiction

/-- What `handle` answers with no rejection. -/
def Unanswered (exc : PyExc) : Prop := exc.kind = .connectionClosed ∨ exc.kind = .base

instance (exc : PyExc) : Decidable (Unanswered exc) :=
  inferInstanceAs (Decidable (exc.kind = .connectionClosed ∨ exc.kind = .base))

theorem recover_strains (exc : PyExc) :
    Strains answers [(.ip, peer.ip)] (recover platform answers peer exc) := by
  unfold recover
  split
  · exact Strains.of_eased (Py.Keeps.pure _)
  all_goals first
    | exact fail_strains peer none _ _
    | exact Strains.of_eased (Py.Keeps.raise exc)

theorem recover_unanswered {exc : PyExc} (unanswered : Unanswered exc) :
    Py.Keeps Eased (recover platform answers peer exc) := by
  unfold recover
  rcases unanswered with closed | base
  · simp only [closed]
    exact Py.Keeps.pure _
  · simp only [base]
    exact Py.Keeps.raise exc

theorem finished_eased {body : Py UnlockService Place} {before middle after : UnlockService}
    {outcome : Except PyExc Place} {next : Place} (ended : body before = (outcome, middle))
    (ran : finished body before = (after, next)) : Eased middle after := by
  unfold finished at ran
  rw [ended] at ran
  cases outcome with
  | error exc =>
      cases ran
      exact Eased.of_backoff rfl rfl
  | ok place =>
      cases place <;> cases ran <;> exact Eased.of_backoff rfl rfl

/-- With the `except` clauses `fail` is called twice, and only once if the appends succeed. -/
theorem handled_strained {keys : List (LockKind × PyStr)} {body : Py UnlockService Place}
    (strains : Strains answers keys body) (isIp : (.ip, peer.ip) ∈ keys)
    {before after : UnlockService} {next : Place}
    (ran : finished (handled platform answers peer body) before = (after, next)) :
    Strained keys 2 before after ∧ (¬ answers.Faulty → Strained keys 1 before after) := by
  rcases ended : handled platform answers peer body before with ⟨outcome, middle⟩
  have last := finished_eased ended ran
  rcases Py.of_tryExcept ended with ⟨place, returned, _⟩ | ⟨exc, raised, failed, handles⟩
  · obtain ⟨strained, _⟩ := strains _ _ _ returned
    exact ⟨(strained.eased last).mono (List.Subset.refl _) one_le_two,
      fun _ => strained.eased last⟩
  · obtain ⟨strained, reason⟩ := strains _ _ _ failed
    have answered : Strained keys 1 raised middle :=
      (recover_strains exc _ _ _ handles).1.mono (by simpa using isIp) (le_refl 1)
    refine ⟨(strained.trans answered).eased last, fun calm => ?_⟩
    have eased := (reason exc rfl).resolve_left calm
    exact (eased.behind answered).eased last

/-- And not at all where the code does not call it and raises nothing that is answered. -/
theorem handled_eased {body : Py UnlockService Place} {before after : UnlockService} {next : Place}
    (harmless : ∀ outcome middle, body before = (outcome, middle) →
      Eased before middle ∧ ∀ exc, outcome = .error exc → Unanswered exc)
    (ran : finished (handled platform answers peer body) before = (after, next)) :
    Eased before after := by
  rcases ended : handled platform answers peer body before with ⟨outcome, middle⟩
  have last := finished_eased ended ran
  rcases Py.of_tryExcept ended with ⟨place, returned, _⟩ | ⟨exc, raised, failed, handles⟩
  · exact Trans.trans (harmless _ _ returned).1 last
  · obtain ⟨eased, unanswered⟩ := harmless _ _ failed
    have recovered := (recover_unanswered (unanswered exc rfl)).after handles
    exact Trans.trans (Trans.trans eased recovered) last

end Steps

end RemoteUnlock.Listener
