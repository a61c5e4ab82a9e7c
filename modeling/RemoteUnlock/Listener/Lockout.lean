import RemoteUnlock.Listener.Accounting
import RemoteUnlock.Listener.FailClosed
import RemoteUnlock.Listener.Locking

/-!
# Lockouts

A session tests the lockouts of its address and of its device once, and is judged later.
They still have nothing left then as long as no other session starts a lockout of a key
that a waiting session has been tested for; and a success, which clears its own keys,
then ends no lockout.
-/

namespace RemoteUnlock.Listener

open Python Python.Items Common Audit Library

variable {Key : Type} {platform : Platform Key}

/-- The keys whose lockouts a waiting session has been tested for. -/
def guardedAt (ip : PyStr) : Place → List (LockKind × PyStr)
  | .recvHello _ _ => [(.ip, ip)]
  | .sendChallenge identity _ => [(.ip, ip), (.device, identity.deviceId)]
  | .recvResponse identity _ => [(.ip, ip), (.device, identity.deviceId)]
  | _ => []

def Session.guarded (current : Session platform) : List (LockKind × PyStr) :=
  guardedAt current.peer.ip current.place

/-- A key the failures of the step would lock is none that another waiting session has been
tested for. -/
def World.SparesWaiting (limits : Limits) (world : World platform) (label : Label) : Prop :=
  ∀ failures, world.MayFail limits label failures → ∀ kind key,
    (kind, key) ∈ world.failing label →
    ¬ (world.service.backoff kind).Withstands world.service.time key failures →
    ∀ session current, world.sessions session = some current →
      label.session ≠ some session → (kind, key) ∉ current.guarded

/-- No lockout is shortened but by the time that passes. -/
def World.LockoutsLast (world : World platform) (label : Label) : Prop :=
  ∀ kind key, world.service.left kind key -
    ((step world label).service.time - world.service.time) ≤
      (step world label).service.left kind key

/-- What the waiting sessions have been tested for is not locked. -/
def World.Tested (world : World platform) : Prop :=
  ∀ session current, world.sessions session = some current →
    ∀ kind key, (kind, key) ∈ current.guarded → world.service.left kind key = 0

theorem left_nonneg (service : UnlockService) (kind : LockKind) (key : PyStr) :
    0 ≤ service.left kind key := Backoff.remaining_nonneg _ _ _

/-! ## The session that takes the step -/

theorem Resting.guardedAt {next : Place} (resting : Resting (.ok next)) (ip : PyStr) :
    guardedAt ip next = [] := by
  cases next with
  | recvHello => exact resting.elim
  | sendChallenge => exact resting.elim
  | recvResponse => exact resting.elim
  | _ => rfl

theorem connect_tested {answers : Answers} {peer : Peer} {access : FileAccess} {next : Place}
    {before after : UnlockService}
    (ran : connect platform answers peer access before = (after, next)) :
    ∀ kind key, (kind, key) ∈ guardedAt peer.ip next → after.left kind key = 0 := by
  intro kind key guarded
  rcases connect_effect ran with ⟨_, resting⟩ | effect
  · simp [resting.guardedAt] at guarded
  · cases effect with
    | quiet _ resting => simp [resting.guardedAt] at guarded
    | hello admitted =>
        rw [guardedAt, List.mem_singleton, Prod.mk.injEq] at guarded
        rw [guarded.1, guarded.2]
        exact admitted.unlocked

theorem SessionEffect.tested {session : ℕ} {peer : Peer} {answers : Answers}
    {awaited : Awaited} {before after : UnlockService} {place next : Place}
    (effect : SessionEffect platform session peer answers awaited before place after (.ok next))
    (tested : ∀ kind key, (kind, key) ∈ guardedAt peer.ip place → before.left kind key = 0) :
    ∀ kind key, (kind, key) ∈ guardedAt peer.ip next → after.left kind key = 0 := by
  intro kind key guarded
  cases effect with
  | quiet _ resting => simp [resting.guardedAt] at guarded
  | challenge identity challenge signed admitted identified opens message locks =>
      rw [locks kind key]
      simp only [guardedAt, List.mem_cons, Prod.mk.injEq, List.not_mem_nil, or_false] at guarded
      rcases guarded with ⟨rfl, rfl⟩ | ⟨rfl, rfl⟩
      · exact tested .ip peer.ip (by simp [guardedAt])
      · exact identified.unlocked
  | unsent _ _ resting => simp [resting.guardedAt] at guarded
  | await => exact tested kind key guarded
  | grant _ _ _ _ _ _ _ resting => simp [resting.guardedAt] at guarded

/-! ## How the lockouts change -/

/-- A step that is no tick shortens no lockout, unless it is a success with something left of
its own. -/
theorem SessionEffect.left {session : ℕ} {peer : Peer} {answers : Answers}
    {awaited : Awaited} {before after : UnlockService} {place : Place}
    {next : Except PyExc Place}
    (effect : SessionEffect platform session peer answers awaited before place after next)
    (tested : ∀ kind key, (kind, key) ∈ guardedAt peer.ip place → before.left kind key = 0)
    (kind : LockKind) (key : PyStr) :
    after.now = before.now ∧ before.left kind key ≤ after.left kind key := by
  cases effect with
  | quiet calm => exact ⟨calm.now, calm.left kind key⟩
  | challenge identity challenge signed admitted identified opens =>
      exact ⟨opens.now, opens.left kind key⟩
  | unsent deviceId opens => exact ⟨opens.now, opens.left kind key⟩
  | await => exact ⟨rfl, le_refl _⟩
  | @grant identity deadline _ _ nonce signature entry recorded accepts issues =>
      refine ⟨issues.now, ?_⟩
      by_cases own : (kind, key) ∈ guardedAt peer.ip (.recvResponse identity deadline)
      · rw [tested kind key own]
        exact left_nonneg _ _ _
      · simp only [guardedAt, List.mem_cons, List.not_mem_nil, or_false, not_or] at own
        exact issues.left kind key own.1 own.2

theorem PamEffect.left {request : ℕ} {datas : List Dict} {before after : UnlockService}
    (effect : PamEffect request datas before after) (kind : LockKind) (key : PyStr) :
    after.now = before.now ∧ before.left kind key ≤ after.left kind key := by
  cases effect with
  | spares middle events spared silent final =>
      subst final
      exact ⟨spared.now, spared.left kind key⟩
  | takes middle events taking takes cleared dated replies final =>
      subst final
      exact ⟨takes.now, takes.left kind key⟩

theorem left_of_now {before after : UnlockService} {kind : LockKind} {key : PyStr}
    (kept : after.now = before.now ∧ before.left kind key ≤ after.left kind key) :
    before.left kind key - (after.time - before.time) ≤ after.left kind key := by
  rw [time_of_now kept.1, sub_self, sub_zero]
  exact kept.2

theorem StepCase.lockoutsLast {before after : World platform} {label : Label}
    (moved : StepCase before label after) (tested : before.Tested) (kind : LockKind)
    (key : PyStr) :
    before.service.left kind key - (after.service.time - before.service.time) ≤
      after.service.left kind key := by
  cases moved with
  | idle => simp
  | tick duration =>
      have later := (before.service.backoff kind).remaining_later before.service.time duration key
        duration.2
      have time : (elapsed duration before.service).time = before.service.time + duration := by
        simp [elapsed, UnlockService.time]
      change before.service.left kind key -
          ((elapsed duration before.service).time - before.service.time) ≤
        ((elapsed duration before.service).backoff kind).remaining
          (elapsed duration before.service).time key
      rw [time, add_sub_cancel_left]
      cases kind with
      | ip => exact later
      | device => exact later
  | change => exact left_of_now ⟨rfl, by cases kind <;> exact le_refl _⟩
  | hangUp => exact left_of_now ⟨rfl, by cases kind <;> exact le_refl _⟩
  | connect session peer access answers service next known account fresh ran =>
      exact left_of_now ⟨(connect_steady ran).now, (connect_steady ran).left kind key⟩
  | resume session awaited answers current service next known account found allowed ran =>
      exact left_of_now ((resume_effect ran).left (tested session current found) kind key)
  | pamConnect request credentials answers service next passed fresh ran =>
      exact left_of_now ((pamConnect_effect ran).1.left kind key)
  | pamResume request awaited answers waiting service next passed found allowed ran =>
      exact left_of_now ((pamResume_effect waiting.passed ran).1.left kind key)

/-! ## Runs -/

theorem StepCase.tested {before after : World platform} {label : Label} {limits : Limits}
    (moved : StepCase before label after) (tested : before.Tested)
    (spares : before.SparesWaiting limits label) : after.Tested := by
  have others : ∀ session current, before.sessions session = some current →
      label.session ≠ some session → ∀ kind key, (kind, key) ∈ current.guarded →
        after.service.left kind key = 0 := by
    intro session current found other kind key guarded
    apply moved.unlocked (tested session current found kind key guarded)
    intro failing failures mayFail
    by_contra weak
    exact spares failures mayFail kind key failing weak session current found other guarded
  cases moved with
  | idle => exact tested
  | tick =>
      exact fun session current found =>
        others session current found (by simp [Label.session])
  | change =>
      exact fun session current found =>
        others session current found (by simp [Label.session])
  | hangUp =>
      exact fun session current found =>
        others session current found (by simp [Label.session])
  | connect acting peer access answers service next known account fresh ran =>
      intro session current found
      rw [World.sessions_setSession] at found
      split at found
      next same =>
        rw [Option.some.injEq] at found
        subst found
        exact connect_tested ran
      next other => exact others session current found (by simp [Label.session, Ne.symm other])
  | resume acting awaited answers previous service next known account isSession allowed ran =>
      intro session current found
      rw [World.sessions_setSession] at found
      split at found
      next same =>
        rw [Option.some.injEq] at found
        subst found
        exact (resume_effect ran).tested (tested acting previous isSession)
      next other => exact others session current found (by simp [Label.session, Ne.symm other])
  | pamConnect =>
      exact fun session current found =>
        others session current found (by simp [Label.session])
  | pamResume =>
      exact fun session current found =>
        others session current found (by simp [Label.session])

/-- No grant was issued during a lockout of its address or its device. -/
def GrantsUnlocked (service : UnlockService) : Prop :=
  ∀ session grant, .grant session grant ∈ service.history →
    grant.ipLeft = 0 ∧ grant.deviceLeft = 0

theorem StepCase.grantsUnlocked {before after : World platform} {label : Label}
    (moved : StepCase before label after) (tested : before.Tested)
    (unlocked : GrantsUnlocked before.service) : GrantsUnlocked after.service := by
  intro session grant found
  rcases moved.grant_mem found with old | ⟨current, identity, deadline, _, _, nonce, _, _, _,
    isSession, isPlace, _, isGrant⟩
  · exact unlocked session grant old
  · have guarded := tested session current isSession
    rw [Session.guarded, isPlace] at guarded
    subst isGrant
    exact ⟨guarded .ip current.peer.ip (by simp [guardedAt]),
      guarded .device identity.deviceId (by simp [guardedAt])⟩

/-- No grant is issued during a lockout, and none ends one. -/
def LockoutEffective (platform : Platform Key) (setup : Setup) (labels : List Label) : Prop :=
  GrantsUnlocked (World.after platform setup labels).service ∧
    Along step World.LockoutsLast (World.start platform setup) labels

theorem run_lockoutEffective {world : World platform} {labels : List Label} {limits : Limits}
    (spares : Along step (World.SparesWaiting limits) world labels) (tested : world.Tested)
    (unlocked : GrantsUnlocked world.service) :
    GrantsUnlocked (run step world labels).service ∧
      Along step World.LockoutsLast world labels := by
  have keeps : ∀ (world : World platform) (label : Label),
      world.Tested ∧ GrantsUnlocked world.service → world.SparesWaiting limits label →
      (step world label).Tested ∧ GrantsUnlocked (step world label).service :=
    fun world label holds spares =>
      ⟨(step_cases world label).tested holds.1 spares,
        (step_cases world label).grantsUnlocked holds.1 holds.2⟩
  refine ⟨(run_invariant_along keeps ⟨tested, unlocked⟩ spares).2, ?_⟩
  exact Along.of_invariant keeps
    (fun world label holds _ => (step_cases world label).lockoutsLast holds.1) ⟨tested, unlocked⟩
    spares

/-- Lockouts are effective in every run in which no failure would lock a key that another
waiting session has been tested for. -/
theorem lockoutEffective_of_sparesWaiting (platform : Platform Key) (setup : Setup)
    (limits : Limits) (labels : List Label)
    (spares : Along step (World.SparesWaiting limits) (World.start platform setup) labels) :
    LockoutEffective platform setup labels := by
  rcases setup.service_eq with ⟨threshold, base, maximum, ttl, _, same⟩
  apply run_lockoutEffective spares
  · intro session current found
    contradiction
  · intro session grant found
    simp [World.start, same] at found

/-- Another address is locked out while two sessions from the address of the phone wait; then
one of them gets its response. -/
def strangerLockedLabels : List Label :=
  openSession 0 ++
    [.connect 1 samplePeer .calm calmAnswers,
      .connect 2 ⟨py "100.64.0.9", .ok none⟩ .calm calmAnswers,
      .resume 2 (.text "[]".toList) calmAnswers, .resume 0 (.text sampleResponse) calmAnswers]

/-- What can be seen of a step that spares these sessions where they wait. -/
def World.seemsSparing (sessions : List ℕ) (world : World samplePlatform) (label : Label) : Bool :=
  decide (world.Harmless initialLimits label) ||
    sessions.all fun session => label.session == some session ||
      (world.sessions session).all fun current =>
        (world.failing label).all fun key => !current.guarded.contains key

/-- Every session of a run comes from a label. -/
theorem sessions_subset {world : World platform} {sessions : List ℕ} {label : Label}
    (known : ∀ session, world.sessions session ≠ none → session ∈ sessions)
    (named : ∀ session ∈ label.session, session ∈ sessions) :
    ∀ session, (step world label).sessions session ≠ none → session ∈ sessions := by
  intro session found
  by_cases own : label.session = some session
  · exact named session own
  · rw [((step_cases world label).others own).1] at found
    exact known session found

theorem sparesWaiting_of_seems (sessions : List ℕ) {labels : List Label}
    (recorded : ∀ label ∈ labels, label.Recorded)
    (named : ∀ label ∈ labels, ∀ session ∈ label.session, session ∈ sessions)
    (seems : Along step (fun world label => world.seemsSparing sessions label = true)
      (World.start samplePlatform sampleSetup) labels) :
    Along step (World.SparesWaiting initialLimits) (World.start samplePlatform sampleSetup)
      labels := by
  have checked : Along step (fun world label => (∀ session ∈ label.session, session ∈ sessions) ∧
      label.Recorded ∧ world.seemsSparing sessions label = true)
      (World.start samplePlatform sampleSetup) labels :=
    seems.imp fun world label membership seen =>
      ⟨named label membership, recorded label membership, seen⟩
  have keeps : ∀ (world : World samplePlatform) (label : Label),
      (∀ session, world.sessions session ≠ none → session ∈ sessions) →
      ((∀ session ∈ label.session, session ∈ sessions) ∧ label.Recorded ∧
        world.seemsSparing sessions label = true) →
      ∀ session, (step world label).sessions session ≠ none → session ∈ sessions :=
    fun world label known holds => sessions_subset known holds.1
  refine Along.of_invariant keeps ?_ (fun session found => absurd rfl found) checked
  rintro world label known ⟨_, recorded, seems⟩ failures mayFail kind key failing _ session current
    found other guarded
  rcases mayFail with ⟨_, harmful⟩ | ⟨_, unrecorded⟩
  · have listed : session ∈ sessions := known session (by rw [found]; simp)
    rw [World.seemsSparing, Bool.or_eq_true, decide_eq_true_iff] at seems
    have spares := List.all_eq_true.mp (seems.resolve_left harmful) session listed
    rw [Bool.or_eq_true, beq_iff_eq] at spares
    have untouched := spares.resolve_left other
    rw [found, Option.all_some] at untouched
    have absent := List.all_eq_true.mp untouched (kind, key) failing
    simp [guarded] at absent
  · exact unrecorded recorded

theorem after_strangerLockedLabels :
    let after := (World.after samplePlatform sampleSetup strangerLockedLabels).service
    some 0 ∈ after.history.map grantedTo ∧ after.left .ip (py "100.64.0.9") = 30 := by
  decide +kernel

/-- The grant is issued, and the lockout of the other address lasts. -/
theorem lockoutEffective_strangerLockedLabels :
    let after := (World.after samplePlatform sampleSetup strangerLockedLabels).service
    (∃ grant, .grant 0 grant ∈ after.history ∧ grant.ipLeft = 0 ∧ grant.deviceLeft = 0) ∧
      after.left .ip (py "100.64.0.9") = 30 ∧
      Along step World.LockoutsLast (World.start samplePlatform sampleSetup)
        strangerLockedLabels := by
  have recorded : ∀ label ∈ strangerLockedLabels, label.Recorded := by
    intro label membership
    simp only [strangerLockedLabels, openSession, List.cons_append, List.nil_append, List.mem_cons,
      List.not_mem_nil, or_false] at membership
    rcases membership with rfl | rfl | rfl | rfl | rfl | rfl | rfl <;> exact calmAnswers_calm
  obtain ⟨unlocked, last⟩ := lockoutEffective_of_sparesWaiting samplePlatform sampleSetup
    initialLimits strangerLockedLabels
    (sparesWaiting_of_seems [0, 1, 2] recorded (by decide) (by decide +kernel))
  obtain ⟨issued, lasts⟩ := after_strangerLockedLabels
  obtain ⟨grant, found⟩ := granted_mem issued
  exact ⟨⟨grant, found, unlocked 0 grant found⟩, lasts, last⟩

/-- While one session waits for its response, another one from the same address fails. -/
def lockedLabels : List Label :=
  openSession 0 ++
    [.connect 1 samplePeer .calm calmAnswers, .resume 1 (.text "[]".toList) calmAnswers,
      .resume 0 (.text sampleResponse) calmAnswers]

/-- What was left of the lockout of the address when a grant was issued. -/
def ipLeftAt : Event → Option ℚ
  | .grant _ grant => some grant.ipLeft
  | _ => none

theorem history_lockedLabels :
    (World.after samplePlatform sampleSetup lockedLabels).service.history.map ipLeftAt =
      [none, none, some 30, none] := by
  decide +kernel

/-- The grant is issued with thirty seconds of the lockout left. -/
theorem not_lockoutEffective_lockedLabels :
    ¬ LockoutEffective samplePlatform sampleSetup lockedLabels := by
  rintro ⟨unlocked, _⟩
  have issued : some 30 ∈ (World.after samplePlatform sampleSetup
      lockedLabels).service.history.map ipLeftAt := by
    rw [history_lockedLabels]
    simp
  rcases List.mem_map.mp issued with ⟨event, found, left⟩
  cases event with
  | grant session grant =>
      rw [ipLeftAt, (unlocked session grant found).1, Option.some.injEq] at left
      norm_num at left
  | _ => simp [ipLeftAt] at left

end RemoteUnlock.Listener
