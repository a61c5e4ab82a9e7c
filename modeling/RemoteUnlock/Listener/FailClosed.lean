import RemoteUnlock.Listener.World

/-!
# Failing closed

A session issues its grant before it records the success, so it fails closed exactly as
long as no record of a success fails.  Then every session that issues a grant records it
in the same step, and all other sessions leave the broker alone.
-/

namespace RemoteUnlock.Listener

open Python Python.Items Common Audit Library

variable {Key : Type} {platform : Platform Key}

/-- If the label is a response that is accepted, the audit log can be written. -/
def World.Recordable (world : World platform) : Label → Prop
  | .resume session awaited answers =>
      ∀ current identity deadline nonce signature entry,
        world.sessions session = some current →
        current.place = .recvResponse identity deadline →
        Accepts platform identity awaited world.service nonce signature entry →
        (answers.disk world.service.audit.log.seq).1.raises = false
  | _ => True

/-- A step of a session leaves the broker alone and issues no grant, or it issues one and
records it. -/
theorem StepCase.closed {before after : World platform} {label : Label} {session : ℕ}
    (moved : StepCase before label after) (recordable : before.Recordable label)
    (own : label.session = some session) :
    after.service.broker = before.service.broker ∧
        (∀ grant, .grant session grant ∈ after.service.history →
          .grant session grant ∈ before.service.history) ∨
      .authorized session ∈ after.service.history := by
  have silent : ∀ {service : UnlockService}, service.broker = before.service.broker →
      (∀ grant, .grant session grant ∈ service.history →
        .grant session grant ∈ before.service.history) →
      service.broker = before.service.broker ∧ (∀ grant, .grant session grant ∈ service.history →
        .grant session grant ∈ before.service.history) ∨ .authorized session ∈ service.history :=
    fun broker history => .inl ⟨broker, history⟩
  cases moved with
  | idle => exact silent rfl fun _ found => found
  | connect other peer access answers service next known account fresh ran =>
      have steady := connect_steady ran
      exact silent steady.broker fun grant found => by
        rw [← steady.history]
        exact found
  | resume other awaited answers current service next known account found allowed ran =>
      rw [Label.session, Option.some.injEq] at own
      subst own
      have effect := resume_effect ran
      change service.broker = before.service.broker ∧ (∀ grant, .grant other grant ∈
        service.history → .grant other grant ∈ before.service.history) ∨
          .authorized other ∈ service.history
      generalize isPlace : current.place = place at effect
      cases effect with
      | quiet calm =>
          exact silent calm.broker fun grant there => by rwa [calm.history] at there
      | challenge identity challenge signed admitted identified opens =>
          refine silent opens.broker fun grant there => ?_
          rw [opens.history] at there
          cases signed <;> simpa using there
      | unsent deviceId opens =>
          refine silent opens.broker fun grant there => ?_
          rw [opens.history] at there
          simpa using there
      | await => exact silent rfl fun _ there => there
      | grant nonce signature entry recorded accepts issues unrecorded =>
          have calm := recordable current _ _ nonce signature entry found isPlace accepts
          cases recorded with
          | false =>
              rw [unrecorded rfl] at calm
              contradiction
          | true =>
              right
              rw [issues.history]
              simp
  | _ => simp [Label.session] at own

/-- The step is none of the session's, or it leaves the broker as it was. -/
def World.LeavesBroker (session : ℕ) (world : World platform) (label : Label) : Prop :=
  label.session = some session → (step world label).service.broker = world.service.broker

theorem run_closed {session : ℕ} {world : World platform} {labels : List Label}
    (recordable : Along step World.Recordable world labels)
    (unauthorised : .authorized session ∉ (run step world labels).service.history) :
    Along step (World.LeavesBroker session) world labels ∧
      ∀ grant, .grant session grant ∈ (run step world labels).service.history →
        .grant session grant ∈ world.service.history := by
  induction labels generalizing world with
  | nil => exact ⟨trivial, fun _ found => found⟩
  | cons label labels inductionHypothesis =>
      rcases inductionHypothesis recordable.2 unauthorised with ⟨along, grants⟩
      have moved := step_cases world label
      by_cases own : label.session = some session
      · rcases moved.closed recordable.1 own with ⟨broker, old⟩ | recorded
        · exact ⟨⟨fun _ => broker, along⟩, fun grant found => old grant (grants grant found)⟩
        · exact (unauthorised ((run_history _ labels).subset recorded)).elim
      · refine ⟨⟨fun same => (own same).elim, along⟩, fun grant found => ?_⟩
        rcases moved.grant_mem (grants grant found) with old | granting
        · exact old
        · exact (own granting.session_eq).elim

/-- A session that has not recorded `unlock_authorized` has issued no grant and has left the
broker alone in all its steps. -/
def FailsClosed (platform : Platform Key) (setup : Setup) (labels : List Label)
    (session : ℕ) : Prop :=
  .authorized session ∉ (World.after platform setup labels).service.history →
    (∀ grant, .grant session grant ∉ (World.after platform setup labels).service.history) ∧
      Along step (World.LeavesBroker session) (World.start platform setup) labels

/-- While every accepted response can be recorded, all sessions fail closed. -/
theorem failsClosed_of_recordable (platform : Platform Key) (setup : Setup)
    (labels : List Label)
    (recordable : Along step World.Recordable (World.start platform setup) labels)
    (session : ℕ) : FailsClosed platform setup labels session := by
  intro unauthorised
  rcases run_closed recordable unauthorised with ⟨along, grants⟩
  refine ⟨fun grant found => ?_, along⟩
  rcases setup.service_eq with ⟨threshold, base, maximum, ttl, _, same⟩
  have empty := grants grant found
  simp [World.start, same] at empty

/-- A session whose response is accepted. -/
def unlockLabels (session : ℕ) (answers : Answers) : List Label :=
  openSession session ++ [.resume session (.text sampleResponse) answers]

/-- The session that issues a grant. -/
def grantedTo : Event → Option ℕ
  | .grant session _ => some session
  | _ => none

/-- The session that records a success. -/
def recordedBy : Event → Option ℕ
  | .authorized session => some session
  | _ => none

theorem authorized_notMem {history : List Event} {session : ℕ}
    (silent : some session ∉ history.map recordedBy) : .authorized session ∉ history :=
  fun found => silent (List.mem_map_of_mem found)

/-- Behind an unlock a session sends no object in the place of its response. -/
def rejectedLabels : List Label :=
  unlockLabels 0 calmAnswers ++ openSession 1 ++ [.resume 1 (.text "[]".toList) calmAnswers]

theorem history_rejectedLabels :
    let history := (World.after samplePlatform sampleSetup rejectedLabels).service.history
    history.map grantedTo = [none, none, some 0, none, none, none] ∧
      history.map recordedBy = [none, none, none, some 0, none, none] := by
  decide +kernel

/-- The rejected session issues no grant and leaves the broker alone, the other's grant
included. -/
theorem failsClosed_rejectedLabels :
    (∀ grant, .grant 1 grant ∉
        (World.after samplePlatform sampleSetup rejectedLabels).service.history) ∧
      Along step (World.LeavesBroker 1) (World.start samplePlatform sampleSetup)
        rejectedLabels := by
  apply failsClosed_of_recordable samplePlatform sampleSetup rejectedLabels (Along.of_mem ?_ _) 1
  · apply authorized_notMem
    rw [history_rejectedLabels.2]
    decide
  · intro world label membership
    simp only [rejectedLabels, unlockLabels, openSession, List.cons_append, List.nil_append,
      List.mem_cons, List.not_mem_nil, or_false] at membership
    rcases membership with rfl | rfl | rfl | rfl | rfl | rfl | rfl | rfl
    all_goals first
      | trivial
      | exact fun _ _ _ _ _ _ _ _ _ => rfl

/-- A full disk. -/
def fullDisk : Answers :=
  { calmAnswers with disk := fun _ => (⟨some .osError, .ok none, none, none⟩, py "") }

theorem history_fullDisk :
    let history := (World.after samplePlatform sampleSetup
      (unlockLabels 0 fullDisk)).service.history
    history.map grantedTo = [none, none, some 0] ∧
      history.map recordedBy = [none, none, none] := by
  decide +kernel

theorem granted_mem {history : List Event} {session : ℕ}
    (shown : some session ∈ history.map grantedTo) :
    ∃ grant, .grant session grant ∈ history := by
  obtain ⟨event, found, same⟩ := List.mem_map.mp shown
  cases event with
  | grant other grant => exact ⟨grant, Option.some.inj same ▸ found⟩
  | _ => cases same

/-- On a full disk the grant is issued and not recorded. -/
theorem not_failsClosed_fullDisk :
    ¬ FailsClosed samplePlatform sampleSetup (unlockLabels 0 fullDisk) 0 := by
  intro closed
  have unauthorised : .authorized 0 ∉
      (World.after samplePlatform sampleSetup (unlockLabels 0 fullDisk)).service.history := by
    apply authorized_notMem
    rw [history_fullDisk.2]
    decide
  have issued : some 0 ∈ (World.after samplePlatform sampleSetup
      (unlockLabels 0 fullDisk)).service.history.map grantedTo := by
    rw [history_fullDisk.1]
    decide
  obtain ⟨grant, found⟩ := granted_mem issued
  exact (closed unauthorised).1 grant found

end RemoteUnlock.Listener
