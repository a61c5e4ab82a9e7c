import RemoteUnlock.Windows.Handler

/-!
# What a step of the Windows listener does

A connection gets to answer `True` only by an acceptance, and calls for the accepted action
when it has answered.  Everything else it does is calm: it neither accepts nor has an
effect (`step_cases`).
-/

namespace RemoteUnlock.Windows

open Python Python.Items Common Library

variable {Value : Type}

/-! ## Events -/

/-- The calls that have an effect: signalling a success and shutting down. -/
def Event.call : Event Value → Option (ℕ × Action)
  | .signalled connection true => some (connection, .unlock)
  | .shutdown connection => some (connection, .shutdown)
  | _ => none

/-- The effects: writing something else than the byte of a failure, and shutting down. -/
def Event.effect : Event Value → Option (ℕ × Action)
  | .wrote connection bytes => if bytes = [0] then none else some (connection, .unlock)
  | .shutdown connection => some (connection, .shutdown)
  | _ => none

def Event.acceptance : Event Value → Option (Acceptance Value)
  | .accepted acceptance => some acceptance
  | _ => none

def Event.issuing : Event Value → Option (PyStr × ℚ)
  | .issued challenge => some (challenge.nonce, challenge.timestamp)
  | _ => none

def calls (history : List (Event Value)) : List (ℕ × Action) := history.filterMap Event.call

def effects (history : List (Event Value)) : List (ℕ × Action) := history.filterMap Event.effect

def acceptances (history : List (Event Value)) : List (Acceptance Value) :=
  history.filterMap Event.acceptance

def issuings (history : List (Event Value)) : List (PyStr × ℚ) :=
  history.filterMap Event.issuing

/-- Events that neither issue nor accept nor have an effect. -/
structure Calm (events : List (Event Value)) : Prop where
  calls : calls events = []
  effects : effects events = []
  acceptances : acceptances events = []
  issuings : issuings events = []

theorem calm_nil : Calm ([] : List (Event Value)) := ⟨rfl, rfl, rfl, rfl⟩

theorem calm_alerted (kind : PyStr) : Calm [(.alerted kind : Event Value)] := ⟨rfl, rfl, rfl, rfl⟩

theorem Calm.append {first second : List (Event Value)} (calm : Calm first)
    (rest : Calm second) : Calm (first ++ second) where
  calls := by
    rw [Windows.calls, List.filterMap_append]
    exact List.append_eq_nil_iff.mpr ⟨calm.calls, rest.calls⟩
  effects := by
    rw [Windows.effects, List.filterMap_append]
    exact List.append_eq_nil_iff.mpr ⟨calm.effects, rest.effects⟩
  acceptances := by
    rw [Windows.acceptances, List.filterMap_append]
    exact List.append_eq_nil_iff.mpr ⟨calm.acceptances, rest.acceptances⟩
  issuings := by
    rw [Windows.issuings, List.filterMap_append]
    exact List.append_eq_nil_iff.mpr ⟨calm.issuings, rest.issuings⟩

/-- Events that act once: they call for the action, and have no other effect. -/
structure Acts (connection : ℕ) (action : Action) (events : List (Event Value)) : Prop where
  calls : calls events = [(connection, action)]
  effects : effects events = [] ∨ effects events = [(connection, action)]
  acceptances : acceptances events = []
  issuings : issuings events = []

theorem Acts.append {connection : ℕ} {action : Action} {first second : List (Event Value)}
    (acts : Acts connection action first) (calm : Calm second) :
    Acts connection action (first ++ second) where
  calls := by
    rw [Windows.calls, List.filterMap_append]
    exact (congrArg₂ _ acts.calls calm.calls).trans (List.append_nil _)
  effects := by
    have same : Windows.effects (first ++ second) = Windows.effects first := by
      rw [Windows.effects, List.filterMap_append]
      exact (congrArg _ calm.effects).trans (List.append_nil _)
    rw [same]
    exact acts.effects
  acceptances := by
    rw [Windows.acceptances, List.filterMap_append]
    exact List.append_eq_nil_iff.mpr ⟨acts.acceptances, calm.acceptances⟩
  issuings := by
    rw [Windows.issuings, List.filterMap_append]
    exact List.append_eq_nil_iff.mpr ⟨acts.issuings, calm.issuings⟩

variable {platform : Platform Value}

theorem calm_signal_failure (platform : Platform Value) (connection : ℕ) (pipe : Pipe) :
    Calm (signalCredentialProvider platform connection false pipe).1 := by
  cases pipe <;> exact ⟨rfl, rfl, rfl, rfl⟩

theorem signal_failure_returns (platform : Platform Value) (connection : ℕ) (pipe : Pipe) :
    (signalCredentialProvider platform connection false pipe).2 = none := by
  cases pipe <;> rfl

theorem acts_signal_success (platform : Platform Value) (connection : ℕ) (pipe : Pipe) :
    Acts connection .unlock (signalCredentialProvider platform connection true pipe).1 := by
  unfold signalCredentialProvider
  split
  · exact ⟨rfl, .inl rfl, rfl, rfl⟩
  · split
    · exact ⟨rfl, .inl rfl, rfl, rfl⟩
    next bytes made =>
      have isLong : bytes ≠ [0] := by
        rintro rfl
        unfold payload at made
        cases encoded : encodeStr platform.password <;> simp [encoded, Except.map] at made
      split
      · refine ⟨rfl, .inr ?_, rfl, rfl⟩
        have wrote : Event.effect (.wrote connection bytes : Event Value) =
            some (connection, .unlock) := if_neg isLong
        rw [effects, List.filterMap_cons_none rfl, List.filterMap_cons_some wrote]
        rfl
      · exact ⟨rfl, .inl rfl, rfl, rfl⟩

theorem calm_handle (platform : Platform Value) (connection : ℕ) (exc : PyExc) (pipe : Pipe) :
    Calm (handle platform connection exc pipe) := by
  unfold handle
  split
  · exact calm_signal_failure _ _ _
  · exact calm_signal_failure _ _ _
  · exact calm_signal_failure _ _ _
  · exact calm_nil

theorem calm_conclude (platform : Platform Value) (connection : ℕ) (action : Action)
    (pipe again : Pipe) : Calm (conclude platform connection false action pipe again) := by
  cases action with
  | unlock =>
      simp only [conclude, signal_failure_returns]
      exact (calm_signal_failure _ _ _).append (calm_alerted _)
  | shutdown => exact calm_alerted _

theorem acts_conclude (platform : Platform Value) (connection : ℕ) (action : Action)
    (pipe again : Pipe) :
    Acts connection action (conclude platform connection true action pipe again) := by
  cases action with
  | unlock =>
      simp only [conclude]
      split
      · exact (acts_signal_success _ _ _).append (calm_handle _ _ _ _)
      · exact (acts_signal_success _ _ _).append (calm_alerted _)
  | shutdown => exact ⟨rfl, .inr rfl, rfl, rfl⟩

/-! ## Steps -/

/-- The step leaves everything else than one connection, the service and the history. -/
structure Moves (before after : World Value) (connection : ℕ) (place : Place)
    (events : List (Event Value)) : Prop where
  now : after.now = before.now
  arrived : after.arrived = before.arrived
  place : after.place = Function.update before.place connection place
  history : after.history = before.history ++ events

/-- The handler has begun and neither accepted a command nor ended. -/
def Place.Undecided : Place → Prop
  | .greeting | .awaiting | .refusing _ | .answering false _ => True
  | .absent | .answering true _ | .done => False

/-- No nonce becomes pending. -/
def NonePending (before after : UnlockService) : Prop :=
  ∀ key issued, after.pendingNonces.get key = some issued →
    before.pendingNonces.get key = some issued

/-- What a step does. -/
inductive StepCase (platform : Platform Value) (before : World Value) (label : Label)
    (after : World Value) : Prop where
  | passes (seconds : ℚ≥0) (same : after = { before with now := before.now + seconds })
  | comes (nonce : PyStr) (challenge : Challenge)
      (issued : challenge.nonce = nonce ∧ challenge.timestamp = before.now)
      (service : after.service = (before.service.issueChallenge platform before.now nonce).2)
      (now : after.now = before.now) (arrived : after.arrived = before.arrived + 1)
      (place : after.place = Function.update before.place before.arrived .greeting)
      (history : after.history = before.history ++ [.issued challenge])
  | turns (connection : ℕ) (place : Place) (events : List (Event Value)) (calm : Calm events)
      (was : (before.place connection).Undecided)
      (will : ∀ action, place ≠ .answering true action)
      (used : after.service.usedNonces = before.service.usedNonces)
      (pending : NonePending before.service after.service)
      (moves : Moves before after connection place events)
  | accepts (acceptance : Acceptance Value) (name : PyStr) (issueTime : ℚ)
      (was : before.place acceptance.connection = .awaiting)
      (time : acceptance.time = before.now)
      (approval : before.service.Approval platform before.now acceptance.nonce
        acceptance.timestamp acceptance.signature acceptance.action name issueTime)
      (enabled : acceptance.action = .shutdown → platform.shutdownEnabled = true)
      (used : after.service.usedNonces = name :: before.service.usedNonces)
      (pending : NonePending before.service after.service)
      (moves : Moves before after acceptance.connection (.answering true acceptance.action)
        [.accepted acceptance])
  | acts (connection : ℕ) (action : Action) (events : List (Event Value))
      (was : before.place connection = .answering true action)
      (acts : Acts connection action events) (service : after.service = before.service)
      (moves : Moves before after connection .done events)
  | loses (connection : ℕ) (action : Action) (events : List (Event Value)) (calm : Calm events)
      (sent : ∃ exc pipe again, label = .sent connection (some exc) pipe again)
      (was : before.place connection = .answering true action)
      (service : after.service = before.service)
      (moves : Moves before after connection .done events)

/-- A challenge of a random nonce is always made. -/
theorem issueChallenge_returns (platform : Platform Value) (service : UnlockService) (now : ℚ)
    (random : Bytes) :
    ∃ challenge, (service.issueChallenge platform now (hex random)).1 = .ok challenge ∧
      challenge.nonce = hex random ∧ challenge.timestamp = now := by
  obtain ⟨message, made⟩ : ∃ message,
      signedText (py "challenge") (hex random) (platform.clockText now) = .ok message :=
    ⟨_, signedText_ofText "challenge".toList (random.flatMap Audit.hexByte) _⟩
  refine ⟨⟨hex random, now, hex (platform.sign message)⟩, ?_, rfl, rfl⟩
  simp only [UnlockService.issueChallenge]
  rw [made]
  rfl

theorem readRequest_enabled {message : Json} {nonce : Json} {timestamp : Value}
    {signature : Json} {action : Action}
    (read : readRequest platform message = .ok (.command nonce timestamp signature action)) :
    action = .shutdown → platform.shutdownEnabled = true := by
  unfold readRequest at read
  split at read
  next members =>
    split at read
    · simp at read
    · split at read
      · simp at read
      next known =>
        split at read
        · simp at read
        next enabled =>
          cases first : item (py "nonce") members with
          | error exc => simp [first, bind, Except.bind] at read
          | ok nonce =>
              cases second : item (py "timestamp") members with
              | error exc => simp [first, second, bind, Except.bind] at read
              | ok value =>
                  cases converted : platform.float value with
                  | error exc => simp [first, second, converted, bind, Except.bind] at read
                  | ok timestamp =>
                      cases third : item (py "signature") members with
                      | error exc =>
                          simp [first, second, converted, third, bind, Except.bind] at read
                      | ok signature =>
                          simp only [first, second, converted, third, bind, Except.bind,
                            Except.ok.injEq, Request.command.injEq] at read
                          obtain ⟨_, _, _, rfl⟩ := read
                          intro isShutdown
                          by_contra disabled
                          exact enabled ⟨isShutdown, Bool.eq_false_of_not_eq_true disabled⟩
  · simp at read

theorem Action.ofJson_text (action : Action) : Action.ofJson (.str action.text) = some action := by
  cases action with
  | unlock => rfl
  | shutdown => decide

theorem nonePending_refl (service : UnlockService) : NonePending service service :=
  fun _ _ found => found

/-- Every step is one of these. -/
theorem step_cases (platform : Platform Value) (world : World Value) (label : Label) :
    world.step platform label = world ∨
      StepCase platform world label (world.step platform label) := by
  have turn (connection : ℕ) (place : Place) (events : List (Event Value)) (calm : Calm events)
      (was : (world.place connection).Undecided)
      (will : ∀ action, place ≠ .answering true action) :
      StepCase platform world label (world.move connection place events) :=
    .turns connection place events calm was will rfl (nonePending_refl _)
      ⟨rfl, rfl, rfl, rfl⟩
  cases label with
  | pass seconds => exact .inr (.passes seconds rfl)
  | connect random pipe =>
      obtain ⟨challenge, made, named, timed⟩ :=
        issueChallenge_returns platform world.service world.now random
      right
      simp only [World.step, made]
      exact .comes (hex random) challenge ⟨named, timed⟩ rfl rfl rfl rfl rfl
  | greeted connection failure pipe =>
      simp only [World.step]
      split
      next here =>
        exact .inr (turn _ _ _ calm_nil (by simp [here, Place.Undecided]) (by simp))
      next exc here =>
        exact .inr (turn _ _ _ (calm_handle _ _ _ _) (by simp [here, Place.Undecided]) (by simp))
      · exact .inl rfl
  | received connection message pipe =>
      simp only [World.step]
      split
      next here =>
        right
        split
        next exc _ =>
          exact turn _ _ _ (calm_handle _ _ _ _) (by simp [here, Place.Undecided]) (by simp)
        next alerts _ => exact turn _ _ _ calm_nil (by simp [here, Place.Undecided]) (by simp)
        next nonce timestamp signature action read =>
          have enabled : action = .shutdown → platform.shutdownEnabled = true := by
            cases message with
            | error exc => simp [Except.bind] at read
            | ok value => exact readRequest_enabled read
          have verified : world.service.verify platform world.now nonce timestamp signature
              (.str action.text) = world.service.verifyAction platform world.now nonce timestamp
                signature action := by
            rw [UnlockService.verify, Action.ofJson_text]
          rw [verified]
          obtain ⟨pending, ⟨refused, used⟩ | ⟨agreed, name, issueTime, approval, used⟩⟩ :=
            world.service.verifyAction_cases platform world.now nonce timestamp signature action
          · rw [refused]
            exact .turns connection (.answering false action) [] calm_nil 
              (by simp [here, Place.Undecided]) (by simp) used pending ⟨rfl, rfl, rfl, rfl⟩
          · rw [agreed]
            exact .accepts ⟨connection, action, nonce, timestamp, signature, world.now⟩ name
              issueTime here rfl approval enabled used pending ⟨rfl, rfl, rfl, rfl⟩
      · exact .inl rfl
  | sent connection failure pipe again =>
      simp only [World.step]
      split
      next alerts here =>
        refine .inr (turn _ _ _ ?_ (by simp [here, Place.Undecided]) (by simp))
        split
        · exact calm_alerted _
        · exact calm_nil
      next ok action here =>
        right
        cases ok with
        | true =>
            exact .acts connection action _ here (acts_conclude _ _ _ _ _) rfl
              ⟨rfl, rfl, rfl, rfl⟩
        | false =>
            exact turn _ _ _ (calm_conclude _ _ _ _ _) (by simp [here, Place.Undecided]) (by simp)
      next alerts exc here =>
        exact .inr (turn _ _ _ (calm_handle _ _ _ _) (by simp [here, Place.Undecided]) (by simp))
      next ok action exc here =>
        right
        cases ok with
        | true =>
            exact .loses connection action _ (calm_handle _ _ _ _) ⟨exc, pipe, again, rfl⟩ here rfl
              ⟨rfl, rfl, rfl, rfl⟩
        | false =>
            exact turn _ _ _ (calm_handle _ _ _ _) (by simp [here, Place.Undecided]) (by simp)
      · exact .inl rfl

end RemoteUnlock.Windows
