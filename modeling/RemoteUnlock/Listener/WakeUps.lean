import Mathlib.Algebra.Order.Nonneg.Field
import Mathlib.Data.List.Nodup
import RemoteUnlock.Library.Runs
import RemoteUnlock.Listener.Broker

/-!
# No wake-up is lost

Any number of `consume` calls meet any number of `issue` calls.  Each waiter clears the
shared event before it sleeps, and it does so only where no grant is alive; so while one
is alive the event is set and everybody who waits has been woken (`Lobby.Sound`).  Who
is woken and finds the grant gone waits on, and the next `issue` wakes him again.
-/

namespace RemoteUnlock.Listener

open Library

/-- A broker with its `consume` calls: how many have come, until when each of them waits,
when it was woken and what it returned. -/
structure Lobby where
  now : ℚ≥0
  broker : GrantBroker
  arrived : ℕ
  deadline : ℕ → ℚ
  wokenAt : ℕ → ℚ≥0
  returned : List (ℕ × Bool)

/-- What can happen next. -/
inductive Move where
  | issue
  | consume (timeout : ℚ)
  /-- A woken request runs on. -/
  | resume (request : ℕ)
  /-- `wait_for` gives up for a request that no event reached in time. -/
  | timeOut (request : ℕ)
  | pass (seconds : ℚ≥0)
  deriving DecidableEq

namespace Lobby

def start (ttl : ℚ) : Lobby := ⟨0, .new ttl, 0, fun _ => 0, fun _ => 0, []⟩

def waiters (lobby : Lobby) : List (ℕ × Bool) := lobby.broker.event.waiters

/-- A grant that has not run out. -/
def Live (lobby : Lobby) : Prop := (lobby.now : ℚ) < lobby.broker.expires

instance (lobby : Lobby) : Decidable lobby.Live := inferInstanceAs (Decidable (_ < _))

/-- A round of the loop in `consume` has ended so. -/
def settle (lobby : Lobby) (request : ℕ) (round : Turn × GrantBroker) : Lobby :=
  match round.1 with
  | .taken =>
      { lobby with broker := round.2, returned := lobby.returned ++ [(request, true)] }
  | .refused =>
      { lobby with broker := round.2, returned := lobby.returned ++ [(request, false)] }
  | .waits => { lobby with broker := round.2 }

/-- A round of the loop by a request that does not wait. -/
def round (lobby : Lobby) (request : ℕ) : Lobby :=
  lobby.settle request (lobby.broker.turn lobby.now (some (lobby.deadline request)) request)

def leave (lobby : Lobby) (request : ℕ) : Lobby :=
  { lobby with broker := lobby.broker.leave request }

/-- The wait of the request is over, and no event came before that. -/
def TimedOut (lobby : Lobby) (request : ℕ) : Prop :=
  ((request, false) ∈ lobby.waiters ∧ lobby.deadline request ≤ lobby.now) ∨
    ((request, true) ∈ lobby.waiters ∧ lobby.deadline request ≤ lobby.wokenAt request)

instance (lobby : Lobby) (request : ℕ) : Decidable (lobby.TimedOut request) :=
  inferInstanceAs (Decidable (_ ∨ _))

def step (lobby : Lobby) : Move → Lobby
  | .issue =>
      { lobby with
        broker := lobby.broker.issue lobby.now
        wokenAt := fun request =>
          if lobby.broker.event.asleep request then lobby.now else lobby.wokenAt request }
  | .consume timeout =>
      { lobby with
        arrived := lobby.arrived + 1
        deadline := Function.update lobby.deadline lobby.arrived (lobby.now + timeout)
        }.round lobby.arrived
  | .resume request =>
      if lobby.broker.event.woken request then (lobby.leave request).round request else lobby
  | .timeOut request =>
      if lobby.TimedOut request then
        { lobby.leave request with returned := lobby.returned ++ [(request, false)] }
      else lobby
  | .pass seconds => { lobby with now := lobby.now + seconds }

/-- How many calls returned `True`. -/
def consumed (lobby : Lobby) : ℕ := lobby.returned.countP fun result => result.2

/-! ## One round -/

/-- What one round of the loop comes to. -/
theorem round_cases (lobby : Lobby) (request : ℕ) :
    (lobby.Live ∧ lobby.round request =
        { lobby with
          broker := { lobby.broker with expires := 0, event := lobby.broker.event.clear }
          returned := lobby.returned ++ [(request, true)] }) ∨
      (¬lobby.Live ∧ lobby.deadline request ≤ lobby.now ∧ lobby.round request =
        { lobby with returned := lobby.returned ++ [(request, false)] }) ∨
      (¬lobby.Live ∧ (lobby.now : ℚ) < lobby.deadline request ∧ lobby.round request =
        { lobby with broker :=
          { lobby.broker with event := lobby.broker.event.clear.wait request } }) := by
  unfold round GrantBroker.turn
  by_cases live : (lobby.now : ℚ) < lobby.broker.expires
  · rw [if_pos live]
    exact .inl ⟨live, rfl⟩
  · rw [if_neg live]
    by_cases late : lobby.deadline request - lobby.now ≤ 0
    · rw [if_pos ⟨_, rfl, late⟩]
      exact .inr (.inl ⟨live, sub_nonpos.mp late, rfl⟩)
    · rw [if_neg (by simpa using late)]
      exact .inr (.inr ⟨live, sub_pos.mp (not_le.mp late), rfl⟩)

/-! ## The invariant -/

/-- While a grant is alive the event is set and everybody who waits has been woken. -/
structure Sound (lobby : Lobby) : Prop where
  signalled : lobby.Live → lobby.broker.event.isSet = true ∧
    ∀ waiter ∈ lobby.waiters, waiter.2 = true
  distinct : (lobby.waiters.map Prod.fst).Nodup
  known : ∀ waiter ∈ lobby.waiters, waiter.1 < lobby.arrived

theorem sound_start (ttl : ℚ) : (start ttl).Sound where
  signalled live := (lt_irrefl _ live).elim
  distinct := List.nodup_nil
  known _ membership := absurd membership List.not_mem_nil

theorem mem_leave {lobby : Lobby} {request : ℕ} {waiter : ℕ × Bool} :
    waiter ∈ (lobby.leave request).waiters ↔ waiter ∈ lobby.waiters ∧ waiter.1 ≠ request := by
  simp [leave, waiters, GrantBroker.leave, AsyncEvent.leave]

theorem Sound.leave {lobby : Lobby} (sound : lobby.Sound) (request : ℕ) :
    (lobby.leave request).Sound where
  signalled live := ⟨(sound.signalled live).1, fun waiter membership =>
    (sound.signalled live).2 waiter (mem_leave.mp membership).1⟩
  distinct := (List.filter_sublist.map Prod.fst).nodup sound.distinct
  known waiter membership := sound.known waiter (mem_leave.mp membership).1

/-- A round by a request that does not wait keeps the invariant. -/
theorem Sound.round {lobby : Lobby} (sound : lobby.Sound) {request : ℕ}
    (fresh : ∀ waiter ∈ lobby.waiters, waiter.1 ≠ request) (known : request < lobby.arrived) :
    (lobby.round request).Sound := by
  obtain ⟨_, same⟩ | ⟨dead, _, same⟩ | ⟨dead, _, same⟩ := lobby.round_cases request
  · rw [same]
    exact ⟨fun live => absurd live (not_lt.mpr lobby.now.2), sound.distinct, sound.known⟩
  · rw [same]
    exact ⟨sound.signalled, sound.distinct, sound.known⟩
  · rw [same]
    refine ⟨fun live => absurd live dead, ?_, ?_⟩
    · change ((lobby.waiters ++ [(request, false)]).map Prod.fst).Nodup
      rw [List.map_append, List.nodup_append]
      refine ⟨sound.distinct, by simp, ?_⟩
      rintro first inFirst second inSecond rfl
      obtain ⟨waiter, membership, rfl⟩ := List.mem_map.mp inFirst
      exact fresh waiter membership (by simpa using inSecond)
    · change ∀ waiter ∈ lobby.waiters ++ [(request, false)], _
      rw [List.forall_mem_append, List.forall_mem_singleton]
      exact ⟨sound.known, known⟩

theorem Sound.step {lobby : Lobby} (sound : lobby.Sound) (move : Move) :
    (lobby.step move).Sound := by
  cases move with
  | issue =>
      refine ⟨fun _ => ⟨rfl, ?_⟩, ?_, ?_⟩
      · change ∀ waiter ∈ lobby.waiters.map fun waiter => (waiter.1, true), _
        simp
      · change ((lobby.waiters.map fun waiter => (waiter.1, true)).map Prod.fst).Nodup
        rw [List.map_map]
        exact sound.distinct
      · change ∀ waiter ∈ lobby.waiters.map fun waiter => (waiter.1, true), _
        rw [List.forall_mem_map]
        exact sound.known
  | consume timeout =>
      apply Sound.round
      · exact ⟨sound.signalled, sound.distinct, fun waiter membership =>
          Nat.lt_succ_of_lt (sound.known waiter membership)⟩
      · exact fun waiter membership => (sound.known waiter membership).ne
      · exact Nat.lt_succ_self _
  | resume request =>
      simp only [Lobby.step]
      split
      next woken =>
        exact (sound.leave request).round (fun waiter membership => (mem_leave.mp membership).2)
          (sound.known _ (AsyncEvent.woken_iff.mp woken) : request < lobby.arrived)
      · exact sound
  | timeOut request =>
      simp only [Lobby.step]
      split
      · have left := sound.leave request
        exact ⟨left.signalled, left.distinct, left.known⟩
      · exact sound
  | pass seconds =>
      refine ⟨fun live => sound.signalled ?_, sound.distinct, sound.known⟩
      have later : (lobby.now : ℚ) ≤ ((lobby.now + seconds : ℚ≥0) : ℚ) := by
        rw [NNRat.coe_add]
        exact le_add_of_nonneg_right seconds.2
      exact later.trans_lt live

theorem sound_run (ttl : ℚ) (moves : List Move) : (run step (start ttl) moves).Sound :=
  run_invariant (fun _ move sound => sound.step move) (sound_start ttl) moves

/-! ## At most one grant is taken -/

/-- No grant is taken, no event set and none brought back; or one is taken, which clears
the event. -/
def Spends (before after : Lobby) : Prop :=
  (after.consumed = before.consumed ∧ (after.Live → before.Live) ∧
      (after.broker.event.isSet = true → before.broker.event.isSet = true)) ∨
    (after.consumed = before.consumed + 1 ∧ before.Live ∧ ¬after.Live ∧
      after.broker.event.isSet = false)

theorem Spends.refl (lobby : Lobby) : lobby.Spends lobby := .inl ⟨rfl, id, id⟩

theorem Spends.trans {first second third : Lobby} (start : first.Spends second)
    (rest : second.Spends third) : first.Spends third := by
  obtain ⟨same, live, isSet⟩ | ⟨more, live, gone, cleared⟩ := start
  · obtain ⟨sameLater, liveLater, isSetLater⟩ | ⟨moreLater, liveLater, others⟩ := rest
    · exact .inl ⟨sameLater.trans same, live ∘ liveLater, isSet ∘ isSetLater⟩
    · exact .inr ⟨by rw [moreLater, same], live liveLater, others⟩
  · obtain ⟨sameLater, liveLater, isSetLater⟩ | ⟨_, liveLater, _⟩ := rest
    · refine .inr ⟨sameLater.trans more, live, gone ∘ liveLater, ?_⟩
      apply Bool.eq_false_of_not_eq_true
      intro isSet
      rw [isSetLater isSet] at cleared
      contradiction
    · exact absurd liveLater gone

theorem round_spends (lobby : Lobby) (request : ℕ) : lobby.Spends (lobby.round request) := by
  obtain ⟨live, same⟩ | ⟨_, _, same⟩ | ⟨dead, _, same⟩ := lobby.round_cases request
  · rw [same]
    exact .inr ⟨by simp [consumed, List.countP_append], live, not_lt.mpr lobby.now.2, rfl⟩
  · rw [same]
    exact .inl ⟨by simp [consumed, List.countP_append], id, id⟩
  · rw [same]
    exact .inl ⟨rfl, id, by simp [AsyncEvent.clear, AsyncEvent.wait]⟩

theorem step_spends (lobby : Lobby) {move : Move} (other : move ≠ .issue) :
    lobby.Spends (lobby.step move) := by
  cases move with
  | issue => exact absurd rfl other
  | consume timeout =>
      exact round_spends { lobby with
        arrived := lobby.arrived + 1
        deadline := Function.update lobby.deadline lobby.arrived (lobby.now + timeout) } _
  | resume request =>
      simp only [step]
      split
      · exact round_spends (lobby.leave request) request
      · exact .refl lobby
  | timeOut request =>
      simp only [step]
      split
      · exact .inl ⟨by simp [consumed, List.countP_append], id, id⟩
      · exact .refl lobby
  | pass seconds =>
      refine .inl ⟨rfl, fun live => ?_, id⟩
      have later : (lobby.now : ℚ) ≤ ((lobby.now + seconds : ℚ≥0) : ℚ) := by
        rw [NNRat.coe_add]
        exact le_add_of_nonneg_right seconds.2
      exact later.trans_lt live

/-- Until the next `issue` at most one call takes a grant, and then the event is clear. -/
theorem run_spends {lobby : Lobby} {moves : List Move} (others : Move.issue ∉ moves) :
    lobby.Spends (run step lobby moves) := by
  induction moves generalizing lobby with
  | nil => exact .refl lobby
  | cons move moves inductionHypothesis =>
      rw [List.mem_cons, not_or] at others
      exact (step_spends lobby (Ne.symm others.1)).trans (inductionHypothesis others.2)

/-! ## The others wait on -/

/-- The request has found no grant: it waits on for what is left of its time, or returns
`False` where nothing is left.  The grant and the waits of the others stay as they are, and
the event is left as it is or cleared. -/
structure Passes (request : ℕ) (before after : Lobby) : Prop where
  ttl : after.broker.ttl = before.broker.ttl
  expires : after.broker.expires = before.broker.expires
  others : ∀ waiter, waiter.1 ≠ request → (waiter ∈ after.waiters ↔ waiter ∈ before.waiters)
  waits : (before.now : ℚ) < before.deadline request →
    (request, false) ∈ after.waiters ∧ after.deadline = before.deadline ∧
      after.returned = before.returned ∧ after.broker.event.isSet = false
  refused : before.deadline request ≤ before.now →
    after.returned = before.returned ++ [(request, false)] ∧
      after.broker.event.isSet = before.broker.event.isSet

theorem resume_passes {lobby : Lobby} {request : ℕ} (woken : (request, true) ∈ lobby.waiters)
    (dead : ¬lobby.Live) : Passes request lobby (lobby.step (.resume request)) := by
  simp only [step]
  rw [if_pos (AsyncEvent.woken_iff.mpr woken)]
  obtain ⟨live, _⟩ | ⟨_, late, same⟩ | ⟨_, early, same⟩ :=
    (lobby.leave request).round_cases request
  · exact absurd live dead
  · rw [same]
    refine ⟨rfl, rfl, fun waiter other => ?_, fun early => absurd late early.not_ge,
      fun _ => ⟨rfl, rfl⟩⟩
    exact mem_leave.trans (and_iff_left other)
  · rw [same]
    refine ⟨rfl, rfl, fun waiter other => ?_, fun _ => ⟨?_, rfl, rfl, rfl⟩,
      fun late => absurd late early.not_ge⟩
    · change waiter ∈ (lobby.leave request).waiters ++ [(request, false)] ↔ _
      have different : waiter ≠ (request, false) := fun isOwn => other (by rw [isOwn])
      rw [List.mem_append, List.mem_singleton, or_iff_left different, mem_leave,
        and_iff_left other]
    · exact List.mem_append_right _ (List.mem_singleton_self _)

theorem resume_takes {lobby : Lobby} {request : ℕ} (woken : (request, true) ∈ lobby.waiters)
    (live : lobby.Live) :
    (lobby.step (.resume request)).returned = lobby.returned ++ [(request, true)] := by
  simp only [step]
  rw [if_pos (AsyncEvent.woken_iff.mpr woken)]
  obtain ⟨_, same⟩ | ⟨dead, _⟩ | ⟨dead, _⟩ := (lobby.leave request).round_cases request
  · rw [same]
    rfl
  · exact absurd live dead
  · exact absurd live dead

/-! ## A wake-up that came in time stays -/

/-- The request has been woken in time and has yet to run on. -/
structure Woken (lobby : Lobby) (request : ℕ) : Prop where
  waiting : (request, true) ∈ lobby.waiters
  inTime : (lobby.wokenAt request : ℚ) < lobby.deadline request

theorem round_woken {lobby : Lobby} {request other : ℕ} (woken : lobby.Woken request) :
    (lobby.round other).Woken request := by
  obtain ⟨_, same⟩ | ⟨_, _, same⟩ | ⟨_, _, same⟩ := lobby.round_cases other
  · rw [same]
    exact ⟨woken.waiting, woken.inTime⟩
  · rw [same]
    exact ⟨woken.waiting, woken.inTime⟩
  · rw [same]
    exact ⟨List.mem_append_left _ woken.waiting, woken.inTime⟩

theorem leave_woken {lobby : Lobby} {request other : ℕ} (woken : lobby.Woken request)
    (different : request ≠ other) : (lobby.leave other).Woken request :=
  ⟨mem_leave.mpr ⟨woken.waiting, different⟩, woken.inTime⟩

theorem Sound.not_waiting {lobby : Lobby} (sound : lobby.Sound) {request : ℕ}
    (woken : (request, true) ∈ lobby.waiters) : (request, false) ∉ lobby.waiters := by
  intro unwoken
  have same := List.inj_on_of_nodup_map sound.distinct woken unwoken rfl
  simp at same

theorem step_woken {lobby : Lobby} (sound : lobby.Sound) {request : ℕ}
    (woken : lobby.Woken request) {move : Move} (other : move ≠ .resume request) :
    (lobby.step move).Woken request := by
  have unwoken := sound.not_waiting woken.waiting
  cases move with
  | issue =>
      refine ⟨List.mem_map.mpr ⟨_, woken.waiting, rfl⟩, ?_⟩
      simp only [step]
      rw [if_neg (mt AsyncEvent.asleep_iff.mp unwoken)]
      exact woken.inTime
  | consume timeout =>
      apply round_woken
      refine ⟨woken.waiting, ?_⟩
      have known := (sound.known _ woken.waiting).ne
      change _ < Function.update lobby.deadline lobby.arrived _ request
      rw [Function.update_of_ne known]
      exact woken.inTime
  | resume next =>
      simp only [step]
      split
      · exact round_woken (leave_woken woken fun same => other (by rw [same]))
      · exact woken
  | timeOut next =>
      simp only [step]
      split
      next timedOut =>
        have different : request ≠ next := by
          rintro rfl
          rcases timedOut with ⟨waits, _⟩ | ⟨_, late⟩
          · exact unwoken waits
          · exact late.not_gt woken.inTime
        have left := leave_woken woken different
        exact ⟨left.waiting, left.inTime⟩
      · exact woken
  | pass seconds => exact ⟨woken.waiting, woken.inTime⟩

theorem run_woken {lobby : Lobby} (sound : lobby.Sound) {request : ℕ}
    (woken : lobby.Woken request) {moves : List Move} (others : Move.resume request ∉ moves) :
    (run step lobby moves).Woken request := by
  induction moves generalizing lobby with
  | nil => exact woken
  | cons move moves inductionHypothesis =>
      rw [List.mem_cons, not_or] at others
      exact inductionHypothesis (sound.step move) (step_woken sound woken (Ne.symm others.1))
        others.2

theorem issue_wakes {lobby : Lobby} {request : ℕ} (waits : (request, false) ∈ lobby.waiters)
    (early : (lobby.now : ℚ) < lobby.deadline request) :
    (lobby.step .issue).Woken request := by
  refine ⟨List.mem_map.mpr ⟨_, waits, rfl⟩, ?_⟩
  simp only [step]
  rw [if_pos (AsyncEvent.asleep_iff.mpr waits)]
  exact early

theorem ttl_round (lobby : Lobby) (request : ℕ) :
    (lobby.round request).broker.ttl = lobby.broker.ttl := by
  obtain ⟨_, same⟩ | ⟨_, _, same⟩ | ⟨_, _, same⟩ := lobby.round_cases request <;> rw [same]

theorem ttl_step (lobby : Lobby) (move : Move) :
    (lobby.step move).broker.ttl = lobby.broker.ttl := by
  cases move with
  | issue => rfl
  | consume timeout => exact ttl_round _ _
  | resume request =>
      simp only [step]
      split
      · exact ttl_round _ _
      · rfl
  | timeOut request =>
      simp only [step]
      split <;> rfl
  | pass seconds => rfl

theorem ttl_run (ttl : ℚ) (moves : List Move) : (run step (start ttl) moves).broker.ttl = ttl := by
  have keeps : ∀ (lobby : Lobby) (move : Move), lobby.broker.ttl = ttl →
      (step lobby move).broker.ttl = ttl := fun lobby move same => (ttl_step lobby move).trans same
  exact run_invariant keeps rfl moves

/-- The broker loses no wake-up.  Where a grant is alive the event is set and every waiter
has been woken; after an `issue` and until the next at most one call takes the grant, which
leaves the event clear; a woken waiter takes the grant if it is alive and otherwise waits
on, sparing what the others wait for; and the next `issue` in its time wakes it again, for
as long as it has not run on. -/
theorem no_wake_up_lost {ttl : ℚ} (positive : 0 < ttl) (moves : List Move) :
    let lobby := run step (start ttl) moves
    (lobby.Live → lobby.broker.event.isSet = true ∧ ∀ waiter ∈ lobby.waiters, waiter.2 = true) ∧
      (∀ later, Move.issue ∉ later → (lobby.step .issue).Spends
        (run step (lobby.step .issue) later)) ∧
      (∀ request, (request, true) ∈ lobby.waiters →
        (lobby.Live → (lobby.step (.resume request)).returned =
          lobby.returned ++ [(request, true)]) ∧
        (¬lobby.Live → Passes request lobby (lobby.step (.resume request)))) ∧
      ∀ request, (request, false) ∈ lobby.waiters → (lobby.now : ℚ) < lobby.deadline request →
        (lobby.step .issue).Live ∧ ∀ later, Move.resume request ∉ later →
          (run step (lobby.step .issue) later).Woken request := by
  intro lobby
  have sound : lobby.Sound := sound_run ttl moves
  refine ⟨sound.signalled, fun later others => run_spends others, fun request woken =>
    ⟨resume_takes woken, resume_passes woken⟩, fun request waits early => ⟨?_, fun later others =>
      run_woken (sound.step .issue) (issue_wakes waits early) others⟩⟩
  change (lobby.now : ℚ) < lobby.now + lobby.broker.ttl
  rw [ttl_run]
  exact lt_add_of_pos_right _ positive

/-- Two calls wait when a grant of one second is issued and nobody runs on for two. -/
def ranOut : List Move := [.consume 10, .consume 10, .issue, .pass 2]

theorem no_wake_up_lost_ranOut :
    Passes 0 (run step (start 1) ranOut) (run step (start 1) (ranOut ++ [.resume 0])) := by
  rw [run_append]
  exact ((no_wake_up_lost one_pos ranOut).2.2.1 0 (by decide +kernel)).2 (by decide +kernel)

/-- A woken waiter may still change the broker: it clears the event of a grant that ran
out. -/
theorem not_broker_unchanged :
    ¬∀ (ttl : ℚ), 0 < ttl → ∀ (moves : List Move) (request : ℕ),
      let lobby := run step (start ttl) moves
      (request, true) ∈ lobby.waiters → ¬lobby.Live →
        (lobby.step (.resume request)).broker.expires = lobby.broker.expires ∧
          (lobby.step (.resume request)).broker.event.isSet = lobby.broker.event.isSet := by
  intro claimed
  have unchanged := (claimed 1 one_pos ranOut 0 (by decide +kernel) (by decide +kernel)).2
  revert unchanged
  decide +kernel

end Lobby

end RemoteUnlock.Listener
