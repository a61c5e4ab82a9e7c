import Mathlib.Algebra.Order.Field.Rat

/-!
# The grant broker

A verified unlock leaves a grant that one PAM request may take before it expires.
Requests that find none wait on an event.  `turn` is one round of the loop in
`consume`: it takes the grant, gives up, or waits; unless it takes the grant it
leaves it as it was, also to the requests that wait (`GrantBroker.Spares`).
-/

namespace RemoteUnlock.Listener

/-! ## The event -/

/-- `asyncio.Event`, with the requests that wait on it; those it has woken have yet to
run on. -/
structure AsyncEvent where
  isSet : Bool
  waiters : List (ℕ × Bool)
  deriving DecidableEq

namespace AsyncEvent

def set (event : AsyncEvent) : AsyncEvent :=
  ⟨true, event.waiters.map fun waiter => (waiter.1, true)⟩

def clear (event : AsyncEvent) : AsyncEvent := { event with isSet := false }

def wait (event : AsyncEvent) (request : ℕ) : AsyncEvent :=
  { event with waiters := event.waiters ++ [(request, false)] }

/-- The wait of a request ends. -/
def leave (event : AsyncEvent) (request : ℕ) : AsyncEvent :=
  { event with waiters := event.waiters.filter fun waiter => waiter.1 ≠ request }

def woken (event : AsyncEvent) (request : ℕ) : Bool := (request, true) ∈ event.waiters

def asleep (event : AsyncEvent) (request : ℕ) : Bool := (request, false) ∈ event.waiters

theorem woken_iff {event : AsyncEvent} {request : ℕ} :
    event.woken request = true ↔ (request, true) ∈ event.waiters := decide_eq_true_iff

theorem asleep_iff {event : AsyncEvent} {request : ℕ} :
    event.asleep request = true ↔ (request, false) ∈ event.waiters := decide_eq_true_iff

end AsyncEvent

/-! ## The broker -/

structure GrantBroker where
  ttl : ℚ
  expires : ℚ
  event : AsyncEvent
  deriving DecidableEq

/-- How a round of `consume` ends. -/
inductive Turn where
  | taken
  | refused
  | waits
  deriving DecidableEq

namespace GrantBroker

/-- `GrantBroker(ttl)` -/
def new (ttl : ℚ) : GrantBroker := ⟨ttl, 0, ⟨false, []⟩⟩

/-- `issue()` at a time. -/
def issue (broker : GrantBroker) (now : ℚ) : GrantBroker :=
  { broker with expires := now + broker.ttl, event := broker.event.set }

/-- One round of the loop in `consume`; without a deadline it never gives up. -/
def turn (broker : GrantBroker) (now : ℚ) (deadline : Option ℚ) (request : ℕ) :
    Turn × GrantBroker :=
  if now < broker.expires then
    (.taken, { broker with expires := 0, event := broker.event.clear })
  else if ∃ limit ∈ deadline, limit - now ≤ 0 then (.refused, broker)
  else (.waits, { broker with event := broker.event.clear.wait request })

/-- A request stops waiting. -/
def leave (broker : GrantBroker) (request : ℕ) : GrantBroker :=
  { broker with event := broker.event.leave request }

/-- The request left the grant, and what the others wait for, as it was. -/
structure Spares (request : ℕ) (before : GrantBroker) (now : ℚ) (after : GrantBroker) :
    Prop where
  ttl : after.ttl = before.ttl
  expires : after.expires = before.expires
  others : ∀ waiter, waiter.1 ≠ request →
    (waiter ∈ after.event.waiters ↔ waiter ∈ before.event.waiters)
  alive : now < before.expires → after.event.isSet = before.event.isSet

theorem Spares.refl (request : ℕ) (broker : GrantBroker) (now : ℚ) :
    broker.Spares request now broker := ⟨rfl, rfl, fun _ _ => Iff.rfl, fun _ => rfl⟩

theorem Spares.trans {request : ℕ} {first second third : GrantBroker} {now : ℚ}
    (start : first.Spares request now second) (rest : second.Spares request now third) :
    first.Spares request now third where
  ttl := rest.ttl.trans start.ttl
  expires := rest.expires.trans start.expires
  others waiter other := (rest.others waiter other).trans (start.others waiter other)
  alive live := (rest.alive (start.expires ▸ live)).trans (start.alive live)

theorem leave_spares (request : ℕ) (broker : GrantBroker) (now : ℚ) :
    broker.Spares request now (broker.leave request) where
  ttl := rfl
  expires := rfl
  others waiter other := by simp [leave, AsyncEvent.leave, other]
  alive _ := rfl

/-- A round takes a grant that is alive, or spares the grant. -/
theorem turn_cases (broker : GrantBroker) (now : ℚ) (deadline : Option ℚ) (request : ℕ) :
    (broker.turn now deadline request).1 = .taken ∧ now < broker.expires ∧
        (broker.turn now deadline request).2 =
          { broker with expires := 0, event := broker.event.clear } ∨
      (broker.turn now deadline request).1 ≠ .taken ∧ broker.expires ≤ now ∧
        broker.Spares request now (broker.turn now deadline request).2 := by
  unfold turn
  split
  next live => exact .inl ⟨rfl, live, rfl⟩
  next dead =>
    split
    · exact .inr ⟨by simp, not_lt.mp dead, Spares.refl _ _ _⟩
    · refine .inr ⟨by simp, not_lt.mp dead, rfl, rfl, ?_, fun live => (dead live).elim⟩
      intro waiter other
      have different : waiter ≠ (request, false) := fun same => other (by rw [same])
      simp [AsyncEvent.wait, AsyncEvent.clear, different]

end GrantBroker

end RemoteUnlock.Listener
