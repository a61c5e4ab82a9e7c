import Mathlib.Algebra.Order.Field.Rat
import Mathlib.Tactic.Linarith
import RemoteUnlock.Python.Items
import RemoteUnlock.Python.Text

/-!
# Lockouts

A `Backoff` counts failures per key and locks a key out for longer and longer.
Time is a rational number of seconds: the limits and the clock are exact numbers, so
nothing is rounded and no length of a lockout overflows (`failOf` is the method with
its exception).  What the other modules need of it is how `remaining` changes: only a
failure that starts a lockout makes it positive.
-/

namespace RemoteUnlock.Listener

open Python Python.Items

/-- The state of one key. -/
structure Failures where
  fails : ℕ
  level : ℕ
  until_ : ℚ
  last : ℚ
  deriving DecidableEq

/-- `Backoff`, without its clock. -/
structure Backoff where
  threshold : ℚ
  base : ℚ
  maximum : ℚ
  quietReset : ℚ
  state : PyDict PyStr Failures

namespace Backoff

/-- `Backoff(threshold, base, maximum)` -/
def new (threshold base maximum : ℚ) : Backoff :=
  ⟨threshold, base, maximum, 3600, .empty⟩

/-- `remaining(key)` at a time. -/
def remaining (backoff : Backoff) (now : ℚ) (key : PyStr) : ℚ :=
  match backoff.state.get key with
  | some st => max 0 (st.until_ - now)
  | none => 0

/-- `_prune(now)` deletes the state. -/
def isStale (backoff : Backoff) (now : ℚ) (st : Failures) : Bool :=
  st.until_ ≤ now && backoff.quietReset < now - st.last

/-- `_prune(now)` -/
def prune (backoff : Backoff) (now : ℚ) : Backoff :=
  { backoff with state := backoff.state.filter fun st => !backoff.isStale now st }

/-- The state of the key as `fail` takes it up. -/
def takeUp (backoff : Backoff) (now : ℚ) (key : PyStr) : Failures :=
  let st := (backoff.state.get key).getD ⟨0, 0, 0, now⟩
  if backoff.quietReset < now - st.last ∧ st.until_ ≤ now then
    { st with fails := 0, level := 0, last := now }
  else { st with last := now }

def put (backoff : Backoff) (key : PyStr) (st : Failures) : Backoff :=
  { backoff with state := backoff.state.set key st }

/-- The state with a lockout started. -/
def lock (backoff : Backoff) (now : ℚ) (st : Failures) : Failures :=
  { st with
    fails := 0
    level := st.level + 1
    until_ := now + min (backoff.base * 2 ^ st.level) backoff.maximum }

/-- `fail(key)` at a time: whether it started a lockout. -/
def fail (backoff : Backoff) (now : ℚ) (key : PyStr) : Bool × Backoff :=
  let st := backoff.takeUp now key
  if now < st.until_ then (false, backoff.put key st)
  else if backoff.threshold ≤ (st.fails + 1 : ℕ) then
    (true, backoff.put key (backoff.lock now st))
  else
    let counted := backoff.put key { st with fails := st.fails + 1 }
    if 2048 < counted.state.items.length then (false, counted.prune now) else (false, counted)

/-- `success(key)` -/
def success (backoff : Backoff) (key : PyStr) : Backoff :=
  { backoff with state := backoff.state.pop key }

theorem remaining_nonneg (backoff : Backoff) (now : ℚ) (key : PyStr) :
    0 ≤ backoff.remaining now key := by
  unfold remaining
  split
  · exact le_max_left _ _
  · exact le_refl _

/-- A lockout only runs down. -/
theorem remaining_antitone (backoff : Backoff) {now later : ℚ} (order : now ≤ later)
    (key : PyStr) : backoff.remaining later key ≤ backoff.remaining now key := by
  unfold remaining
  split
  · exact max_le_max_left 0 (by linarith)
  · exact le_refl _

/-- And no faster than time passes. -/
theorem remaining_later (backoff : Backoff) (now duration : ℚ) (key : PyStr)
    (forward : 0 ≤ duration) :
    backoff.remaining now key - duration ≤ backoff.remaining (now + duration) key := by
  unfold remaining
  split
  · rw [sub_le_iff_le_add]
    refine max_le ?_ ?_
    · have nonneg := le_max_left (0 : ℚ) (Failures.until_ ‹_› - (now + duration))
      linarith
    · have least := le_max_right (0 : ℚ) (Failures.until_ ‹_› - (now + duration))
      linarith
  · linarith

theorem remaining_put_self (backoff : Backoff) (now : ℚ) (key : PyStr) (st : Failures) :
    (backoff.put key st).remaining now key = max 0 (st.until_ - now) := by
  unfold remaining put
  rw [PyDict.get_set_self]

theorem remaining_put_of_ne (backoff : Backoff) (now : ℚ) {key other : PyStr}
    (different : other ≠ key) (st : Failures) :
    (backoff.put key st).remaining now other = backoff.remaining now other := by
  unfold remaining put
  rw [PyDict.get_set, if_neg different]

theorem takeUp_until (backoff : Backoff) (now : ℚ) (key : PyStr) :
    (backoff.takeUp now key).until_ =
      ((backoff.state.get key).getD ⟨0, 0, 0, now⟩).until_ := by
  unfold takeUp
  simp only
  split <;> rfl

theorem remaining_eq_takeUp (backoff : Backoff) {now : ℚ} (started : 0 ≤ now) (key : PyStr) :
    backoff.remaining now key = max 0 ((backoff.takeUp now key).until_ - now) := by
  rw [takeUp_until]
  unfold remaining
  cases backoff.state.get key with
  | none => simp [started]
  | some st => rfl

/-- A state of the key that lasts as long as the old one ends no lockout. -/
theorem remaining_le_put (backoff : Backoff) {now : ℚ} (started : 0 ≤ now) {key : PyStr}
    {st : Failures}
    (lasting : (backoff.takeUp now key).until_ ≤ st.until_ ∨
      (backoff.takeUp now key).until_ ≤ now)
    (other : PyStr) : backoff.remaining now other ≤ (backoff.put key st).remaining now other := by
  by_cases same : other = key
  · subst same
    rw [remaining_put_self, remaining_eq_takeUp _ started]
    rcases lasting with longer | ended
    · exact max_le_max_left 0 (sub_le_sub_right longer now)
    · exact max_le_max_left 0 (sub_nonpos.mpr ended) |>.trans (by simp)
  · rw [remaining_put_of_ne _ _ same]

/-- Only what has run out is pruned. -/
theorem remaining_prune (backoff : Backoff) (now : ℚ) (key : PyStr) :
    (backoff.prune now).remaining now key = backoff.remaining now key := by
  unfold remaining prune
  rw [PyDict.get_filter]
  cases backoff.state.get key with
  | none => rfl
  | some st =>
      cases stale : backoff.isStale now st with
      | false => simp [Option.filter, stale]
      | true =>
          have ended : st.until_ ≤ now := by
            simp only [isStale, Bool.and_eq_true, decide_eq_true_eq] at stale
            exact stale.1
          simp [Option.filter, stale, ended]

/-- A failure ends no lockout. -/
theorem remaining_le_fail (backoff : Backoff) {now : ℚ} (started : 0 ≤ now)
    (key other : PyStr) :
    backoff.remaining now other ≤ (backoff.fail now key).2.remaining now other := by
  unfold fail
  simp only
  split
  · exact remaining_le_put _ started (.inl (le_refl _)) other
  next notLocked =>
    have ended := not_lt.mp notLocked
    split
    · exact remaining_le_put _ started (.inr ended) other
    · split
      · rw [remaining_prune]
        exact remaining_le_put _ started (.inr ended) other
      · exact remaining_le_put _ started (.inr ended) other

/-- A success clears its own key and no other. -/
theorem remaining_success (backoff : Backoff) (now : ℚ) (key other : PyStr) :
    (backoff.success key).remaining now other =
      if other = key then 0 else backoff.remaining now other := by
  unfold remaining success
  rw [PyDict.get_pop]
  by_cases same : other = key <;> simp [same]

end Backoff

end RemoteUnlock.Listener
