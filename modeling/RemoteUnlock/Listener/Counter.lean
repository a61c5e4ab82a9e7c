import Mathlib.Data.List.Induction
import RemoteUnlock.Library.Runs
import RemoteUnlock.Listener.Backoff

/-!
# Counters that are never pruned

The reference for `Backoff` gives every key a counter of its own, which sees only the
calls for its key and is never thrown away.  A record of the backoff agrees with the
counter when both hold the same, when the record is gone and the counter would start
again anyway, or when both have started again and only their ended lockouts differ.
Every call keeps the agreement, so every answer is the counter's.
-/

namespace RemoteUnlock.Listener

open Library Python Python.Items

namespace Backoff

/-! ## Calls -/

inductive Act where
  | fail
  | success
  | remaining
  deriving DecidableEq

/-- A call of a method for a key, with what the clock shows. -/
structure Call where
  now : ℚ
  key : PyStr
  act : Act

inductive Answer where
  | started (lockout : Bool)
  | done
  | seconds (left : ℚ)
  deriving DecidableEq

def answer (backoff : Backoff) (call : Call) : Answer :=
  match call.act with
  | .fail => .started (backoff.fail call.now call.key).1
  | .success => .done
  | .remaining => .seconds (backoff.remaining call.now call.key)

def step (backoff : Backoff) (call : Call) : Backoff :=
  match call.act with
  | .fail => (backoff.fail call.now call.key).2
  | .success => backoff.success call.key
  | .remaining => backoff

/-- The clock is not negative and does not run backwards. -/
structure Ordered (calls : List Call) : Prop where
  nonneg : ∀ call ∈ calls, 0 ≤ call.now
  forward : calls.Pairwise fun first second => first.now ≤ second.now

theorem ordered_concat {calls : List Call} {call : Call} :
    Ordered (calls ++ [call]) ↔
      Ordered calls ∧ 0 ≤ call.now ∧ ∀ earlier ∈ calls, earlier.now ≤ call.now := by
  constructor
  · rintro ⟨nonneg, forward⟩
    rw [List.forall_mem_append, List.forall_mem_singleton] at nonneg
    rw [List.pairwise_append] at forward
    exact ⟨⟨nonneg.1, forward.1⟩, nonneg.2,
      fun earlier membership => forward.2.2 earlier membership call (List.mem_singleton_self _)⟩
  · rintro ⟨⟨nonneg, forward⟩, started, last⟩
    constructor
    · rw [List.forall_mem_append, List.forall_mem_singleton]
      exact ⟨nonneg, started⟩
    · rw [List.pairwise_append]
      refine ⟨forward, List.pairwise_singleton _ _, fun earlier membership other isCall => ?_⟩
      rw [List.mem_singleton.mp isCall]
      exact last earlier membership

/-! ## The reference -/

/-- What a counter is set up with. -/
structure Limits where
  threshold : ℚ
  base : ℚ
  maximum : ℚ
  quietReset : ℚ

def limits (backoff : Backoff) : Limits :=
  ⟨backoff.threshold, backoff.base, backoff.maximum, backoff.quietReset⟩

/-- How long a lockout lasts. -/
def Limits.duration (limits : Limits) (level : ℕ) : ℚ :=
  min (limits.base * 2 ^ level) limits.maximum

/-- A counter starts again after its quiet time. -/
def Limits.Quiet (limits : Limits) (now : ℚ) (st : Failures) : Prop :=
  limits.quietReset < now - st.last ∧ st.until_ ≤ now

instance (limits : Limits) (now : ℚ) (st : Failures) : Decidable (limits.Quiet now st) :=
  inferInstanceAs (Decidable (_ ∧ _))

end Backoff

/-- The counter of one key, where the key has failed since its last success. -/
abbrev Counter : Type := Option Failures

namespace Counter

open Backoff

variable (limits : Limits)

/-- The counter as a failure takes it up. -/
def takeUp (now : ℚ) (counter : Counter) : Failures :=
  let st := counter.getD ⟨0, 0, 0, now⟩
  if limits.Quiet now st then { st with fails := 0, level := 0, last := now }
  else { st with last := now }

/-- Count a failure outside lockouts. -/
def count (now : ℚ) (st : Failures) : Bool × Failures :=
  if limits.threshold ≤ (st.fails + 1 : ℕ) then
    (true, { st with
      fails := 0, level := st.level + 1, until_ := now + limits.duration st.level })
  else (false, { st with fails := st.fails + 1 })

def fail (now : ℚ) (counter : Counter) : Bool × Failures :=
  let st := takeUp limits now counter
  if now < st.until_ then (false, st) else count limits now st

def remaining (now : ℚ) (counter : Counter) : ℚ :=
  match counter with
  | some st => max 0 (st.until_ - now)
  | none => 0

def answer (counter : Counter) (call : Call) : Answer :=
  match call.act with
  | .fail => .started (fail limits call.now counter).1
  | .success => .done
  | .remaining => .seconds (remaining call.now counter)

def step (counter : Counter) (call : Call) : Counter :=
  match call.act with
  | .fail => some (fail limits call.now counter).2
  | .success => none
  | .remaining => counter

/-- The counter of a key after the calls for it. -/
def after (key : PyStr) (calls : List Call) : Counter :=
  run (step limits) none (calls.filter fun call => call.key = key)

theorem after_concat (key : PyStr) (calls : List Call) (call : Call) :
    after limits key (calls ++ [call]) =
      if call.key = key then step limits (after limits key calls) call
      else after limits key calls := by
  unfold after
  rw [List.filter_append, run_append, List.filter_singleton]
  by_cases same : call.key = key <;> simp [same]

end Counter

/-! ## Agreement -/

namespace Backoff

/-- What the backoff holds for a key against the key's counter. -/
def Agrees (limits : Limits) (now : ℚ) : Counter → Counter → Prop
  | none, none => True
  | none, some counter => limits.Quiet now counter
  | some _, none => False
  | some st, some counter =>
      st.fails = counter.fails ∧ st.level = counter.level ∧ st.last = counter.last ∧
        (st.until_ = counter.until_ ∨ st.until_ ≤ now ∧ counter.until_ ≤ now)

section Agreement

variable {limits : Limits} {now : ℚ} {own counter : Counter}

theorem agrees_refl (limits : Limits) (now : ℚ) (counter : Counter) :
    Agrees limits now counter counter := by
  cases counter with
  | none => trivial
  | some st => exact ⟨rfl, rfl, rfl, .inl rfl⟩

theorem Limits.Quiet.later {st : Failures} (quiet : limits.Quiet now st) {later : ℚ}
    (order : now ≤ later) : limits.Quiet later st :=
  ⟨by linarith [quiet.1], quiet.2.trans order⟩

theorem Agrees.later (agrees : Agrees limits now own counter) {later : ℚ} (order : now ≤ later) :
    Agrees limits later own counter := by
  cases own with
  | none =>
      cases counter with
      | none => trivial
      | some st => exact Limits.Quiet.later agrees order
  | some record =>
      cases counter with
      | none => exact agrees
      | some st =>
          obtain ⟨fails, level, last, untils⟩ := agrees
          refine ⟨fails, level, last, ?_⟩
          rcases untils with same | ⟨recordEnded, counterEnded⟩
          · exact .inl same
          · exact .inr ⟨recordEnded.trans order, counterEnded.trans order⟩

/-- A record is only thrown away where the counter would start again. -/
theorem Agrees.filter (agrees : Agrees limits now own counter) {keep : Failures → Bool}
    (stale : ∀ st, keep st = false → limits.Quiet now st) :
    Agrees limits now (own.filter keep) counter := by
  cases own with
  | none => exact agrees
  | some record =>
      cases kept : keep record with
      | true =>
          rw [Option.filter_some, if_pos kept]
          exact agrees
      | false =>
          rw [Option.filter_some, if_neg (by simp [kept])]
          cases counter with
          | none => exact agrees.elim
          | some st =>
              obtain ⟨_, _, last, untils⟩ := agrees
              obtain ⟨quiet, ended⟩ := stale record kept
              refine ⟨last ▸ quiet, ?_⟩
              rcases untils with same | ⟨_, counterEnded⟩
              · exact same ▸ ended
              · exact counterEnded

theorem Agrees.remaining (agrees : Agrees limits now own counter) :
    Counter.remaining now own = Counter.remaining now counter := by
  cases own with
  | none =>
      cases counter with
      | none => rfl
      | some st =>
          have ended : st.until_ ≤ now := agrees.2
          simp [Counter.remaining, ended]
  | some record =>
      cases counter with
      | none => exact agrees.elim
      | some st =>
          obtain ⟨_, _, _, same | ⟨recordEnded, counterEnded⟩⟩ := agrees
          · simp [Counter.remaining, same]
          · simp [Counter.remaining, recordEnded, counterEnded]

/-- Both are taken up alike, but for lockouts that have ended. -/
theorem Agrees.takeUp (agrees : Agrees limits now own counter) (started : 0 ≤ now) :
    Agrees limits now (some (Counter.takeUp limits now own))
      (some (Counter.takeUp limits now counter)) := by
  cases own with
  | none =>
      cases counter with
      | none => exact agrees_refl _ _ _
      | some st =>
          have quiet : limits.Quiet now st := agrees
          have fresh : Counter.takeUp limits now none = ⟨0, 0, 0, now⟩ := by
            unfold Counter.takeUp
            simp only [Option.getD_none]
            split <;> rfl
          rw [fresh, Counter.takeUp, Option.getD_some, if_pos quiet]
          exact ⟨rfl, rfl, rfl, .inr ⟨started, quiet.2⟩⟩
  | some record =>
      cases counter with
      | none => exact agrees.elim
      | some st =>
          obtain ⟨fails, level, last, untils⟩ := agrees
          have alike : limits.Quiet now record ↔ limits.Quiet now st := by
            unfold Limits.Quiet
            rw [last]
            rcases untils with same | ⟨recordEnded, counterEnded⟩
            · rw [same]
            · simp only [recordEnded, counterEnded]
          simp only [Counter.takeUp, Option.getD_some, alike]
          split
          · exact ⟨rfl, rfl, rfl, untils⟩
          · exact ⟨fails, level, rfl, untils⟩

theorem Agrees.count {record st : Failures} (agrees : Agrees limits now (some record) (some st)) :
    (Counter.count limits now record).1 = (Counter.count limits now st).1 ∧
      Agrees limits now (some (Counter.count limits now record).2)
        (some (Counter.count limits now st).2) := by
  obtain ⟨fails, level, last, untils⟩ := agrees
  unfold Counter.count
  rw [fails, level]
  split
  · exact ⟨rfl, rfl, rfl, last, .inl rfl⟩
  · exact ⟨rfl, rfl, rfl, last, untils⟩

theorem Agrees.fail (agrees : Agrees limits now own counter) (started : 0 ≤ now) :
    (Counter.fail limits now own).1 = (Counter.fail limits now counter).1 ∧
      Agrees limits now (some (Counter.fail limits now own).2)
        (some (Counter.fail limits now counter).2) := by
  have taken := agrees.takeUp started
  have locked : now < (Counter.takeUp limits now own).until_ ↔
      now < (Counter.takeUp limits now counter).until_ := by
    obtain ⟨_, _, _, same | ⟨recordEnded, counterEnded⟩⟩ := taken
    · rw [same]
    · exact iff_of_false recordEnded.not_gt counterEnded.not_gt
  simp only [Counter.fail, locked]
  split
  · exact ⟨rfl, taken⟩
  · exact taken.count

theorem Agrees.step (agrees : Agrees limits now own counter) (started : 0 ≤ now) {call : Call}
    (isNow : call.now = now) :
    Agrees limits now (Counter.step limits own call) (Counter.step limits counter call) := by
  subst isNow
  unfold Counter.step
  cases call.act with
  | fail => exact (agrees.fail started).2
  | success => trivial
  | remaining => exact agrees

theorem Agrees.answer (agrees : Agrees limits now own counter) (started : 0 ≤ now) {call : Call}
    (isNow : call.now = now) :
    Counter.answer limits own call = Counter.answer limits counter call := by
  subst isNow
  unfold Counter.answer
  cases call.act with
  | fail => exact congrArg _ (agrees.fail started).1
  | success => rfl
  | remaining => exact congrArg _ agrees.remaining

end Agreement

/-! ## A call as the counter of its key sees it -/

theorem fail_fst (backoff : Backoff) (now : ℚ) (key : PyStr) :
    (backoff.fail now key).1 =
      (Counter.fail backoff.limits now (backoff.state.get key)).1 := by
  unfold fail Counter.fail Counter.count
  simp only
  change _ = (if now < (backoff.takeUp now key).until_ then _ else _ : Bool × Failures).1
  split
  · rfl
  · change _ = (if backoff.threshold ≤ ((backoff.takeUp now key).fails + 1 : ℕ) then _
      else _ : Bool × Failures).1
    split
    · rfl
    · split <;> rfl

theorem answer_eq (backoff : Backoff) (call : Call) :
    backoff.answer call =
      Counter.answer backoff.limits (backoff.state.get call.key) call := by
  unfold answer Counter.answer
  cases call.act with
  | fail => exact congrArg _ (fail_fst _ _ _)
  | success => rfl
  | remaining => rfl

theorem get_put (backoff : Backoff) (key other : PyStr) (st : Failures) :
    (backoff.put key st).state.get other =
      if other = key then some st else backoff.state.get other :=
  PyDict.get_set _ _ _ _

/-- What a call leaves of a key: what the key's counter makes of it, unless it is pruned. -/
theorem get_step (backoff : Backoff) (call : Call) (other : PyStr) :
    ∃ keep : Failures → Bool,
      (∀ st, keep st = false → backoff.limits.Quiet call.now st) ∧
      (backoff.step call).state.get other =
        (if other = call.key then
          Counter.step backoff.limits (backoff.state.get call.key) call
        else backoff.state.get other).filter keep := by
  have keepAll (counter : Counter) : counter.filter (fun _ => true) = counter := by
    cases counter <;> rfl
  unfold step Counter.step
  cases act : call.act with
  | success =>
      refine ⟨fun _ => true, by simp, ?_⟩
      rw [keepAll]
      exact PyDict.get_pop _ _ _
  | remaining =>
      refine ⟨fun _ => true, by simp, ?_⟩
      rw [keepAll]
      by_cases same : other = call.key <;> simp [same]
  | fail =>
      unfold fail Counter.fail Counter.count
      simp only
      change ∃ keep, _ ∧ _ = Option.filter keep (if other = call.key then
        some (if call.now < (backoff.takeUp call.now call.key).until_ then
            (false, backoff.takeUp call.now call.key)
          else if backoff.threshold ≤ ((backoff.takeUp call.now call.key).fails + 1 : ℕ) then _
          else _ : Bool × Failures).2 else _)
      split
      · refine ⟨fun _ => true, by simp, ?_⟩
        rw [keepAll]
        exact get_put _ _ _ _
      · split
        · refine ⟨fun _ => true, by simp, ?_⟩
          rw [keepAll]
          exact get_put _ _ _ _
        · split
          · refine ⟨fun st => !backoff.isStale call.now st, fun st stale => ?_, ?_⟩
            · simpa [isStale, Limits.Quiet, limits, and_comm] using stale
            · rw [prune, PyDict.get_filter, get_put]
              rfl
          · refine ⟨fun _ => true, by simp, ?_⟩
            rw [keepAll]
            exact get_put _ _ _ _

theorem limits_step (backoff : Backoff) (call : Call) :
    (backoff.step call).limits = backoff.limits := by
  unfold step
  cases call.act with
  | fail =>
      unfold fail
      simp only
      split_ifs <;> rfl
  | success => rfl
  | remaining => rfl

/-! ## Every answer is the counter's -/

theorem agrees_run {backoff : Backoff} (fresh : backoff.state = .empty) {calls : List Call}
    (ordered : Ordered calls) {now : ℚ} (last : ∀ call ∈ calls, call.now ≤ now) (key : PyStr) :
    (run step backoff calls).limits = backoff.limits ∧
      Agrees backoff.limits now ((run step backoff calls).state.get key)
        (Counter.after backoff.limits key calls) := by
  induction calls using List.reverseRecOn generalizing now key with
  | nil =>
      rw [run_nil, fresh]
      exact ⟨rfl, trivial⟩
  | append_singleton calls call inductionHypothesis =>
      obtain ⟨earlier, started, forward⟩ := ordered_concat.mp ordered
      have atCall := inductionHypothesis earlier forward
      have sameLimits := (atCall key).1
      rw [run_append, run_cons, run_nil, Counter.after_concat]
      refine ⟨(limits_step _ _).trans sameLimits, ?_⟩
      obtain ⟨keep, stale, found⟩ := get_step (run step backoff calls) call key
      rw [sameLimits] at stale found
      rw [found]
      apply Agrees.later _ (last call (by simp))
      apply Agrees.filter _ stale
      by_cases own : key = call.key
      · rw [if_pos own, if_pos own.symm, own]
        exact (atCall call.key).2.step started rfl
      · rw [if_neg own, if_neg (Ne.symm own)]
        exact (atCall key).2

/-- Pruning is invisible and keys are independent: whatever was called before, each
answer is that of a counter which saw the calls for its key alone and was never pruned. -/
theorem answer_eq_counter {backoff : Backoff} (fresh : backoff.state = .empty)
    {before : List Call} {call : Call} (ordered : Ordered (before ++ [call])) :
    (run step backoff before).answer call =
      Counter.answer backoff.limits (Counter.after backoff.limits call.key before) call := by
  obtain ⟨earlier, started, forward⟩ := ordered_concat.mp ordered
  obtain ⟨sameLimits, agrees⟩ := agrees_run fresh earlier forward call.key
  rw [answer_eq, sameLimits]
  exact agrees.answer started rfl

/-- Two failures of one key with one of another key between them. -/
theorem answer_eq_counter_of_two_keys :
    (run step (new 2 10 100) [⟨0, py "k", .fail⟩, ⟨1, py "l", .fail⟩]).answer
        ⟨2, py "k", .fail⟩ =
      Counter.answer ⟨2, 10, 100, 3600⟩
        (Counter.after ⟨2, 10, 100, 3600⟩ (py "k") [⟨0, py "k", .fail⟩, ⟨1, py "l", .fail⟩])
        ⟨2, py "k", .fail⟩ := by
  have fresh : (new 2 10 100).state = .empty := rfl
  exact answer_eq_counter fresh ⟨by simp, by simp⟩

end Backoff

end RemoteUnlock.Listener
