import Mathlib.Data.Finset.Order
import Mathlib.Data.List.Induction
import RemoteUnlock.Library.SlidingWindow
import RemoteUnlock.Library.Runs
import RemoteUnlock.Windows.Delivery

/-!
# The rate limit of the Windows listener

The service records the time of a failure and forgets it lazily, when the next call of
`verify` looks.  Over any sequence of calls in the order of time, what it remembers is the
failures of the last `RATE_LIMIT_WINDOW` seconds (`Course.Sound`), so that the limit is an
exact sliding window.
-/

namespace RemoteUnlock.Windows

open Python Python.Items Common Library

variable {Value : Type} (platform : Platform Value)

/-- A call of `issue_challenge()` or of `verify(...)`, at a time. -/
inductive Call (Value : Type) where
  | issueChallenge (now : ℚ) (nonce : PyStr)
  | verify (now : ℚ) (nonce : Json) (timestamp : Value) (signature : Json) (action : Action)

def Call.time : Call Value → ℚ
  | .issueChallenge now _ => now
  | .verify now _ _ _ _ => now

/-- How a call of `verify` ends. -/
inductive Verdict where
  /-- It is refused by the limit. -/
  | limited
  /-- It fails for another reason. -/
  | failed
  | accepted
  deriving DecidableEq

namespace UnlockService

/-- `_rate_limited()` -/
def isRateLimited (service : UnlockService) (now : ℚ) : Bool :=
  rateLimitMaxFails ≤ (service.forget now).failTimes.length

/-- How `verify` of an action that it knows ends. -/
def verdict (service : UnlockService) (now : ℚ) (nonce : Json) (timestamp : Value)
    (signature : Json) (action : Action) : Verdict :=
  if service.isRateLimited now then .limited
  else if (service.verifyAction platform now nonce timestamp signature action).1 then .accepted
  else .failed

variable {platform} {service : UnlockService} {now : ℚ} {nonce : Json} {timestamp : Value}
  {signature : Json} {action : Action}

theorem verdict_eq_limited_iff :
    service.verdict platform now nonce timestamp signature action = .limited ↔
      rateLimitMaxFails ≤ (service.forget now).failTimes.length := by
  unfold verdict isRateLimited
  by_cases limited : rateLimitMaxFails ≤ (service.forget now).failTimes.length
  · simp [limited]
  · simp only [limited, decide_false, Bool.false_eq_true, ↓reduceIte, iff_false]
    split <;> exact Verdict.noConfusion

/-- Where the limit refuses, nothing but the times is touched. -/
theorem verifyAction_of_limited
    (limited : service.verdict platform now nonce timestamp signature action = .limited) :
    service.verifyAction platform now nonce timestamp signature action =
      (false, service.forget now) := by
  rw [verdict_eq_limited_iff] at limited
  unfold verifyAction
  exact if_pos limited

/-- The result of a call that got past the limit: a yes leaves the times as they are, a no
records its own. -/
def Recorded (times : List ℚ) (now : ℚ) (verified : Bool × UnlockService) : Prop :=
  verified.2.failTimes = times ++ if verified.1 then [] else [now]

theorem recorded_recordFailure (service : UnlockService) (now : ℚ) :
    Recorded service.failTimes now (false, service.recordFailure now) := rfl

/-- Every exit behind the limit records the failure that it is, once. -/
theorem verifyAction_recorded
    (free : ¬ rateLimitMaxFails ≤ (service.forget now).failTimes.length) :
    Recorded (service.forget now).failTimes now
      (service.verifyAction platform now nonce timestamp signature action) := by
  simp only [verifyAction, if_neg free]
  split
  next name =>
    split
    · apply recorded_recordFailure
    next issueTime isPending =>
      -- The nonce is used up, which leaves the times as they are.
      split
      · apply recorded_recordFailure
      · split
        · apply recorded_recordFailure
        · split
          · apply recorded_recordFailure
          · split
            · exact (List.append_nil _).symm
            · apply recorded_recordFailure
  · apply recorded_recordFailure

theorem verdict_of_not_limited
    (free : ¬ rateLimitMaxFails ≤ (service.forget now).failTimes.length) :
    service.verdict platform now nonce timestamp signature action =
      if (service.verifyAction platform now nonce timestamp signature action).1
      then .accepted else .failed := by
  unfold verdict isRateLimited
  exact if_neg (by rwa [decide_eq_true_eq])

/-- A call that fails for another reason than the limit is counted once, any other not. -/
theorem verifyAction_failTimes :
    (service.verifyAction platform now nonce timestamp signature action).2.failTimes =
      (service.forget now).failTimes ++
        if service.verdict platform now nonce timestamp signature action = .failed
        then [now] else [] := by
  by_cases limited : rateLimitMaxFails ≤ (service.forget now).failTimes.length
  · have refused : service.verdict platform now nonce timestamp signature action = .limited :=
      verdict_eq_limited_iff.mpr limited
    rw [verifyAction_of_limited refused, refused]
    exact (List.append_nil _).symm
  · rw [verifyAction_recorded limited, verdict_of_not_limited limited]
    cases (service.verifyAction platform now nonce timestamp signature action).1 <;> rfl

theorem verdict_eq_accepted_iff :
    service.verdict platform now nonce timestamp signature action = .accepted ↔
      (service.verifyAction platform now nonce timestamp signature action).1 = true := by
  by_cases limited : service.verdict platform now nonce timestamp signature action = .limited
  · rw [limited, verifyAction_of_limited limited]
    exact ⟨Verdict.noConfusion, Bool.noConfusion⟩
  · rw [verdict_of_not_limited (mt verdict_eq_limited_iff.mpr limited)]
    cases (service.verifyAction platform now nonce timestamp signature action).1 <;> simp

end UnlockService

/-! ## Sequences of calls -/

/-- A service, and how the calls of `verify` on it ended so far. -/
structure Course where
  service : UnlockService
  verdicts : List (ℚ × Verdict)

namespace Course

def start : Course := ⟨.init, []⟩

def step (course : Course) : Call Value → Course
  | .issueChallenge now nonce =>
      { course with service := (course.service.issueChallenge platform now nonce).2 }
  | .verify now nonce timestamp signature action =>
      ⟨(course.service.verifyAction platform now nonce timestamp signature action).2,
        course.verdicts ++
          [(now, course.service.verdict platform now nonce timestamp signature action)]⟩

/-- The times of the calls that failed for another reason than the limit. -/
def failures (course : Course) : List ℚ :=
  (course.verdicts.filter fun entry => entry.2 = .failed).map Prod.fst

/-- What the service remembers at a time that no call so far is later than. -/
structure Sound (course : Course) (now : ℚ) : Prop where
  admissible : Admissible rateLimitWindow rateLimitMaxFails course.failures
  past : ∀ time ∈ course.failures, time ≤ now
  remembers : ∃ seen ≤ now, course.service.failTimes = recent rateLimitWindow seen course.failures

variable {course : Course} {now : ℚ}

theorem sound_start (now : ℚ) : start.Sound now :=
  ⟨.nil, fun _ membership => absurd membership List.not_mem_nil, now, le_rfl, rfl⟩

theorem Sound.later (sound : course.Sound now) {time : ℚ} (order : now ≤ time) :
    course.Sound time := by
  obtain ⟨seen, before, remembered⟩ := sound.remembers
  exact ⟨sound.admissible, fun other membership => (sound.past other membership).trans order,
    seen, before.trans order, remembered⟩

/-- What is left once `_rate_limited` has looked: the failures within the window. -/
theorem Sound.forget_failTimes (sound : course.Sound now) :
    (course.service.forget now).failTimes = recent rateLimitWindow now course.failures := by
  obtain ⟨seen, before, remembered⟩ := sound.remembers
  have sorted : course.service.failTimes.Pairwise (· ≤ ·) := by
    rw [remembered]
    exact sound.admissible.sorted.filter _
  unfold UnlockService.forget
  rw [dropWhile_eq_recent sorted, remembered]
  exact recent_recent before course.failures

theorem failures_append (verdicts : List (ℚ × Verdict)) (service later : UnlockService)
    (verdict : Verdict) :
    failures ⟨later, verdicts ++ [(now, verdict)]⟩ =
      failures ⟨service, verdicts⟩ ++ if verdict = .failed then [now] else [] := by
  unfold failures
  rw [List.filter_append, List.map_append]
  cases verdict <;> rfl

theorem recent_present : recent rateLimitWindow now [now] = [now] := by
  simp [recent, rateLimitWindow]

/-- A call of `verify` records what the window needs. -/
theorem Sound.verify (sound : course.Sound now) (nonce : Json) (timestamp : Value)
    (signature : Json) (action : Action) :
    (course.step platform (.verify now nonce timestamp signature action)).Sound now := by
  have seen := sound.forget_failTimes
  have counted : (course.service.verifyAction platform now nonce timestamp signature
      action).2.failTimes = _ := UnlockService.verifyAction_failTimes
  have listed := @failures_append now course.verdicts course.service
    (course.service.verifyAction platform now nonce timestamp signature action).2
    (course.service.verdict platform now nonce timestamp signature action)
  by_cases failed : course.service.verdict platform now nonce timestamp signature action = .failed
  · rw [if_pos failed] at counted listed
    have few : (recent rateLimitWindow now course.failures).length < rateLimitMaxFails := by
      rw [← seen]
      apply Nat.lt_of_not_le
      intro limited
      rw [UnlockService.verdict_eq_limited_iff.mpr limited] at failed
      contradiction
    constructor
    · rw [step, listed]
      exact .append sound.admissible sound.past few
    · intro time membership
      rw [step, listed, List.mem_append, List.mem_singleton] at membership
      rcases membership with earlier | present
      · exact sound.past time earlier
      · exact present.le
    · refine ⟨now, le_rfl, ?_⟩
      rw [step, listed, recent_append, recent_present, counted, seen]
  · rw [if_neg failed, List.append_nil] at counted listed
    constructor
    · rw [step, listed]
      exact sound.admissible
    · rw [step, listed]
      exact sound.past
    · refine ⟨now, le_rfl, ?_⟩
      rw [step, listed, counted, seen]

theorem Sound.step (sound : course.Sound now) (call : Call Value) (present : call.time = now) :
    (course.step platform call).Sound now := by
  cases call with
  | issueChallenge time nonce => exact ⟨sound.admissible, sound.past, sound.remembers⟩
  | verify time nonce timestamp signature action =>
      rw [Call.time] at present
      rw [present]
      exact sound.verify platform nonce timestamp signature action

theorem sound_run {calls : List (Call Value)}
    (ordered : calls.Pairwise fun first second => first.time ≤ second.time)
    (past : ∀ call ∈ calls, call.time ≤ now) :
    (run (step platform) start calls).Sound now := by
  induction calls using List.reverseRecOn generalizing now with
  | nil => exact sound_start now
  | append_singleton calls call inductionHypothesis =>
      rw [List.pairwise_append] at ordered
      have before := inductionHypothesis ordered.1 fun earlier membership =>
        ordered.2.2 earlier membership call (List.mem_singleton_self call)
      rw [run_append]
      apply (before.step platform call rfl).later
      exact past call (List.mem_append_right _ (List.mem_singleton_self call))

/-- The limit is a sliding window.  No closed interval of `RATE_LIMIT_WINDOW` seconds holds
more than `RATE_LIMIT_MAX_FAILS` failures; a call is refused by the limit where so many lie
that recently behind it, and then leaves the nonces as they are; behind any call the times
are those of the failures within the window, with its own where it fails otherwise. -/
theorem rateLimit_exact (calls : List (Call Value))
    (ordered : calls.Pairwise fun first second => first.time ≤ second.time) :
    let course := run (step platform) start calls
    (∀ opens, (within rateLimitWindow opens course.failures).length ≤ rateLimitMaxFails) ∧
      ∀ (now : ℚ) (nonce : Json) (timestamp : Value) (signature : Json) (action : Action),
        (∀ call ∈ calls, call.time ≤ now) →
        let verdict := course.service.verdict platform now nonce timestamp signature action
        let verified := course.service.verifyAction platform now nonce timestamp signature action
        (verified.1 = true ↔ verdict = .accepted) ∧
          (verdict = .limited ↔
            (recent rateLimitWindow now course.failures).length = rateLimitMaxFails) ∧
          (verdict = .limited → verified.2.pendingNonces = course.service.pendingNonces ∧
            verified.2.usedNonces = course.service.usedNonces) ∧
          verified.2.failTimes = recent rateLimitWindow now course.failures ++
            if verdict = .failed then [now] else [] := by
  intro course
  constructor
  · intro opens
    obtain ⟨last, past⟩ : ∃ last, ∀ call ∈ calls, call.time ≤ last := by
      obtain ⟨last, bound⟩ := (calls.map Call.time).toFinset.exists_le
      exact ⟨last, fun call membership =>
        bound _ (List.mem_toFinset.mpr (List.mem_map_of_mem membership))⟩
    exact (sound_run platform ordered past).admissible.within_le opens
  · intro now nonce timestamp signature action past verdict verified
    have sound := sound_run platform ordered past
    have seen := sound.forget_failTimes
    refine ⟨UnlockService.verdict_eq_accepted_iff.symm, ?_, ?_, ?_⟩
    · have few := sound.admissible.recent_le sound.past
      rw [← seen] at few ⊢
      exact UnlockService.verdict_eq_limited_iff.trans few.ge_iff_eq
    · intro limited
      have unchanged := UnlockService.verifyAction_of_limited limited
      exact ⟨congrArg (·.2.pendingNonces) unchanged, congrArg (·.2.usedNonces) unchanged⟩
    · rw [← seen]
      exact UnlockService.verifyAction_failTimes

/-- Five calls with a nonce that was never issued, a second after each other. -/
def fiveFailures : List (Call ℤ) :=
  [.verify 1 (.str []) 0 .null .unlock, .verify 2 (.str []) 0 .null .shutdown,
    .verify 3 (.str []) 0 .null .unlock, .verify 4 .null 0 .null .unlock,
    .verify 5 (.str []) 0 .null .unlock]

/-- A minute after the first of them the limit refuses still, and a second later no more. -/
theorem rateLimit_exact_fiveFailures :
    let course := run (step samplePlatform) start fiveFailures
    course.service.verdict samplePlatform 61 .null 0 .null .unlock = .limited ∧
      course.service.verdict samplePlatform 62 .null 0 .null .unlock ≠ .limited := by
  have ordered : fiveFailures.Pairwise fun first second => first.time ≤ second.time := by
    decide +kernel
  have exact := (rateLimit_exact samplePlatform fiveFailures ordered).2
  constructor
  · apply (exact 61 .null 0 .null .unlock (by decide +kernel)).2.1.mpr
    decide +kernel
  · apply mt (exact 62 .null 0 .null .unlock (by decide +kernel)).2.1.mp
    decide +kernel

end Course

end RemoteUnlock.Windows
