import RemoteUnlock.Python.Exec
import RemoteUnlock.Listener.Course

/-!
# The growth of lockouts

A key is watched from outside: when it last failed, until when its last lockout runs and
how many lockouts it has had.  As long as each failure comes within the quiet time of the
failure before it, or while a lockout still runs, what is watched is what the key's
counter holds, so the lockouts double until they reach the maximum.

The length of a lockout has to fit a float: with a base that is one `2 ** level` is
converted, and the sum with the time is a float in any case.  `failOf` is `fail` with the
`OverflowError` this raises where it does not fit.
-/

namespace RemoteUnlock.Listener

open Library Python Python.Items

namespace Backoff

/-- The first integer that is too large to be converted to a float. -/
def floatBound : ℚ := 2 ^ 1024 - 2 ^ 970

/-- `now + min(self.base * (2 ** st["level"]), self.maximum)` overflows, the base being a float
or an integer. -/
def Overflows (float : Bool) (backoff : Backoff) (level : ℕ) : Prop :=
  float = true ∧ 1024 ≤ level ∨ floatBound ≤ min (backoff.base * 2 ^ level) backoff.maximum

instance (float : Bool) (backoff : Backoff) (level : ℕ) :
    Decidable (backoff.Overflows float level) :=
  inferInstanceAs (Decidable (_ ∧ _ ∨ _))

/-- `fail(key)` at a time: whether it started a lockout, or the exception. -/
def failOf (float : Bool) (backoff : Backoff) (now : ℚ) (key : PyStr) :
    Except PyExc Bool × Backoff :=
  let st := backoff.takeUp now key
  if now < st.until_ then (.ok false, backoff.put key st)
  else if backoff.threshold ≤ (st.fails + 1 : ℕ) then
    if backoff.Overflows float st.level then
      -- the failure has been counted before the exception
      (.error .overflowError, backoff.put key { st with fails := st.fails + 1 })
    else (.ok true, backoff.put key (backoff.lock now st))
  else
    let counted := backoff.put key { st with fails := st.fails + 1 }
    if 2048 < counted.state.items.length then (.ok false, counted.prune now)
    else (.ok false, counted)

def stepOf (float : Bool) (backoff : Backoff) (call : Call) : Backoff :=
  match call.act with
  | .fail => (backoff.failOf float call.now call.key).2
  | .success => backoff.success call.key
  | .remaining => backoff

/-- A failure of the key that starts a lockout starts one whose length is no overflow. -/
def Fits (float : Bool) (backoff : Backoff) (now : ℚ) (key : PyStr) : Prop :=
  let st := backoff.takeUp now key
  st.until_ ≤ now → backoff.threshold ≤ (st.fails + 1 : ℕ) → ¬backoff.Overflows float st.level

instance (float : Bool) (backoff : Backoff) (now : ℚ) (key : PyStr) :
    Decidable (backoff.Fits float now key) :=
  inferInstanceAs (Decidable (_ → _ → ¬_))

/-- What fits is done exactly. -/
theorem failOf_of_fits {float : Bool} {backoff : Backoff} {now : ℚ} {key : PyStr}
    (fits : backoff.Fits float now key) :
    backoff.failOf float now key =
      (.ok (backoff.fail now key).1, (backoff.fail now key).2) := by
  unfold failOf fail
  simp only
  split
  · rfl
  next unlocked =>
    split
    next due => rw [if_neg (fits (not_lt.mp unlocked) due)]
    · split <;> rfl

theorem limits_stepOf (float : Bool) (backoff : Backoff) (call : Call) :
    (backoff.stepOf float call).limits = backoff.limits := by
  unfold stepOf
  cases call.act with
  | fail =>
      unfold failOf
      simp only
      split_ifs <;> rfl
  | success => rfl
  | remaining => rfl

/-- What a call that fits, or is for another key, leaves of a key. -/
theorem get_stepOf {float : Bool} {backoff : Backoff} {call : Call} {key : PyStr}
    (fits : call.key = key → call.act = .fail → backoff.Fits float call.now key) :
    ∃ keep : Failures → Bool,
      (∀ st, keep st = false → backoff.limits.Quiet call.now st) ∧
      (backoff.stepOf float call).state.get key =
        (if call.key = key then Counter.step backoff.limits (backoff.state.get key) call
        else backoff.state.get key).filter keep := by
  by_cases overflows : call.act = .fail ∧ ¬backoff.Fits float call.now call.key
  · obtain ⟨act, unfit⟩ := overflows
    have other : call.key ≠ key := fun own => unfit (own.symm ▸ fits own act)
    have raised : (backoff.stepOf float call).state.get key = backoff.state.get key := by
      simp only [Fits, Classical.not_imp, not_not] at unfit
      obtain ⟨unlocked, due, exceeds⟩ := unfit
      simp only [stepOf, act, failOf, if_neg (not_lt.mpr unlocked), if_pos due, if_pos exceeds]
      rw [get_put, if_neg (Ne.symm other)]
    refine ⟨fun _ => true, by simp, ?_⟩
    rw [raised, if_neg other]
    cases backoff.state.get key <;> rfl
  · have same : backoff.stepOf float call = backoff.step call := by
      unfold stepOf step
      cases act : call.act with
      | fail =>
          have fitsHere : backoff.Fits float call.now call.key := by
            by_contra unfit
            exact overflows ⟨act, unfit⟩
          simp only [failOf_of_fits fitsHere]
      | success => rfl
      | remaining => rfl
    obtain ⟨keep, stale, found⟩ := get_step backoff call key
    refine ⟨keep, stale, ?_⟩
    rw [same, found]
    by_cases own : call.key = key
    · rw [if_pos own, if_pos own.symm, own]
    · rw [if_neg own, if_neg (Ne.symm own)]

/-! ## What is seen of a key -/

/-- What is seen of a key. -/
structure Seen where
  last : Option ℚ
  deadline : ℚ
  lockouts : ℕ

/-- A backoff and what has been seen of a key. -/
structure Watched where
  backoff : Backoff
  seen : Seen

namespace Watched

variable (float : Bool) (key : PyStr)

/-- What is seen of a failure of the key. -/
def see (watched : Watched) (now : ℚ) : Seen :=
  let failed := watched.backoff.failOf float now key
  if failed.1 = .ok true then
    ⟨some now, now + failed.2.remaining now key, watched.seen.lockouts + 1⟩
  else { watched.seen with last := some now }

def step (watched : Watched) (call : Call) : Watched where
  backoff := watched.backoff.stepOf float call
  seen :=
    if call.key = key ∧ call.act = .fail then watched.see float key call.now else watched.seen

/-- No success, and failures within the quiet time of the failure before, or of the end of
the lockout that lies in between. -/
def Spaced (watched : Watched) (call : Call) : Prop :=
  call.key = key → call.act ≠ .success ∧
    (call.act = .fail → ∀ last ∈ watched.seen.last,
      call.now ≤ max last watched.seen.deadline + watched.backoff.quietReset)

/-- Failures within the quiet time of the failure before, or in a lockout. -/
def Prompt (watched : Watched) (call : Call) : Prop :=
  call.key = key → call.act = .fail → ∀ last ∈ watched.seen.last,
    call.now < watched.seen.deadline ∨ call.now - last ≤ watched.backoff.quietReset

/-- Failures that start no lockout whose length overflows. -/
def Fits (watched : Watched) (call : Call) : Prop :=
  call.key = key → call.act = .fail → watched.backoff.Fits float call.now key

/-- A failure of the key raises nothing, and a lockout that it starts lasts twice as long as
the one before. -/
def Doubled (watched : Watched) (call : Call) : Prop :=
  call.key = key → call.act = .fail →
    let failed := watched.backoff.failOf float call.now key
    failed.1.isOk = true ∧ (failed.1 = .ok true → failed.2.remaining call.now key =
      min (watched.backoff.base * 2 ^ watched.seen.lockouts) watched.backoff.maximum)

instance (watched : Watched) (call : Call) : Decidable (watched.Spaced key call) :=
  inferInstanceAs (Decidable (_ → _ ∧ (_ → ∀ _ ∈ _, _)))

instance (watched : Watched) (call : Call) : Decidable (watched.Prompt key call) :=
  inferInstanceAs (Decidable (_ → _ → ∀ _ ∈ _, _))

instance (watched : Watched) (call : Call) : Decidable (watched.Fits float key call) :=
  inferInstanceAs (Decidable (_ → _ → _))

instance (watched : Watched) (call : Call) : Decidable (watched.Doubled float key call) :=
  inferInstanceAs (Decidable (_ → _ → _ ∧ (_ → _)))

/-- A fresh backoff of which nothing has been seen. -/
def start (backoff : Backoff) : Watched := ⟨backoff, none, 0, 0⟩

theorem limits_run (watched : Watched) (calls : List Call) :
    (run (step float key) watched calls).backoff.limits = watched.backoff.limits :=
  run_same (fun watched : Watched => watched.backoff.limits)
    (fun watched call => limits_stepOf float watched.backoff call) watched calls

end Watched

/-- What is seen of a key with this counter. -/
def seenOf : Counter → Seen
  | none => ⟨none, 0, 0⟩
  | some st => ⟨some st.last, st.until_, st.level⟩

end Backoff

namespace Counter

open Backoff

variable {limits : Limits} {now : ℚ} {counter : Counter}

/-- A counter that does not start again keeps its level. -/
theorem level_takeUp (prompt : ∀ st, counter = some st → ¬limits.Quiet now st) :
    (takeUp limits now counter).level = (seenOf counter).lockouts := by
  cases counter with
  | none =>
      unfold takeUp
      simp only [Option.getD_none]
      split <;> rfl
  | some st =>
      rw [takeUp, Option.getD_some, if_neg (prompt st rfl)]
      rfl

theorem deadline_takeUp : (takeUp limits now counter).until_ = (seenOf counter).deadline := by
  rw [until_takeUp]
  cases counter <;> rfl

end Counter

namespace Backoff

section Growth

variable {float : Bool} {key : PyStr} {watched : Watched} {counter : Counter}

/-- One failure: what is seen of it is what becomes of the counter. -/
theorem see_eq (base : 0 < watched.backoff.base) (maximum : 0 < watched.backoff.maximum)
    {now : ℚ} (started : 0 ≤ now)
    (agrees : Agrees watched.backoff.limits now (watched.backoff.state.get key) counter)
    (seen : watched.seen = seenOf counter)
    (prompt : ∀ st, counter = some st → ¬watched.backoff.limits.Quiet now st)
    (fits : watched.backoff.Fits float now key) :
    watched.see float key now =
        seenOf (some (Counter.fail watched.backoff.limits now counter).2) ∧
      ((watched.backoff.fail now key).1 = true →
        (watched.backoff.fail now key).2.remaining now key =
          watched.backoff.limits.duration watched.seen.lockouts) := by
  have level : (watched.backoff.takeUp now key).level = watched.seen.lockouts := by
    rw [seen, ← Counter.level_takeUp prompt]
    exact (agrees.takeUp started).2.1
  have remains (hit : (watched.backoff.fail now key).1 = true) :
      (watched.backoff.fail now key).2.remaining now key =
        watched.backoff.limits.duration watched.seen.lockouts := by
    have long := duration_pos base maximum watched.seen.lockouts
    rw [(remaining_of_started base maximum hit).2 now, level, add_sub_cancel_left]
    exact max_eq_right long.le
  have sameAnswer := (fail_fst _ _ _).trans (agrees.fail started).1
  refine ⟨?_, remains⟩
  rw [Watched.see, failOf_of_fits fits]
  simp only [Except.ok.injEq]
  obtain ⟨last, ⟨hit, _, isNext, deadline⟩ | ⟨missed, isLevel, isDeadline⟩⟩ :=
    Counter.fail_cases watched.backoff.limits now counter
  · rw [if_pos (sameAnswer.trans hit), remains (sameAnswer.trans hit), seenOf, last,
      deadline, isNext, Counter.level_takeUp prompt, seen]
  · rw [if_neg (by rw [sameAnswer, missed]; simp), seenOf, last, isDeadline, isLevel,
      Counter.level_takeUp prompt, Counter.deadline_takeUp, seen]

/-- One call of a prompt run that fits. -/
theorem seen_step (base : 0 < watched.backoff.base) (maximum : 0 < watched.backoff.maximum)
    {call : Call} (started : 0 ≤ call.now)
    (agrees : Agrees watched.backoff.limits call.now (watched.backoff.state.get key) counter)
    (seen : watched.seen = seenOf counter) (spaced : watched.Spaced key call)
    (prompt : watched.Prompt key call) (fits : watched.Fits float key call) :
    (watched.step float key call).seen =
        seenOf (if call.key = key then Counter.step watched.backoff.limits counter call
          else counter) ∧
      watched.Doubled float key call := by
  by_cases isFail : call.key = key ∧ call.act = .fail
  · obtain ⟨own, act⟩ := isFail
    have steady : ∀ st, counter = some st → ¬watched.backoff.limits.Quiet call.now st := by
      rintro st rfl ⟨quiet, ended⟩
      rcases prompt own act st.last (by rw [seen]; rfl) with locked | soon
      · rw [seen] at locked
        exact locked.not_ge ended
      · exact soon.not_gt quiet
    obtain ⟨sees, remains⟩ := see_eq base maximum started agrees seen steady (fits own act)
    constructor
    · simp only [Watched.step, own, act, and_self, if_true, Counter.step]
      exact sees
    · intro _ _
      rw [failOf_of_fits (fits own act)]
      exact ⟨rfl, fun hit => remains (Except.ok.inj hit)⟩
  · constructor
    · rw [Watched.step, if_neg isFail, seen]
      by_cases own : call.key = key
      · rw [if_pos own, Counter.step]
        cases act : call.act with
        | fail => exact absurd ⟨own, act⟩ isFail
        | success => exact absurd act (spaced own).1
        | remaining => rfl
      · rw [if_neg own]
    · exact fun own act => absurd ⟨own, act⟩ isFail

/-- What the backoff holds for the watched key agrees with the key's counter as long as no
failure of this key overflows, whatever those of other keys do. -/
theorem agrees_watched {backoff : Backoff} (fresh : backoff.state = .empty) {calls : List Call}
    (ordered : Ordered calls) {now : ℚ} (last : ∀ call ∈ calls, call.now ≤ now)
    (fits : Along (Watched.step float key) (Watched.Fits float key) (Watched.start backoff)
      calls) :
    Agrees backoff.limits now
      ((run (Watched.step float key) (Watched.start backoff) calls).backoff.state.get key)
      (Counter.after backoff.limits key calls) := by
  induction calls using List.reverseRecOn generalizing now with
  | nil =>
      rw [run_nil, Watched.start, fresh]
      trivial
  | append_singleton calls call inductionHypothesis =>
      obtain ⟨earlier, started, forward⟩ := ordered_concat.mp ordered
      obtain ⟨fitsBefore, fitsHere, -⟩ := Along.append.mp fits
      have atCall := inductionHypothesis earlier forward fitsBefore
      obtain ⟨keep, stale, found⟩ := get_stepOf fitsHere
      rw [Watched.limits_run float key] at stale found
      rw [run_append, run_cons, run_nil, Counter.after_concat, Watched.step, found]
      apply Agrees.later _ (last call (by simp))
      apply Agrees.filter _ stale
      by_cases own : call.key = key
      · rw [if_pos own, if_pos own]
        exact atCall.step started rfl
      · rw [if_neg own, if_neg own]
        exact atCall

/-- Along a prompt run that fits, what is seen of the key is what its counter holds, and its
lockouts double. -/
theorem seen_run {backoff : Backoff} (fresh : backoff.state = .empty) (base : 0 < backoff.base)
    (maximum : 0 < backoff.maximum) {calls : List Call} (ordered : Ordered calls)
    (spaced : Along (Watched.step float key) (Watched.Spaced key) (Watched.start backoff) calls)
    (prompt : Along (Watched.step float key) (Watched.Prompt key) (Watched.start backoff) calls)
    (fits : Along (Watched.step float key) (Watched.Fits float key) (Watched.start backoff)
      calls) :
    (run (Watched.step float key) (Watched.start backoff) calls).seen =
        seenOf (Counter.after backoff.limits key calls) ∧
      Along (Watched.step float key) (Watched.Doubled float key) (Watched.start backoff)
        calls := by
  induction calls using List.reverseRecOn with
  | nil => exact ⟨rfl, trivial⟩
  | append_singleton calls call inductionHypothesis =>
      obtain ⟨earlier, started, forward⟩ := ordered_concat.mp ordered
      obtain ⟨spacedBefore, spacedHere, -⟩ := Along.append.mp spaced
      obtain ⟨promptBefore, promptHere, -⟩ := Along.append.mp prompt
      obtain ⟨fitsBefore, fitsHere, -⟩ := Along.append.mp fits
      obtain ⟨seen, doubled⟩ := inductionHypothesis earlier spacedBefore promptBefore fitsBefore
      have agrees := agrees_watched fresh earlier forward fitsBefore
      have sameLimits := Watched.limits_run float key (Watched.start backoff) calls
      change _ = backoff.limits at sameLimits
      rw [← sameLimits] at agrees seen
      have sameBase : (run (Watched.step float key) (Watched.start backoff) calls).backoff.base =
          backoff.base := congrArg Limits.base sameLimits
      have sameMaximum :
          (run (Watched.step float key) (Watched.start backoff) calls).backoff.maximum =
            backoff.maximum := congrArg Limits.maximum sameLimits
      have stepped := seen_step (sameBase ▸ base) (sameMaximum ▸ maximum) started agrees seen
        spacedHere promptHere fitsHere
      rw [sameLimits] at stepped
      rw [run_append, run_cons, run_nil, Counter.after_concat]
      exact ⟨stepped.1, Along.append.mpr ⟨doubled, stepped.2, trivial⟩⟩

/-- Where the base is the maximum every lockout lasts as long as the first. -/
theorem doubled_of_flat {calls : List Call} (base : 0 < watched.backoff.base)
    (flat : watched.backoff.base = watched.backoff.maximum)
    (fits : Along (Watched.step float key) (Watched.Fits float key) watched calls) :
    Along (Watched.step float key) (Watched.Doubled float key) watched calls := by
  induction calls generalizing watched with
  | nil => trivial
  | cons call calls inductionHypothesis =>
      have same := limits_stepOf float watched.backoff call
      have sameBase : (watched.step float key call).backoff.base = watched.backoff.base :=
        congrArg Limits.base same
      have sameMaximum : (watched.step float key call).backoff.maximum =
          watched.backoff.maximum := congrArg Limits.maximum same
      have everyLevel (level : ℕ) : watched.backoff.limits.duration level =
          watched.backoff.base := by
        have grown : watched.backoff.base ≤ watched.backoff.base * 2 ^ level :=
          le_mul_of_one_le_right base.le (one_le_pow₀ (by norm_num))
        change min _ watched.backoff.maximum = _
        rw [← flat]
        exact min_eq_right grown
      refine ⟨fun own act => ?_, inductionHypothesis (sameBase ▸ base) ?_ fits.2⟩
      · rw [failOf_of_fits (fits.1 own act)]
        refine ⟨rfl, fun hit => ?_⟩
        have maximum : 0 < watched.backoff.maximum := flat ▸ base
        rw [(remaining_of_started base maximum (Except.ok.inj hit)).2, add_sub_cancel_left,
          everyLevel]
        exact (max_eq_right base.le).trans (everyLevel watched.seen.lockouts).symm
      · rw [sameBase, sameMaximum, flat]

end Growth

/-- Lockouts really grow, in every run whose failures are prompt and fit: no failure raises,
and the next lockout of a key that has had `k` lasts `min (base * 2 ^ k) maximum`.  Where the
base is the maximum there is nothing to grow. -/
theorem lockouts_double {float : Bool} {key : PyStr} {backoff : Backoff}
    (fresh : backoff.state = .empty) (base : 0 < backoff.base)
    (maximum : backoff.base ≤ backoff.maximum) {calls : List Call} (ordered : Ordered calls)
    (spaced : Along (Watched.step float key) (Watched.Spaced key) (Watched.start backoff) calls)
    (prompt : backoff.base = backoff.maximum ∨
      Along (Watched.step float key) (Watched.Prompt key) (Watched.start backoff) calls)
    (fits : Along (Watched.step float key) (Watched.Fits float key) (Watched.start backoff)
      calls) :
    Along (Watched.step float key) (Watched.Doubled float key) (Watched.start backoff) calls := by
  rcases prompt with flat | prompt
  · exact doubled_of_flat base flat fits
  · exact (seen_run fresh base (base.trans_le maximum) ordered spaced prompt fits).2

/-- Three failures that come in time, the second of them in the first lockout. -/
theorem lockouts_double_of_two_lockouts :
    Along (Watched.step true (py "k")) (Watched.Doubled true (py "k"))
      (Watched.start (new 1 10 100))
      [⟨0, py "k", .fail⟩, ⟨5, py "k", .fail⟩, ⟨11, py "k", .fail⟩] :=
  lockouts_double rfl (by norm_num [new]) (by norm_num [new]) ⟨by simp, by norm_num⟩
    (by decide +kernel) (.inr (by decide +kernel)) (by decide +kernel)

/-- Six failures against the limits of the service, the last three an hour and a second
after the first three, so 3571 seconds after the end of the lockout. -/
def anHourLater : List Call :=
  [0, 0, 0, 3601, 3601, 3601].map fun now => ⟨now, py "phone1", .fail⟩

theorem not_lockouts_double :
    ¬∀ (float : Bool) (key : PyStr) (backoff : Backoff), backoff.state = .empty →
      1 ≤ backoff.threshold → 0 < backoff.base → backoff.base ≤ backoff.maximum →
      0 < backoff.quietReset → ∀ calls : List Call, Ordered calls →
        Along (Watched.step float key) (Watched.Spaced key) (Watched.start backoff) calls →
        Along (Watched.step float key) (Watched.Doubled float key) (Watched.start backoff)
          calls := by
  intro claimed
  have doubled := claimed false (py "phone1") (new 3 30 3600) rfl (by norm_num [new])
    (by norm_num [new]) (by norm_num [new]) (by norm_num [new]) anHourLater
    ⟨by simp [anHourLater], by simp [anHourLater]⟩ (by decide +kernel)
  revert doubled
  decide +kernel

end Backoff

end RemoteUnlock.Listener
