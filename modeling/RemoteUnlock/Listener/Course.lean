import RemoteUnlock.Listener.Counter

/-!
# The course of a lockout

Only a failure that starts a lockout and a success change what `remaining` will say
of a key (`remaining_step`).  So a lockout that has started runs down to its deadline
whatever else is called, and no failure but the one that starts it answers `True`.

How long the next lockout lasts is another matter.  The quiet time is measured from
the last failure, also where a lockout lies in between, so the first failure after a
lockout may find its counter started again however soon it comes.  Where it does not,
each lockout lasts twice as long as the one before, up to the maximum.
-/

namespace RemoteUnlock.Listener

open Library Python Python.Items

/-! ## One counter -/

namespace Counter

open Backoff

variable {limits : Limits}

theorem remaining_filter {now later : ℚ} (order : now ≤ later) {keep : Failures → Bool}
    (stale : ∀ st, keep st = false → limits.Quiet now st) (counter : Counter) :
    remaining later (counter.filter keep) = remaining later counter := by
  cases counter with
  | none => rfl
  | some st =>
      cases kept : keep st with
      | true => rw [Option.filter_some, if_pos kept]
      | false =>
          have ended : st.until_ ≤ later := (stale st kept).2.trans order
          rw [Option.filter_some, if_neg (by simp [kept])]
          simp [remaining, ended]

theorem until_takeUp (now : ℚ) (counter : Counter) :
    (takeUp limits now counter).until_ = (counter.getD ⟨0, 0, 0, now⟩).until_ := by
  unfold takeUp
  simp only
  split <;> rfl

theorem remaining_takeUp {later : ℚ} (started : 0 ≤ later) (now : ℚ) (counter : Counter) :
    max 0 ((takeUp limits now counter).until_ - later) = remaining later counter := by
  rw [until_takeUp]
  cases counter with
  | none => simp [remaining, started]
  | some st => rfl

/-- A failure starts a lockout, and the record is locked from now on, or it leaves the
deadline as it is. -/
theorem fail_cases (limits : Limits) (now : ℚ) (counter : Counter) :
    let taken := takeUp limits now counter
    let failed := fail limits now counter
    failed.2.last = now ∧
      ((failed.1 = true ∧ taken.until_ ≤ now ∧ failed.2.level = taken.level + 1 ∧
          failed.2.until_ = now + limits.duration taken.level) ∨
        (failed.1 = false ∧ failed.2.level = taken.level ∧ failed.2.until_ = taken.until_)) := by
  have last : (takeUp limits now counter).last = now := by
    unfold takeUp
    simp only
    split <;> rfl
  simp only [fail]
  split
  · exact ⟨last, .inr ⟨rfl, rfl, rfl⟩⟩
  next unlocked =>
    unfold count
    split
    · exact ⟨last, .inl ⟨rfl, not_lt.mp unlocked, rfl, rfl⟩⟩
    · exact ⟨last, .inr ⟨rfl, rfl, rfl⟩⟩

end Counter

namespace Backoff

theorem remaining_eq (backoff : Backoff) (now : ℚ) (key : PyStr) :
    backoff.remaining now key = Counter.remaining now (backoff.state.get key) := rfl

theorem duration_pos {backoff : Backoff} (base : 0 < backoff.base)
    (maximum : 0 < backoff.maximum) (level : ℕ) : 0 < backoff.limits.duration level :=
  lt_min (by positivity) maximum

/-! ## What a call changes -/

/-- The call neither starts a lockout of the key nor clears it. -/
def Untouched (key : PyStr) (backoff : Backoff) (call : Call) : Prop :=
  call.key = key → call.act ≠ .success ∧ backoff.answer call ≠ .started true

/-- Any other call leaves what remains, now and later. -/
theorem remaining_step {backoff : Backoff} {call : Call} (started : 0 ≤ call.now) {later : ℚ}
    (order : call.now ≤ later) {key : PyStr} (untouched : Untouched key backoff call) :
    (backoff.step call).remaining later key = backoff.remaining later key := by
  obtain ⟨keep, stale, found⟩ := get_step backoff call key
  rw [remaining_eq, found, Counter.remaining_filter order stale, remaining_eq]
  by_cases own : key = call.key
  · subst own
    rw [if_pos rfl]
    obtain ⟨noSuccess, notStarted⟩ := untouched rfl
    rw [answer_eq] at notStarted
    unfold Counter.step
    unfold Counter.answer at notStarted
    cases act : call.act with
    | success => exact absurd act noSuccess
    | remaining => rfl
    | fail =>
        simp only [act, ne_eq, Answer.started.injEq] at notStarted
        obtain ⟨_, ⟨isStarted, _⟩ | ⟨_, _, sameUntil⟩⟩ :=
          Counter.fail_cases backoff.limits call.now (backoff.state.get call.key)
        · exact absurd isStarted notStarted
        · change max 0 (_ - later) = _
          rw [sameUntil]
          exact Counter.remaining_takeUp (started.trans order) _ _
  · rw [if_neg own]

/-- The call that starts a lockout sets its deadline. -/
theorem remaining_of_started {backoff : Backoff} (base : 0 < backoff.base)
    (maximum : 0 < backoff.maximum) {now : ℚ} {key : PyStr}
    (hit : (backoff.fail now key).1 = true) :
    (backoff.takeUp now key).until_ ≤ now ∧ ∀ later : ℚ,
      (backoff.fail now key).2.remaining later key =
        max 0 (now + backoff.limits.duration (backoff.takeUp now key).level - later) := by
  rw [fail_fst] at hit
  obtain ⟨_, ⟨_, ended, _, deadline⟩ | ⟨missed, _⟩⟩ :=
    Counter.fail_cases backoff.limits now (backoff.state.get key)
  · refine ⟨ended, fun later => ?_⟩
    obtain ⟨keep, stale, found⟩ := get_step backoff ⟨now, key, .fail⟩ key
    have long := duration_pos base maximum (backoff.takeUp now key).level
    have kept : keep (Counter.fail backoff.limits now (backoff.state.get key)).2 = true := by
      by_contra thrown
      have passed := (stale _ (Bool.eq_false_of_not_eq_true thrown)).2
      rw [deadline] at passed
      change now + backoff.limits.duration (backoff.takeUp now key).level ≤ now at passed
      linarith
    rw [if_pos rfl] at found
    change (backoff.step ⟨now, key, .fail⟩).remaining later key = _
    rw [remaining_eq, found]
    change Counter.remaining later (Option.filter keep (some _)) = _
    rw [Option.filter_some, if_pos kept]
    change max 0 (_ - later) = _
    rw [deadline]
    rfl
  · rw [missed] at hit
    contradiction

/-- A failure answers `True` exactly where it turns nothing remaining into something. -/
theorem started_iff {backoff : Backoff} (base : 0 < backoff.base) (maximum : 0 < backoff.maximum)
    {now : ℚ} (started : 0 ≤ now) (key : PyStr) :
    (backoff.fail now key).1 = true ↔
      backoff.remaining now key = 0 ∧ 0 < (backoff.fail now key).2.remaining now key := by
  constructor
  · intro hit
    obtain ⟨ended, remains⟩ := remaining_of_started base maximum hit
    have long := duration_pos base maximum (backoff.takeUp now key).level
    constructor
    · rw [remaining_eq_takeUp _ started]
      exact max_eq_left (by linarith)
    · rw [remains now]
      exact lt_max_of_lt_right (by linarith)
  · rintro ⟨nothing, something⟩
    by_contra missed
    have untouched : Untouched key backoff ⟨now, key, .fail⟩ := fun _ =>
      ⟨by simp, by simpa [answer] using missed⟩
    have same := remaining_step started (le_refl now) untouched
    change (backoff.fail now key).2.remaining now key = _ at same
    rw [same, nothing] at something
    exact lt_irrefl 0 something

/-! ## Runs -/

theorem remaining_run {key : PyStr} {calls : List Call} {backoff : Backoff}
    (nonneg : ∀ call ∈ calls, 0 ≤ call.now) {later : ℚ}
    (order : ∀ call ∈ calls, call.now ≤ later)
    (untouched : Along step (Untouched key) backoff calls) :
    (run step backoff calls).remaining later key = backoff.remaining later key := by
  induction calls generalizing backoff with
  | nil => rfl
  | cons call calls inductionHypothesis =>
      rw [List.forall_mem_cons] at nonneg order
      rw [run_cons, inductionHypothesis nonneg.2 order.2 untouched.2]
      exact remaining_step nonneg.1 order.1 untouched.1

theorem limits_run (backoff : Backoff) (calls : List Call) :
    (run step backoff calls).limits = backoff.limits :=
  run_same Backoff.limits limits_step backoff calls

theorem remaining_le_maximum {backoff : Backoff} (fresh : backoff.state = .empty)
    (base : 0 < backoff.base) (maximum : 0 < backoff.maximum) {calls : List Call}
    (ordered : Ordered calls) {later : ℚ} (order : ∀ call ∈ calls, call.now ≤ later)
    (key : PyStr) : (run step backoff calls).remaining later key ≤ backoff.maximum := by
  induction calls using List.reverseRecOn generalizing later with
  | nil =>
      rw [run_nil, remaining_eq, fresh]
      exact maximum.le
  | append_singleton calls call inductionHypothesis =>
      obtain ⟨earlier, started, forward⟩ := ordered_concat.mp ordered
      have last : call.now ≤ later := order call (by simp)
      have same := limits_run backoff calls
      rw [run_append, run_cons, run_nil]
      by_cases untouched : Untouched key (run step backoff calls) call
      · rw [remaining_step started last untouched]
        exact inductionHypothesis earlier fun other membership =>
          (forward other membership).trans last
      · unfold Untouched at untouched
        push Not at untouched
        obtain ⟨rfl, touched⟩ := untouched
        cases act : call.act with
        | success =>
            simp only [step, act]
            rw [remaining_success, if_pos rfl]
            exact maximum.le
        | remaining => simp [act, answer] at touched
        | fail =>
            have hit : ((run step backoff calls).fail call.now call.key).1 = true := by
              simpa [act, answer] using touched
            have sameMaximum : (run step backoff calls).maximum = backoff.maximum :=
              congrArg Limits.maximum same
            have sameBase : (run step backoff calls).base = backoff.base :=
              congrArg Limits.base same
            simp only [step, act]
            rw [(remaining_of_started (sameBase ▸ base) (sameMaximum ▸ maximum) hit).2 later,
              ← sameMaximum]
            have bound : (run step backoff calls).limits.duration
                ((run step backoff calls).takeUp call.now call.key).level ≤
                  (run step backoff calls).maximum := min_le_right _ _
            apply max_le
            · exact (sameMaximum ▸ maximum).le
            · linarith

/-- A lockout is announced by the failure that starts it and by no other, and it runs
its full course: until the next that starts one for the key, or a success, what remains
is what is left to the deadline.  Nothing ever remains for longer than the maximum. -/
theorem lockout_runs_its_course {backoff : Backoff} (fresh : backoff.state = .empty)
    (base : 0 < backoff.base) (maximum : 0 < backoff.maximum) {before : List Call} {now : ℚ}
    {key : PyStr} (ordered : Ordered (before ++ [⟨now, key, .fail⟩])) :
    let reached := run step backoff before
    let failed := reached.fail now key
    (failed.1 = true ↔ reached.remaining now key = 0 ∧ 0 < failed.2.remaining now key) ∧
      (failed.1 = true → ∀ (between : List Call) (later : ℚ),
        Ordered (before ++ ⟨now, key, .fail⟩ :: between) → now ≤ later →
        (∀ call ∈ between, call.now ≤ later) → Along step (Untouched key) failed.2 between →
        (run step failed.2 between).remaining later key =
          max 0 (now + min (backoff.base * 2 ^ (reached.takeUp now key).level) backoff.maximum -
            later)) ∧
      ∀ (other : PyStr) (later : ℚ), now ≤ later →
        reached.remaining later other ≤ backoff.maximum ∧
          failed.2.remaining later other ≤ backoff.maximum := by
  obtain ⟨earlier, started, forward⟩ := ordered_concat.mp ordered
  have same := limits_run backoff before
  have sameMaximum : (run step backoff before).maximum = backoff.maximum :=
    congrArg Limits.maximum same
  have sameBase : (run step backoff before).base = backoff.base := congrArg Limits.base same
  have reachedBase := sameBase ▸ base
  have reachedMaximum := sameMaximum ▸ maximum
  refine ⟨started_iff reachedBase reachedMaximum started key, ?_, ?_⟩
  · intro hit between later wholeOrdered order behind untouched
    have nonneg : ∀ call ∈ between, 0 ≤ call.now := fun call membership =>
      wholeOrdered.nonneg call (by simp [membership])
    rw [remaining_run nonneg behind untouched,
      (remaining_of_started reachedBase reachedMaximum hit).2 later, same]
    rfl
  · intro other later order
    constructor
    · exact remaining_le_maximum fresh base maximum earlier
        (fun call membership => (forward call membership).trans order) other
    · have reached : ∀ call ∈ before ++ [⟨now, key, .fail⟩], call.now ≤ later := by
        intro call membership
        rcases List.mem_append.mp membership with old | isNew
        · exact (forward call old).trans order
        · rw [List.mem_singleton.mp isNew]
          exact order
      have bounded := remaining_le_maximum fresh base maximum ordered reached other
      rwa [run_append] at bounded

/-- A lockout of ten seconds with a failure of its key in it, two seconds before its end. -/
theorem lockout_runs_its_course_of_ten_seconds :
    (run step ((new 1 10 100).fail 0 (py "k")).2 [⟨5, py "k", .fail⟩]).remaining 8 (py "k") =
      max 0 (0 + min (10 * 2 ^ ((new 1 10 100).takeUp 0 (py "k")).level) 100 - 8) := by
  have fresh : (new 1 10 100).state = .empty := rfl
  have ordered : Ordered ([] ++ [⟨0, py "k", .fail⟩]) := ⟨by simp, by simp⟩
  have course := (lockout_runs_its_course fresh (by norm_num [new]) (by norm_num [new])
    ordered).2.1
  refine course (by decide +kernel) [⟨5, py "k", .fail⟩] 8 ⟨by simp, by simp⟩ (by norm_num)
    (by simp; norm_num) ?_
  simp only [Along, and_true]
  exact fun _ => ⟨by decide, by decide +kernel⟩

end Backoff

end RemoteUnlock.Listener
